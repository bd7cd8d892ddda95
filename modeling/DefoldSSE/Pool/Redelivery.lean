/-
  DefoldSSE.Pool.Redelivery — resuming on the connection pool.

  The worker of the pool has its own loop and its own HTTP reader.  What reaches
  the parser of an attempt is the body that the reader has cut out of the response
  (`attemptFed`); the rest of the argument is that of `Desktop/Worker.lean`.

  Main result:
    • `poolWorker_redelivers` — the events of a server's log between the worker's
      first id and its last were accepted, in order.
-/
import DefoldSSE.Desktop.CurlAttempt
import DefoldSSE.Pool.Decoding
import DefoldSSE.Pool.Worker

namespace DefoldSSE

open CLib CLib.Replay EventStream

/-! ## §1. What reaches the parser. -/

/-- The parser and the view of one adapter are those of the other. -/
def SameView (a b : Adapter) : Prop := a.conn.parser = b.conn.parser ∧ a.view = b.view

namespace SameView

variable {a b c : Adapter}

theorem refl (a : Adapter) : SameView a a := ⟨rfl, rfl⟩

theorem trans (h : SameView a b) (h' : SameView b c) : SameView a c :=
  ⟨h.1.trans h'.1, h.2.trans h'.2⟩

/-- Bytes keep it. -/
theorem feed (h : SameView a b) (bytes : Bytes) : SameView (a.feed bytes) (b.feed bytes) := by
  have hpair := a.feed_view bytes
  rw [h.1, h.2, ← b.feed_view bytes] at hpair
  exact Prod.mk.inj hpair

theorem openConnection (a : Adapter) (status : Int) :
    SameView (a.setStatus status).openConnection a :=
  ⟨rfl, ((a.setStatus status).openConnection_view).trans (a.setStatus_view status)⟩

end SameView

/-- What `SSEDM_FeedBody` passes to the parser. -/
def bodyFed (r : Reader) (body : Bytes) : Bytes :=
  if r.chunked then (decodeChunked (· ++ ·) [] r.decoder body).2.2 else body

/-- What the pass that completes the headers passes to it. -/
def headersFed (headers body : Bytes) : Bytes :=
  match parseResponseHeaders headers with
  | none => []
  | some (status, chunked) =>
      if status < 200 ∨ status ≥ 300 then []
      else bodyFed { headersDone := true, chunked := chunked } body

/-- What a pass that received some bytes passes to it. -/
def dataFed (r : Reader) (received : Bytes) : Bytes :=
  if r.headersDone then bodyFed r received
  else
    let headerBuffer := r.headerBuffer ++ received
    if headerBuffer.length > 65536 then []
    else
      match findHeaderEnd headerBuffer with
      | none => []
      | some (headerEnd, delimiterSize) =>
          headersFed (headerBuffer.take headerEnd) (headerBuffer.drop (headerEnd + delimiterSize))

theorem bodyFed_nil (r : Reader) : bodyFed r [] = [] := by
  unfold bodyFed
  split
  · rw [decodeChunked_nil]
  · rfl

theorem feedBody_fed (a : Adapter) (r : Reader) (body : Bytes) :
    (feedBody a r.chunked r.decoder body).2.2 = a.feed (bodyFed r body) := by
  unfold feedBody
  split
  · next hnil => rw [hnil, bodyFed_nil, Adapter.feed_nil]
  · unfold bodyFed
    split
    · -- the decoder takes the same course over a list of bytes
      have hfeed : ∀ s x : Bytes, (a.feed s).feed x = a.feed (s ++ x) := a.feed_feed
      have hmap := decodeChunked_map hfeed [] r.decoder body
      rw [Adapter.feed_nil] at hmap
      rw [feedChunkedBody_eq, hmap]
    · rfl

theorem onBody_fed (r : Reader) (a : Adapter) (body : Bytes) :
    (onBody r a body).2 = a.feed (bodyFed r body) := by
  have hfed := feedBody_fed a r body
  unfold onBody
  split
  · next hbody =>
      rw [hbody] at hfed
      exact hfed
  · next hbody =>
      rw [hbody] at hfed
      split <;> exact hfed

theorem onHeaders_fed (a : Adapter) (headers body : Bytes) :
    SameView (onHeaders a headers body).2 (a.feed (headersFed headers body)) := by
  unfold onHeaders headersFed
  cases parseResponseHeaders headers with
  | none => exact ⟨rfl, rfl⟩
  | some parsed =>
      obtain ⟨status, chunked⟩ := parsed
      simp only
      by_cases hstatus : status < 200 ∨ status ≥ 300
      · rw [if_pos hstatus, if_pos hstatus]
        exact ⟨rfl, rfl⟩
      · rw [if_neg hstatus, if_neg hstatus]
        have hopen := SameView.openConnection a status
        by_cases hnil : body = []
        · rw [if_pos hnil, hnil, bodyFed_nil]
          exact hopen
        · rw [if_neg hnil, onBody_fed]
          exact hopen.feed _

/-- **A pass feeds the parser this**, whatever else it does. -/
theorem onData_fed (r : Reader) (a : Adapter) (received : Bytes) :
    SameView (onData r a received).2 (a.feed (dataFed r received)) := by
  unfold onData dataFed
  by_cases hdone : r.headersDone = true
  · rw [if_pos hdone, if_pos hdone, onBody_fed]
    exact .refl _
  · rw [if_neg hdone, if_neg hdone]
    simp only
    by_cases hlarge : (r.headerBuffer ++ received).length > 65536
    · rw [if_pos hlarge, if_pos hlarge]
      exact .refl a
    · rw [if_neg hlarge, if_neg hlarge]
      cases findHeaderEnd (r.headerBuffer ++ received) with
      | none => exact .refl a
      | some found => exact onHeaders_fed a _ _

section Worker

-- `dmSocket::ResultToString`
variable (resultToString : SocketResult → String)

/-- What `SSEDM_ReadResponse` passes to the parser. -/
def responseFed (s : StopFlag) (r : Reader) (a : Adapter) : List Receive → Bytes
  | [] => []
  | receive :: receives =>
      if s.raised then []
      else
        match receive with
        | .again selects =>
            match waitForSocket s.next selects with
            | some (.ok, s) => responseFed s r a receives
            | _ => []
        | .data (c :: received) =>
            match onData r a (c :: received) with
            | (.returns _, _) => dataFed r (c :: received)
            | (.goesOn r', a) => dataFed r (c :: received) ++ responseFed s.next r' a receives
        | _ => []

theorem readResponse_fed {s : StopFlag} {r : Reader} {a : Adapter} {receives : List Receive}
    {error : Option String} {a' : Adapter} {s' : StopFlag}
    (h : readResponse resultToString s r a receives = some (error, a', s')) :
    SameView a' (a.feed (responseFed s r a receives)) := by
  induction receives generalizing s r a with
  | nil =>
      unfold readResponse at h
      split at h
      · cases h
        exact .refl _
      · cases h
  | cons receive receives ih =>
      unfold readResponse at h
      unfold responseFed
      split at h
      · next hraised =>
          cases h
          rw [if_pos hraised]
          exact .refl _
      · next hraised =>
          rw [if_neg hraised]
          cases receive with
          | again selects =>
              simp only at h ⊢
              generalize waitForSocket s.next selects = waited at h ⊢
              cases waited with
              | none => cases h
              | some answer =>
                  obtain ⟨result, t⟩ := answer
                  cases result with
                  | ok => exact ih h
                  | wouldBlock =>
                      cases h
                      exact .refl _
                  | tryAgain =>
                      cases h
                      exact .refl _
                  | failure code =>
                      cases h
                      exact .refl _
          | failed code =>
              simp only at h
              split at h <;> cases h <;> exact .refl _
          | data bytes =>
              cases bytes with
              | nil =>
                  cases h
                  exact .refl _
              | cons c received =>
                  have hfed := onData_fed r a (c :: received)
                  simp only at h ⊢
                  generalize onData r a (c :: received) = data at h hfed ⊢
                  obtain ⟨pass, b⟩ := data
                  cases pass with
                  | returns failed =>
                      cases h
                      exact hfed
                  | goesOn r' =>
                      have hrest := ih h
                      show SameView a' (a.feed (_ ++ _))
                      rw [← Adapter.feed_feed]
                      exact hrest.trans (hfed.feed _)

/-! ## §2. An attempt and a pass. -/

/-- What an attempt passes to the parser. -/
def attemptFed (s : StopFlag) (conn : SSEDesktopConnection) (net : Network) : Bytes :=
  if !net.pool then []
  else
    match parseUrl conn.url with
    | .error _ => []
    | .ok url =>
        let a := Adapter.start conn net.queue
        match net.dial with
        | some _ => []
        | none =>
            if s.raised then []
            else
              match buildRequest a.conn url with
              | .error _ => []
              | .ok request =>
                  match sendAll resultToString s.next request net.sends with
                  | some (none, _, s) => responseFed s {} a net.receives
                  | _ => []

/-- **WHAT AN ATTEMPT CAN DO**: it ends before the response, with nothing fed, or it
reads the response. -/
theorem performOnce_cases {s : StopFlag} {conn : SSEDesktopConnection} {net : Network}
    {error : Option String} {a : Adapter} {s' : StopFlag}
    (h : performOnce resultToString s conn net = some (error, a, s')) :
    ((a = ⟨conn, net.queue, []⟩ ∨ a = .start conn net.queue)
        ∧ attemptFed resultToString s conn net = [])
      ∨ ∃ t failed t', readResponse resultToString t {} (.start conn net.queue) net.receives
          = some (failed, a, t')
        ∧ attemptFed resultToString s conn net
          = responseFed t {} (.start conn net.queue) net.receives := by
  unfold performOnce at h
  unfold attemptFed
  by_cases hpool : net.pool = true
  · rw [if_neg (by simp [hpool])] at h ⊢
    cases hurl : parseUrl conn.url with
    | error error =>
        rw [hurl] at h
        cases h
        exact .inl ⟨.inl rfl, rfl⟩
    | ok url =>
        rw [hurl] at h
        simp only at h ⊢
        cases hdial : net.dial with
        | some result =>
            rw [hdial] at h
            cases h
            exact .inl ⟨.inr rfl, rfl⟩
        | none =>
            rw [hdial] at h
            simp only at h ⊢
            by_cases hraised : s.raised = true
            · rw [if_pos hraised] at h ⊢
              cases h
              exact .inl ⟨.inr rfl, rfl⟩
            · rw [if_neg hraised] at h ⊢
              cases hrequest : buildRequest (Adapter.start conn net.queue).conn url with
              | error error =>
                  rw [hrequest] at h
                  cases h
                  exact .inl ⟨.inr rfl, rfl⟩
              | ok request =>
                  rw [hrequest] at h
                  simp only at h ⊢
                  cases hsend : sendAll resultToString s.next request net.sends with
                  | none =>
                      rw [hsend] at h
                      cases h
                  | some sent =>
                      obtain ⟨failed, handed, t⟩ := sent
                      rw [hsend] at h
                      cases failed with
                      | some error =>
                          cases h
                          exact .inl ⟨.inr rfl, rfl⟩
                      | none =>
                          simp only at h ⊢
                          cases hread : readResponse resultToString t {}
                              (Adapter.start conn net.queue) net.receives with
                          | none =>
                              rw [hread] at h
                              cases h
                          | some answer =>
                              obtain ⟨failed, b, t'⟩ := answer
                              rw [hread] at h
                              simp only at h
                              -- a stop takes the error back, but leaves the adapter
                              split at h <;> cases h <;> exact .inr ⟨t, _, t', hread, rfl⟩
  · rw [if_pos (by simpa using hpool)] at h ⊢
    cases h
    exact .inl ⟨.inl rfl, rfl⟩

theorem performOnce_fed {s : StopFlag} {conn : SSEDesktopConnection} {net : Network}
    {error : Option String} {a : Adapter} {s' : StopFlag}
    (h : performOnce resultToString s conn net = some (error, a, s')) :
    a.view = ((Adapter.start conn net.queue).feed (attemptFed resultToString s conn net)).view := by
  rcases performOnce_cases resultToString h with ⟨hstart, hfed⟩ | ⟨t, failed, t', hread, hfed⟩
  · rw [hfed]
    rcases hstart with rfl | rfl <;> rfl
  · rw [hfed]
    exact (readResponse_fed resultToString hread).2

/-- **WHAT A PASS CAN DO**: it sets the connection disconnected after the attempt, and
may report its error. -/
theorem workerPass_cases {s : StopFlag} {conn : SSEDesktopConnection} {net : Network} {a : Adapter}
    {s' : StopFlag} {goesOn : Bool}
    (h : workerPass resultToString s conn net = some (a, s', goesOn)) :
    ∃ failed b t, performOnce resultToString s conn net = some (failed, b, t)
      ∧ (a = b.setConnected false
        ∨ ∃ error, a = (b.setConnected false).enqueueError (some (.lit error)) b.conn.status
          b.conn.reconnect b.conn.retryMs) := by
  unfold workerPass at h
  cases hperformed : performOnce resultToString s conn net with
  | none =>
      rw [hperformed] at h
      cases h
  | some performed =>
      obtain ⟨failed, b, t⟩ := performed
      rw [hperformed] at h
      refine ⟨failed, b, t, rfl, ?_⟩
      simp only at h
      split at h
      · cases h
        exact .inl rfl
      · cases failed with
        | none =>
            simp only at h
            split at h <;> cases h <;> exact .inl rfl
        | some error =>
            simp only at h
            split at h <;> cases h <;> exact .inr ⟨error, rfl⟩

/-- What the worker adds to an attempt is no message and commits nothing. -/
theorem workerPass_fed {s : StopFlag} {conn : SSEDesktopConnection} {net : Network} {a : Adapter}
    {s' : StopFlag} {goesOn : Bool}
    (h : workerPass resultToString s conn net = some (a, s', goesOn)) :
    a.view = ((Adapter.start conn net.queue).feed (attemptFed resultToString s conn net)).view := by
  obtain ⟨failed, b, t, hperformed, hadded⟩ := workerPass_cases resultToString h
  rw [← performOnce_fed resultToString hperformed]
  rcases hadded with rfl | ⟨error, rfl⟩
  · simp [Adapter.view, Adapter.setConnected]
  · simp [Adapter.view, Adapter.setConnected, Adapter.enqueueError, Adapter.queuePush, errorEvent]

/-! ## §3. The run. -/

/-- The attempts of a run of `SSEDesktop_Worker`. -/
def workerReadings (s : StopFlag) (conn : SSEDesktopConnection) :
    List Network → List DesktopBackend.Reading
  | [] => []
  | net :: nets =>
      if s.raised then []
      else
        let reading : DesktopBackend.Reading :=
          ⟨conn, attemptFed resultToString s.next conn net, net.queue.message⟩
        match workerPass resultToString s.next conn net with
        | some (a, s, true) => reading :: workerReadings s a.conn nets
        | _ => [reading]

/-- The answers in the attempts are those of the first networks. -/
theorem workerReadings_answers (s : StopFlag) (conn : SSEDesktopConnection)
    (nets : List Network) :
    (workerReadings resultToString s conn nets).map DesktopBackend.Reading.answers
      <+: nets.map (fun net => net.queue.message) := by
  induction nets generalizing s conn with
  | nil => exact List.prefix_rfl
  | cons net nets ih =>
      unfold workerReadings
      split
      · exact List.nil_prefix
      · dsimp only
        split
        · exact (List.prefix_cons_inj _).mpr (ih _ _)
        · exact (List.prefix_cons_inj _).mpr List.nil_prefix

/-- The connection that the run leaves. -/
def workerConn (s : StopFlag) (conn : SSEDesktopConnection) : List Network → SSEDesktopConnection
  | [] => conn
  | net :: nets =>
      if s.raised then conn
      else
        match workerPass resultToString s.next conn net with
        | some (a, s, true) => workerConn s a.conn nets
        | some (a, _, false) => a.conn
        | none => conn

variable {log : ServerLog}

/-- What a run leaves of the account: it is kept, and it is complete once an
attempt has brought the rest. -/
theorem resumable_poolWorker (last : QueueAnswers) {start : Option CString} (nets : List Network) :
    ∀ {accepted : List SSEEvent} {s s' : StopFlag} {conn : SSEDesktopConnection}
      {trace : List Effect}, worker resultToString last s conn nets = some (trace, s') →
      DesktopBackend.Resumable log start conn accepted →
      (∀ r ∈ workerReadings resultToString s conn nets,
        Written (log.after (sentLastEventId r.conn)) r.bytes) →
      DesktopBackend.Resumable log start (workerConn resultToString s conn nets)
          (accepted ++ Adapter.acceptedMessages trace)
        ∧ ((∃ r ∈ workerReadings resultToString s conn nets,
            WrittenFully (log.after (sentLastEventId r.conn)) r.bytes ∧ ∀ n, r.answers n = true) →
          ((log.after start).map (ServerEvent.queued conn.handle)).Sublist
            (accepted ++ Adapter.acceptedMessages trace)) := by
  induction nets with
  | nil =>
      intro accepted s s' conn trace hrun h _
      unfold worker at hrun
      split at hrun
      · cases hrun
        refine ⟨by simpa [Adapter.acceptedMessages, workerConn] using h, ?_⟩
        rintro ⟨r, hr, -⟩
        cases hr
      · cases hrun
  | cons net nets ih =>
      intro accepted s s' conn trace hrun h hserver
      unfold worker at hrun
      unfold workerReadings workerConn
      unfold workerReadings at hserver
      by_cases hraised : s.raised = true
      · rw [if_pos hraised] at hrun ⊢
        rw [if_pos hraised]
        cases hrun
        refine ⟨by simpa [Adapter.acceptedMessages] using h, ?_⟩
        rintro ⟨r, hr, -⟩
        cases hr
      · rw [if_neg hraised] at hrun hserver ⊢
        rw [if_neg hraised]
        cases hpass : workerPass resultToString s.next conn net with
        | none =>
            rw [hpass] at hrun
            cases hrun
        | some passed =>
            obtain ⟨a, t, goesOn⟩ := passed
            have hview := workerPass_fed resultToString hpass
            have hkept := (Adapter.feed_does conn net.queue
              (attemptFed resultToString s.next conn net)).handle
            have hhandle : a.conn.handle = conn.handle :=
              (congrArg AdapterView.handle hview).trans hkept
            rw [hpass] at hrun hserver
            cases goesOn with
            | true =>
                simp only at hrun hserver ⊢
                have hread := hserver _ List.mem_cons_self
                have hnow := h.attempt log hread hview
                obtain ⟨rest, hrest, hpair⟩ := Option.map_eq_some_iff.mp hrun
                obtain ⟨restTrace, t'⟩ := rest
                cases hpair
                obtain ⟨hthen, hall⟩ :=
                  ih hrest hnow (fun r hr => hserver r (List.mem_cons_of_mem _ hr))
                rw [Adapter.acceptedMessages_append, ← List.append_assoc]
                refine ⟨hthen, ?_⟩
                rintro ⟨r, hr, hwritten, hyes⟩
                rcases List.mem_cons.mp hr with rfl | hr
                · exact (h.complete log hwritten hyes hview).trans (List.sublist_append_left _ _)
                · have hrest := hall ⟨r, hr, hwritten, hyes⟩
                  rwa [hhandle] at hrest
            | false =>
                simp only at hrun hserver ⊢
                have hread := hserver _ (List.mem_singleton_self _)
                have hnow := h.attempt log hread hview
                have haccepted : Adapter.acceptedMessages trace
                    = Adapter.acceptedMessages a.trace := by
                  split at hrun
                  · cases hrun
                    rfl
                  · cases hrun
                    rw [Adapter.acceptedMessages_append, DesktopBackend.enqueueClosed_messages,
                      List.append_nil]
                rw [haccepted]
                refine ⟨hnow, ?_⟩
                rintro ⟨r, hr, hwritten, hyes⟩
                rw [List.mem_singleton.mp hr] at hwritten hyes
                exact h.complete log hwritten hyes hview

/-- **NOTHING IS LOST BEFORE THE RESUME POSITION**, on the connection pool either.
In every attempt the server answers with its events after the id it was sent, of
which any part may arrive in any pieces and in any framing; the queue may refuse any
message.  The messages that were accepted are events of the log, and those between
the worker's first id and its last are among them, in order.  Once an attempt brings
all that is left and the queue takes it, every event after the first id is. -/
theorem poolWorker_redelivers {last : QueueAnswers} {s s' : StopFlag}
    {conn : SSEDesktopConnection} {nets : List Network} {trace : List Effect}
    (hrun : worker resultToString last s conn nets = some (trace, s'))
    (hserver : ∀ r ∈ workerReadings resultToString s conn nets,
      Written (log.after (sentLastEventId r.conn)) r.bytes) :
    (∃ gone xs, log.after (sentLastEventId conn)
          = gone ++ log.after (sentLastEventId (workerConn resultToString s conn nets))
        ∧ gone.Sublist xs ∧ (∀ x ∈ xs, x ∈ log.events)
        ∧ Adapter.acceptedMessages trace
          = xs.map (ServerEvent.queued (workerConn resultToString s conn nets).handle))
      ∧ ((∃ r ∈ workerReadings resultToString s conn nets,
          WrittenFully (log.after (sentLastEventId r.conn)) r.bytes ∧ ∀ n, r.answers n = true) →
        ((log.after (sentLastEventId conn)).map (ServerEvent.queued conn.handle)).Sublist
          (Adapter.acceptedMessages trace)) := by
  have hinit : DesktopBackend.Resumable log (sentLastEventId conn) conn [] :=
    ⟨[], rfl, by simp, .init⟩
  obtain ⟨hkept, hall⟩ := resumable_poolWorker resultToString last nets hrun hinit hserver
  obtain ⟨xs, haccepted, hlog, gone, hgone, hsub⟩ := hkept
  exact ⟨⟨gone, xs, hgone, hsub, hlog, haccepted⟩, hall⟩

end Worker

/-- A connection that asks again. -/
def resumingConn : SSEDesktopConnection :=
  { handle := 1, url := some (.lit "http://h/"), reconnect := true }

/-- A response in two reads that breaks off in the last of three events; the second
is refused. -/
def refusedNetwork : Network where
  sends := [.sent 1000 []]
  receives := [
    .data (ascii "HTTP/1.1 200 OK\r\n\r\n" ++ (text (eventLines threeEventLog.events)).take 20),
    .data (((text (eventLines threeEventLog.events)).drop 20).take 40), .data []]
  queue := ⟨fun n => n != 1, fun _ => true⟩

/-- The response to the request after the first event, in four reads. -/
def resumedNetwork : Network where
  sends := [.sent 1000 []]
  receives := [.data (ascii "HTTP/1.1 200 OK\r\n"), .data (ascii "\r\n"),
    .data ((text (eventLines laterEvents)).take 30),
    .data ((text (eventLines laterEvents)).drop 30), .data []]
  queue := ⟨fun _ => true, fun _ => true⟩

/-- A stop that comes while the worker waits for its third attempt. -/
def lateStop : StopFlag := { raisedAt := some 60 }

/-- The second event is refused, asked for again, and arrives with the third. -/
theorem poolWorker_redelivers_resumed :
    ∃ trace s', worker (fun _ => "") ⟨fun _ => true, fun _ => true⟩ lateStop resumingConn
        [refusedNetwork, resumedNetwork] = some (trace, s')
      ∧ Adapter.acceptedMessages trace = threeEventLog.events.map (ServerEvent.queued 1)
      ∧ (∃ gone xs, threeEventLog.after (sentLastEventId resumingConn)
            = gone ++ threeEventLog.after (sentLastEventId (workerConn (fun _ => "") lateStop
              resumingConn [refusedNetwork, resumedNetwork]))
          ∧ gone.Sublist xs ∧ (∀ x ∈ xs, x ∈ threeEventLog.events)
          ∧ Adapter.acceptedMessages trace
            = xs.map (ServerEvent.queued (workerConn (fun _ => "") lateStop resumingConn
              [refusedNetwork, resumedNetwork]).handle))
      ∧ ((threeEventLog.after (sentLastEventId resumingConn)).map
          (ServerEvent.queued resumingConn.handle)).Sublist (Adapter.acceptedMessages trace) := by
  have hreadings : (workerReadings (fun _ => "") lateStop resumingConn
        [refusedNetwork, resumedNetwork]).map (fun r => (sentLastEventId r.conn, r.bytes))
      = [(none, (text (eventLines threeEventLog.events)).take 60),
          (some (.lit "1"), text (eventLines laterEvents))] := by
    decide +kernel
  have hmessages : (worker (fun _ => "") ⟨fun _ => true, fun _ => true⟩ lateStop resumingConn
        [refusedNetwork, resumedNetwork]).map (fun ran => Adapter.acceptedMessages ran.1)
      = some (threeEventLog.events.map (ServerEvent.queued 1)) := by
    decide +kernel
  obtain ⟨⟨trace, s'⟩, hrun, haccepted⟩ := Option.map_eq_some_iff.mp hmessages
  have hafter : WrittenFully (threeEventLog.after (some (.lit "1")))
      (text (eventLines laterEvents)) := writtenFully_eventLines (by decide)
  -- the two attempts, with what the queue answers in them
  have hanswers := (workerReadings_answers (fun _ => "") lateStop resumingConn
    [refusedNetwork, resumedNetwork]).eq_of_length (by simpa using congrArg List.length hreadings)
  obtain ⟨r₁, rest, hrest, h₁, htail⟩ := List.map_eq_cons_iff.mp hreadings
  obtain ⟨r₂, more, rfl, h₂, hnil⟩ := List.map_eq_cons_iff.mp htail
  obtain rfl := List.map_eq_nil_iff.mp hnil
  rw [hrest] at hanswers
  obtain ⟨hsent₁, hbytes₁⟩ := Prod.mk.inj h₁
  obtain ⟨hsent₂, hbytes₂⟩ := Prod.mk.inj h₂
  have hyes : r₂.answers = fun _ => true := (List.cons.inj (List.cons.inj hanswers).2).1
  have hserver : ∀ r ∈ workerReadings (fun _ => "") lateStop resumingConn
      [refusedNetwork, resumedNetwork],
        Written (threeEventLog.after (sentLastEventId r.conn)) r.bytes := by
    rw [hrest]
    intro r hr
    rcases List.mem_cons.mp hr with rfl | hr
    · rw [hsent₁, hbytes₁]
      exact (writtenFully_eventLines (by decide)).written.take 60
    · rw [List.mem_singleton.mp hr, hsent₂, hbytes₂]
      exact hafter.written
  have hall := poolWorker_redelivers (fun _ => "") hrun hserver
  refine ⟨trace, s', hrun, haccepted, hall.1, hall.2 ?_⟩
  rw [hrest]
  refine ⟨r₂, by simp, ?_, fun n => by rw [hyes]⟩
  rw [hsent₂, hbytes₂]
  exact hafter

end DefoldSSE
