/-
  DefoldSSE.Desktop.CurlAttempt — `SSEDesktop_PerformOnce` of libcurl, whole.

  libcurl calls back with headers, chunks and, in between, for the progress of the
  transfer; every callback may end the transfer, and the stop flag is looked at in
  each of them.  What libcurl makes of the transfer is given by the number of
  calls it got to make.

  `libcurl` is this attempt with what the worker asks of it.  Its list of
  header lines ends as the requests of the other backends do (`curlHeaders_eq`).
-/
import DefoldSSE.Desktop.Curl
import DefoldSSE.Desktop.EventOrder
import DefoldSSE.Desktop.Worker
import DefoldSSE.Pool.Request

namespace DefoldSSE

open CLib EventStream

/-! ## §1. The request's header list. -/

/-- `SSEDesktop_AddHeader`: the line it appends, if any. -/
def addHeader (name value : Option CString) : List Bytes :=
  match name, value with
  | some name, some value => [headerLine name value]
  | _, _ => []

/-- The list given to `CURLOPT_HTTPHEADER`. -/
def curlHeaders (conn : SSEDesktopConnection) : List Bytes :=
  [ascii "Accept: text/event-stream", ascii "Cache-Control: no-cache"]
    ++ conn.headers.flatMap (fun header => addHeader header.name header.value)
    ++ (sentLastEventId conn).toList.flatMap
        (fun id => addHeader (some (.lit "Last-Event-ID")) (some id))

theorem customLines_cons (h : SSEHeader) (headers : List SSEHeader) :
    customLines (h :: headers) = addHeader h.name h.value ++ customLines headers := by
  obtain ⟨name, value⟩ := h
  cases name <;> cases value <;> rfl

/-- **The list is as in the connection pool's request**: after two of the fixed
lines, the connection's own and that of the id. -/
theorem curlHeaders_eq (conn : SSEDesktopConnection) :
    curlHeaders conn
      = [ascii "Accept: text/event-stream", ascii "Cache-Control: no-cache"]
        ++ customLines conn.headers ++ lastEventIdLines conn := by
  have hcustom : conn.headers.flatMap (fun header => addHeader header.name header.value)
      = customLines conn.headers := by
    induction conn.headers with
    | nil => rfl
    | cons h headers ih => rw [List.flatMap_cons, customLines_cons, ih]
  have hid : (sentLastEventId conn).toList.flatMap
      (fun id => addHeader (some (.lit "Last-Event-ID")) (some id)) = lastEventIdLines conn := by
    unfold lastEventIdLines
    cases sentLastEventId conn <;> rfl
  rw [curlHeaders, hcustom, hid]

/-! ## §2. The transfer. -/

/-- A call libcurl makes during a transfer. -/
inductive CurlCall where
  | delivery (d : Delivery)
  /-- `SSEDesktop_ProgressCallback`; `now` is what `dmTime::GetTime()` says. -/
  | progress (now : UInt64)

/-- What libcurl has to say after `curl_easy_perform`. -/
structure CurlOutcome where
  /-- The result is `CURLE_OK`, if no callback ended the transfer. -/
  ok : Bool
  /-- `CURLINFO_RESPONSE_CODE`. -/
  responseCode : Int
  /-- The contents of `CURLOPT_ERRORBUFFER`. -/
  curlError : CString
  /-- `curl_easy_strerror(result)`. -/
  strerror : CString

/-- What is given from outside for an attempt. -/
structure CurlAttempt where
  /-- `curl_easy_init` gave a handle. -/
  init : Bool
  /-- `m_AttemptStart`. -/
  attemptStart : UInt64
  calls : List CurlCall
  /-- By the number of calls that were made. -/
  outcome : Nat → CurlOutcome
  queue : QueueAnswers
  clock : Nat

/-- `SSE_DESKTOP_FIRST_RESPONSE_TIMEOUT_US`. -/
def FIRST_RESPONSE_TIMEOUT_US : UInt64 := 30 * 1000000

/-- A transfer so far. -/
structure Transfer where
  adapter : Adapter
  stop : StopFlag
  /-- `m_FirstResponseTimedOut`. -/
  firstResponseTimedOut : Bool
  /-- A callback ended it. -/
  aborted : Bool
  made : Nat
  /-- The deliveries that were taken. -/
  taken : List Delivery

/-- The same, had no stop been requested. -/
def Transfer.never (t : Transfer) : Transfer := { t with stop := t.stop.never }

/-- The chunk of a delivery. -/
def Delivery.chunk : Delivery → Bytes
  | .header _ => []
  | .body chunk => chunk

namespace CurlAttempt

variable (o : CurlAttempt)

/-- A callback. -/
def onCall (t : Transfer) (c : CurlCall) : Transfer :=
  let stopped := t.stop.raised
  let t := { t with stop := t.stop.next, made := t.made + 1 }
  if stopped then { t with aborted := true }
  else
    match c with
    | .delivery d => { t with adapter := t.adapter.onDelivery d, taken := t.taken ++ [d] }
    | .progress now =>
        if !t.adapter.conn.opened && decide (now - o.attemptStart > FIRST_RESPONSE_TIMEOUT_US) then
          { t with firstResponseTimedOut := true, aborted := true }
        else t

/-- `curl_easy_perform`, which calls back no more once a callback has ended the
transfer. -/
def transfer (t : Transfer) : List CurlCall → Transfer
  | [] => t
  | c :: cs =>
      let t := o.onCall t c
      if t.aborted then t else transfer t cs

/-- The transfer of an attempt. -/
def transferred (s : StopFlag) (conn : SSEDesktopConnection) : Transfer :=
  o.transfer ⟨.start conn o.queue, s, false, false, 0, []⟩ o.calls

/-- The error of a transfer that was not stopped. -/
def errorOf (t : Transfer) (status : Int) : Option CString :=
  let r := o.outcome t.made
  if t.aborted || !r.ok then
    if t.firstResponseTimedOut then
      some (errorBuffer (ascii "SSE timed out waiting for server response"))
    else
      some (errorBuffer (if r.curlError.bytes ≠ [] then r.curlError.bytes else r.strerror.bytes))
  else if accepted status then none
  else some (statusError status)

/-- `SSEDesktop_PerformOnce`. -/
def performOnce (s : StopFlag) (conn : SSEDesktopConnection) (o : CurlAttempt) : Performed :=
  if o.init then
    let t := o.transferred s conn
    let r := o.outcome t.made
    let a := if r.responseCode > 0 then t.adapter.setStatus r.responseCode else t.adapter
    ⟨if t.stop.raised then none else o.errorOf t a.conn.status, a, t.stop.next⟩
  else ⟨some (errorBuffer (ascii "curl_easy_init failed")), ⟨conn, o.queue, []⟩, s⟩

/-- The part of the body that reached the parser. -/
def body (s : StopFlag) (conn : SSEDesktopConnection) (o : CurlAttempt) : Bytes :=
  if o.init then (o.transferred s conn).taken.flatMap Delivery.chunk else []

/-! ## §3. What a callback keeps, a transfer keeps. -/

theorem transfer_keeps {P : Transfer → Prop} (hstep : ∀ t c, P t → P (o.onCall t c))
    (cs : List CurlCall) : ∀ {t : Transfer}, P t → P (o.transfer t cs) := by
  induction cs with
  | nil => exact fun h => h
  | cons c cs ih =>
      intro t h
      rw [transfer]
      split
      · exact hstep t c h
      · exact ih (hstep t c h)

/-- A callback takes a delivery or leaves the adapter alone. -/
theorem onCall_cases (t : Transfer) (c : CurlCall) :
    (∃ d, c = .delivery d ∧ t.stop.raised = false
        ∧ (o.onCall t c).adapter = t.adapter.onDelivery d
        ∧ (o.onCall t c).taken = t.taken ++ [d])
      ∨ (o.onCall t c).adapter = t.adapter ∧ (o.onCall t c).taken = t.taken := by
  unfold onCall
  simp only
  split
  · exact .inr ⟨rfl, rfl⟩
  · next hdown =>
      have hdown : t.stop.raised = false := by simpa using hdown
      cases c with
      | delivery d => exact .inl ⟨d, rfl, hdown, rfl, rfl⟩
      | progress now =>
          simp only
          split <;> exact .inr ⟨rfl, rfl⟩

theorem onCall_stop (t : Transfer) (c : CurlCall) : (o.onCall t c).stop = t.stop.next := by
  unfold onCall
  simp only
  split
  · rfl
  · split
    · rfl
    · split <;> rfl

/-- The flag, over a transfer. -/
theorem transfer_looked (t : Transfer) (cs : List CurlCall) :
    t.stop.Looked (o.transfer t cs).stop := by
  refine o.transfer_keeps (P := fun t' => t.stop.Looked t'.stop) ?_ cs (.refl _)
  intro t' c h
  rw [onCall_stop]
  exact h.trans (.next _)

end CurlAttempt

/-! ## §4. What reaches the parser. -/

namespace Adapter

theorem openIfAccepted_view (a : Adapter) :
    a.openIfAccepted.conn.parser = a.conn.parser ∧ a.openIfAccepted.view = a.view := by
  unfold openIfAccepted
  split
  · exact ⟨rfl, a.openConnection_view⟩
  · exact ⟨rfl, rfl⟩

/-- A delivery feeds its chunk, and nothing else counts. -/
theorem onDelivery_view (a : Adapter) (d : Delivery) :
    ((a.onDelivery d).conn.parser, (a.onDelivery d).view)
      = a.conn.parser.feed d.chunk viewing a.view := by
  cases d with
  | header line =>
      show ((a.headerCallback line).conn.parser, (a.headerCallback line).view) = _
      rw [headerCallback_eq]
      split
      · rfl
      · split
        · rw [a.openIfAccepted_view.1, a.openIfAccepted_view.2]
          rfl
        · rfl
  | body chunk =>
      show ((a.openIfAccepted.feed chunk).conn.parser, (a.openIfAccepted.feed chunk).view) = _
      rw [feed_view, a.openIfAccepted_view.1, a.openIfAccepted_view.2]
      rfl

theorem openIfAccepted_extends (a : Adapter) : a.trace <+: a.openIfAccepted.trace := by
  unfold openIfAccepted
  split
  · obtain ⟨ok, htrace⟩ := a.openConnection_trace
    rw [htrace]
    exact List.prefix_append _ _
  · exact List.prefix_rfl

/-- A delivery adds to the history. -/
theorem onDelivery_extends (a : Adapter) (d : Delivery) : a.trace <+: (a.onDelivery d).trace := by
  cases d with
  | header line =>
      show a.trace <+: (a.headerCallback line).trace
      rw [headerCallback_eq]
      split
      · exact List.prefix_rfl
      · split
        · exact a.openIfAccepted_extends
        · exact List.prefix_rfl
  | body chunk => exact a.openIfAccepted_extends.trans (feed_extends _ chunk)

theorem Unclosed.openIfAccepted {a : Adapter} (h : Unclosed a.trace) :
    Unclosed a.openIfAccepted.trace := by
  unfold Adapter.openIfAccepted
  split
  · exact h.openConnection
  · exact h

theorem Unclosed.onDelivery {a : Adapter} (h : Unclosed a.trace) (d : Delivery) :
    Unclosed (a.onDelivery d).trace := by
  cases d with
  | header line =>
      show Unclosed (a.headerCallback line).trace
      rw [headerCallback_eq]
      split
      · exact h
      · split
        · exact h.openIfAccepted
        · exact h
  | body chunk => exact h.openIfAccepted.feed chunk

end Adapter

namespace CurlAttempt

variable (o : CurlAttempt)

/-- The chunks taken are what the parser was fed. -/
theorem transferred_view (s : StopFlag) (conn : SSEDesktopConnection) :
    (o.transferred s conn).adapter.view
      = ((Adapter.start conn o.queue).feed
          ((o.transferred s conn).taken.flatMap Delivery.chunk)).view := by
  let start := Adapter.start conn o.queue
  have hkeeps : ∀ t c, (t.adapter.conn.parser, t.adapter.view)
        = start.conn.parser.feed (t.taken.flatMap Delivery.chunk) Adapter.viewing start.view →
      ((o.onCall t c).adapter.conn.parser, (o.onCall t c).adapter.view)
        = start.conn.parser.feed ((o.onCall t c).taken.flatMap Delivery.chunk) Adapter.viewing
            start.view := by
    intro t c h
    obtain ⟨d, -, -, hadapter, htaken⟩ | ⟨hadapter, htaken⟩ := o.onCall_cases t c
    · rw [hadapter, htaken, Adapter.onDelivery_view, List.flatMap_append, SSEParser.feed_append,
        ← h]
      simp
    · rw [hadapter, htaken]
      exact h
  have h := o.transfer_keeps hkeeps o.calls
    (t := ⟨start, s, false, false, 0, []⟩) rfl
  show (o.transfer ⟨start, s, false, false, 0, []⟩ o.calls).adapter.view = _
  have hfed := start.feed_view ((o.transferred s conn).taken.flatMap Delivery.chunk)
  exact (congrArg Prod.snd h).trans (congrArg Prod.snd hfed).symm

theorem transfer_extends (t : Transfer) (cs : List CurlCall) :
    t.adapter.trace <+: (o.transfer t cs).adapter.trace := by
  refine o.transfer_keeps (P := fun t' => t.adapter.trace <+: t'.adapter.trace) ?_ cs
    List.prefix_rfl
  intro t' c h
  obtain ⟨d, -, -, hadapter, -⟩ | ⟨hadapter, -⟩ := o.onCall_cases t' c
  · rw [hadapter]
    exact h.trans (Adapter.onDelivery_extends _ d)
  · rw [hadapter]
    exact h

theorem transferred_unclosed (s : StopFlag) (conn : SSEDesktopConnection) :
    Adapter.Unclosed (o.transferred s conn).adapter.trace := by
  refine o.transfer_keeps (P := fun t => Adapter.Unclosed t.adapter.trace) ?_ o.calls
    Adapter.unclosed_nil
  intro t c h
  obtain ⟨d, -, -, hadapter, -⟩ | ⟨hadapter, -⟩ := o.onCall_cases t c
  · rw [hadapter]
    exact h.onDelivery d
  · rw [hadapter]
    exact h

/-! ## §5. The stop flag. -/

/-- A callback that finds the flag down does not know that it might be up. -/
theorem onCall_never {t : Transfer} (h : t.stop.raised = false) (c : CurlCall) :
    o.onCall t.never c = (o.onCall t c).never := by
  have hnever : t.never.stop.raised = false := rfl
  unfold onCall
  simp only [h, hnever, Bool.false_eq_true, if_false]
  cases c with
  | delivery d => rfl
  | progress now =>
      have hsame : t.never.adapter = t.adapter := rfl
      simp only [hsame]
      split <;> rfl

theorem onCall_stopped {t : Transfer} (h : t.stop.raised = true) (c : CurlCall) :
    o.onCall t c = { t with stop := t.stop.next, made := t.made + 1, aborted := true } := by
  unfold onCall
  simp only [h, if_true]

theorem transfer_unaware (cs : List CurlCall) : ∀ {t : Transfer},
    (o.transfer t cs).stop.raised = false → o.transfer t.never cs = (o.transfer t cs).never := by
  induction cs with
  | nil => exact fun _ => rfl
  | cons c cs ih =>
      intro t h
      have hlooked := o.transfer_looked t (c :: cs)
      have hdown := hlooked.notRaised h
      rw [transfer] at h
      rw [transfer, transfer, o.onCall_never hdown c]
      have hsame : (o.onCall t c).never.aborted = (o.onCall t c).aborted := rfl
      rw [hsame]
      cases haborted : (o.onCall t c).aborted with
      | true => rfl
      | false =>
          rw [haborted] at h
          exact ih h

theorem transfer_cut (cs : List CurlCall) : ∀ (t : Transfer),
    (o.transfer t cs).adapter.trace <+: (o.transfer t.never cs).adapter.trace := by
  induction cs with
  | nil => exact fun _ => List.prefix_rfl
  | cons c cs ih =>
      intro t
      cases hraised : t.stop.raised with
      | true =>
          have hextends := o.transfer_extends t.never (c :: cs)
          rw [transfer, o.onCall_stopped hraised]
          exact hextends
      | false =>
          rw [transfer, transfer, o.onCall_never hraised c]
          have hsame : (o.onCall t c).never.aborted = (o.onCall t c).aborted := rfl
          simp only [hsame]
          split
          · exact List.prefix_rfl
          · exact ih _

theorem transferred_never (s : StopFlag) (conn : SSEDesktopConnection)
    (h : (o.transferred s conn).stop.raised = false) :
    o.transferred s.never conn = (o.transferred s conn).never :=
  o.transfer_unaware o.calls h

/-! ## §6. The backend. -/

/-- The history of an attempt is that of its transfer. -/
theorem performOnce_trace (s : StopFlag) (conn : SSEDesktopConnection) (h : o.init = true) :
    (performOnce s conn o).adapter.trace = (o.transferred s conn).adapter.trace := by
  simp only [performOnce, h, if_true]
  split <;> rfl

end CurlAttempt

/-- The libcurl backend. -/
def libcurl : DesktopBackend CurlAttempt where
  performOnce := CurlAttempt.performOnce
  queue := CurlAttempt.queue
  clock := CurlAttempt.clock
  body := CurlAttempt.body
  reads s conn o := by
    cases hinit : o.init with
    | true =>
        simp only [CurlAttempt.performOnce, CurlAttempt.body, hinit, if_true]
        rw [← o.transferred_view s conn]
        split <;> rfl
    | false =>
        simp only [CurlAttempt.performOnce, CurlAttempt.body, hinit, Bool.false_eq_true, if_false]
        rfl
  looked s conn o := by
    cases hinit : o.init with
    | true =>
        simp only [CurlAttempt.performOnce, hinit, if_true]
        have hlooked := o.transfer_looked ⟨.start conn o.queue, s, false, false, 0, []⟩ o.calls
        exact hlooked.trans (.next _)
    | false =>
        simp only [CurlAttempt.performOnce, hinit, Bool.false_eq_true, if_false]
        exact .refl s
  unaware s conn o h := by
    cases hinit : o.init with
    | true =>
        simp only [CurlAttempt.performOnce, hinit, if_true] at h ⊢
        have hdown := (StopFlag.Looked.next (o.transferred s conn).stop).notRaised h
        rw [o.transferred_never s conn hdown]
        simp only [hdown, Bool.false_eq_true, if_false]
        rfl
    | false =>
        simp only [CurlAttempt.performOnce, hinit, Bool.false_eq_true, if_false]
  cut s conn o := by
    cases hinit : o.init with
    | true =>
        rw [o.performOnce_trace s conn hinit, o.performOnce_trace s.never conn hinit]
        exact o.transfer_cut o.calls _
    | false =>
        simp only [CurlAttempt.performOnce, hinit, Bool.false_eq_true, if_false]
        exact List.prefix_rfl
  unclosed s conn o := by
    cases hinit : o.init with
    | true =>
        rw [o.performOnce_trace s conn hinit]
        exact o.transferred_unclosed s conn
    | false =>
        simp only [CurlAttempt.performOnce, hinit, Bool.false_eq_true, if_false]
        exact Adapter.unclosed_nil

/-! ## §7. A run of libcurl. -/

section Logs

open CLib.Replay

/-- One of three events: `a`, `b` and `c`, with the ids `1`, `2` and `3`. -/
def eventOf (n : Fin 3) : ServerEvent where
  name := .lit ""
  id := some (.read [49 + UInt8.ofNat n.val])
  data := .read [97 + UInt8.ofNat n.val]
  name_line := by
    unfold SingleLine
    decide
  id_line := by
    intro v hv
    cases hv
    unfold SingleLine
    revert n
    decide
  data_noCR := by
    revert n
    decide

/-- A log of one event. -/
def oneEventLog : ServerLog where
  events := [eventOf 0]
  distinct := by
    unfold DistinctKeys
    decide
  named := by
    have hall : ∀ e ∈ [eventOf 0], ∀ v ∈ e.id, v.bytes ≠ [] := by decide
    exact hall
  fits := by decide

/-- A log of all three. -/
def threeEventLog : ServerLog where
  events := [eventOf 0, eventOf 1, eventOf 2]
  distinct := by
    unfold DistinctKeys
    decide
  named := by
    have hall : ∀ e ∈ [eventOf 0, eventOf 1, eventOf 2], ∀ v ∈ e.id, v.bytes ≠ [] := by decide
    exact hall
  fits := by decide

/-- Its lines, and how the server ends them. -/
def oneEventLines : List (Bytes × LineEnd) :=
  [(fieldLine "event" [], .lf), (fieldLine "id" (ascii "1"), .crlf),
    (fieldLine "data" (ascii "a"), .lf), ([], .lf)]

/-- A response whose body is `body`, and a queue that takes what `answer` says. -/
def oneResponse (body : Bytes) (answer : Nat → Bool) : CurlAttempt where
  init := true
  attemptStart := 0
  calls := [.progress 1, .delivery (.header (ascii "HTTP/1.1 200 OK\r\n")),
    .delivery (.header (ascii "\r\n")), .delivery (.body body)]
  outcome _ := ⟨true, 200, .lit "", .lit ""⟩
  queue := ⟨answer, fun _ => true⟩
  clock := 0

theorem oneEventLines_written : WithInsertions
    ((oneEventLog.after (sentLastEventId {})).flatMap ServerEvent.lines)
    (oneEventLines.map Prod.fst) := by
  have hlines : (oneEventLog.after (sentLastEventId {})).flatMap ServerEvent.lines
      = oneEventLines.map Prod.fst := by decide
  rw [hlines]
  exact .refl _

/-- What a request with the id of the first event asks for. -/
def laterEvents : List ServerEvent := [eventOf 1, eventOf 2]

/-- The lines of events, each ended in LF. -/
def eventLines (events : List ServerEvent) : List (Bytes × LineEnd) :=
  (events.flatMap ServerEvent.lines).map (fun line => (line, .lf))

theorem writtenFully_eventLines {events : List ServerEvent}
    (hcap : ∀ l ∈ eventLines events, (l.1 ++ l.2.beforeLF).length ≤ sseParserMaxBuffer) :
    WrittenFully events (text (eventLines events)) := by
  refine ⟨eventLines events, ?_, hcap, rfl⟩
  unfold eventLines
  rw [List.map_map]
  exact (List.map_id _).symm ▸ .refl _

/-- The response to a request without an id breaks off in the last of three events,
and the second is refused; the worker asks again from the first one on, and this
response breaks off in the last event too. -/
theorem worker_redelivers_resumed :
    let conn : SSEDesktopConnection := { reconnect := true }
    let refused := oneResponse ((text (eventLines threeEventLog.events)).take 60) (fun n => n != 1)
    let resumed := oneResponse ((text (eventLines laterEvents)).take 30) (fun _ => true)
    let run := libcurl.worker ⟨fun _ => true, fun _ => true⟩ {} conn 0 [refused, resumed]
    (Adapter.acceptedMessages run.trace = [eventOf 0, eventOf 1].map (ServerEvent.queued 0)
        ∧ sentLastEventId run.conn = some (.lit "2"))
      ∧ ∃ gone xs, threeEventLog.after (sentLastEventId conn)
          = gone ++ threeEventLog.after (sentLastEventId run.conn)
        ∧ gone.Sublist xs ∧ (∀ x ∈ xs, x ∈ threeEventLog.events)
        ∧ Adapter.acceptedMessages run.trace = xs.map (ServerEvent.queued run.conn.handle) := by
  intro conn refused resumed run
  have hreadings : (libcurl.readings {} conn 0 [refused, resumed]).map
        (fun r => (sentLastEventId r.conn, r.bytes))
      = [(none, (text (eventLines threeEventLog.events)).take 60),
          (some (.lit "1"), (text (eventLines laterEvents)).take 30)] := by
    decide +kernel
  refine ⟨by decide +kernel, libcurl.worker_redelivers _ {} conn 0 [refused, resumed] ?_⟩
  intro r hr
  have hone := List.mem_map_of_mem (f := fun r => (sentLastEventId r.conn, r.bytes)) hr
  rw [hreadings] at hone
  rcases List.mem_cons.mp hone with hfirst | hsecond
  · obtain ⟨hsent, hbytes⟩ := Prod.mk.inj hfirst
    rw [hsent, hbytes]
    exact (writtenFully_eventLines (by decide)).written.take 60
  · obtain ⟨hsent, hbytes⟩ := Prod.mk.inj (List.mem_singleton.mp hsecond)
    have hafter : threeEventLog.after (some (.lit "1")) = laterEvents := rfl
    rw [hsent, hbytes, hafter]
    exact (writtenFully_eventLines (by decide)).written.take 30

/-- The body is whole, and the event arrives. -/
theorem worker_complete_whole :
    let conn : SSEDesktopConnection := {}
    let o := oneResponse (text oneEventLines) (fun _ => true)
    ((oneEventLog.after (sentLastEventId conn)).map (ServerEvent.queued conn.handle)).Sublist
      (Adapter.acceptedMessages
        (libcurl.worker ⟨fun _ => true, fun _ => true⟩ {} conn 0 [o]).trace) := by
  intro conn o
  have hbody : libcurl.body (StopFlag.next {}) conn o = text oneEventLines := by decide +kernel
  have hfull : WrittenFully (oneEventLog.after (sentLastEventId conn)) (text oneEventLines) :=
    ⟨oneEventLines, oneEventLines_written, by decide, rfl⟩
  have hreadings := libcurl.readings_single (s := {}) rfl conn 0 o
  rw [hbody] at hreadings
  refine libcurl.worker_complete _ {} conn 0 [o] ?_ ?_
  · rw [hreadings]
    intro r hr
    rw [List.mem_singleton.mp hr]
    exact hfull.written
  · rw [hreadings]
    exact ⟨_, List.mem_singleton_self _, hfull, fun _ => rfl⟩

end Logs

end DefoldSSE
