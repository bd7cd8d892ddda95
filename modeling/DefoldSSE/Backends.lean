/-
  DefoldSSE.Backends — the clients and the workers behind `sse.cpp`.

  `Core/` has every run of `sse.cpp` under any calls of the platforms; the other
  directories have what each platform reports.  Here the two are put together: the
  calls of the run for one handle are those of its client, or of its worker.

  Main results:
    • `clients_isConnected` — on Android, iOS and HTML5, `sse.is_connected` says
      whether the client has an open stream;
    • `worker_callback` — on the desktop, the callback gets the events of the
      server's log up to the position that the worker would resume from.
-/
import DefoldSSE.Android.ClientProtocol
import DefoldSSE.Core.Script
import DefoldSSE.Desktop.CurlAttempt
import DefoldSSE.Html5.AttemptProtocol
import DefoldSSE.Ios.ClientProtocol

namespace DefoldSSE

open CLib

/-! ## §1. Whether a stream is open. -/

section Connected

variable {ι β ε δ : Type}

/-- The run says of the connection what its client reports: `SSE_EnqueueOpen` sets
the flag, `SSE_EnqueueClosed` and the adapters' `OnDisconnected` take it back.  The
script has not disconnected it. -/
structure SpeaksFor (handle : Int) (trace : List (AttemptEvent ι β ε δ)) (as : List Action) :
    Prop where
  calls : as.filterMap (Action.flag handle) = trace.filterMap AttemptEvent.flag
  issued : SpeaksIssued handle as
  kept : .disconnect handle ∉ as

/-- `sse.is_connected` answers `isOpen` wherever the client stands there. -/
def ReadsAs (platform : Platform) (trace : List (AttemptEvent ι β ε δ)) (isOpen : Bool) : Prop :=
  ∀ handle as c p r, SpeaksFor handle trace as → core.run core.init as = some c →
    c.heap p = some r → r.handle = handle →
      ∀ opened stop, c.isConnected (platform.isConnected opened stop) handle = .ok isOpen

/-- The adapters of the clients ask `m_Connected` again. -/
theorem isConnected_flag {platform : Platform} (hplatform : platform ≠ .desktop)
    (opened stop : Bool) (r : SSEConnection) :
    (r.connected && platform.isConnected opened stop r) = r.connected := by
  cases platform with
  | desktop => exact absurd rfl hplatform
  | android => exact Bool.and_self _
  | ios => exact Bool.and_self _
  | html5 => exact Bool.and_self _

/-- **A client that keeps the protocol reads as connected while a stream is open.** -/
theorem reads_of_kept [DecidableEq ι] {platform : Platform} (hplatform : platform ≠ .desktop)
    {P : AttemptPolicy ι β ε δ} {resume : ι} {retryMs : Int}
    {trace : List (AttemptEvent ι β ε δ)} {st : AttemptState ι}
    (h : AttemptState.Kept P (.start resume retryMs) trace st) :
    ReadsAs platform trace st.isOpen := by
  intro handle as c p r hspeaks hrun hr hhandle opened stop
  have hafter := flag_run hspeaks.issued hspeaks.kept (List.append_nil as).symm hrun
  -- the flag of the record, and the last word of the client
  have hopen : st.isOpen = lastOf AttemptEvent.flag false trace := h.isOpen
  have hflag : r.connected = st.isOpen := by
    rw [hafter.flag p r hr hhandle, hopen]
    unfold lastOf lastSome
    rw [hspeaks.calls]
  rcases isConnected_cases hafter.inv.inv (platform.isConnected opened stop) handle with
    hfound | hnone
  · obtain ⟨q, rq, hq, hqhandle, hanswer⟩ := hfound
    have hqp : q = p := hafter.inv.inv.unique hq hr (hqhandle.trans hhandle.symm)
    subst hqp
    rw [hr] at hq
    cases hq
    rw [hanswer, isConnected_flag hplatform, hflag]
  · exact absurd hhandle (hnone.2 p r hr)

end Connected

/-- **`sse.is_connected` SAYS WHETHER A STREAM IS OPEN**, in every reachable state of
the Android, the iOS and the HTML5 client: it answers true from the open of an
attempt up to the end of that attempt, and false at all other times. -/
theorem clients_isConnected :
    (∀ readUtf8 random lastEventId reconnect retryMs answers s,
        (androidClient readUtf8 random lastEventId reconnect retryMs answers).Reachable s →
        ∃ st, AttemptState.Kept (androidPolicy reconnect)
            (.start lastEventId (if retryMs ≥ 0 then retryMs else 3000)) s.trace st
          ∧ ReadsAs .android s.trace st.isOpen)
      ∧ (∀ f lastEventId reconnect retryMs answers s,
        (iosClient f lastEventId reconnect retryMs answers).Reachable s →
        ∃ st, AttemptState.Kept (iosPolicy reconnect) (.start lastEventId retryMs) s.trace st
          ∧ ReadsAs .ios s.trace st.isOpen)
      ∧ (∀ jitter, Jitters jitter → ∀ supported client answers s,
        (html5Page supported jitter client answers).Reachable s →
        ∃ st, AttemptState.Kept (html5Policy client.reconnect)
            (.start client.lastEventId client.retryMs) s.trace st
          ∧ ReadsAs .html5 s.trace st.isOpen) := by
  refine ⟨?_, ?_, ?_⟩
  · intro readUtf8 random lastEventId reconnect retryMs answers s h
    obtain ⟨st, hfollows⟩ :=
      (androidClient_follows readUtf8 random lastEventId reconnect retryMs answers).reachable h
    exact ⟨st, hfollows.kept, reads_of_kept (by decide) hfollows.kept⟩
  · intro f lastEventId reconnect retryMs answers s h
    obtain ⟨st, hfollows⟩ :=
      (iosClient_follows f lastEventId reconnect retryMs answers).reachable h
    exact ⟨st, hfollows.kept, reads_of_kept (by decide) hfollows.kept⟩
  · intro jitter hjitter supported client answers s h
    obtain ⟨st, hfollows⟩ := (html5Page_follows hjitter supported client answers).reachable h
    exact ⟨st, hfollows.kept, reads_of_kept (by decide) hfollows.kept⟩

/-- A connection that is opened. -/
def opening : List Action :=
  [.connect { url := ascii "http://x" }, .setConnected 1 true, .push (openEvent 1 200)]

theorem opening_speaksFor {ι β ε δ : Type} {trace : List (AttemptEvent ι β ε δ)}
    (htrace : trace.filterMap AttemptEvent.flag = [true]) : SpeaksFor 1 trace opening where
  calls := htrace.symm
  issued := by
    intro seen after t connected has hrun
    unfold opening at has
    rcases seen with _ | ⟨a, _ | ⟨b, _ | ⟨c, seen⟩⟩⟩
    · cases has
    · cases has
      cases hrun
      decide
    · cases has
    · simp at has
  kept := by simp [opening]

/-- What the client says, where it has said that its stream is open. -/
theorem opening_reads {ι β ε δ : Type} [DecidableEq ι] {P : AttemptPolicy ι β ε δ}
    {platform : Platform} {resume : ι} {retryMs : Int} {trace : List (AttemptEvent ι β ε δ)}
    (htrace : trace.filterMap AttemptEvent.flag = [true])
    (h : ∃ st, AttemptState.Kept P (.start resume retryMs) trace st
      ∧ ReadsAs platform trace st.isOpen) : ReadsAs platform trace true := by
  obtain ⟨st, hkept, hreads⟩ := h
  have hopen : st.isOpen = true := by
    rw [hkept.isOpen]
    unfold lastOf lastSome
    rw [htrace]
    rfl
  rwa [hopen] at hreads

/-- Each client has been answered, and its stream reads as open. -/
theorem clients_isConnected_opened : ∃ c, core.run core.init opening = some c
    ∧ (∃ s, (androidClient widen (fun _ => 200) [] true 1000 fun _ => true).Reachable s
      ∧ s.trace = [.request [], .opened 200]
      ∧ c.isConnected (Platform.android.isConnected true false) 1 = .ok true)
    ∧ (∃ s, (iosClient .strict [] true 1000 fun _ _ => true).Reachable s
      ∧ s.trace = [.request [], .opened 200]
      ∧ c.isConnected (Platform.ios.isConnected true false) 1 = .ok true)
    ∧ (∃ s, (eagerPage []).Reachable s
      ∧ s.trace = [.request [], .opened 200]
      ∧ c.isConnected (Platform.html5.isConnected true false) 1 = .ok true) := by
  obtain ⟨handroid, hios, hhtml5⟩ := clients_isConnected
  refine ⟨_, rfl, ?_, ?_, ?_⟩
  · have hruns : ∃ s, (androidClient widen (fun _ => 200) [] true 1000 fun _ => true).run
        (androidClient widen (fun _ => 200) [] true 1000 fun _ => true).init
          [.starter 0 .none, .attempt 0 .none, .attempt 0 (.response 200), .attempt 0 .none,
            .attempt 0 .none, .attempt 0 .none] = some s
        ∧ s.trace = [.request [], .opened 200] := ⟨_, rfl, by decide +kernel⟩
    obtain ⟨s, hrun, htrace⟩ := hruns
    have hflag : s.trace.filterMap AttemptEvent.flag = [true] := by
      rw [htrace]
      rfl
    have hreads := opening_reads hflag (handroid _ _ _ _ _ _ s ⟨_, hrun⟩)
    exact ⟨s, ⟨_, hrun⟩, htrace,
      hreads 1 opening _ 0 _ (opening_speaksFor hflag) rfl rfl rfl true false⟩
  · have hruns : ∃ s, (iosClient .strict [] true 1000 fun _ _ => true).run
        (iosClient .strict [] true 1000 fun _ _ => true).init
          [.start, .goOn 0, .didReceiveResponse 0 200, .goOn 0] = some s
        ∧ s.trace = [.request [], .opened 200] := ⟨_, rfl, by decide +kernel⟩
    obtain ⟨s, hrun, htrace⟩ := hruns
    have hflag : s.trace.filterMap AttemptEvent.flag = [true] := by
      rw [htrace]
      rfl
    have hreads := opening_reads hflag (hios _ _ _ _ _ s ⟨_, hrun⟩)
    exact ⟨s, ⟨_, hrun⟩, htrace,
      hreads 1 opening _ 0 _ (opening_speaksFor hflag) rfl rfl rfl true false⟩
  · have hruns : ∃ s, (eagerPage []).run (eagerPage []).init
          [.connect, .response 0 200 true] = some s
        ∧ s.trace = [.request [], .opened 200] := ⟨_, rfl, by decide +kernel⟩
    obtain ⟨s, hrun, htrace⟩ := hruns
    have hflag : s.trace.filterMap AttemptEvent.flag = [true] := by
      rw [htrace]
      rfl
    have hreads := opening_reads hflag (hhtml5 _ jitters_exact _ _ _ s ⟨_, hrun⟩)
    exact ⟨s, ⟨_, hrun⟩, htrace,
      hreads 1 opening _ 0 _ (opening_speaksFor hflag) rfl rfl rfl true false⟩

/-! ## §2. From the server's log to the callback. -/

section Worker

open CLib.Replay EventStream

variable {ε : Type} (B : DesktopBackend ε) {log : ServerLog} (last : QueueAnswers) (s : StopFlag)
  (conn : SSEDesktopConnection) (failures : Nat) (os : List ε)

/-- **WHAT THE CALLBACK GETS.**  The server answers each request with its events
after the id it was sent, of which any part may arrive; the messages that `sse.cpp`
was given for the handle are the worker's, which the queue may refuse; the script
has not disconnected it, and the callback could be set up.  Then the messages that
the callback was called with, with those on their way to it, are events of the log,
and those between the worker's first id and its last are among them, in order.  If
one attempt brought all that was left, with nothing refused, then every event after
the first id is. -/
theorem DesktopBackend.worker_callback
    (hserver : ∀ r ∈ B.readings s conn failures os,
      Written (log.after (sentLastEventId r.conn)) r.bytes)
    {c : CoreState} (hc : core.Reachable c) {p : Ptr} {r : SSEConnection} (hr : c.heap p = some r)
    (hserved : Served c p)
    (hpushed : messagesPushed r.handle c.trace
      = Adapter.messagePushes (B.worker last s conn failures os).trace) :
    let run := B.worker last s conn failures os
    let got := messages (invoked (deeds p c.trace)) ++ c.inTransit r.handle
    (∃ gone xs, log.after (sentLastEventId conn) = gone ++ log.after (sentLastEventId run.conn)
        ∧ gone.Sublist xs ∧ (∀ x ∈ xs, x ∈ log.events)
        ∧ got = xs.map (ServerEvent.queued run.conn.handle))
      ∧ ((∃ r ∈ B.readings s conn failures os,
          WrittenFully (log.after (sentLastEventId r.conn)) r.bytes ∧ ∀ n, r.answers n = true) →
        ((log.after (sentLastEventId conn)).map (ServerEvent.queued conn.handle)).Sublist got) := by
  intro run got
  have hgot : got = Adapter.acceptedMessages run.trace := by
    show messages (invoked (deeds p c.trace)) ++ c.inTransit r.handle = _
    rw [messages_reach hc hr hserved, hpushed]
    rfl
  have hinit : Resumable log (sentLastEventId conn) conn [] := ⟨[], rfl, by simp, .init⟩
  refine ⟨?_, fun hfull => ?_⟩
  · obtain ⟨xs, haccepted, hlog, gone, hgone, hsub⟩ := hinit.run B log last os hserver
    exact ⟨gone, xs, hgone, hsub, hlog, hgot.trans haccepted⟩
  · rw [hgot]
    exact hinit.run_complete B log last os hserver hfull

end Worker

/-- The event of a log of one event. -/
def oneMessage : SSEEvent :=
  messageEvent 1 (some (.lit "message")) (some (.lit "a")) (some (.lit "1"))

/-- A connection that gets it. -/
def oneDelivery : List Action :=
  [.connect { url := ascii "http://x" }, .setConnected 1 true, .push (openEvent 1 200),
    .push oneMessage, .update, .advance true, .callbackReturn, .advance true, .callbackReturn,
    .advance true, .advance true]

/-- Where that leads. -/
theorem oneDelivery_run : ∃ c r, core.run core.init oneDelivery = some c ∧ c.heap 0 = some r
    ∧ r.handle = 1 ∧ Served c 0
    ∧ deeds 0 c.trace = [.created 1, .attached, .invoked (openEvent 1 200), .invoked oneMessage]
    ∧ messagesPushed 1 c.trace = [(oneMessage, true)] := by
  have hruns : ∃ c r, core.run core.init oneDelivery = some c ∧ c.heap 0 = some r
      ∧ r.handle = 1 ∧ r.userClosed = false ∧ c.callbackValid 0 = true
      ∧ deeds 0 c.trace = [.created 1, .attached, .invoked (openEvent 1 200), .invoked oneMessage]
      ∧ messagesPushed 1 c.trace = [(oneMessage, true)] :=
    ⟨_, _, rfl, rfl, rfl, rfl, rfl, rfl, rfl⟩
  obtain ⟨c, r, hrun, hr, hhandle, hopen, hvalid, hdeeds, hpushed⟩ := hruns
  refine ⟨c, r, hrun, hr, hhandle, ⟨⟨r, hr, hopen⟩, hvalid, ?_⟩, hdeeds, hpushed⟩
  rw [hdeeds]
  simp

/-- The event is in the log, in the worker's run, and in the callback. -/
theorem worker_callback_one :
    let conn : SSEDesktopConnection := { handle := 1 }
    ∃ c, core.run core.init oneDelivery = some c
      ∧ messages (invoked (deeds 0 c.trace)) = [oneMessage]
      ∧ ((oneEventLog.after (sentLastEventId conn)).map (ServerEvent.queued conn.handle)).Sublist
        (messages (invoked (deeds 0 c.trace)) ++ c.inTransit 1) := by
  intro conn
  let o := oneResponse (text oneEventLines) (fun _ => true)
  have hbody : libcurl.body (StopFlag.next {}) conn o = text oneEventLines := by decide +kernel
  have hfull : WrittenFully (oneEventLog.after (sentLastEventId conn)) (text oneEventLines) :=
    ⟨oneEventLines, oneEventLines_written, by decide, rfl⟩
  have hreadings := libcurl.readings_single (s := {}) rfl conn 0 o
  rw [hbody] at hreadings
  have hmessages : Adapter.messagePushes
      (libcurl.worker ⟨fun _ => true, fun _ => true⟩ {} conn 0 [o]).trace
        = [(oneMessage, true)] := by
    decide +kernel
  obtain ⟨c, r, hrun, hr, hhandle, hserved, hdeeds, hpushed⟩ := oneDelivery_run
  have hserver : ∀ r ∈ libcurl.readings {} conn 0 [o],
      Written (oneEventLog.after (sentLastEventId r.conn)) r.bytes := by
    rw [hreadings]
    intro r hr
    rw [List.mem_singleton.mp hr]
    exact hfull.written
  have hsame : messagesPushed r.handle c.trace = Adapter.messagePushes
      (libcurl.worker ⟨fun _ => true, fun _ => true⟩ {} conn 0 [o]).trace := by
    rw [hhandle, hpushed, hmessages]
  have hgot := (libcurl.worker_callback ⟨fun _ => true, fun _ => true⟩ {} conn 0 [o] hserver
    ⟨oneDelivery, hrun⟩ hr hserved hsame).2
  rw [hhandle] at hgot
  refine ⟨c, hrun, by rw [hdeeds]; rfl, hgot ?_⟩
  rw [hreadings]
  exact ⟨_, List.mem_singleton_self _, hfull, fun _ => rfl⟩

end DefoldSSE
