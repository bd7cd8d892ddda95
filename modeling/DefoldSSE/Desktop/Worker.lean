/-
  DefoldSSE.Desktop.Worker — `SSEDesktop_Worker` of libcurl and of WinHTTP.

  The two backends have the same worker, word for word but for its log lines; what
  differs is the attempt.  `DesktopBackend` is an attempt with the facts that the
  worker's results rest on, so that each of them is proved once.

  Main results:
    • `worker_redelivers` — against a server that keeps its events, whatever the
      network and the queue do, everything before the id that the worker would
      send next was accepted;
    • `worker_complete` — and everything was, once an attempt brings the rest;
    • `worker_stop` — a stop adds nothing to what is pushed;
    • `worker_closed` — CLOSED is the last push of a worker that was not stopped,
      and of no other.
-/
import DefoldSSE.Desktop.Backoff
import DefoldSSE.Desktop.ServerLog

namespace DefoldSSE

open CLib CLib.Replay EventStream

/-! ## §1. What the log of a server has to do with an adapter. -/

/-- The messages an adapter has pushed, and the id it would resume from. -/
structure AdapterView where
  handle : Int
  answers : Nat → Bool
  pushes : List (SSEEvent × Bool)
  lastEventId : Option CString

namespace Adapter

def view (a : Adapter) : AdapterView where
  handle := a.conn.handle
  answers := a.queue.message
  pushes := messagePushes a.trace
  lastEventId := a.conn.lastEventId

/-- `SSEDesktop_OnParserEvent`, as far as the view goes. -/
def viewEvent (v : AdapterView) (event : SSEParsedEvent) : Bool × AdapterView :=
  let ok := v.answers v.pushes.length
  let queued := messageEvent v.handle (some (.read event.event)) (some (.read event.data))
    (some (.read event.id))
  (ok, { v with
    pushes := v.pushes ++ [(queued, ok)]
    lastEventId :=
      ((if ok then event.lastEventId else none).map CString.read).or v.lastEventId })

def viewing : SSEParserCallbacks AdapterView where
  onEvent := some viewEvent
  onId := some (fun v id => { v with lastEventId := some (.read id) })

theorem callbacks_view : SSEParser.CallbackMap callbacks viewing view where
  onEvent a event := by
    have hcall : callbacks.callOnEvent a event = a.onParserEvent event := rfl
    have hview : viewing.callOnEvent a.view event = viewEvent a.view event := rfl
    have hanswers : a.view.answers a.view.pushes.length
        = a.queue.message (messagePushes a.trace).length := rfl
    rw [hcall, hview, onParserEvent_eq]
    simp only [viewEvent, hanswers]
    generalize a.queue.message (messagePushes a.trace).length = ok
    generalize (if ok = true then event.lastEventId else none) = id
    cases id with
    | none => simp [view, commitOffered, pushed, queued, messageEvent]
    | some id => simp [view, commitOffered, pushed, queued, messageEvent, commitLastEventId]
  onRetry a ms := by
    show a.view = (a.onParserRetry ms).view
    simp [view, onParserRetry]
  onId a id := by
    show { a.view with lastEventId := some (CString.read id) } = (a.onParserId id).view
    simp [view, onParserId, commitLastEventId]
  onError a message := by
    show a.view = (a.onParserError message).view
    simp [view, onParserError, enqueueError, queuePush, errorEvent]

/-- The parser and the view of an adapter that was fed. -/
theorem feed_view (a : Adapter) (bytes : Bytes) :
    ((a.feed bytes).conn.parser, (a.feed bytes).view)
      = a.conn.parser.feed bytes viewing a.view := by
  rw [SSEParser.feed_map callbacks_view]
  rfl

theorem openConnection_view (a : Adapter) : a.openConnection.view = a.view := by
  simp [view, openConnection, enqueueOpen, setConnected, queuePush, openEvent]

theorem setStatus_view (a : Adapter) (status : Int) : (a.setStatus status).view = a.view := rfl

/-- The events that the queue took. -/
def acceptedMessages (trace : List Effect) : List SSEEvent :=
  ((messagePushes trace).filter Prod.snd).map Prod.fst

theorem acceptedMessages_append (t t' : List Effect) :
    acceptedMessages (t ++ t') = acceptedMessages t ++ acceptedMessages t' := by
  simp [acceptedMessages]

/-- What was taken of the events an attempt offered. -/
theorem Offered.acceptedMessages_eq {conn : SSEDesktopConnection} {queue : QueueAnswers}
    {xs : List ServerEvent} {a a' : Adapter} (h : Offered conn queue xs a)
    (hview : a'.view = a.view) :
    acceptedMessages a'.trace
      = (acceptedOf (offersFrom queue.message 0 xs)).map (ServerEvent.queued conn.handle) := by
  have hpushes : messagePushes a'.trace = messagePushes a.trace :=
    congrArg AdapterView.pushes hview
  rw [acceptedMessages, hpushes, h.pushes, acceptedOf, List.filter_map, List.map_map, List.map_map]
  rfl

/-- All pushes, with their answers. -/
def pushes (trace : List Effect) : List (SSEEvent × Bool) :=
  trace.filterMap (fun
    | .push e accepted => some (e, accepted)
    | _ => none)

theorem pushes_append (t t' : List Effect) : pushes (t ++ t') = pushes t ++ pushes t' :=
  List.filterMap_append

/-- Nothing said CLOSED. -/
def Unclosed (trace : List Effect) : Prop := ∀ e ∈ pushes trace, e.1.type ≠ .eventClosed

theorem Unclosed.append {t t' : List Effect} (h : Unclosed t) (h' : Unclosed t') :
    Unclosed (t ++ t') := by
  intro e he
  rw [pushes_append] at he
  rcases List.mem_append.mp he with he | he
  · exact h e he
  · exact h' e he

theorem unclosed_nil : Unclosed [] := fun _ he => absurd he List.not_mem_nil

/-- One more effect. -/
theorem Unclosed.snoc {t : List Effect} (h : Unclosed t) {x : Effect}
    (hx : ∀ event ok, x = .push event ok → event.type ≠ .eventClosed) :
    Unclosed (t ++ [x]) := by
  refine h.append ?_
  intro e he
  obtain ⟨y, hy, hpush⟩ := List.mem_filterMap.mp he
  rw [List.mem_singleton.mp hy] at hpush
  cases x with
  | push event ok =>
      rw [← Option.some.inj hpush]
      exact hx event ok rfl
  | _ => cases hpush

theorem Unclosed.commitLastEventId {a : Adapter} (h : Unclosed a.trace) (id : CString) :
    Unclosed (a.commitLastEventId id).trace :=
  (h.snoc (fun _ _ h => by cases h)).snoc (fun _ _ h => by cases h)

/-- Opening says OPEN. -/
theorem Unclosed.openConnection {a : Adapter} (h : Unclosed a.trace) :
    Unclosed a.openConnection.trace := by
  refine (h.snoc (fun _ _ h => by cases h)).snoc ?_
  intro event ok heq
  cases heq
  show SSEEventType.eventOpen ≠ .eventClosed
  decide

/-- A stream says no CLOSED. -/
theorem Unclosed.feed {a : Adapter} (h : Unclosed a.trace) (bytes : Bytes) :
    Unclosed (a.feed bytes).trace := by
  have hkeeps : SSEParser.Preserves callbacks (fun a => Unclosed a.trace) := {
    onEvent := fun a event h => by
      have hcall : callbacks.callOnEvent a event = a.onParserEvent event := rfl
      rw [hcall, onParserEvent_eq]
      generalize a.queue.message (messagePushes a.trace).length = ok
      have hpushed : Unclosed (a.pushed event ok).trace := by
        refine (h.snoc (fun _ _ h => by cases h)).snoc ?_
        intro event ok heq
        cases heq
        show SSEEventType.eventMessage ≠ .eventClosed
        decide
      show Unclosed ((a.pushed event ok).commitOffered
        (if ok then event.lastEventId else none)).trace
      cases (if ok then event.lastEventId else none) with
      | none => exact hpushed
      | some id => exact hpushed.commitLastEventId _
    onRetry := fun a ms h => h.snoc (fun _ _ h => by cases h)
    onId := fun a id h => by
      have hcall : Unclosed (a.log (.call (.id id))).trace := h.snoc (fun _ _ h => by cases h)
      exact hcall.commitLastEventId _
    onError := fun a message h => by
      refine (h.snoc (fun _ _ h => by cases h)).snoc ?_
      intro event ok heq
      cases heq
      show SSEEventType.eventError ≠ .eventClosed
      decide }
  exact SSEParser.feed_preserves hkeeps bytes a.conn.parser h

end Adapter

/-! ## §2. The worker. -/

/-- What `dmSnPrintf` leaves in `char error[256]`. -/
def errorBuffer (text : Bytes) : CString := .read (text.take 255)

/-- The error of a response that is not accepted. -/
def statusError (status : Int) : CString :=
  errorBuffer (ascii ("SSE request failed with HTTP status " ++ toString status))

/-- What `SSEDesktop_PerformOnce` leaves: the error it returned false with, if
it did, and the rest. -/
structure Performed where
  error : Option CString
  adapter : Adapter
  stop : StopFlag

/-- The flag, had no stop been requested. -/
def StopFlag.never (s : StopFlag) : StopFlag := { s with raisedAt := none }

/-- From `s` to `s'` the flag was looked at some times. -/
structure StopFlag.Looked (s s' : StopFlag) : Prop where
  raisedAt : s'.raisedAt = s.raisedAt
  looks : s.looks ≤ s'.looks

namespace StopFlag

theorem Looked.refl (s : StopFlag) : s.Looked s := ⟨rfl, Nat.le_refl _⟩

theorem Looked.next (s : StopFlag) : s.Looked s.next := ⟨rfl, Nat.le_succ _⟩

theorem Looked.trans {s t u : StopFlag} (h : s.Looked t) (h' : t.Looked u) : s.Looked u :=
  ⟨h'.raisedAt.trans h.raisedAt, Nat.le_trans h.looks h'.looks⟩

/-- A raised flag stays raised. -/
theorem Looked.raised {s s' : StopFlag} (h : s.Looked s') (hs : s.raised = true) :
    s'.raised = true := by
  have hlooks := h.looks
  unfold StopFlag.raised at hs ⊢
  rw [h.raisedAt]
  cases hat : s.raisedAt with
  | none => rw [hat] at hs; cases hs
  | some n =>
      rw [hat] at hs
      have hn : n ≤ s.looks := of_decide_eq_true hs
      exact decide_eq_true (by omega)

/-- So one that is not raised was not. -/
theorem Looked.notRaised {s s' : StopFlag} (h : s.Looked s') (hs : s'.raised = false) :
    s.raised = false := by
  cases hraised : s.raised with
  | false => rfl
  | true => rw [h.raised hraised] at hs; cases hs

@[simp] theorem never_raised (s : StopFlag) : s.never.raised = false := rfl

@[simp] theorem never_next (s : StopFlag) : s.never.next = s.next.never := rfl

end StopFlag

/-- A backend: its `SSEDesktop_PerformOnce`, what is given from outside for an
attempt (`ε`), and what the attempt keeps to. -/
structure DesktopBackend (ε : Type) where
  performOnce : StopFlag → SSEDesktopConnection → ε → Performed
  queue : ε → QueueAnswers
  /-- `dmTime::GetTime()` after the attempt. -/
  clock : ε → Nat
  /-- The part of the body that reaches the parser. -/
  body : StopFlag → SSEDesktopConnection → ε → Bytes
  /-- The messages and the id come from that part. -/
  reads : ∀ (s : StopFlag) (conn : SSEDesktopConnection) (o : ε),
    (performOnce s conn o).adapter.view
      = ((Adapter.start conn (queue o)).feed (body s conn o)).view
  looked : ∀ (s : StopFlag) (conn : SSEDesktopConnection) (o : ε),
    s.Looked (performOnce s conn o).stop
  /-- An attempt that was not stopped does not know that it might have been. -/
  unaware : ∀ (s : StopFlag) (conn : SSEDesktopConnection) (o : ε),
    (performOnce s conn o).stop.raised = false → performOnce s.never conn o
      = { performOnce s conn o with stop := (performOnce s conn o).stop.never }
  /-- One that was stopped has done a part of the rest. -/
  cut : ∀ (s : StopFlag) (conn : SSEDesktopConnection) (o : ε),
    (performOnce s conn o).adapter.trace <+: (performOnce s.never conn o).adapter.trace
  unclosed : ∀ (s : StopFlag) (conn : SSEDesktopConnection) (o : ε),
    Adapter.Unclosed (performOnce s conn o).adapter.trace

/-- What a run of the worker has done, and whether it has returned. -/
structure WorkerRun where
  trace : List Effect
  conn : SSEDesktopConnection
  stop : StopFlag
  exited : Bool

/-- What was done before the run. -/
def WorkerRun.after (run : WorkerRun) (trace : List Effect) : WorkerRun :=
  { run with trace := trace ++ run.trace }

namespace DesktopBackend

variable {ε : Type} (B : DesktopBackend ε)

/-- `if (connection->m_Opened)`, then `if (!ok)`: an attempt that failed is
reported and counted. -/
def report (p : Performed) (failures : Nat) : Adapter × Nat :=
  let a := p.adapter.setConnected false
  let failures := if a.conn.opened then 0 else failures
  match p.error with
  | none => (a, failures)
  | some error =>
      (a.enqueueError (some error) a.conn.status a.conn.reconnect a.conn.retryMs,
        (failures + 1) % 2 ^ 32)

/-- A pass of the loop, with `failures` after it and whether the loop goes on. -/
def pass (s : StopFlag) (conn : SSEDesktopConnection) (failures : Nat) (o : ε) :
    Adapter × StopFlag × Nat × Bool :=
  let p := B.performOnce s conn o
  if p.stop.raised then (p.adapter.setConnected false, p.stop.next, failures, false)
  else
    let (a, failures) := report p failures
    if a.conn.reconnect then
      let delayMs := computeRetryDelayMS a.conn.retryMs failures (B.clock o)
      (a, (sleepRetry p.stop.next delayMs).2, failures, true)
    else (a, p.stop.next, failures, false)

/-- `SSEDesktop_Worker`, as far as the attempts are given; `last` answers its last
push. -/
def worker (last : QueueAnswers) (s : StopFlag) (conn : SSEDesktopConnection) (failures : Nat) :
    List ε → WorkerRun
  | [] => if s.raised then ⟨[], conn, s.next.next, true⟩ else ⟨[], conn, s, false⟩
  | o :: os =>
      -- the second look is the one before `SSE_EnqueueClosed`
      if s.raised then ⟨[], conn, s.next.next, true⟩
      else
        match B.pass s.next conn failures o with
        | (a, s, failures, true) => (worker last s a.conn failures os).after a.trace
        | (a, s, _, false) =>
            if s.raised then ⟨a.trace, a.conn, s.next, true⟩
            else
              ⟨a.trace ++ (Adapter.enqueueClosed ⟨a.conn, last, []⟩).trace, a.conn, s.next, true⟩

/-- An attempt that was made: the connection it began with, the bytes that
reached the parser, and the answers to its messages. -/
structure Reading where
  conn : SSEDesktopConnection
  bytes : Bytes
  answers : Nat → Bool

/-- The attempts of a run. -/
def readings (s : StopFlag) (conn : SSEDesktopConnection) (failures : Nat) :
    List ε → List Reading
  | [] => []
  | o :: os =>
      if s.raised then []
      else
        let reading : Reading := ⟨conn, B.body s.next conn o, (B.queue o).message⟩
        match B.pass s.next conn failures o with
        | (a, s, failures, true) => reading :: readings s a.conn failures os
        | (_, _, _, false) => [reading]

/-- One attempt reads the same whatever comes after it. -/
theorem readings_single {s : StopFlag} (h : s.raised = false) (conn : SSEDesktopConnection)
    (failures : Nat) (o : ε) :
    B.readings s conn failures [o] = [⟨conn, B.body s.next conn o, (B.queue o).message⟩] := by
  unfold readings
  rw [if_neg (by rw [h]; decide)]
  generalize B.pass s.next conn failures o = passed
  obtain ⟨a, s', failures', goesOn⟩ := passed
  cases goesOn with
  | true => rfl
  | false => rfl

/-! ## §3. What a pass can do. -/

/-- After an attempt `p`, the pass is over with one of these. -/
inductive Passed (p : Performed) (failures clock : Nat) :
    Adapter × StopFlag × Nat × Bool → Prop where
  | stopped (hstop : p.stop.raised = true) :
      Passed p failures clock (p.adapter.setConnected false, p.stop.next, failures, false)
  | goesOn (hstop : p.stop.raised = false)
      (hreconnect : (report p failures).1.conn.reconnect = true) :
      Passed p failures clock
        ((report p failures).1, (sleepRetry p.stop.next (computeRetryDelayMS
          (report p failures).1.conn.retryMs (report p failures).2 clock)).2,
          (report p failures).2, true)
  | returns (hstop : p.stop.raised = false)
      (hreconnect : (report p failures).1.conn.reconnect = false) :
      Passed p failures clock
        ((report p failures).1, p.stop.next, (report p failures).2, false)

theorem pass_passed (s : StopFlag) (conn : SSEDesktopConnection) (failures : Nat) (o : ε) :
    Passed (B.performOnce s conn o) failures (B.clock o) (B.pass s conn failures o) := by
  unfold pass
  generalize B.performOnce s conn o = p
  simp only
  by_cases hstop : p.stop.raised = true
  · rw [if_pos hstop]
    exact .stopped hstop
  · rw [if_neg hstop]
    have hstop : p.stop.raised = false := by simpa using hstop
    by_cases hreconnect : (report p failures).1.conn.reconnect = true
    · rw [if_pos hreconnect]
      exact .goesOn hstop hreconnect
    · rw [if_neg hreconnect]
      exact .returns hstop (by simpa using hreconnect)

/-- What the worker adds to an attempt, pushes apart, is `SSE_SetConnected`. -/
theorem report_trace (p : Performed) (failures : Nat) :
    ∃ errors, (report p failures).1.trace
        = p.adapter.trace ++ .setConnected p.adapter.conn.handle false :: errors
      ∧ ∀ e ∈ errors, ∃ event ok, e = .push event ok ∧ event.type = .eventError := by
  unfold report
  cases p.error with
  | none => exact ⟨[], rfl, by simp⟩
  | some error =>
      let event := errorEvent p.adapter.conn.handle (some error) p.adapter.conn.status
        p.adapter.conn.reconnect p.adapter.conn.retryMs
      refine ⟨[.push event ((p.adapter.setConnected false).answer event)], ?_, ?_⟩
      · exact List.append_assoc _ _ _
      · intro e he
        rw [List.mem_singleton.mp he]
        exact ⟨_, _, rfl, rfl⟩

/-! ## §4. No gap behind the id. -/

/-- What the worker does after an attempt is no message and commits nothing. -/
theorem report_view (p : Performed) (failures : Nat) :
    (report p failures).1.view = p.adapter.view := by
  unfold report
  cases p.error with
  | none => simp [Adapter.view, Adapter.setConnected]
  | some error =>
      simp [Adapter.view, Adapter.setConnected, Adapter.enqueueError, Adapter.queuePush, errorEvent]

theorem pass_view (s : StopFlag) (conn : SSEDesktopConnection) (failures : Nat) (o : ε) :
    (B.pass s conn failures o).1.view
      = ((Adapter.start conn (B.queue o)).feed (B.body s conn o)).view := by
  have hpassed := B.pass_passed s conn failures o
  rw [← B.reads]
  generalize B.pass s conn failures o = passed at hpassed ⊢
  cases hpassed with
  | stopped _ => simp [Adapter.view, Adapter.setConnected]
  | goesOn _ _ => exact report_view _ _
  | returns _ _ => exact report_view _ _

theorem enqueueClosed_messages (conn : SSEDesktopConnection) (last : QueueAnswers) :
    Adapter.acceptedMessages (Adapter.enqueueClosed ⟨conn, last, []⟩).trace = [] := by
  simp [Adapter.acceptedMessages, Adapter.enqueueClosed, Adapter.setConnected, Adapter.queuePush,
    closedEvent]

variable (log : ServerLog)

/-- Of the events after `start` the receiver has those up to the id of `conn`, and
it has nothing else: `trace` holds what it accepted. -/
def Resumable (start : Option CString) (conn : SSEDesktopConnection) (accepted : List SSEEvent) :
    Prop :=
  ∃ xs : List ServerEvent, accepted = xs.map (ServerEvent.queued conn.handle)
    ∧ (∀ x ∈ xs, x ∈ log.events)
    ∧ Accounted ServerEvent.id log.events start (sentLastEventId conn) xs

/-- **One attempt.** -/
theorem Resumable.attempt {start : Option CString} {conn : SSEDesktopConnection}
    {accepted : List SSEEvent} (h : Resumable log start conn accepted) {queue : QueueAnswers}
    {bytes : Bytes} (hserver : Written (log.after (sentLastEventId conn)) bytes) {a : Adapter}
    (ha : a.view = ((Adapter.start conn queue).feed bytes).view) :
    Resumable log start a.conn (accepted ++ Adapter.acceptedMessages a.trace) := by
  obtain ⟨xs, rfl, hlog, hacc⟩ := h
  obtain ⟨ys, hys, -, hoffered⟩ := Adapter.feed_written conn queue log hserver
  have hhandle : a.conn.handle = conn.handle := by
    have hkept := (Adapter.feed_does conn queue bytes).handle
    exact (congrArg AdapterView.handle ha).trans hkept
  have hlast : sentLastEventId a.conn
      = sentLastEventId ((Adapter.start conn queue).feed bytes).conn := by
    unfold sentLastEventId
    rw [show a.conn.lastEventId = _ from congrArg AdapterView.lastEventId ha]
    rfl
  refine ⟨xs ++ acceptedOf (offersFrom queue.message 0 ys), ?_, ?_, ?_⟩
  · rw [hoffered.acceptedMessages_eq ha, hhandle, List.map_append]
  · intro x hx
    rcases List.mem_append.mp hx with hx | hx
    · exact hlog x hx
    · obtain ⟨o, ho, rfl⟩ := List.mem_map.mp hx
      have hmem : o.1 ∈ ys := by
        have hfst := List.mem_map_of_mem (f := Prod.fst) (List.mem_of_mem_filter ho)
        rwa [offersFrom_fst] at hfst
      exact mem_replay (hys.mem hmem)
  · rw [hlast, hoffered.position]
    refine hacc.attempt log.distinct ?_
    rw [offersFrom_fst]
    exact hys

/-- A run whose attempts each read the log keeps the account. -/
theorem Resumable.run (last : QueueAnswers) (os : List ε) :
    ∀ {start : Option CString} {accepted : List SSEEvent} {s : StopFlag}
      {conn : SSEDesktopConnection} {failures : Nat}, Resumable log start conn accepted →
      (∀ r ∈ B.readings s conn failures os,
        Written (log.after (sentLastEventId r.conn)) r.bytes) →
      Resumable log start (B.worker last s conn failures os).conn
        (accepted ++ Adapter.acceptedMessages (B.worker last s conn failures os).trace) := by
  induction os with
  | nil =>
      intro start accepted s conn failures h _
      unfold worker
      split <;> simpa [Adapter.acceptedMessages] using h
  | cons o os ih =>
      intro start accepted s conn failures h hserver
      unfold worker
      unfold readings at hserver
      split
      · simpa [Adapter.acceptedMessages] using h
      · next hraised =>
          rw [if_neg hraised] at hserver
          have hview := B.pass_view s.next conn failures o
          generalize B.pass s.next conn failures o = passed at hserver hview
          obtain ⟨a, s', failures', goesOn⟩ := passed
          cases goesOn with
          | true =>
              have hread := hserver _ List.mem_cons_self
              have hnow := h.attempt log hread hview
              have hrest := ih hnow (fun r hr => hserver r (List.mem_cons_of_mem _ hr))
              rw [List.append_assoc, ← Adapter.acceptedMessages_append] at hrest
              exact hrest
          | false =>
              have hread := hserver _ List.mem_cons_self
              have hnow := h.attempt log hread hview
              simp only
              split
              · exact hnow
              · rw [Adapter.acceptedMessages_append, enqueueClosed_messages, List.append_nil]
                exact hnow

/-- One attempt that brings the rest, with nothing refused. -/
theorem Resumable.complete {start : Option CString} {conn : SSEDesktopConnection}
    {accepted : List SSEEvent} (h : Resumable log start conn accepted) {queue : QueueAnswers}
    {bytes : Bytes} (hserver : WrittenFully (log.after (sentLastEventId conn)) bytes)
    (hanswers : ∀ n, queue.message n = true) {a : Adapter}
    (ha : a.view = ((Adapter.start conn queue).feed bytes).view) :
    ((log.after start).map (ServerEvent.queued conn.handle)).Sublist
      (accepted ++ Adapter.acceptedMessages a.trace) := by
  obtain ⟨xs, rfl, -, hacc⟩ := h
  obtain ⟨ys, -, hall, hoffered⟩ := Adapter.feed_written conn queue log hserver.written
  have hyes : ∀ o ∈ offersFrom queue.message 0 ys, o.2 = true := by
    have hfrom : ∀ (ys : List ServerEvent) (n : Nat),
        ∀ o ∈ offersFrom queue.message n ys, o.2 = true := by
      intro ys
      induction ys with
      | nil => intro n o ho; cases ho
      | cons y ys ih =>
          intro n o ho
          rcases List.mem_cons.mp ho with rfl | ho
          · exact hanswers n
          · exact ih (n + 1) o ho
    exact hfrom ys 0
  have hsub := hacc.complete
    ((offersFrom_fst queue.message ys 0).trans (hall hserver)) hyes
  rw [hoffered.acceptedMessages_eq ha, ← List.map_append]
  exact hsub.map _

/-- The account, in a run with such an attempt. -/
theorem Resumable.run_complete (last : QueueAnswers) (os : List ε) :
    ∀ {start : Option CString} {accepted : List SSEEvent} {s : StopFlag}
      {conn : SSEDesktopConnection} {failures : Nat}, Resumable log start conn accepted →
      (∀ r ∈ B.readings s conn failures os,
        Written (log.after (sentLastEventId r.conn)) r.bytes) →
      (∃ r ∈ B.readings s conn failures os,
        WrittenFully (log.after (sentLastEventId r.conn)) r.bytes ∧ ∀ n, r.answers n = true) →
      ((log.after start).map (ServerEvent.queued conn.handle)).Sublist
        (accepted ++ Adapter.acceptedMessages (B.worker last s conn failures os).trace) := by
  induction os with
  | nil =>
      intro start accepted s conn failures _ _ hfull
      obtain ⟨r, hr, -⟩ := hfull
      cases hr
  | cons o os ih =>
      intro start accepted s conn failures h hserver hfull
      unfold worker
      unfold readings at hserver hfull
      by_cases hraised : s.raised = true
      · rw [if_pos hraised] at hfull
        obtain ⟨r, hr, -⟩ := hfull
        cases hr
      · rw [if_neg hraised] at hserver hfull ⊢
        have hview := B.pass_view s.next conn failures o
        have hkept := (Adapter.feed_does conn (B.queue o) (B.body s.next conn o)).handle
        generalize B.pass s.next conn failures o = passed at hserver hfull hview
        obtain ⟨a, s', failures', goesOn⟩ := passed
        have hhandle : a.conn.handle = conn.handle :=
          (congrArg AdapterView.handle hview).trans hkept
        cases goesOn with
        | true =>
            have hread := hserver _ List.mem_cons_self
            show List.Sublist _ (accepted ++ Adapter.acceptedMessages (a.trace ++ _))
            rw [Adapter.acceptedMessages_append, ← List.append_assoc]
            obtain ⟨r, hr, hwritten, hyes⟩ := hfull
            rcases List.mem_cons.mp hr with rfl | hr
            · exact (h.complete log hwritten hyes hview).trans (List.sublist_append_left _ _)
            · have hnow := h.attempt log hread hview
              have hrest := ih hnow (fun r hr => hserver r (List.mem_cons_of_mem _ hr))
                ⟨r, hr, hwritten, hyes⟩
              rwa [hhandle] at hrest
        | false =>
            obtain ⟨r, hr, hwritten, hyes⟩ := hfull
            rw [List.mem_singleton.mp hr] at hwritten hyes
            have hnow := h.complete log hwritten hyes hview
            simp only
            split
            · exact hnow
            · rw [Adapter.acceptedMessages_append, enqueueClosed_messages, List.append_nil]
              exact hnow

variable (last : QueueAnswers) (s : StopFlag) (conn : SSEDesktopConnection) (failures : Nat)
  (os : List ε)

variable {log} in
/-- **NOTHING IS LOST BEFORE THE RESUME POSITION.**  In every attempt the server
answers with its events after the id it was sent, of which any part may arrive, and
the queue may refuse any message.  The messages that were accepted are events of
the log, and those between the worker's first id and its last are among them, in
order. -/
theorem worker_redelivers (hserver : ∀ r ∈ B.readings s conn failures os,
      Written (log.after (sentLastEventId r.conn)) r.bytes) :
    let run := B.worker last s conn failures os
    ∃ gone xs, log.after (sentLastEventId conn) = gone ++ log.after (sentLastEventId run.conn)
      ∧ gone.Sublist xs ∧ (∀ x ∈ xs, x ∈ log.events)
      ∧ Adapter.acceptedMessages run.trace = xs.map (ServerEvent.queued run.conn.handle) := by
  intro run
  have hinit : Resumable log (sentLastEventId conn) conn [] := ⟨[], rfl, by simp, .init⟩
  have hrun := hinit.run B log last os hserver
  obtain ⟨xs, haccepted, hlog, gone, hgone, hsub⟩ := hrun
  exact ⟨gone, xs, hgone, hsub, hlog, haccepted⟩

variable {log} in
/-- **NOTHING IS LOST AT ALL**, once an attempt brings all that is left and the
queue takes it. -/
theorem worker_complete (hserver : ∀ r ∈ B.readings s conn failures os,
      Written (log.after (sentLastEventId r.conn)) r.bytes)
    (hfull : ∃ r ∈ B.readings s conn failures os,
      WrittenFully (log.after (sentLastEventId r.conn)) r.bytes ∧ ∀ n, r.answers n = true) :
    ((log.after (sentLastEventId conn)).map (ServerEvent.queued conn.handle)).Sublist
      (Adapter.acceptedMessages (B.worker last s conn failures os).trace) := by
  have hinit : Resumable log (sentLastEventId conn) conn [] := ⟨[], rfl, by simp, .init⟩
  exact hinit.run_complete B log last os hserver hfull

/-! ## §5. Stopping. -/

theorem sleepRetry_looked (s : StopFlag) (remaining : Int) :
    s.Looked (sleepRetry s remaining).2 := by
  fun_induction sleepRetry s remaining with
  | case1 s remaining hpos hraised => exact .next s
  | case2 s remaining hpos hraised step rest ih => exact (StopFlag.Looked.next s).trans ih
  | case3 s remaining hneg => exact .refl s

/-- A sleep that was not cut short. -/
theorem sleepRetry_unaware (s : StopFlag) (remaining : Int)
    (h : (sleepRetry s remaining).2.raised = false) :
    sleepRetry s.never remaining
      = ((sleepRetry s remaining).1, (sleepRetry s remaining).2.never) := by
  fun_induction sleepRetry s remaining with
  | case1 s remaining hpos hraised =>
      have hnext := (StopFlag.Looked.next s).raised hraised
      rw [show s.next.raised = false from h] at hnext
      cases hnext
  | case2 s remaining hpos hraised step rest ih =>
      rw [sleepRetry, if_pos hpos, if_neg (by simp), StopFlag.never_next]
      show (step :: (sleepRetry s.next.never (remaining - step)).1,
        (sleepRetry s.next.never (remaining - step)).2) = _
      rw [ih h]
  | case3 s remaining hneg => rw [sleepRetry, if_neg hneg]

/-- A pass that was not stopped in its attempt; its sleep may have been. -/
theorem pass_unaware (s : StopFlag) (o : ε)
    (hstop : (B.performOnce s conn o).stop.raised = false) :
    ∃ a t failures' goesOn t', B.pass s conn failures o = (a, t, failures', goesOn)
      ∧ B.pass s.never conn failures o = (a, t', failures', goesOn)
      ∧ t'.raised = false ∧ (t.raised = false → t' = t.never) := by
  have hp := B.unaware s conn o hstop
  unfold pass
  rw [hp]
  generalize B.performOnce s conn o = p at hstop
  simp only [hstop, StopFlag.never_raised, Bool.false_eq_true, if_false]
  have hreport : report { p with stop := p.stop.never } failures = report p failures := rfl
  rw [hreport]
  generalize report p failures = r
  cases hreconnect : r.1.conn.reconnect with
  | true =>
      refine ⟨_, _, _, _, _, rfl, rfl, ?_, ?_⟩
      · have hsame := (sleepRetry_looked p.stop.never.next
          (computeRetryDelayMS r.1.conn.retryMs r.2 (B.clock o))).raisedAt
        unfold StopFlag.raised
        rw [hsame]
        rfl
      · intro hslept
        rw [StopFlag.never_next, sleepRetry_unaware _ _ hslept]
  | false => exact ⟨_, _, _, _, _, rfl, rfl, rfl, fun _ => rfl⟩

variable {B} in
/-- A worker that finds the flag raised is done. -/
theorem worker_raised {s : StopFlag} (hs : s.raised = true) (os : List ε) :
    B.worker last s conn failures os = ⟨[], conn, s.next.next, true⟩ := by
  cases os with
  | nil => rw [worker, if_pos hs]
  | cons o os => rw [worker, if_pos hs]

/-- What the worker pushes begins with what its attempt pushes. -/
theorem pushes_worker_cons {s : StopFlag} (hs : s.raised = false) (o : ε) :
    ∃ more, Adapter.pushes (B.worker last s conn failures (o :: os)).trace
      = Adapter.pushes (B.performOnce s.next conn o).adapter.trace ++ more := by
  have hpassed := B.pass_passed s.next conn failures o
  rw [worker, if_neg (by simp [hs])]
  generalize B.pass s.next conn failures o = passed at hpassed ⊢
  have hreport := report_trace (B.performOnce s.next conn o) failures
  obtain ⟨errors, htrace, -⟩ := hreport
  cases hpassed with
  | stopped hstop =>
      have hraised := (StopFlag.Looked.next (B.performOnce s.next conn o).stop).raised hstop
      simp only
      rw [if_pos hraised]
      exact ⟨_, Adapter.pushes_append _ _⟩
  | goesOn _ _ =>
      simp only [WorkerRun.after]
      rw [htrace, List.append_assoc, Adapter.pushes_append]
      exact ⟨_, rfl⟩
  | returns _ _ =>
      simp only
      split
      · simp only
        rw [htrace, Adapter.pushes_append]
        exact ⟨_, rfl⟩
      · simp only
        rw [htrace, List.append_assoc, Adapter.pushes_append]
        exact ⟨_, rfl⟩

/-- **A STOP ADDS NOTHING.**  What a worker that is stopped pushes, at whatever
moment, is a first part of what it would have pushed: no error, and no CLOSED,
comes of the stop itself. -/
theorem worker_stop :
    Adapter.pushes (B.worker last s conn failures os).trace
      <+: Adapter.pushes (B.worker last s.never conn failures os).trace := by
  induction os generalizing s conn failures with
  | nil =>
      unfold worker
      split <;> exact List.nil_prefix
  | cons o os ih =>
      cases hraised : s.raised with
      | true =>
          rw [worker_raised last conn failures hraised]
          exact List.nil_prefix
      | false =>
          have hcut := B.cut s.next conn o
          have hlooked := B.looked s.next conn o
          have hunaware := B.unaware s.next conn o
          obtain ⟨more, hmore⟩ := B.pushes_worker_cons last conn failures os
            (StopFlag.never_raised s) o
          have hpassed := B.pass_passed s.next conn failures o
          cases hstop : (B.performOnce s.next conn o).stop.raised with
          | true =>
              -- the attempt was stopped: nothing follows it
              rw [hmore, worker, if_neg (by simp [hraised])]
              generalize B.pass s.next conn failures o = passed at hpassed ⊢
              cases hpassed with
              | stopped _ =>
                  have hstill := (StopFlag.Looked.next (B.performOnce s.next conn o).stop).raised
                    hstop
                  simp only
                  rw [if_pos hstill]
                  obtain ⟨rest, hrest⟩ := hcut
                  refine List.IsPrefix.trans ?_ (List.prefix_append _ more)
                  rw [StopFlag.never_next, ← hrest, Adapter.pushes_append]
                  simp [Adapter.setConnected, Adapter.pushes]
              | goesOn hno _ => rw [hstop] at hno; cases hno
              | returns hno _ => rw [hstop] at hno; cases hno
          | false =>
              obtain ⟨a, t, failures', goesOn, t', hpass, hnever, ht', hsame⟩ :=
                B.pass_unaware conn failures s.next o hstop
              rw [worker, if_neg (by simp [hraised]), worker, if_neg (by simp),
                StopFlag.never_next, hpass, hnever]
              cases goesOn with
              | true =>
                  simp only [WorkerRun.after, Adapter.pushes_append]
                  rw [List.prefix_append_right_inj]
                  cases ht : t.raised with
                  | true =>
                      rw [worker_raised last a.conn failures' ht]
                      exact List.nil_prefix
                  | false =>
                      rw [hsame ht]
                      exact ih t a.conn failures'
              | false =>
                  simp only [ht', Bool.false_eq_true, if_false]
                  split
                  · rw [Adapter.pushes_append]
                    exact List.prefix_append _ _
                  · exact List.prefix_rfl

/-! ## §6. The last push. -/

/-- How a run ends: with CLOSED, or without one because it goes on or was
stopped. -/
inductive Ending (run : WorkerRun) : Prop where
  | closed (before : List (SSEEvent × Bool)) (ok : Bool)
      (hpushes : Adapter.pushes run.trace = before ++ [(closedEvent run.conn.handle, ok)])
      (hbefore : ∀ e ∈ before, e.1.type ≠ .eventClosed) (hexited : run.exited = true)
      (hreconnect : run.conn.reconnect = false)
      -- the last look found the flag down
      (hlook : ∀ k ∈ run.stop.raisedAt, run.stop.looks ≤ k)
  | unclosed (hpushes : Adapter.Unclosed run.trace)
      -- one that returned found the flag up with its last look
      (hexited : run.exited = true → ∃ k ∈ run.stop.raisedAt, k < run.stop.looks)

/-- An attempt and its report push no CLOSED. -/
theorem report_unclosed (s : StopFlag) (conn : SSEDesktopConnection) (o : ε) (failures : Nat) :
    Adapter.Unclosed (report (B.performOnce s conn o) failures).1.trace := by
  obtain ⟨errors, htrace, herrors⟩ := report_trace (B.performOnce s conn o) failures
  rw [htrace]
  refine (B.unclosed s conn o).append ?_
  intro e he
  obtain ⟨x, hx, hpush⟩ := List.mem_filterMap.mp he
  rcases List.mem_cons.mp hx with rfl | hx
  · cases hpush
  · obtain ⟨event, ok, rfl, htype⟩ := herrors x hx
    cases hpush
    rw [htype]
    decide

/-- What was done before a run does not change how it ends. -/
theorem Ending.after {run : WorkerRun} (h : Ending run) {trace : List Effect}
    (htrace : Adapter.Unclosed trace) : Ending (run.after trace) := by
  cases h with
  | closed before ok hpushes hbefore hexited hreconnect hlook =>
      refine .closed (Adapter.pushes trace ++ before) ok ?_ ?_ hexited hreconnect hlook
      · show Adapter.pushes (trace ++ run.trace) = _
        rw [Adapter.pushes_append, hpushes, List.append_assoc]
        rfl
      · intro e he
        rcases List.mem_append.mp he with he | he
        · exact htrace e he
        · exact hbefore e he
  | unclosed hpushes hexited => exact .unclosed (htrace.append hpushes) hexited

/-- A flag that was found raised was raised before the next look. -/
theorem raised_before {s : StopFlag} (h : s.raised = true) {looks : Nat} (hlater : s.looks < looks) :
    ∃ k ∈ s.raisedAt, k < looks := by
  unfold StopFlag.raised at h
  cases hk : s.raisedAt with
  | none =>
      rw [hk] at h
      cases h
  | some k =>
      rw [hk] at h
      exact ⟨k, rfl, Nat.lt_of_le_of_lt (of_decide_eq_true h) hlater⟩

/-- **CLOSED IS THE LAST PUSH** of a worker that returned without having been
stopped, which only one that does not reconnect does; no other worker pushes it. -/
theorem worker_closed : Ending (B.worker last s conn failures os) := by
  induction os generalizing s conn failures with
  | nil =>
      unfold worker
      split
      · next hraised =>
          have hlater : s.looks < s.next.next.looks := Nat.lt_add_of_pos_right Nat.two_pos
          exact .unclosed Adapter.unclosed_nil (fun _ => raised_before hraised hlater)
      · exact .unclosed Adapter.unclosed_nil (fun h => by cases h)
  | cons o os ih =>
      cases hraised : s.raised with
      | true =>
          rw [worker_raised last conn failures hraised]
          have hlater : s.looks < s.next.next.looks := Nat.lt_add_of_pos_right Nat.two_pos
          exact .unclosed Adapter.unclosed_nil (fun _ => raised_before hraised hlater)
      | false =>
          have hpassed := B.pass_passed s.next conn failures o
          have hreported := B.report_unclosed s.next conn o failures
          have hattempt := B.unclosed s.next conn o
          rw [worker, if_neg (by simp [hraised])]
          generalize B.pass s.next conn failures o = passed at hpassed ⊢
          generalize B.performOnce s.next conn o = p at hpassed hreported hattempt
          cases hpassed with
          | stopped hstop =>
              have hstill := (StopFlag.Looked.next p.stop).raised hstop
              simp only
              rw [if_pos hstill]
              have hlater : p.stop.looks < p.stop.next.next.looks :=
                Nat.lt_add_of_pos_right Nat.two_pos
              exact .unclosed (hattempt.snoc (fun event ok h => by cases h))
                (fun _ => raised_before hstop hlater)
          | goesOn _ _ => exact (ih _ _ _).after hreported
          | returns hstop hreconnect =>
              simp only
              split
              · next hstill =>
                  exact .unclosed hreported
                    (fun _ => raised_before hstill (Nat.lt_succ_self p.stop.next.looks))
              · next hdown =>
                  let a := (report p failures).1
                  have hlast : ∃ ok,
                      Adapter.pushes (Adapter.enqueueClosed ⟨a.conn, last, []⟩).trace
                        = [(closedEvent a.conn.handle, ok)] := ⟨_, rfl⟩
                  obtain ⟨ok, hlast⟩ := hlast
                  refine .closed (Adapter.pushes a.trace) ok ?_ hreported rfl hreconnect ?_
                  · rw [Adapter.pushes_append, hlast]
                  · intro k hk
                    -- the look before this one is the last
                    have hnot : ¬k ≤ p.stop.next.looks := by
                      intro hle
                      apply hdown
                      unfold StopFlag.raised
                      rw [show p.stop.next.raisedAt = some k from hk]
                      exact decide_eq_true hle
                    show p.stop.next.looks + 1 ≤ k
                    omega

end DesktopBackend

end DefoldSSE
