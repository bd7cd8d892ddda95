/-
  DefoldSSE.Desktop.WinHttpRun — what WinHTTP's workers do, run by run.

  Unlike libcurl, WinHTTP gives the body only after the response was accepted, so
  its calls into the core keep a protocol.  `StreamPhase` is that protocol, for one
  connection, as an automaton.

  Main results:
    • `winHttpReadStream_all` — whatever sizes the body is announced and read in, the
      parser gets all of it, each byte once, up to the end or the first call that
      fails, and no subtraction wraps, unless the worker is stopped;
    • `winHttp_protocol` — every run of the worker keeps the protocol.
-/
import Mathlib.Data.List.Forall2
import DefoldSSE.Desktop.WinHttp
import DefoldSSE.Lib.Machine

namespace DefoldSSE

open CLib

/-! ## §1. The body in pieces. -/

/-- The reads of an announcement of `available` bytes that give `bytes`. -/
inductive ReadsOf : UInt32 → List ReadAnswer → Bytes → Prop where
  | done : ReadsOf 0 [] []
  | read {available : UInt32} {piece : Bytes} {answers : List ReadAnswer} {bytes : Bytes}
      (hsome : piece ≠ []) (hfits : piece.length ≤ chunkSize available)
      (hrest : ReadsOf (available - UInt32.ofNat piece.length) answers bytes) :
      ReadsOf available (.data piece :: answers) (piece ++ bytes)

/-- An answer that gives `bytes`. -/
inductive Gives : QueryAnswer → Bytes → Prop where
  | served {available : UInt32} {answers : List ReadAnswer} {bytes : Bytes}
      (hsome : available ≠ 0) (hserved : ReadsOf available answers bytes) :
      Gives (.available available answers) bytes

/-- No piece is longer than what is available. -/
theorem chunkSize_le (available : UInt32) : chunkSize available ≤ available.toNat := by
  unfold chunkSize
  split
  · next h => exact Nat.le_of_lt (UInt32.lt_iff_toNat_lt.mp h)
  · exact Nat.le_refl _

/-- Taking away no more than there is, as numbers. -/
theorem sub_toNat {available : UInt32} {read : Nat} (h : read ≤ available.toNat) :
    (available - UInt32.ofNat read).toNat = available.toNat - read := by
  have hlt := available.toNat_lt
  have hread : (UInt32.ofNat read).toNat = read :=
    UInt32.toNat_ofNat_of_lt' (by show read < 2 ^ 32; omega)
  rw [UInt32.toNat_sub_of_le _ _ (UInt32.le_iff_toNat_le.mpr (by omega)), hread]

/-- No `available -= read` of the inner loop wraps, whatever is answered. -/
def Unwrapped (available : UInt32) : List ReadAnswer → Prop
  | .data bytes :: answers =>
      let read := bytes.take (chunkSize available)
      (available - UInt32.ofNat read.length).toNat + read.length = available.toNat
        ∧ Unwrapped (available - UInt32.ofNat read.length) answers
  | _ => True

theorem unwrapped (answers : List ReadAnswer) :
    ∀ available : UInt32, Unwrapped available answers := by
  induction answers with
  | nil => exact fun _ => trivial
  | cons answer answers ih =>
      intro available
      cases answer with
      | failed e => trivial
      | data bytes =>
          have hle : (bytes.take (chunkSize available)).length ≤ available.toNat :=
            (List.length_take_le _ _).trans (chunkSize_le available)
          refine ⟨?_, ih _⟩
          rw [sub_toNat hle]
          omega

/-- What is announced is what is given. -/
theorem ReadsOf.length_eq {available : UInt32} {answers : List ReadAnswer} {bytes : Bytes}
    (h : ReadsOf available answers bytes) : bytes.length = available.toNat := by
  induction h with
  | done => rfl
  | @read available piece answers bytes hsome hfits hrest ih =>
      have hle := hfits.trans (chunkSize_le available)
      rw [List.length_append, ih, sub_toNat hle]
      omega

/-- An answer gave as many bytes as it announced, and no subtraction wrapped. -/
inductive Announced : QueryAnswer → Bytes → Prop where
  | given {available : UInt32} {answers : List ReadAnswer} {bytes : Bytes}
      (hlength : bytes.length = available.toNat) (hunwrapped : Unwrapped available answers) :
      Announced (.available available answers) bytes

theorem Gives.announced {answer : QueryAnswer} {bytes : Bytes} (h : Gives answer bytes) :
    Announced answer bytes := by
  cases h with
  | served _ hserved => exact .given hserved.length_eq (unwrapped _ _)

/-- From `t` to `t'` these bytes were read, and the flag was looked at. -/
structure Fed (bytes : Bytes) (t t' : WinHttpRead) : Prop where
  adapter : t'.adapter = t.adapter.feed bytes
  fed : t'.fed = t.fed ++ bytes
  stop : t'.stop.raisedAt = t.stop.raisedAt

theorem Fed.look (t : WinHttpRead) : Fed [] t t.look := ⟨rfl, (List.append_nil _).symm, rfl⟩

theorem Fed.trans {x y : Bytes} {t t' t'' : WinHttpRead} (h : Fed x t t') (h' : Fed y t' t'') :
    Fed (x ++ y) t t'' where
  adapter := by rw [h'.adapter, h.adapter, Adapter.feed_feed]
  fed := by rw [h'.fed, h.fed, List.append_assoc]
  stop := h'.stop.trans h.stop

/-- The inner loop reads what was announced, in whatever pieces. -/
theorem readAvailable_all {available : UInt32} {answers : List ReadAnswer} {bytes : Bytes}
    (h : ReadsOf available answers bytes) : ∀ (t : WinHttpRead), t.stop.raisedAt = none →
      ∃ t', readAvailable t available answers = (none, t') ∧ Fed bytes t t' := by
  induction h with
  | done => exact fun t _ => ⟨t, rfl, ⟨rfl, (List.append_nil _).symm, rfl⟩⟩
  | @read available piece answers bytes hsome hfits hrest ih =>
      intro t hstop
      have hzero : available ≠ 0 := by
        rintro rfl
        exact hsome (List.length_eq_zero_iff.mp (Nat.le_zero.mp hfits))
      obtain ⟨t', hread, hfed⟩ := ih (t.look.feed piece) hstop
      refine ⟨t', ?_, ?_⟩
      · unfold readAvailable
        rw [if_neg hzero, if_neg (by rw [raised_of_never hstop]; decide)]
        simp only [List.take_of_length_le hfits, if_neg hsome]
        exact hread
      · have hpiece : Fed piece t (t.look.feed piece) := ⟨rfl, rfl, rfl⟩
        exact hpiece.trans hfed

/-- Announcement after announcement. -/
theorem winHttpReadStream_fed_all {answers : List QueryAnswer} {pieces : List Bytes}
    (h : List.Forall₂ Gives answers pieces) (rest : List QueryAnswer) : ∀ (t : WinHttpRead),
      t.stop.raisedAt = none →
      ∃ t', winHttpReadStream t (answers ++ rest) = winHttpReadStream t' rest
        ∧ t'.adapter = t.adapter.feed pieces.flatten ∧ t'.stop.raisedAt = none := by
  induction h with
  | nil => exact fun t hstop => ⟨t, rfl, rfl, hstop⟩
  | @cons answer piece answers pieces hgives hrest ih =>
      intro t hstop
      cases hgives with
      | @served available reads bytes hsome hserved =>
          obtain ⟨t₁, hread, hfed⟩ := readAvailable_all hserved t.look hstop
          obtain ⟨t', hrun, hadapter, hstop'⟩ := ih t₁ (hfed.stop.trans hstop)
          refine ⟨t', ?_, ?_, hstop'⟩
          · rw [List.cons_append]
            conv_lhs => unfold winHttpReadStream
            rw [if_neg (by rw [raised_of_never hstop]; decide)]
            simp only [if_neg hsome, hread]
            exact hrun
          · rw [hadapter, hfed.adapter, Adapter.feed_feed]
            rfl

/-- **THE SIZES DO NOT MATTER.**  With no stop, what WinHTTP announces and gives is
fed to the parser, all of it and in order, before the rest of the answers is
looked at: an end of the body, or a call that fails.  It is as much as was announced,
and `available -= read` does not wrap. -/
theorem winHttpReadStream_all {answers : List QueryAnswer} {pieces : List Bytes}
    (h : List.Forall₂ Gives answers pieces) (rest : List QueryAnswer) (t : WinHttpRead)
    (hstop : t.stop.raisedAt = none) :
    List.Forall₂ Announced answers pieces
      ∧ ∃ t', winHttpReadStream t (answers ++ rest) = winHttpReadStream t' rest
        ∧ t'.adapter = t.adapter.feed pieces.flatten ∧ t'.stop.raisedAt = none :=
  ⟨h.imp fun _ _ => Gives.announced, winHttpReadStream_fed_all h rest t hstop⟩

/-- Five bytes, announced as three and two and read as one, two and two, and then a
read that fails. -/
theorem winHttpReadStream_all_five :
    let t : WinHttpRead := ⟨.start {} ⟨fun _ => true, fun _ => true⟩, {}, []⟩
    let answers : List QueryAnswer :=
      [.available 3 [.data (ascii "d"), .data (ascii "at")], .available 2 [.data (ascii "a:")]]
    let rest : List QueryAnswer := [.failed ⟨12002, .lit "timeout\r\n"⟩]
    List.Forall₂ Announced answers [ascii "dat", ascii "a:"]
      ∧ ∃ t', winHttpReadStream t (answers ++ rest) = winHttpReadStream t' rest
        ∧ t'.adapter = t.adapter.feed (ascii "data:") ∧ t'.stop.raisedAt = none := by
  intro t answers rest
  have hgives : List.Forall₂ Gives answers [ascii "dat", ascii "a:"] :=
    .cons (.served (by decide) (.read (by decide) (by decide)
        (.read (by decide) (by decide) .done)))
      (.cons (.served (by decide) (.read (by decide) (by decide) .done)) .nil)
  exact winHttpReadStream_all hgives rest t rfl

/-! ## §2. The protocol. -/

/-- Where a connection is, as the core is told. -/
inductive StreamPhase where
  | offline
  /-- `SSE_SetConnected(true)` was called, the OPEN is to follow. -/
  | opening
  | online
  /-- The parser has reported an error, which is to be passed on. -/
  | failing
  /-- `SSE_SetConnected(false)` was just called. -/
  | disconnected
  | closed
  deriving DecidableEq, Repr

namespace StreamPhase

/-- What may be called next, all of it for one handle. -/
def next (handle : Int) : StreamPhase → Effect → Option StreamPhase
  | .offline, .setConnected h connected =>
      if h = handle then some (if connected then .opening else .disconnected) else none
  | .disconnected, .setConnected h connected =>
      if h = handle then some (if connected then .opening else .disconnected) else none
  -- the worker's own error, and its CLOSED
  | .disconnected, .push e _ =>
      if e.handle = handle then
        match e.type with
        | .eventError => some .offline
        | .eventClosed => some .closed
        | _ => none
      else none
  | .opening, .push e _ =>
      if e.handle = handle ∧ e.type = .eventOpen ∧ accepted e.status then some .online else none
  | .online, .call (.error _) => some .failing
  | .online, .call _ => some .online
  | .online, .storeLastEventId _ => some .online
  | .online, .setLastEventId h _ => if h = handle then some .online else none
  | .online, .push e _ =>
      if e.handle = handle ∧ e.type = .eventMessage then some .online else none
  | .online, .setConnected h connected =>
      if h = handle ∧ connected = false then some .disconnected else none
  | .failing, .push e _ =>
      if e.handle = handle ∧ e.type = .eventError then some .online else none
  | _, _ => none

/-- No attempt is going on. -/
def resting : StreamPhase → Bool
  | .offline => true
  | .disconnected => true
  | _ => false

theorem online_push {handle : Int} {e : SSEEvent} (hhandle : e.handle = handle)
    (htype : e.type = .eventMessage) (ok : Bool) :
    next handle .online (.push e ok) = some .online :=
  if_pos ⟨hhandle, htype⟩

theorem failing_push {handle : Int} {e : SSEEvent} (hhandle : e.handle = handle)
    (htype : e.type = .eventError) (ok : Bool) :
    next handle .failing (.push e ok) = some .online :=
  if_pos ⟨hhandle, htype⟩

theorem online_id {handle h : Int} (hhandle : h = handle) (id : CString) :
    next handle .online (.setLastEventId h id) = some .online :=
  if_pos hhandle

/-- What is allowed off the line is allowed after a disconnection. -/
theorem walk_resting {handle : Int} {trace : List Effect} {phase start : StreamPhase}
    (h : walk (next handle) .offline trace = some phase) (hstart : start.resting = true) :
    ∃ phase', walk (next handle) start trace = some phase'
      ∧ (phase' = phase ∨ phase'.resting = true ∧ phase.resting = true) := by
  cases trace with
  | nil =>
      cases h
      exact ⟨start, rfl, .inr ⟨hstart, rfl⟩⟩
  | cons e trace =>
      refine ⟨phase, ?_, .inl rfl⟩
      cases start with
      | offline => exact h
      | disconnected =>
          cases e with
          | setConnected => exact h
          | _ => cases h
      | _ => cases hstart

end StreamPhase

namespace Adapter

/-- What a stream adds is allowed while online. -/
theorem feed_online {handle : Int} {a : Adapter} (hhandle : a.conn.handle = handle)
    (h : walk (StreamPhase.next handle) .offline a.trace = some .online) (bytes : Bytes) :
    (a.feed bytes).conn.handle = handle
      ∧ walk (StreamPhase.next handle) .offline (a.feed bytes).trace = some .online := by
  have hstep : ∀ {t : List Effect} {x : Effect},
      walk (StreamPhase.next handle) .offline t = some .online →
      StreamPhase.next handle .online x = some .online →
      walk (StreamPhase.next handle) .offline (t ++ [x]) = some .online := by
    intro t x ht hx
    refine walk_trans ht ?_
    rw [walk_cons, hx]
    rfl
  have hkeeps : SSEParser.Preserves callbacks (fun a => a.conn.handle = handle
      ∧ walk (StreamPhase.next handle) .offline a.trace = some .online) := {
    onEvent := fun a event ⟨hhandle, h⟩ => by
      have hcall : callbacks.callOnEvent a event = a.onParserEvent event := rfl
      rw [hcall, onParserEvent_eq]
      generalize a.queue.message (messagePushes a.trace).length = ok
      have hpushed : walk (StreamPhase.next handle) .offline (a.pushed event ok).trace
          = some .online :=
        hstep (hstep h rfl) (StreamPhase.online_push hhandle rfl ok)
      show (((a.pushed event ok).commitOffered
          (if ok then event.lastEventId else none)).conn.handle = handle
        ∧ walk (StreamPhase.next handle) .offline ((a.pushed event ok).commitOffered
          (if ok then event.lastEventId else none)).trace = some .online)
      cases (if ok then event.lastEventId else none) with
      | none => exact ⟨hhandle, hpushed⟩
      | some id =>
          exact ⟨hhandle, hstep (hstep hpushed rfl) (StreamPhase.online_id hhandle _)⟩
    onRetry := fun a ms ⟨hhandle, h⟩ => ⟨hhandle, hstep h rfl⟩
    onId := fun a id ⟨hhandle, h⟩ =>
      ⟨hhandle, hstep (hstep (hstep h rfl) rfl) (StreamPhase.online_id hhandle _)⟩
    onError := fun a message ⟨hhandle, h⟩ => by
      -- the call and its push belong together
      have hfailing : walk (StreamPhase.next handle) .offline
          (a.log (.call (.error message))).trace = some .failing := by
        refine walk_trans h ?_
        rw [walk_cons]
        rfl
      refine ⟨hhandle, walk_trans hfailing ?_⟩
      rw [walk_cons, StreamPhase.failing_push hhandle rfl]
      rfl }
  exact SSEParser.feed_preserves hkeeps bytes a.conn.parser ⟨hhandle, h⟩

end Adapter

/-- The CLOSED of a worker that rests. -/
theorem Adapter.enqueueClosed_walk (conn : SSEDesktopConnection) (last : QueueAnswers)
    {phase : StreamPhase} (h : phase.resting = true) :
    walk (StreamPhase.next conn.handle) phase (Adapter.enqueueClosed ⟨conn, last, []⟩).trace
      = some .closed := by
  have hclosed : walk (StreamPhase.next conn.handle) .offline
      (Adapter.enqueueClosed ⟨conn, last, []⟩).trace = some .closed := by
    simp [Adapter.enqueueClosed, Adapter.setConnected, Adapter.queuePush, walk_cons,
      StreamPhase.next, closedEvent]
  obtain ⟨phase', hwalk, rfl | ⟨-, hresting⟩⟩ := StreamPhase.walk_resting hclosed h
  · exact hwalk
  · cases hresting

/-- An attempt that keeps the protocol, and ends on the line or off it. -/
def KeepsPhases (handle : Int) (trace : List Effect) : Prop :=
  ∃ phase, walk (StreamPhase.next handle) .offline trace = some phase
    ∧ (phase = .offline ∨ phase = .online)

/-- Either way `SSE_SetConnected(false)` is allowed. -/
theorem KeepsPhases.disconnected {handle : Int} {trace : List Effect}
    (h : KeepsPhases handle trace) :
    walk (StreamPhase.next handle) .offline (trace ++ [.setConnected handle false])
      = some .disconnected := by
  obtain ⟨phase, hwalk, hphase⟩ := h
  refine walk_trans hwalk ?_
  rcases hphase with rfl | rfl
  · simp [walk_cons, StreamPhase.next]
  · simp [walk_cons, StreamPhase.next]

namespace DesktopBackend

variable {ε : Type} {B : DesktopBackend ε}

/-- An attempt and what is said about it afterwards. -/
theorem report_keepsPhases {s : StopFlag} {conn : SSEDesktopConnection} {o : ε} (failures : Nat)
    (h : KeepsPhases conn.handle (B.performOnce s conn o).adapter.trace)
    (hhandle : (B.performOnce s conn o).adapter.conn.handle = conn.handle) :
    ∃ phase, walk (StreamPhase.next conn.handle) .offline
        (report (B.performOnce s conn o) failures).1.trace = some phase
      ∧ phase.resting = true := by
  generalize B.performOnce s conn o = p at h hhandle ⊢
  have hoff := h.disconnected
  rw [← hhandle] at hoff ⊢
  unfold report
  cases p.error with
  | none => exact ⟨.disconnected, hoff, rfl⟩
  | some error =>
      refine ⟨.offline, walk_trans hoff ?_, rfl⟩
      rw [walk_cons]
      simp [StreamPhase.next, errorEvent, Adapter.setConnected]

/-- A worker whose attempts keep the protocol keeps it, and rests between them or is
closed. -/
theorem worker_keepsPhases (h : ∀ (s : StopFlag) (conn : SSEDesktopConnection) (o : ε),
      KeepsPhases conn.handle (B.performOnce s conn o).adapter.trace)
    (last : QueueAnswers) (s : StopFlag) (conn : SSEDesktopConnection) (failures : Nat)
    (os : List ε) : ∃ phase, walk (StreamPhase.next conn.handle) .offline
        (B.worker last s conn failures os).trace = some phase
      ∧ (phase.resting = true
        ∨ phase = .closed ∧ (B.worker last s conn failures os).exited = true) := by
  induction os generalizing s conn failures with
  | nil =>
      unfold worker
      split <;> exact ⟨.offline, rfl, .inl rfl⟩
  | cons o os ih =>
      unfold worker
      split
      · exact ⟨.offline, rfl, .inl rfl⟩
      · have hpassed := B.pass_passed s.next conn failures o
        have hhandle : (B.performOnce s.next conn o).adapter.conn.handle = conn.handle := by
          have hview := congrArg AdapterView.handle (B.reads s.next conn o)
          have hkept := (Adapter.feed_does conn (B.queue o) (B.body s.next conn o)).handle
          exact hview.trans hkept
        have horderly := h s.next conn o
        have hreport := report_keepsPhases failures horderly hhandle
        have hsame : (report (B.performOnce s.next conn o) failures).1.conn.handle = conn.handle :=
          (congrArg AdapterView.handle (report_view _ _)).trans hhandle
        generalize B.pass s.next conn failures o = passed at hpassed ⊢
        generalize B.performOnce s.next conn o = p at hpassed hhandle horderly hreport hsame
        cases hpassed with
        | stopped hstop =>
            have hstill := (StopFlag.Looked.next p.stop).raised hstop
            simp only [hstill, if_true]
            have hoff := horderly.disconnected
            rw [← hhandle] at hoff ⊢
            exact ⟨.disconnected, hoff, .inl rfl⟩
        | goesOn _ _ =>
            obtain ⟨phase, hwalk, hphase⟩ := ih (sleepRetry p.stop.next (computeRetryDelayMS
                (report p failures).1.conn.retryMs (report p failures).2 (B.clock o))).2
              (report p failures).1.conn (report p failures).2
            rw [hsame] at hwalk
            obtain ⟨rests, hreported, hrests⟩ := hreport
            obtain ⟨phase', hwalk', hsame'⟩ := StreamPhase.walk_resting hwalk hrests
            refine ⟨phase', walk_trans hreported hwalk', ?_⟩
            rcases hsame' with rfl | ⟨hresting, -⟩
            · exact hphase
            · exact .inl hresting
        | returns _ _ =>
            obtain ⟨rests, hreported, hrests⟩ := hreport
            simp only
            split
            · exact ⟨rests, hreported, .inl hrests⟩
            · refine ⟨.closed, walk_trans hreported ?_, .inr ⟨rfl, rfl⟩⟩
              rw [← hsame]
              exact Adapter.enqueueClosed_walk _ last hrests

end DesktopBackend

/-- An attempt of WinHTTP. -/
theorem WinHttpAttempt.performOnce_keepsPhases (s : StopFlag) (conn : SSEDesktopConnection)
    (o : WinHttpAttempt) : KeepsPhases conn.handle (performOnce s conn o).adapter.trace := by
  have hwent := performOnce_went s conn o
  generalize performOnce s conn o = p at hwent ⊢
  generalize body s conn o = body at hwent
  cases hwent with
  | unparsed error hurl => exact ⟨.offline, rfl, .inl rfl⟩
  | unanswered url error s' hurl hsent => exact ⟨.offline, rfl, .inl rfl⟩
  | refused url s' hurl hsent hstatus =>
      rw [responded_trace]
      exact ⟨.offline, rfl, .inl rfl⟩
  | streamed url s' hurl hsent hstatus =>
      rw [streamed_adapter]
      have hhandle : (responded conn o).conn.handle = conn.handle :=
        congrArg AdapterView.handle (responded_view conn o).2
      obtain ⟨ok, htrace⟩ := (responded conn o).openConnection_trace
      have hopened : walk (StreamPhase.next conn.handle) .offline
          (responded conn o).openConnection.trace = some .online := by
        rw [htrace, responded_trace]
        simp [walk_cons, StreamPhase.next, openEvent, hhandle, hstatus]
      have hkept : (responded conn o).openConnection.conn.handle = conn.handle := hhandle
      exact ⟨.online, (Adapter.feed_online hkept hopened _).2, .inr rfl⟩

/-- **THE PROTOCOL IS KEPT** in every run of WinHTTP's worker, stopped or not: an
OPEN comes only of an accepted status, right after the connection was set
connected; messages come only between it and the disconnection, and so do the errors
of the parser, each right after its call; an error of the worker comes right after
the disconnection, and so does CLOSED, which nothing follows. -/
theorem winHttp_protocol (last : QueueAnswers) (s : StopFlag) (conn : SSEDesktopConnection)
    (failures : Nat) (os : List WinHttpAttempt) :
    ∃ phase, walk (StreamPhase.next conn.handle) .offline
        (winHttp.worker last s conn failures os).trace = some phase
      ∧ (phase.resting = true
        ∨ phase = .closed ∧ (winHttp.worker last s conn failures os).exited = true) :=
  DesktopBackend.worker_keepsPhases WinHttpAttempt.performOnce_keepsPhases last s conn failures os

end DefoldSSE
