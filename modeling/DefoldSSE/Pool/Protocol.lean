/-
  DefoldSSE.Pool.Protocol — what the pool's worker calls in the core, run by run.

  `SSEDM_ReadResponse` opens the connection when it has accepted the headers, and
  feeds the parser only from then on.  So its calls keep the protocol of
  `Desktop/WinHttpRun.lean`, which those of libcurl do not.

  Main result:
    • `poolWorker_protocol` — every run of the worker keeps the protocol.
-/
import DefoldSSE.Desktop.WinHttpRun
import DefoldSSE.Pool.Redelivery

namespace DefoldSSE

open CLib

/-! ## §1. A response. -/

/-- The adapter speaks for `handle`, and is on the line or off it. -/
structure InPhase (handle : Int) (online : Bool) (a : Adapter) : Prop where
  speaks : a.conn.handle = handle
  phase : walk (StreamPhase.next handle) .offline a.trace
    = some (if online then .online else .offline)

/-- The adapter speaks for `handle`, and no attempt is going on. -/
structure Rests (handle : Int) (a : Adapter) : Prop where
  speaks : a.conn.handle = handle
  phase : ∃ phase, walk (StreamPhase.next handle) .offline a.trace = some phase
    ∧ phase.resting = true

/-- A pass that goes on is on the line exactly if the headers were accepted. -/
def PassKeeps (handle : Int) : Pass × Adapter → Prop
  | (.goesOn r, a) => InPhase handle r.headersDone a
  | (.returns _, a) => ∃ online, InPhase handle online a

variable {handle : Int} {a : Adapter}

theorem InPhase.keepsPhases {online : Bool} (h : InPhase handle online a) :
    KeepsPhases handle a.trace := by
  refine ⟨_, h.phase, ?_⟩
  cases online with
  | false => exact .inl rfl
  | true => exact .inr rfl

/-- Bytes on the line. -/
theorem InPhase.feed (h : InPhase handle true a) (bytes : Bytes) :
    InPhase handle true (a.feed bytes) := by
  obtain ⟨hhandle, hphase⟩ := Adapter.feed_online h.speaks h.phase bytes
  exact ⟨hhandle, hphase⟩

/-- The connection is opened. -/
theorem InPhase.opened (h : InPhase handle false a) {status : Int} (haccepted : accepted status) :
    InPhase handle true (a.setStatus status).openConnection where
  speaks := h.speaks
  phase := by
    obtain ⟨ok, htrace⟩ := (a.setStatus status).openConnection_trace
    rw [htrace]
    refine walk_trans h.phase ?_
    have hhandle : (a.setStatus status).conn.handle = handle := h.speaks
    have hstatus : accepted (a.setStatus status).conn.status := haccepted
    simp [walk_cons, StreamPhase.next, openEvent, hhandle, hstatus]

theorem onBody_keeps {r : Reader} (hdone : r.headersDone = true) (h : InPhase handle true a)
    (body : Bytes) : PassKeeps handle (onBody r a body) := by
  have hfed := feedBody_fed a r body
  have hfeed := h.feed (bodyFed r body)
  unfold onBody
  generalize feedBody a r.chunked r.decoder body = fed at hfed ⊢
  obtain ⟨error, decoder, b⟩ := fed
  cases hfed
  cases error with
  | some error => exact ⟨true, hfeed⟩
  | none =>
      simp only
      split
      · exact ⟨true, hfeed⟩
      · have hgoes : InPhase handle r.headersDone (a.feed (bodyFed r body)) := by
          rw [hdone]
          exact hfeed
        exact hgoes

theorem onHeaders_keeps (h : InPhase handle false a) (headers body : Bytes) :
    PassKeeps handle (onHeaders a headers body) := by
  unfold onHeaders
  cases parseResponseHeaders headers with
  | none => exact ⟨false, h.speaks, h.phase⟩
  | some parsed =>
      obtain ⟨status, chunked⟩ := parsed
      simp only
      by_cases hstatus : status < 200 ∨ status ≥ 300
      · rw [if_pos hstatus]
        exact ⟨false, h.speaks, h.phase⟩
      · rw [if_neg hstatus]
        have haccepted : accepted status := ⟨by omega, by omega⟩
        have hopened := h.opened haccepted
        split
        · exact hopened
        · exact onBody_keeps rfl hopened body

/-- **A pass keeps the protocol.** -/
theorem onData_keeps {r : Reader} (h : InPhase handle r.headersDone a) (received : Bytes) :
    PassKeeps handle (onData r a received) := by
  unfold onData
  by_cases hdone : r.headersDone = true
  · rw [if_pos hdone]
    rw [hdone] at h
    exact onBody_keeps hdone h received
  · rw [if_neg hdone]
    simp only
    split
    · exact ⟨r.headersDone, h⟩
    · cases findHeaderEnd (r.headerBuffer ++ received) with
      | none => exact h
      | some found =>
          rw [Bool.not_eq_true] at hdone
          rw [hdone] at h
          exact onHeaders_keeps h _ _

section Worker

-- `dmSocket::ResultToString`
variable (resultToString : SocketResult → String)

theorem readResponse_keeps {s : StopFlag} {r : Reader} {receives : List Receive}
    {error : Option String} {a' : Adapter} {s' : StopFlag}
    (h : readResponse resultToString s r a receives = some (error, a', s'))
    (hphase : InPhase handle r.headersDone a) : ∃ online, InPhase handle online a' := by
  induction receives generalizing s r a with
  | nil =>
      unfold readResponse at h
      split at h
      · cases h
        exact ⟨_, hphase⟩
      · cases h
  | cons receive receives ih =>
      unfold readResponse at h
      split at h
      · cases h
        exact ⟨_, hphase⟩
      · cases receive with
        | again selects =>
            simp only at h
            generalize waitForSocket s.next selects = waited at h
            cases waited with
            | none => cases h
            | some answer =>
                obtain ⟨result, t⟩ := answer
                cases result with
                | ok => exact ih h hphase
                | wouldBlock =>
                    cases h
                    exact ⟨_, hphase⟩
                | tryAgain =>
                    cases h
                    exact ⟨_, hphase⟩
                | failure code =>
                    cases h
                    exact ⟨_, hphase⟩
        | failed code =>
            simp only at h
            split at h <;> cases h <;> exact ⟨_, hphase⟩
        | data bytes =>
            cases bytes with
            | nil =>
                cases h
                exact ⟨_, hphase⟩
            | cons c received =>
                have hkeeps := onData_keeps hphase (c :: received)
                simp only at h
                generalize onData r a (c :: received) = data at h hkeeps
                obtain ⟨pass, b⟩ := data
                cases pass with
                | returns failed =>
                    cases h
                    exact hkeeps
                | goesOn r' => exact ih h hkeeps

/-! ## §2. The worker. -/

variable {s s' : StopFlag} {conn : SSEDesktopConnection} {net : Network}

theorem performOnce_keeps {error : Option String}
    (h : performOnce resultToString s conn net = some (error, a, s')) :
    ∃ online, InPhase conn.handle online a := by
  rcases performOnce_cases resultToString h with ⟨hstart, -⟩ | ⟨t, failed, t', hread, -⟩
  · -- the connection was not opened
    rcases hstart with rfl | rfl <;> exact ⟨false, rfl, rfl⟩
  · have hstart : InPhase conn.handle false (Adapter.start conn net.queue) := ⟨rfl, rfl⟩
    exact readResponse_keeps resultToString hread hstart

/-- After a pass the worker rests. -/
theorem workerPass_keeps {goesOn : Bool}
    (h : workerPass resultToString s conn net = some (a, s', goesOn)) :
    Rests conn.handle a := by
  obtain ⟨failed, b, t, hperformed, hadded⟩ := workerPass_cases resultToString h
  obtain ⟨online, hphase⟩ := performOnce_keeps resultToString hperformed
  have hlowered : walk (StreamPhase.next conn.handle) .offline (b.setConnected false).trace
      = some .disconnected := by
    have hoff := hphase.keepsPhases.disconnected
    rw [← hphase.speaks] at hoff ⊢
    exact hoff
  rcases hadded with rfl | ⟨error, rfl⟩
  · exact ⟨hphase.speaks, .disconnected, hlowered, rfl⟩
  · -- the worker's own error comes right after the disconnection
    refine ⟨hphase.speaks, .offline, walk_trans hlowered ?_, rfl⟩
    rw [walk_cons]
    simp [StreamPhase.next, errorEvent, Adapter.setConnected, hphase.speaks]

/-- **THE PROTOCOL IS KEPT** in every run of the pool's worker, stopped or not: an
OPEN comes only of an accepted status, right after the connection was set
connected; messages come only between it and the disconnection, and so do the errors
of the parser, each right after its call; an error of the worker comes right after
the disconnection, and so does CLOSED, which nothing follows. -/
theorem poolWorker_protocol {last : QueueAnswers} {nets : List Network} {trace : List Effect}
    (h : worker resultToString last s conn nets = some (trace, s')) :
    ∃ phase, walk (StreamPhase.next conn.handle) .offline trace = some phase
      ∧ (phase.resting = true ∨ phase = .closed) := by
  induction nets generalizing s conn trace with
  | nil =>
      unfold worker at h
      split at h
      · cases h
        exact ⟨.offline, rfl, .inl rfl⟩
      · cases h
  | cons net nets ih =>
      unfold worker at h
      split at h
      · cases h
        exact ⟨.offline, rfl, .inl rfl⟩
      · cases hpass : workerPass resultToString s.next conn net with
        | none =>
            rw [hpass] at h
            cases h
        | some passed =>
            obtain ⟨a, t, goesOn⟩ := passed
            obtain ⟨hspeaks, rests, hreached, hrests⟩ := workerPass_keeps resultToString hpass
            rw [hpass] at h
            cases goesOn with
            | true =>
                obtain ⟨rest, hrest, hpair⟩ := Option.map_eq_some_iff.mp h
                obtain ⟨restTrace, t'⟩ := rest
                cases hpair
                obtain ⟨phase, hwalk, hphase⟩ := ih hrest
                rw [hspeaks] at hwalk
                obtain ⟨phase', hwalk', hsame⟩ := StreamPhase.walk_resting hwalk hrests
                refine ⟨phase', walk_trans hreached hwalk', ?_⟩
                rcases hsame with rfl | ⟨hresting, -⟩
                · exact hphase
                · exact .inl hresting
            | false =>
                simp only at h
                split at h
                · cases h
                  exact ⟨rests, hreached, .inl hrests⟩
                · cases h
                  refine ⟨.closed, walk_trans hreached ?_, .inr rfl⟩
                  rw [← hspeaks]
                  exact Adapter.enqueueClosed_walk _ last hrests

end Worker

/-- The run whose second attempt brings what the first did not ends off the line or
closed. -/
theorem poolWorker_protocol_resumed :
    ∃ trace s', worker (fun _ => "") ⟨fun _ => true, fun _ => true⟩ lateStop resumingConn
        [refusedNetwork, resumedNetwork] = some (trace, s')
      ∧ ∃ phase, walk (StreamPhase.next resumingConn.handle) .offline trace = some phase
        ∧ (phase.resting = true ∨ phase = .closed) := by
  have hruns : (worker (fun _ => "") ⟨fun _ => true, fun _ => true⟩ lateStop resumingConn
      [refusedNetwork, resumedNetwork]).isSome = true := by decide +kernel
  obtain ⟨⟨trace, s'⟩, hrun⟩ := Option.isSome_iff_exists.mp hruns
  exact ⟨trace, s', hrun, poolWorker_protocol (fun _ => "") hrun⟩

end DefoldSSE
