/-
  DefoldSSE.Android.AttemptInvariant — what every step of `SseClient` keeps.

  At any time either the last call or the last start runs, so the shared flag
  `firstResponseTimedOut` is about one call: the one whose completion has not
  read it yet.  Each kind of write has its lemma in §2, and §3 goes through the
  program counters.
-/
import DefoldSSE.Android.Attempts

namespace DefoldSSE

open CLib

/-! ## §1. The invariant. -/

/-- What the local `timedOut` is where the completion is. -/
def CompletionPc.reads : CompletionPc → Option Bool → Bool
  | .created, t => t.isNone
  | .enqueued, t => t.isNone
  | .onFailure, t => t.isNone
  | .onResponse, t => t.isNone
  | .lateStop, t => t = some true
  | .failureStop, t => t.isSome
  | .disconnecting, t => t.isSome
  | .deciding, t => t.isSome
  | .ended _, t => t.isSome
  | _, t => t = some false

/-- Whose scheduled restart or CLOSED this is. -/
def ClientEvent.decidedBy : ClientEvent → Option Decider
  | .restart d => some d
  | .closed d => some d
  | _ => none

namespace SseClient

/-- The restarts scheduled and the CLOSED reported by the attempt or start. -/
def decisions (s : SseClient) (d : Decider) : Nat :=
  s.trace.countP (fun e => e.decidedBy = some d)

/-- What an event says about the calls. -/
def Told (s : SseClient) : ClientEvent → Prop
  | .timeout i => i < s.calls ∧ (s.attempts i).watchdog.hasMarked = true
  | .report i _ => i < s.calls ∧ (s.attempts i).timedOut = some false
  | .mark i call => call = some i
  | .cancel i call => call = i
  | .restart (.attempt i) => i < s.calls
  | .closed (.attempt i) => i < s.calls
  | _ => True

/-- A call: its flag was set by its own watchdog, and nobody else decides for it. -/
structure AttemptOk (s : SseClient) (i : Nat) : Prop where
  reads : (s.attempts i).completion.reads (s.attempts i).timedOut = true
  marks : (s.attempts i).watchdog.hasMarked = (s.attempts i).timedOut.getD s.firstResponseTimedOut
  decided : s.decisions (.attempt i) = if (s.attempts i).completion = .ended false then 1 else 0
  ended : (s.attempts i).completion = .ended true → s.stopped = true

/-- The invariant: the last call or the last start runs, and not both. -/
structure Proper (s : SseClient) : Prop where
  call : ∀ i, s.call = some i → i + 1 = s.calls
  alone : ∀ i, i < s.calls → (s.attempts i).inFlight = true →
    i + 1 = s.calls ∧ ∀ k, k < s.starts → (s.starters k).live = false
  lastStart : ∀ k, k < s.starts → (s.starters k).live = true → k + 1 = s.starts
  attempt : ∀ i, i < s.calls → s.AttemptOk i
  watched : ∀ i, s.firstResponseWatchdog = some i →
    i + 1 = s.calls ∧ (s.attempts i).timedOut = none ∧ s.firstResponseTimedOut = false
  told : ∀ e, e ∈ s.trace → s.Told e

theorem connecting_proper : connecting.Proper where
  call i h := by cases h
  alone i hi := by cases hi
  lastStart k hk _ := by
    have hk : k < 1 := hk
    show k + 1 = 1
    omega
  attempt i hi := by cases hi
  watched i h := by cases h
  told e h := by cases h

variable {s : SseClient}

theorem Proper.not_inFlight (h : s.Proper) {i : Nat} (hi : i < s.calls)
    (hlast : i + 1 ≠ s.calls) : (s.attempts i).inFlight = false := by
  cases hf : (s.attempts i).inFlight with
  | false => rfl
  | true => exact absurd (h.alone i hi hf).1 hlast

/-- A completion that is over has read the flag. -/
theorem AttemptOk.read {i : Nat} (h : s.AttemptOk i) (hf : (s.attempts i).inFlight = false) :
    (s.attempts i).timedOut.isSome = true := by
  have hreads := h.reads
  unfold SseAttempt.inFlight at hf
  split at hf
  · rename_i hpc
    rw [hpc] at hreads
    exact hreads
  · cases hf

theorem AttemptOk.undecided {i : Nat} (h : s.AttemptOk i) (hf : (s.attempts i).inFlight = true) :
    s.decisions (.attempt i) = 0 := by
  have hpc : (s.attempts i).completion ≠ .ended false := by
    intro hpc
    unfold SseAttempt.inFlight at hf
    rw [hpc] at hf
    cases hf
  rw [h.decided, if_neg hpc]

/-- An event stays true while the marks and the locals stay. -/
theorem Told.mono {s' : SseClient} {e : ClientEvent} (h : s.Told e) (hcalls : s.calls ≤ s'.calls)
    (hmarked : ∀ i, i < s.calls → (s.attempts i).watchdog.hasMarked = true →
      (s'.attempts i).watchdog.hasMarked = true)
    (hread : ∀ i, i < s.calls → (s.attempts i).timedOut = some false →
      (s'.attempts i).timedOut = some false) : s'.Told e := by
  cases e with
  | timeout i => exact ⟨Nat.lt_of_lt_of_le h.1 hcalls, hmarked i h.1 h.2⟩
  | report i _ => exact ⟨Nat.lt_of_lt_of_le h.1 hcalls, hread i h.1 h.2⟩
  | mark i call => exact h
  | cancel i call => exact h
  | startFailed k => trivial
  | disconnected d => trivial
  | restart d =>
      cases d with
      | attempt i => exact Nat.lt_of_lt_of_le h hcalls
      | starter k => trivial
  | closed d =>
      cases d with
      | attempt i => exact Nat.lt_of_lt_of_le h hcalls
      | starter k => trivial

/-- A call that a step leaves alone. -/
theorem AttemptOk.frame {s' : SseClient} {i : Nat} (h : s.AttemptOk i)
    (hattempt : s'.attempts i = s.attempts i)
    (hflag : (s.attempts i).timedOut = none → s'.firstResponseTimedOut = s.firstResponseTimedOut)
    (htrace : s'.decisions (.attempt i) = s.decisions (.attempt i))
    (hstopped : s.stopped = true → s'.stopped = true) : s'.AttemptOk i where
  reads := by
    rw [hattempt]
    exact h.reads
  marks := by
    rw [hattempt, h.marks]
    cases ht : (s.attempts i).timedOut with
    | none => exact (hflag ht).symm
    | some t => rfl
  decided := by rw [htrace, hattempt, h.decided]
  ended := by
    rw [hattempt]
    exact fun hend => hstopped (h.ended hend)

/-! ## §2. What each kind of write keeps. -/

theorem decisions_emit (s : SseClient) (e : ClientEvent) (d : Decider) :
    (s.emit e).decisions d = s.decisions d + if e.decidedBy = some d then 1 else 0 := by
  unfold decisions emit
  rw [List.countP_append, List.countP_singleton]
  simp only [decide_eq_true_eq]

/-- An event that decides for no attempt. -/
theorem Proper.emit (h : s.Proper) {e : ClientEvent} (htold : s.Told e)
    (he : ∀ i, e.decidedBy ≠ some (.attempt i)) : (s.emit e).Proper where
  call := h.call
  alone := h.alone
  lastStart := h.lastStart
  attempt i hi := (h.attempt i hi).frame rfl (fun _ => rfl)
    (by rw [decisions_emit, if_neg (he i), Nat.add_zero]) id
  watched := h.watched
  told e' he' := by
    show s.Told e'
    rcases List.mem_append.mp he' with hold | hnew
    · exact h.told e' hold
    · rw [List.mem_singleton.mp hnew]
      exact htold

@[simp] theorem goAttempt_self (i : Nat) (pc : CompletionPc) :
    (s.goAttempt i pc).attempts i = { s.attempts i with completion := pc } :=
  Function.update_self ..

theorem goAttempt_of_ne {i j : Nat} (hj : j ≠ i) (pc : CompletionPc) :
    (s.goAttempt i pc).attempts j = s.attempts j :=
  Function.update_of_ne hj ..

@[simp] theorem goWatchdog_self (i : Nat) (pc : WatchdogPc) :
    (s.goWatchdog i pc).attempts i = { s.attempts i with watchdog := pc } :=
  Function.update_self ..

theorem goWatchdog_of_ne {i j : Nat} (hj : j ≠ i) (pc : WatchdogPc) :
    (s.goWatchdog i pc).attempts j = s.attempts j :=
  Function.update_of_ne hj ..

@[simp] theorem goAttempt_watchdog (i j : Nat) (pc : CompletionPc) :
    ((s.goAttempt i pc).attempts j).watchdog = (s.attempts j).watchdog := by
  by_cases hj : j = i
  · rw [hj, goAttempt_self]
  · rw [goAttempt_of_ne hj]

@[simp] theorem goAttempt_timedOut (i j : Nat) (pc : CompletionPc) :
    ((s.goAttempt i pc).attempts j).timedOut = (s.attempts j).timedOut := by
  by_cases hj : j = i
  · rw [hj, goAttempt_self]
  · rw [goAttempt_of_ne hj]

@[simp] theorem goWatchdog_completion (i j : Nat) (pc : WatchdogPc) :
    ((s.goWatchdog i pc).attempts j).completion = (s.attempts j).completion := by
  by_cases hj : j = i
  · rw [hj, goWatchdog_self]
  · rw [goWatchdog_of_ne hj]

@[simp] theorem goWatchdog_timedOut (i j : Nat) (pc : WatchdogPc) :
    ((s.goWatchdog i pc).attempts j).timedOut = (s.attempts j).timedOut := by
  by_cases hj : j = i
  · rw [hj, goWatchdog_self]
  · rw [goWatchdog_of_ne hj]

@[simp] theorem goWatchdog_inFlight (i j : Nat) (pc : WatchdogPc) :
    ((s.goWatchdog i pc).attempts j).inFlight = (s.attempts j).inFlight := by
  unfold SseAttempt.inFlight
  rw [goWatchdog_completion]

/-- A step that moves one call; the flag changes only for the last one. -/
structure Moves (s s' : SseClient) (i : Nat) : Prop where
  call : s'.call = s.call
  calls : s'.calls = s.calls
  starts : s'.starts = s.starts
  starters : s'.starters = s.starters
  other : ∀ j, j ≠ i → s'.attempts j = s.attempts j
  inFlight : (s'.attempts i).inFlight = true → (s.attempts i).inFlight = true
  marked : (s.attempts i).watchdog.hasMarked = true → (s'.attempts i).watchdog.hasMarked = true
  read : (s.attempts i).timedOut = some false → (s'.attempts i).timedOut = some false
  flag : s'.firstResponseTimedOut = s.firstResponseTimedOut ∨ i + 1 = s.calls
  decisions : ∀ j, j ≠ i → s'.decisions (.attempt j) = s.decisions (.attempt j)
  stopped : s'.stopped = s.stopped

theorem Proper.moves {s' : SseClient} {i : Nat} (h : s.Proper) (hs' : Moves s s' i)
    (hok : s'.AttemptOk i)
    (hwatched : ∀ j, s'.firstResponseWatchdog = some j →
      j + 1 = s.calls ∧ (s'.attempts j).timedOut = none ∧ s'.firstResponseTimedOut = false)
    (htold : ∀ e, e ∈ s'.trace → e ∈ s.trace ∨ s'.Told e) : s'.Proper where
  call j hcall := by
    rw [hs'.call] at hcall
    rw [hs'.calls]
    exact h.call j hcall
  alone j hj hf := by
    rw [hs'.calls] at hj
    rw [hs'.calls, hs'.starts, hs'.starters]
    apply h.alone j hj
    by_cases hji : j = i
    · subst hji
      exact hs'.inFlight hf
    · rw [← hs'.other j hji]
      exact hf
  lastStart := by
    rw [hs'.starts, hs'.starters]
    exact h.lastStart
  attempt j hj := by
    rw [hs'.calls] at hj
    by_cases hji : j = i
    · subst hji
      exact hok
    · refine (h.attempt j hj).frame (hs'.other j hji) ?_ (hs'.decisions j hji)
        (fun hstopped => hs'.stopped.trans hstopped)
      intro hnone
      rcases hs'.flag with hflag | hlast
      · exact hflag
      · -- the calls before the last have read the flag
        have hread := (h.attempt j hj).read (h.not_inFlight hj (by omega))
        rw [hnone] at hread
        cases hread
  watched := by
    rw [hs'.calls]
    exact hwatched
  told e he := by
    rcases htold e he with hold | hnew
    · refine Told.mono (h.told e hold) (Nat.le_of_eq hs'.calls.symm) ?_ ?_
      · intro j _ hm
        by_cases hji : j = i
        · subst hji
          exact hs'.marked hm
        · rw [hs'.other j hji]
          exact hm
      · intro j _ ht
        by_cases hji : j = i
        · subst hji
          exact hs'.read ht
        · rw [hs'.other j hji]
          exact ht
    · exact hnew

/-- Call `i` becomes `a`. -/
theorem moves_update {i : Nat} (a : SseAttempt) (watchdog : Option Nat) (flag : Bool)
    (hf : a.inFlight = true → (s.attempts i).inFlight = true)
    (hm : (s.attempts i).watchdog.hasMarked = true → a.watchdog.hasMarked = true)
    (hr : (s.attempts i).timedOut = some false → a.timedOut = some false)
    (hflag : flag = s.firstResponseTimedOut ∨ i + 1 = s.calls) :
    Moves s
      { s with
        firstResponseWatchdog := watchdog
        firstResponseTimedOut := flag
        attempts := Function.update s.attempts i a } i := by
  have hself : Function.update s.attempts i a i = a := Function.update_self ..
  exact
    { call := rfl
      calls := rfl
      starts := rfl
      starters := rfl
      other := fun j hj => Function.update_of_ne hj ..
      inFlight := fun h => hf ((congrArg SseAttempt.inFlight hself).symm.trans h)
      marked := fun h => (congrArg (·.watchdog.hasMarked) hself).trans (hm h)
      read := fun h => (congrArg SseAttempt.timedOut hself).trans (hr h)
      flag := hflag
      decisions := fun _ _ => rfl
      stopped := rfl }

theorem Moves.emit {s' : SseClient} {i : Nat} (h : Moves s s' i) {e : ClientEvent}
    (he : ∀ j, j ≠ i → e.decidedBy ≠ some (.attempt j)) : Moves s (s'.emit e) i :=
  { h with
    decisions := fun j hj => by
      rw [decisions_emit, if_neg (he j hj), Nat.add_zero]
      exact h.decisions j hj }

/-- A completion that goes on, or ends because the client was stopped. -/
theorem Proper.goAttempt (h : s.Proper) {i : Nat} (hi : i < s.calls)
    (hf : (s.attempts i).inFlight = true) {pc : CompletionPc}
    (hreads : pc.reads (s.attempts i).timedOut = true)
    (hend : ∀ b, pc = .ended b → b = true ∧ s.stopped = true) : (s.goAttempt i pc).Proper := by
  have hok := h.attempt i hi
  have hmoves : Moves s (s.goAttempt i pc) i :=
    moves_update _ s.firstResponseWatchdog _ (fun _ => hf) id id (.inl rfl)
  apply h.moves hmoves
  · refine ⟨?_, ?_, ?_, ?_⟩
    · rw [goAttempt_self]
      exact hreads
    · rw [goAttempt_self]
      exact hok.marks
    · rw [goAttempt_self]
      show s.decisions _ = if pc = .ended false then 1 else 0
      have hpc : pc ≠ .ended false := fun hpc => by cases (hend false hpc).1
      rw [hok.undecided hf, if_neg hpc]
    · rw [goAttempt_self]
      exact fun hpc => (hend true hpc).2
  · intro j hw
    rw [goAttempt_timedOut]
    exact h.watched j hw
  · exact fun e he => .inl he

/-- A step that only moves watchdogs and starts on, without a mark, a call or an
event. -/
structure Frame (s s' : SseClient) : Prop where
  calls : s'.calls = s.calls
  call : s'.call = s.call
  starts : s'.starts = s.starts
  live : ∀ k, (s'.starters k).live = true → k < s.starts → (s.starters k).live = true
  completion : ∀ i, (s'.attempts i).completion = (s.attempts i).completion
  timedOut : ∀ i, (s'.attempts i).timedOut = (s.attempts i).timedOut
  marked : ∀ i, (s'.attempts i).watchdog.hasMarked = (s.attempts i).watchdog.hasMarked
  flag : s'.firstResponseTimedOut = s.firstResponseTimedOut
  watched : ∀ i, s'.firstResponseWatchdog = some i → s.firstResponseWatchdog = some i
  trace : s'.trace = s.trace
  stopped : s.stopped = true → s'.stopped = true

theorem Proper.frame {s' : SseClient} (h : s.Proper) (hs' : Frame s s') : s'.Proper where
  call i hcall := by
    rw [hs'.call] at hcall
    rw [hs'.calls]
    exact h.call i hcall
  alone i hi hf := by
    rw [hs'.calls] at hi
    unfold SseAttempt.inFlight at hf
    rw [hs'.completion] at hf
    obtain ⟨hlast, hstarters⟩ := h.alone i hi hf
    rw [hs'.calls, hs'.starts]
    refine ⟨hlast, fun k hk => ?_⟩
    rw [← Bool.not_eq_true]
    exact fun hl => Bool.false_ne_true ((hstarters k hk).symm.trans (hs'.live k hl hk))
  lastStart k hk hl := by
    rw [hs'.starts] at hk ⊢
    exact h.lastStart k hk (hs'.live k hl hk)
  attempt i hi := by
    rw [hs'.calls] at hi
    have hok := h.attempt i hi
    refine ⟨?_, ?_, ?_, ?_⟩
    · rw [hs'.completion, hs'.timedOut]
      exact hok.reads
    · rw [hs'.marked, hs'.timedOut, hs'.flag]
      exact hok.marks
    · unfold decisions
      rw [hs'.completion, hs'.trace]
      exact hok.decided
    · rw [hs'.completion]
      exact fun hpc => hs'.stopped (hok.ended hpc)
  watched i hw := by
    rw [hs'.calls, hs'.timedOut, hs'.flag]
    exact h.watched i (hs'.watched i hw)
  told e he := by
    rw [hs'.trace] at he
    refine Told.mono (h.told e he) (Nat.le_of_eq hs'.calls.symm) ?_ ?_
    · intro i _ hm
      rw [hs'.marked]
      exact hm
    · intro i _ ht
      rw [hs'.timedOut]
      exact ht

/-- A watchdog that goes on without a mark. -/
theorem Proper.goWatchdog (h : s.Proper) (i : Nat) {pc : WatchdogPc}
    (hpc : pc.hasMarked = (s.attempts i).watchdog.hasMarked) : (s.goWatchdog i pc).Proper := by
  have hmarked (j : Nat) : ((s.goWatchdog i pc).attempts j).watchdog.hasMarked
      = (s.attempts j).watchdog.hasMarked := by
    by_cases hji : j = i
    · subst hji
      rw [goWatchdog_self]
      exact hpc
    · rw [goWatchdog_of_ne hji]
  exact h.frame ⟨rfl, rfl, rfl, fun k hl _ => hl, fun j => goWatchdog_completion i j pc,
    fun j => goWatchdog_timedOut i j pc, hmarked, rfl, fun j hw => hw, rfl, id⟩

/-- A start that goes on or ends. -/
theorem Proper.goStarter (h : s.Proper) {k : Nat} (hlive : (s.starters k).live = true)
    (pc : StarterPc) : (s.goStarter k pc).Proper := by
  refine h.frame ⟨rfl, rfl, rfl, ?_, fun _ => rfl, fun _ => rfl, fun _ => rfl, rfl,
    fun j hw => hw, rfl, id⟩
  intro j hl _
  by_cases hjk : j = k
  · rw [hjk]
    exact hlive
  · have hother : (s.goStarter k pc).starters j = s.starters j := Function.update_of_ne hjk ..
    rw [hother] at hl
    exact hl

theorem Proper.unwatch (h : s.Proper) : { s with firstResponseWatchdog := none }.Proper :=
  h.frame ⟨rfl, rfl, rfl, fun _ hl _ => hl, fun _ => rfl, fun _ => rfl, fun _ => rfl, rfl,
    fun _ hw => (Option.some_ne_none _ hw.symm).elim, rfl, id⟩

theorem Proper.stop (h : s.Proper) : { s with stopped := true }.Proper :=
  h.frame ⟨rfl, rfl, rfl, fun _ hl _ => hl, fun _ => rfl, fun _ => rfl, fun _ => rfl, rfl,
    fun _ hw => hw, rfl, fun _ => rfl⟩

/-- It changes one watchdog, and marks nothing. -/
theorem cancelFirstResponseWatchdogLocked_eq (s : SseClient) :
    ∃ i pc, pc.hasMarked = (s.attempts i).watchdog.hasMarked ∧
      s.cancelFirstResponseWatchdogLocked
        = { s.goWatchdog i pc with firstResponseWatchdog := none } := by
  have hstay (i : Nat) : s.goWatchdog i (s.attempts i).watchdog = s := by
    show { s with attempts := Function.update s.attempts i (s.attempts i) } = s
    rw [Function.update_eq_self]
  unfold cancelFirstResponseWatchdogLocked
  split
  · rename_i i _
    unfold cancelTask
    split
    · rename_i hpc
      exact ⟨i, .cancelled, by rw [hpc]; rfl, rfl⟩
    · exact ⟨i, (s.attempts i).watchdog, rfl, by rw [hstay]⟩
  · rename_i hnone
    refine ⟨0, (s.attempts 0).watchdog, rfl, ?_⟩
    rw [hstay, ← hnone]

theorem Proper.cancelFirstResponseWatchdogLocked (h : s.Proper) :
    s.cancelFirstResponseWatchdogLocked.Proper := by
  obtain ⟨i, pc, hpc, heq⟩ := s.cancelFirstResponseWatchdogLocked_eq
  rw [heq]
  exact (h.goWatchdog i hpc).unwatch

/-- The completion of the last call reads the flag, with no watchdog left. -/
theorem Proper.read (h : s.Proper) (hwatch : s.firstResponseWatchdog = none) {i : Nat}
    (hi : i < s.calls) (hf : (s.attempts i).inFlight = true)
    (hnone : (s.attempts i).timedOut = none) {pc : CompletionPc}
    (hreads : pc.reads (some s.firstResponseTimedOut) = true) (hend : ∀ b, pc ≠ .ended b) :
    { s with
      firstResponseTimedOut := false
      attempts := Function.update s.attempts i
        { s.attempts i with completion := pc, timedOut := some s.firstResponseTimedOut } }.Proper := by
  have hself : Function.update s.attempts i
      { s.attempts i with completion := pc, timedOut := some s.firstResponseTimedOut } i
      = { s.attempts i with completion := pc, timedOut := some s.firstResponseTimedOut } :=
    Function.update_self ..
  have hok := h.attempt i hi
  have hread : (s.attempts i).timedOut ≠ some false := by
    rw [hnone]
    exact (Option.some_ne_none false).symm
  apply h.moves (moves_update
    { s.attempts i with completion := pc, timedOut := some s.firstResponseTimedOut }
    s.firstResponseWatchdog false (fun _ => hf) id (fun ht => absurd ht hread)
    (.inr (h.alone i hi hf).1))
  · refine ⟨?_, ?_, ?_, ?_⟩
    · show CompletionPc.reads (Function.update s.attempts i _ i).completion
        (Function.update s.attempts i _ i).timedOut = true
      rw [hself]
      exact hreads
    · show (Function.update s.attempts i _ i).watchdog.hasMarked
        = (Function.update s.attempts i _ i).timedOut.getD false
      rw [hself]
      show (s.attempts i).watchdog.hasMarked = s.firstResponseTimedOut
      rw [hok.marks, hnone]
      rfl
    · show s.decisions _ = if (Function.update s.attempts i _ i).completion = .ended false then 1 else 0
      rw [hself, hok.undecided hf, if_neg (hend false)]
    · show (Function.update s.attempts i _ i).completion = .ended true → _
      rw [hself]
      exact fun hpc => absurd hpc (hend true)
  · intro j hw
    cases hwatch.symm.trans hw
  · exact fun e he => .inl he

theorem Proper.clearFirstResponseState (h : s.Proper) {i : Nat} (hi : i < s.calls)
    (hf : (s.attempts i).inFlight = true) (hnone : (s.attempts i).timedOut = none)
    {pc : CompletionPc} (hreads : pc.reads (some s.firstResponseTimedOut) = true)
    (hend : ∀ b, pc ≠ .ended b) : ((s.clearFirstResponseState i).goAttempt i pc).Proper := by
  -- the block cancels a watchdog, forgets it, and reads the flag
  obtain ⟨j, wpc, hwpc, heq⟩ := s.cancelFirstResponseWatchdogLocked_eq
  have hcancelled := (h.goWatchdog j hwpc).unwatch.read rfl (i := i) hi
    (by rw [goWatchdog_inFlight]; exact hf) (by rw [goWatchdog_timedOut]; exact hnone) hreads hend
  unfold SseClient.clearFirstResponseState SseClient.goAttempt
  simp only [heq, Function.update_self, Function.update_idem]
  exact hcancelled

/-- The watchdog of the last call marks it. -/
theorem Proper.mark (h : s.Proper) {i : Nat} (hcall : s.call = some i)
    (hwatch : s.firstResponseWatchdog ≠ none) :
    ({ s with firstResponseWatchdog := none, firstResponseTimedOut := true }
      |>.emit (.mark i s.call) |>.goWatchdog i .marked).Proper := by
  -- the watchdog of the field watches the last call, which is `call`
  obtain ⟨j, hj⟩ := Option.ne_none_iff_exists'.mp hwatch
  obtain ⟨hlast, hnone, hflag⟩ := h.watched j hj
  have hij : j = i := by have := h.call i hcall; omega
  subst hij
  have hj : j < s.calls := by omega
  have hok := h.attempt j hj
  have hdecisions (i : Nat) : (s.emit (.mark j s.call)).decisions (.attempt i)
      = s.decisions (.attempt i) := by
    rw [decisions_emit, if_neg (by simp [ClientEvent.decidedBy]), Nat.add_zero]
  have hmoves : Moves s ({ s with firstResponseWatchdog := none, firstResponseTimedOut := true }
      |>.goWatchdog j .marked) j :=
    moves_update _ _ _ id (fun _ => rfl) id (.inr hlast)
  have hmarks : Moves s ({ s with firstResponseWatchdog := none, firstResponseTimedOut := true }
      |>.emit (.mark j s.call) |>.goWatchdog j .marked) j :=
    hmoves.emit (fun _ _ => by simp [ClientEvent.decidedBy])
  apply h.moves hmarks
  · refine ⟨?_, ?_, ?_, ?_⟩
    · rw [goWatchdog_completion, goWatchdog_timedOut]
      exact hok.reads
    · rw [goWatchdog_timedOut, goWatchdog_self]
      show true = (s.attempts j).timedOut.getD true
      rw [hnone]
      rfl
    · rw [goWatchdog_completion]
      exact (hdecisions j).trans hok.decided
    · rw [goWatchdog_completion]
      exact hok.ended
  · intro i hw
    cases hw
  · intro e he
    rcases List.mem_append.mp he with hold | hnew
    · exact .inl hold
    · rw [List.mem_singleton.mp hnew]
      exact .inr hcall

/-- Nothing is in flight and no start is. -/
structure Idle (s : SseClient) : Prop where
  attempt : ∀ i, i < s.calls → (s.attempts i).inFlight = false
  starter : ∀ k, k < s.starts → (s.starters k).live = false

theorem Proper.newCall (h : s.Proper) (hidle : s.Idle) : s.newCall.Proper := by
  have hself : s.newCall.attempts s.calls = {} := Function.update_self ..
  have hother {i : Nat} (hi : i < s.calls) : s.newCall.attempts i = s.attempts i :=
    Function.update_of_ne (by omega) ..
  refine ⟨?_, ?_, h.lastStart, ?_, ?_, ?_⟩
  · intro i hcall
    cases hcall
    rfl
  · intro i hi hf
    rcases Nat.lt_succ_iff_lt_or_eq.mp hi with hold | rfl
    · rw [hother hold, hidle.attempt i hold] at hf
      cases hf
    · exact ⟨rfl, hidle.starter⟩
  · intro i hi
    rcases Nat.lt_succ_iff_lt_or_eq.mp hi with hold | rfl
    · refine (h.attempt i hold).frame (hother hold) ?_ rfl id
      -- the flag is cleared, but the old calls have read it
      intro hnone
      have hread := (h.attempt i hold).read (hidle.attempt i hold)
      rw [hnone] at hread
      cases hread
    · refine ⟨?_, ?_, ?_, ?_⟩
      · rw [hself]
        rfl
      · rw [hself]
        rfl
      · rw [hself]
        -- nobody decides for a call that is not there yet
        show s.decisions _ = 0
        unfold decisions
        rw [List.countP_eq_zero]
        intro e he hdecided
        have htold := h.told e he
        have hdecided : e.decidedBy = some (.attempt s.calls) := of_decide_eq_true hdecided
        cases e with
        | restart d =>
            cases hdecided
            exact Nat.lt_irrefl _ htold
        | closed d =>
            cases hdecided
            exact Nat.lt_irrefl _ htold
        | _ => cases hdecided
      · rw [hself]
        intro hpc
        cases hpc
  · intro i hw
    cases hw
    rw [hself]
    exact ⟨rfl, rfl, rfl⟩
  · intro e he
    refine Told.mono (h.told e he) (show s.calls ≤ s.calls + 1 by omega) ?_ ?_
    · intro i hi hm
      rw [hother hi]
      exact hm
    · intro i hi ht
      rw [hother hi]
      exact ht

theorem Proper.scheduleStart (h : s.Proper) (hidle : s.Idle) : s.scheduleStart.Proper where
  call := h.call
  alone i hi hf := by
    rw [show (s.scheduleStart.attempts i).inFlight = (s.attempts i).inFlight from rfl,
      hidle.attempt i hi] at hf
    cases hf
  lastStart k hk hlive := by
    rcases Nat.lt_succ_iff_lt_or_eq.mp hk with hold | rfl
    · have hother : s.scheduleStart.starters k = s.starters k := Function.update_of_ne (by omega) ..
      rw [hother, hidle.starter k hold] at hlive
      cases hlive
    · rfl
  attempt i hi := (h.attempt i hi).frame rfl (fun _ => rfl) rfl id
  watched := h.watched
  told := h.told

/-- The attempt decides, and ends. -/
theorem Proper.decide (h : s.Proper) {i : Nat} (hi : i < s.calls)
    (hpc : (s.attempts i).completion = .deciding) {e : ClientEvent}
    (hdecided : e.decidedBy = some (.attempt i)) :
    ((s.goAttempt i (.ended false)).emit e).Proper ∧
      ((s.goAttempt i (.ended false)).emit e).Idle := by
  have hf : (s.attempts i).inFlight = true := by
    unfold SseAttempt.inFlight
    rw [hpc]
  obtain ⟨hlast, hstarters⟩ := h.alone i hi hf
  have hover (j : Nat) (hj : j < s.calls) :
      ((s.goAttempt i (.ended false)).attempts j).inFlight = false := by
    by_cases hji : j = i
    · subst hji
      rw [goAttempt_self]
      rfl
    · rw [goAttempt_of_ne hji]
      exact h.not_inFlight hj (by omega)
  refine ⟨?_, hover, hstarters⟩
  have hok := h.attempt i hi
  have hother (j : Nat) (hj : j ≠ i) : e.decidedBy ≠ some (.attempt j) := by
    rw [hdecided]
    intro heq
    cases heq
    exact hj rfl
  have hmoves : Moves s (s.goAttempt i (.ended false)) i :=
    moves_update _ s.firstResponseWatchdog _ (fun _ => hf) id id (.inl rfl)
  apply h.moves (hmoves.emit hother)
  · have hreads := hok.reads
    rw [hpc] at hreads
    refine ⟨?_, ?_, ?_, ?_⟩
    · show ((s.goAttempt i _).attempts i).completion.reads
        ((s.goAttempt i _).attempts i).timedOut = true
      rw [goAttempt_timedOut, goAttempt_self]
      exact hreads
    · show ((s.goAttempt i _).attempts i).watchdog.hasMarked
        = ((s.goAttempt i _).attempts i).timedOut.getD s.firstResponseTimedOut
      rw [goAttempt_watchdog, goAttempt_timedOut]
      exact hok.marks
    · show _ = if ((s.goAttempt i _).attempts i).completion = .ended false then 1 else 0
      rw [decisions_emit, if_pos hdecided, goAttempt_self, if_pos rfl]
      show s.decisions _ + 1 = 1
      rw [hok.undecided hf]
    · show ((s.goAttempt i _).attempts i).completion = .ended true → _
      rw [goAttempt_self]
      intro hended
      cases hended
  · intro j hw
    obtain ⟨hj, hnone, hflag⟩ := h.watched j hw
    refine ⟨hj, ?_, hflag⟩
    show ((s.goAttempt i _).attempts j).timedOut = none
    rw [goAttempt_timedOut]
    exact hnone
  · intro e' he'
    rcases List.mem_append.mp he' with hold | hnew
    · exact .inl hold
    · rw [List.mem_singleton.mp hnew]
      right
      cases e with
      | restart d =>
          cases hdecided
          exact hi
      | closed d =>
          cases hdecided
          exact hi
      | _ => cases hdecided

theorem shutdownNow_completion (s : SseClient) (i : Nat) :
    (s.shutdownNow.attempts i).completion = (s.attempts i).completion := by
  show (if _ then _ else _ : SseAttempt).completion = _
  split <;> rfl

theorem Proper.shutdownNow (h : s.Proper) : s.shutdownNow.Proper := by
  refine h.frame ⟨rfl, rfl, rfl, ?_, s.shutdownNow_completion, ?_, ?_, rfl, fun i hw => hw, rfl, id⟩
  · intro k hl _
    have hl : (if s.starters k = .scheduled then .dropped else s.starters k : StarterPc).live
        = true := hl
    split at hl
    · cases hl
    · exact hl
  · intro i
    show (if _ then _ else _ : SseAttempt).timedOut = _
    split <;> rfl
  · intro i
    show (if _ then _ else _ : SseAttempt).watchdog.hasMarked = _
    split
    · rename_i hpc
      rw [hpc]
      rfl
    · rfl

theorem Proper.disconnect (h : s.Proper) : s.disconnect.Proper :=
  h.stop.cancelFirstResponseWatchdogLocked.shutdownNow

/-! ## §3. Every step keeps the invariant. -/

theorem Proper.watchdogStep (h : s.Proper) {i : Nat} (hi : i < s.calls) :
    (s.watchdogStep i).Proper := by
  unfold SseClient.watchdogStep
  cases hpc : (s.attempts i).watchdog with
  | scheduled =>
      apply h.goWatchdog
      rw [hpc]
      rfl
  | running =>
      show (s.onFirstResponseTimeout i).Proper
      unfold onFirstResponseTimeout
      split
      · apply h.goWatchdog
        rw [hpc]
        rfl
      · rename_i hguard
        rw [not_or, not_or, not_ne_iff] at hguard
        exact h.mark hguard.2.1 hguard.2.2
  | marked =>
      have htold : s.Told (.timeout i) := ⟨hi, by rw [hpc]; rfl⟩
      apply (h.emit htold (fun j => by simp [ClientEvent.decidedBy])).goWatchdog
      show _ = (s.attempts i).watchdog.hasMarked
      rw [hpc]
      rfl
  | reported =>
      have htold : s.Told (.cancel i i) := rfl
      apply (h.emit htold (fun j => by simp [ClientEvent.decidedBy])).goWatchdog
      show _ = (s.attempts i).watchdog.hasMarked
      rw [hpc]
      rfl
  | cancelled => exact h
  | done told => exact h

/-- The start is over, and nothing else runs. -/
theorem Proper.startOver (h : s.Proper) {k : Nat} (hk : k < s.starts)
    (hlive : (s.starters k).live = true) : (s.goStarter k .ended).Idle where
  attempt i hi := by
    show (s.attempts i).inFlight = false
    rw [← Bool.not_eq_true]
    exact fun hf => Bool.false_ne_true (((h.alone i hi hf).2 k hk).symm.trans hlive)
  starter j hj := by
    by_cases hjk : j = k
    · subst hjk
      show (Function.update s.starters j .ended j).live = false
      rw [Function.update_self]
      rfl
    · show (Function.update s.starters k .ended j).live = false
      rw [Function.update_of_ne hjk, ← Bool.not_eq_true]
      intro hl
      have hj := h.lastStart j hj hl
      have hk := h.lastStart k hk hlive
      omega

theorem Proper.starterStep (reconnect : Bool) (h : s.Proper) {k : Nat} (hk : k < s.starts)
    (answer : ClientAnswer) : (s.starterStep reconnect k answer).Proper := by
  unfold SseClient.starterStep
  cases hpc : s.starters k with
  | scheduled => exact h.goStarter (by rw [hpc]; rfl) _
  | starting =>
      have hlive : (s.starters k).live = true := by rw [hpc]; rfl
      show (if _ then _ else _ : SseClient).Proper
      split
      · exact h.goStarter hlive _
      · split
        · exact h.goStarter hlive _
        · exact (h.goStarter hlive _).newCall (h.startOver hk hlive)
  | threw => exact h.goStarter (by rw [hpc]; rfl) _
  | error =>
      have htold : s.Told (.startFailed k) := trivial
      exact (h.emit htold (fun j => by simp [ClientEvent.decidedBy])).goStarter
        (show (s.starters k).live = true by rw [hpc]; rfl) _
  | disconnecting =>
      have htold : s.Told (.disconnected (.starter k)) := trivial
      exact (h.emit htold (fun j => by simp [ClientEvent.decidedBy])).goStarter
        (show (s.starters k).live = true by rw [hpc]; rfl) _
  | deciding =>
      have hlive : (s.starters k).live = true := by rw [hpc]; rfl
      have hover := h.goStarter hlive .ended
      show ((s.goStarter k .ended).scheduleReconnectOrClose reconnect _).Proper
      unfold scheduleReconnectOrClose
      split
      · exact hover
      · split
        · exact (hover.scheduleStart (h.startOver hk hlive)).emit trivial
            (fun j => by simp [ClientEvent.decidedBy])
        · exact hover.emit trivial (fun j => by simp [ClientEvent.decidedBy])
  | dropped => exact h
  | ended => exact h

/-- A completion that reports something has read the flag as false. -/
theorem Proper.reports (h : s.Proper) {i : Nat} (hi : i < s.calls)
    (hf : (s.attempts i).inFlight = true) (hread : (s.attempts i).timedOut = some false)
    (report : AttemptReport) {pc : CompletionPc} (hpc : pc.reads (some false) = true)
    (hend : ∀ b, pc ≠ .ended b) : ((s.emit (.report i report)).goAttempt i pc).Proper := by
  have htold : s.Told (.report i report) := ⟨hi, hread⟩
  refine (h.emit htold (fun j => by simp [ClientEvent.decidedBy])).goAttempt hi hf ?_ ?_
  · show pc.reads (s.attempts i).timedOut = true
    rw [hread]
    exact hpc
  · exact fun b hb => absurd hb (hend b)

theorem streamNext_reads (answer : ClientAnswer) : (streamNext answer).reads (some false) = true := by
  cases answer <;> rfl

theorem streamNext_ne_ended (answer : ClientAnswer) (b : Bool) : streamNext answer ≠ .ended b := by
  cases answer <;> exact fun h => by cases h

theorem Proper.attemptStep (reconnect : Bool) (h : s.Proper) {i : Nat} (hi : i < s.calls)
    (hf : (s.attempts i).inFlight = true) (answer : ClientAnswer) :
    (s.attemptStep reconnect i answer).Proper := by
  have hreads := (h.attempt i hi).reads
  -- a completion that goes on, or stops where it reads `stopped`
  have hgo {pc : CompletionPc} (hpc : pc.reads (s.attempts i).timedOut = true)
      (hend : ∀ b, pc ≠ .ended b) : (s.goAttempt i pc).Proper :=
    h.goAttempt hi hf hpc (fun b hb => absurd hb (hend b))
  have hstop {pc : CompletionPc} (hpc : pc.reads (s.attempts i).timedOut = true)
      (hend : ∀ b, pc ≠ .ended b) (hsome : (s.attempts i).timedOut.isSome = true) :
      (s.goAttempt i (if s.stopped then .ended true else pc)).Proper := by
    split
    · rename_i hstopped
      exact h.goAttempt hi hf hsome (fun b hb => by cases hb; exact ⟨rfl, hstopped⟩)
    · exact hgo hpc hend
  unfold SseClient.attemptStep
  cases hpc : (s.attempts i).completion with
  | created =>
      rw [hpc] at hreads
      exact hgo hreads (fun b hb => by cases hb)
  | enqueued =>
      rw [hpc] at hreads
      apply hgo
      · split <;> exact hreads
      · intro b hb
        split at hb <;> cases hb
  | onFailure =>
      rw [hpc] at hreads
      exact h.clearFirstResponseState hi hf (Option.isNone_iff_eq_none.mp hreads) rfl
        (fun b hb => by cases hb)
  | failureStop =>
      rw [hpc] at hreads
      obtain ⟨t, ht⟩ := Option.isSome_iff_exists.mp hreads
      apply hstop _ _ hreads
      · rw [ht]
        cases t <;> rfl
      · intro b hb
        split at hb <;> cases hb
  | failureError =>
      rw [hpc] at hreads
      exact h.reports hi hf (of_decide_eq_true hreads) _ rfl (fun b hb => by cases hb)
  | onResponse =>
      rw [hpc] at hreads
      apply h.clearFirstResponseState hi hf (Option.isNone_iff_eq_none.mp hreads)
      · cases s.firstResponseTimedOut <;> rfl
      · intro b hb
        split at hb <;> cases hb
  | lateStop =>
      rw [hpc] at hreads
      have hsome : (s.attempts i).timedOut.isSome = true := by
        rw [of_decide_eq_true hreads]
        rfl
      exact hstop hsome (fun b hb => by cases hb) hsome
  | statusTest =>
      rw [hpc] at hreads
      apply hgo
      · split <;> exact hreads
      · intro b hb
        split at hb <;> cases hb
  | statusError =>
      rw [hpc] at hreads
      exact h.reports hi hf (of_decide_eq_true hreads) _ rfl (fun b hb => by cases hb)
  | opening =>
      rw [hpc] at hreads
      exact h.reports hi hf (of_decide_eq_true hreads) _ rfl (fun b hb => by cases hb)
  | bodyTest =>
      rw [hpc] at hreads
      apply hgo
      · cases answer <;> exact hreads
      · intro b hb
        cases answer <;> cases hb
  | bodyError =>
      rw [hpc] at hreads
      exact h.reports hi hf (of_decide_eq_true hreads) _ rfl (fun b hb => by cases hb)
  | streamTest =>
      rw [hpc] at hreads
      apply hgo
      · rw [of_decide_eq_true hreads]
        split
        · rfl
        · exact streamNext_reads answer
      · intro b hb
        split at hb
        · cases hb
        · exact streamNext_ne_ended answer b hb
  | streamCall report =>
      rw [hpc] at hreads
      exact h.reports hi hf (of_decide_eq_true hreads) _ (streamNext_reads answer)
        (streamNext_ne_ended answer)
  | streamEnd =>
      rw [hpc] at hreads
      have hsome : (s.attempts i).timedOut.isSome = true := by
        rw [of_decide_eq_true hreads]
        rfl
      exact hstop hsome (fun b hb => by cases hb) hsome
  | streamThrew =>
      rw [hpc] at hreads
      have hsome : (s.attempts i).timedOut.isSome = true := by
        rw [of_decide_eq_true hreads]
        rfl
      exact hstop hreads (fun b hb => by cases hb) hsome
  | streamError =>
      rw [hpc] at hreads
      exact h.reports hi hf (of_decide_eq_true hreads) _ rfl (fun b hb => by cases hb)
  | disconnecting =>
      rw [hpc] at hreads
      have htold : s.Told (.disconnected (.attempt i)) := trivial
      exact (h.emit htold (fun j => by simp [ClientEvent.decidedBy])).goAttempt hi hf hreads
        (fun b hb => by cases hb)
  | deciding =>
      rw [hpc] at hreads
      show ((s.goAttempt i (.ended s.stopped)).scheduleReconnectOrClose reconnect _).Proper
      unfold scheduleReconnectOrClose
      split
      · -- stopped: it ends without a decision
        rename_i hstopped
        have hstopped : s.stopped = true := hstopped
        rw [hstopped]
        exact h.goAttempt hi hf hreads (fun b hb => by cases hb; exact ⟨rfl, hstopped⟩)
      · rename_i hstopped
        have hstopped : s.stopped = false := Bool.eq_false_iff.mpr hstopped
        rw [hstopped]
        -- it has ended before the next start is scheduled
        split
        · obtain ⟨hdecided, hidle⟩ := h.decide hi hpc (e := .restart (.attempt i)) rfl
          exact hdecided.scheduleStart hidle
        · exact (h.decide hi hpc rfl).1
  | ended b => exact h

theorem Proper.step (reconnect : Bool) (h : s.Proper) {a : ClientStep}
    (hen : s.enabled a = true) : (s.step reconnect a).Proper := by
  cases a with
  | attempt i answer =>
      obtain ⟨hi, hf⟩ := Bool.and_eq_true_iff.mp hen
      exact h.attemptStep reconnect (of_decide_eq_true hi) hf answer
  | watchdog i => exact h.watchdogStep (of_decide_eq_true (Bool.and_eq_true_iff.mp hen).1)
  | starter k answer =>
      exact h.starterStep reconnect (of_decide_eq_true (Bool.and_eq_true_iff.mp hen).1) answer
  | disconnect => exact h.disconnect

end SseClient

theorem sseClient_proper (reconnect : Bool) : (sseClient reconnect).Invariant SseClient.Proper where
  init := SseClient.connecting_proper
  step s a s' h hen hok := by
    cases hok
    exact h.step reconnect hen

end DefoldSSE
