/-
  DefoldSSE.Android.AttemptProtocol — what the attempts of `SseClient` report,
  decide and start, over every interleaving.
-/
import DefoldSSE.Android.AttemptInvariant

namespace DefoldSSE

open CLib

/-! ## §1. Ends and stops. -/

namespace SseClient

variable {s : SseClient}

/-- Two attempts that run are one. -/
theorem Proper.inFlight_unique (h : s.Proper) {i j : Nat} (hi : i < s.calls) (hj : j < s.calls)
    (hfi : (s.attempts i).inFlight = true) (hfj : (s.attempts j).inFlight = true) : i = j := by
  have hlasti := (h.alone i hi hfi).1
  have hlastj := (h.alone j hj hfj).1
  omega

/-- A completion ends with the value of `stopped` at its last step. -/
theorem attemptStep_ended {reconnect : Bool} {i : Nat} {answer : ClientAnswer} {b : Bool}
    (hf : (s.attempts i).inFlight = true)
    (h : ((s.attemptStep reconnect i answer).attempts i).completion = .ended b) :
    b = s.stopped := by
  have hgo {s' : SseClient} {pc : CompletionPc}
      (h : ((s'.goAttempt i pc).attempts i).completion = .ended b) : pc = .ended b := by
    rw [goAttempt_self] at h
    exact h
  -- the places where it reads `stopped` and ends if it is set
  have hstop {s' : SseClient} {pc : CompletionPc} (hpc : pc ≠ .ended b)
      (h : ((s'.goAttempt i (if s.stopped then .ended true else pc)).attempts i).completion
        = .ended b) : b = s.stopped := by
    have h := hgo h
    split at h
    · rename_i hstopped
      cases h
      exact hstopped.symm
    · exact absurd h hpc
  unfold attemptStep at h
  cases hpc : (s.attempts i).completion with
  | ended b' =>
      unfold SseAttempt.inFlight at hf
      rw [hpc] at hf
      cases hf
  | deciding =>
      rw [hpc] at h
      have hended : ((s.goAttempt i (.ended s.stopped)).attempts i).completion = .ended b := by
        have h : ((scheduleReconnectOrClose reconnect (s.goAttempt i (.ended s.stopped))
          (.attempt i)).attempts i).completion = .ended b := h
        unfold scheduleReconnectOrClose at h
        split at h
        · exact h
        · split at h <;> exact h
      cases hgo hended
      rfl
  | failureStop =>
      rw [hpc] at h
      exact hstop (by split <;> exact fun h => by cases h) h
  | lateStop =>
      rw [hpc] at h
      exact hstop (fun h => by cases h) h
  | streamEnd =>
      rw [hpc] at h
      exact hstop (fun h => by cases h) h
  | streamThrew =>
      rw [hpc] at h
      exact hstop (fun h => by cases h) h
  | streamCall report =>
      rw [hpc] at h
      exact absurd (hgo h) (streamNext_ne_ended answer b)
  | streamTest =>
      rw [hpc] at h
      have h := hgo h
      split at h
      · cases h
      · exact absurd h (streamNext_ne_ended answer b)
  | bodyTest =>
      rw [hpc] at h
      have h := hgo h
      cases answer <;> cases h
  -- the others go on to a place of their own
  | _ =>
      rw [hpc] at h
      have h := hgo h
      first
        | cases h
        | (split at h <;> cases h)

theorem cancelFirstResponseWatchdogLocked_completion (s : SseClient) (i : Nat) :
    (s.cancelFirstResponseWatchdogLocked.attempts i).completion = (s.attempts i).completion := by
  obtain ⟨j, pc, -, heq⟩ := s.cancelFirstResponseWatchdogLocked_eq
  rw [heq]
  exact goWatchdog_completion ..

theorem disconnect_completion (s : SseClient) (i : Nat) :
    (s.disconnect.attempts i).completion = (s.attempts i).completion := by
  have hcancel := cancelFirstResponseWatchdogLocked_completion { s with stopped := true } i
  rw [← hcancel]
  exact shutdownNow_completion _ i

theorem watchdogStep_completion (s : SseClient) (i j : Nat) :
    ((s.watchdogStep j).attempts i).completion = (s.attempts i).completion := by
  unfold watchdogStep
  split
  · exact goWatchdog_completion ..
  · unfold onFirstResponseTimeout
    split <;> exact goWatchdog_completion ..
  · exact goWatchdog_completion ..
  · exact goWatchdog_completion ..
  · rfl
  · rfl

/-- An attempt that ends in a step ends as `stopped` is then. -/
theorem Proper.step_ended (h : s.Proper) {reconnect : Bool} {a : ClientStep}
    (hen : s.enabled a = true) {i : Nat} (hi : i < s.calls) (hf : (s.attempts i).inFlight = true)
    (hover : ((s.step reconnect a).attempts i).inFlight = false) :
    ((s.step reconnect a).attempts i).completion = .ended s.stopped := by
  have hsame (hsame : ((s.step reconnect a).attempts i).completion = (s.attempts i).completion) :
      False := by
    unfold SseAttempt.inFlight at hf hover
    rw [hsame] at hover
    exact Bool.false_ne_true (hover.symm.trans hf)
  cases a with
  | attempt j answer =>
      -- only the attempt that steps can end, and only one runs
      obtain ⟨hj, hfj⟩ := Bool.and_eq_true_iff.mp hen
      obtain rfl := h.inFlight_unique hi (of_decide_eq_true hj) hf hfj
      have hended : ∃ b, ((s.attemptStep reconnect i answer).attempts i).completion = .ended b := by
        have hover : ((s.attemptStep reconnect i answer).attempts i).inFlight = false := hover
        unfold SseAttempt.inFlight at hover
        split at hover
        · rename_i b hb
          exact ⟨b, hb⟩
        · cases hover
      obtain ⟨b, hb⟩ := hended
      rw [← attemptStep_ended hf hb]
      exact hb
  | watchdog j => exact (hsame (watchdogStep_completion s i j)).elim
  | starter k answer =>
      -- no start steps while an attempt runs
      obtain ⟨hk, hlive⟩ := Bool.and_eq_true_iff.mp hen
      have hdead := (h.alone i hi hf).2 k (of_decide_eq_true hk)
      exact (Bool.false_ne_true (hdead.symm.trans hlive)).elim
  | disconnect => exact (hsame (disconnect_completion s i)).elim

/-- Neither a completion nor a decision makes a call or writes `stopped`. -/
theorem scheduleReconnectOrClose_stopped (reconnect : Bool) (s : SseClient) (d : Decider) :
    (s.scheduleReconnectOrClose reconnect d).stopped = s.stopped ∧
      (s.scheduleReconnectOrClose reconnect d).calls = s.calls := by
  unfold scheduleReconnectOrClose
  split
  · exact ⟨rfl, rfl⟩
  · split <;> exact ⟨rfl, rfl⟩

theorem cancelFirstResponseWatchdogLocked_stopped (s : SseClient) :
    s.cancelFirstResponseWatchdogLocked.stopped = s.stopped ∧
      s.cancelFirstResponseWatchdogLocked.calls = s.calls := by
  obtain ⟨j, pc, -, heq⟩ := s.cancelFirstResponseWatchdogLocked_eq
  rw [heq]
  exact ⟨rfl, rfl⟩

theorem attemptStep_stopped (reconnect : Bool) (s : SseClient) (i : Nat) (answer : ClientAnswer) :
    (s.attemptStep reconnect i answer).stopped = s.stopped ∧
      (s.attemptStep reconnect i answer).calls = s.calls := by
  unfold attemptStep
  cases (s.attempts i).completion with
  | onFailure => exact s.cancelFirstResponseWatchdogLocked_stopped
  | onResponse => exact s.cancelFirstResponseWatchdogLocked_stopped
  | deciding => exact scheduleReconnectOrClose_stopped ..
  | _ => exact ⟨rfl, rfl⟩

theorem watchdogStep_stopped (s : SseClient) (i : Nat) :
    (s.watchdogStep i).stopped = s.stopped ∧ (s.watchdogStep i).calls = s.calls := by
  unfold watchdogStep
  split
  · exact ⟨rfl, rfl⟩
  · unfold onFirstResponseTimeout
    split <;> exact ⟨rfl, rfl⟩
  all_goals exact ⟨rfl, rfl⟩

theorem disconnect_stopped (s : SseClient) :
    s.disconnect.stopped = true ∧ s.disconnect.calls = s.calls :=
  cancelFirstResponseWatchdogLocked_stopped { s with stopped := true }

/-- A start that finds the client stopped makes no call. -/
theorem starterStep_stopped (reconnect : Bool) (hs : s.stopped = true) (k : Nat)
    (answer : ClientAnswer) :
    (s.starterStep reconnect k answer).stopped = true ∧
      (s.starterStep reconnect k answer).calls = s.calls := by
  unfold starterStep
  cases s.starters k with
  | starting =>
      show (if _ then _ else _ : SseClient).stopped = true ∧
        (if _ then _ else _ : SseClient).calls = s.calls
      rw [if_pos hs]
      exact ⟨hs, rfl⟩
  | deciding =>
      obtain ⟨hstopped, hcalls⟩ :=
        scheduleReconnectOrClose_stopped reconnect (s.goStarter k .ended) (.starter k)
      exact ⟨hstopped.trans hs, hcalls⟩
  | _ => exact ⟨hs, rfl⟩

/-- A stopped client stays so, and makes no call. -/
theorem step_stopped (reconnect : Bool) (hs : s.stopped = true) (a : ClientStep) :
    (s.step reconnect a).stopped = true ∧ (s.step reconnect a).calls = s.calls := by
  cases a with
  | attempt i answer =>
      obtain ⟨hstopped, hcalls⟩ := attemptStep_stopped reconnect s i answer
      exact ⟨hstopped.trans hs, hcalls⟩
  | watchdog i =>
      obtain ⟨hstopped, hcalls⟩ := s.watchdogStep_stopped i
      exact ⟨hstopped.trans hs, hcalls⟩
  | starter k answer => exact starterStep_stopped reconnect hs k answer
  | disconnect => exact s.disconnect_stopped

/-- After the synchronized block of `disconnect` no call is made. -/
theorem run_stopped {reconnect : Bool} (hs : s.stopped = true) {as : List ClientStep}
    {s' : SseClient} (hrun : (sseClient reconnect).run s as = some s') : s'.calls = s.calls := by
  have hkeeps := Machine.run_keeps (P := fun t : SseClient => t.stopped = true ∧ t.calls = s.calls)
    (m := sseClient reconnect) ?_ ⟨hs, rfl⟩ hrun
  · exact hkeeps.2
  · intro t a t' ht _ hok
    cases hok
    obtain ⟨hstopped, hcalls⟩ := step_stopped reconnect ht.1 a
    exact ⟨hstopped, hcalls.trans ht.2⟩

/-- A mark is read by the attempt of the watchdog that made it. -/
theorem AttemptOk.marked {i : Nat} (h : s.AttemptOk i) {t : Bool}
    (ht : (s.attempts i).timedOut = some t) : (s.attempts i).watchdog.hasMarked = t := by
  rw [h.marks, ht]
  rfl

end SseClient

/-! ## §2. The protocol. -/

/-- **The attempts of the client.**  Whatever the threads do, and in whatever
order: -/
theorem attempts_protocol {reconnect : Bool} {s : SseClient}
    (h : (sseClient reconnect).Reachable s) :
    -- an attempt that the watchdog reports is reported by nobody else,
    (∀ i report, .timeout i ∈ s.trace → .report i report ∉ s.trace) ∧
    -- a watchdog marks and cancels its own call, and no other attempt reads its mark;
    (∀ i call, .mark i call ∈ s.trace → call = some i) ∧
    (∀ i call, .cancel i call ∈ s.trace → call = i) ∧
    (∀ i, i < s.calls → (s.attempts i).timedOut = some true →
      (s.attempts i).watchdog.hasMarked = true) ∧
    -- an attempt that ends while `stopped` is false has decided once, and no other has;
    (∀ a s' i, (sseClient reconnect).next s a = some s' → i < s.calls →
      (s.attempts i).inFlight = true → (s'.attempts i).inFlight = false →
      (s'.attempts i).completion = .ended s.stopped) ∧
    (∀ i, i < s.calls →
      s.decisions (.attempt i) = if (s.attempts i).completion = .ended false then 1 else 0) ∧
    -- no two attempts are in flight;
    (∀ i j, i < s.calls → j < s.calls → (s.attempts i).inFlight = true →
      (s.attempts j).inFlight = true → i = j) ∧
    -- and after a disconnect there is no new call.
    (∀ s₁ as s₂, (sseClient reconnect).next s .disconnect = some s₁ →
      (sseClient reconnect).run s₁ as = some s₂ → s₂.calls = s₁.calls) := by
  have hs := (sseClient_proper reconnect).reachable h
  refine ⟨?_, ?_, ?_, ?_, ?_, ?_, ?_, ?_⟩
  · -- a report needs `timedOut` read as false, the timeout needs the mark
    intro i report htimeout hreport
    obtain ⟨hi, hmarked⟩ := hs.told _ htimeout
    obtain ⟨-, hread⟩ := hs.told _ hreport
    have hfalse := (hs.attempt i hi).marked hread
    exact Bool.false_ne_true (hfalse.symm.trans hmarked)
  · exact fun i call hmark => hs.told _ hmark
  · exact fun i call hcancel => hs.told _ hcancel
  · exact fun i hi ht => (hs.attempt i hi).marked ht
  · intro a s' i hnext hi hf hover
    obtain ⟨hen, rfl⟩ := sseClient_next.mp hnext
    exact hs.step_ended hen hi hf hover
  · exact fun i hi => (hs.attempt i hi).decided
  · exact fun i j hi hj hfi hfj => hs.inFlight_unique hi hj hfi hfj
  · intro s₁ as s₂ hnext hrun
    obtain ⟨-, rfl⟩ := sseClient_next.mp hnext
    exact SseClient.run_stopped s.disconnect_stopped.1 hrun

/-- The first attempt times out while its watchdog is cancelled too late, and
the second one is open when the client disconnects. -/
theorem attempts_protocol_lateWatchdog :
    ∃ s, (sseClient true).run .connecting
        [.starter 0 .ok, .attempt 0 .ok, .watchdog 0, .watchdog 0, .attempt 0 .fails,
          .attempt 0 .ok, .attempt 0 .ok, .watchdog 0, .attempt 0 .ok, .attempt 0 .ok,
          .starter 1 .ok, .starter 1 .ok, .attempt 1 .ok, .watchdog 0, .attempt 1 .ok,
          .attempt 1 .ok, .attempt 1 .ok, .attempt 1 .ok, .disconnect] = some s ∧
      s.trace = [.mark 0 (some 0), .timeout 0, .disconnected (.attempt 0), .restart (.attempt 0),
        .cancel 0 0, .report 1 .opened] ∧
      ∀ report, .report 0 report ∉ s.trace := by
  have hruns : ∃ s, (sseClient true).run (sseClient true).init
        [.starter 0 .ok, .attempt 0 .ok, .watchdog 0, .watchdog 0, .attempt 0 .fails,
          .attempt 0 .ok, .attempt 0 .ok, .watchdog 0, .attempt 0 .ok, .attempt 0 .ok,
          .starter 1 .ok, .starter 1 .ok, .attempt 1 .ok, .watchdog 0, .attempt 1 .ok,
          .attempt 1 .ok, .attempt 1 .ok, .attempt 1 .ok, .disconnect] = some s ∧
      s.trace = [.mark 0 (some 0), .timeout 0, .disconnected (.attempt 0), .restart (.attempt 0),
        .cancel 0 0, .report 1 .opened] := ⟨_, rfl, rfl⟩
  obtain ⟨s, hrun, htrace⟩ := hruns
  refine ⟨s, hrun, htrace, fun report => ?_⟩
  apply (attempts_protocol ⟨_, hrun⟩).1 0 report
  rw [htrace]
  exact List.mem_cons_of_mem _ (List.mem_cons_self ..)

end DefoldSSE
