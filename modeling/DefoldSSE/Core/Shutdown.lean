/-
  DefoldSSE.Core.Shutdown — `SSECallbackGuard` against `AppFinalizeSSE`.

  Platform threads call four guarded functions; each is taken apart into the
  atomic steps of its guard and one step for the body under its mutex.
  `AppFinalizeSSE` is taken apart at every load and every mutex.  What the
  bodies do to the data they lock is `Core.State`; here they are uses of a mutex
  that may be gone.

  `g_SSEEntrants` is an `int32_t`: it counts the threads inside a guard as long
  as there are fewer than 2^31 of them (`shutdown_guard`), and no longer
  (`entrants_wrap`).
-/
import DefoldSSE.Lib.CStdlib
import DefoldSSE.Lib.Machine

namespace DefoldSSE

open CLib

/-! ## §1. The threads and the finalizer. -/

/-- The functions whose bodies an `SSECallbackGuard` guards. -/
inductive GuardedCall where
  | queuePush
  | setConnected
  | setLastEventId
  | isUserClosed
  deriving DecidableEq, Repr

/-- The mutexes `AppFinalizeSSE` deletes: `g_SSE.m_Queue.m_Mutex` and
`g_SSE.m_Mutex`. -/
inductive SSEMutex where
  | queue
  | state
  deriving DecidableEq, Repr

/-- The mutex a body locks. -/
def GuardedCall.mutex : GuardedCall → SSEMutex
  | .queuePush => .queue
  | .setConnected => .state
  | .setLastEventId => .state
  | .isUserClosed => .state

/-- Where a platform thread is in its guard. -/
inductive GuardPc where
  | outside
  /-- After `g_SSEEntrants.fetch_add(1)`. -/
  | counted (call : GuardedCall)
  /-- After a `g_SSEActive.load()` that was false. -/
  | refused (call : GuardedCall)
  /-- After a `g_SSEActive.load()` that was true. -/
  | entered (call : GuardedCall)
  /-- After the body, before the destructor. -/
  | leaving (call : GuardedCall)
  deriving DecidableEq, Repr

/-- Between its increment and its decrement. -/
def GuardPc.inside : GuardPc → Bool
  | .outside => false
  | _ => true

/-- Let in by the flag, and not out yet. -/
def GuardPc.admitted : GuardPc → Bool
  | .entered _ => true
  | .leaving _ => true
  | _ => false

/-- Where `AppFinalizeSSE` is. -/
inductive FinalizePc where
  | running
  /-- The flag is down, `g_SSEEntrants.load()` is next. -/
  | waiting
  /-- The count was not zero: `dmTime::Sleep(1000)`. -/
  | sleeping
  /-- The wait is over, the queue is emptied next. -/
  | emptyQueue
  | deleteQueue
  | emptyState
  | deleteState
  | finished
  deriving DecidableEq, Repr

/-- Past the wait for the entrants. -/
def FinalizePc.drained : FinalizePc → Bool
  | .running => false
  | .waiting => false
  | .sleeping => false
  | _ => true

/-- The globals, and where everyone is. -/
structure SSEGlobals where
  active : Bool
  entrants : Int
  queueMutex : Bool
  stateMutex : Bool
  threads : List GuardPc
  finalizer : FinalizePc
  deriving DecidableEq, Repr

/-- After `AppInitializeSSE`, with `n` platform threads. -/
def SSEGlobals.start (n : Nat) : SSEGlobals where
  active := true
  entrants := 0
  queueMutex := true
  stateMutex := true
  threads := List.replicate n .outside
  finalizer := .running

/-- The atomic steps. -/
inductive GuardStep where
  /-- `g_SSEEntrants.fetch_add(1)` in the constructor. -/
  | enter (i : Nat) (call : GuardedCall)
  /-- `m_Entered = g_SSEActive.load()`. -/
  | check (i : Nat) (call : GuardedCall)
  /-- `g_SSEEntrants.fetch_sub(1)` in the constructor. -/
  | backOut (i : Nat) (call : GuardedCall)
  /-- What follows the guard, under the scoped lock. -/
  | body (i : Nat) (call : GuardedCall)
  /-- `g_SSEEntrants.fetch_sub(1)` in the destructor. -/
  | leave (i : Nat) (call : GuardedCall)
  /-- The next step of `AppFinalizeSSE`. -/
  | appFinalize
  deriving DecidableEq, Repr

namespace SSEGlobals

def alive (g : SSEGlobals) : SSEMutex → Bool
  | .queue => g.queueMutex
  | .state => g.stateMutex

/-- Thread `i` goes on to `pc`. -/
def move (g : SSEGlobals) (i : Nat) (pc : GuardPc) : SSEGlobals :=
  { g with threads := g.threads.set i pc }

def fetchAdd (g : SSEGlobals) : SSEGlobals := { g with entrants := toInt32 (g.entrants + 1) }

def fetchSub (g : SSEGlobals) : SSEGlobals := { g with entrants := toInt32 (g.entrants - 1) }

/-- Locking a mutex, and what is done under the lock. -/
def use (g : SSEGlobals) (m : SSEMutex) (after : SSEGlobals) : Except SSEMutex SSEGlobals :=
  if g.alive m then .ok after else .error m

/-- `AppFinalizeSSE`, from where it is to the next load or mutex. -/
def appFinalize (g : SSEGlobals) : Except SSEMutex SSEGlobals :=
  match g.finalizer with
  | .running => .ok { g with active := false, finalizer := .waiting }
  | .waiting => .ok { g with finalizer := if g.entrants ≠ 0 then .sleeping else .emptyQueue }
  | .sleeping => .ok { g with finalizer := .waiting }
  | .emptyQueue =>
      -- `if (g_SSE.m_Queue.m_Mutex)`
      if g.queueMutex then g.use .queue { g with finalizer := .deleteQueue }
      else .ok { g with finalizer := .emptyState }
  | .deleteQueue => .ok { g with queueMutex := false, finalizer := .emptyState }
  | .emptyState =>
      if g.stateMutex then g.use .state { g with finalizer := .deleteState }
      else .ok { g with finalizer := .finished }
  | .deleteState => .ok { g with stateMutex := false, finalizer := .finished }
  | .finished => .ok g

def enabled (g : SSEGlobals) : GuardStep → Bool
  | .enter i _ => g.threads[i]? = some .outside
  | .check i call => g.threads[i]? = some (.counted call)
  | .backOut i call => g.threads[i]? = some (.refused call)
  | .body i call => g.threads[i]? = some (.entered call)
  | .leave i call => g.threads[i]? = some (.leaving call)
  | .appFinalize => g.finalizer ≠ .finished

def step (g : SSEGlobals) : GuardStep → Except SSEMutex SSEGlobals
  | .enter i call => .ok (g.fetchAdd.move i (.counted call))
  | .check i call => .ok (g.move i (if g.active then .entered call else .refused call))
  | .backOut i _ => .ok (g.fetchSub.move i .outside)
  | .body i call => g.use call.mutex (g.move i (.leaving call))
  | .leave i _ => .ok (g.fetchSub.move i .outside)
  | .appFinalize => g.appFinalize

end SSEGlobals

/-- `n` platform threads and `AppFinalizeSSE`. -/
def shutdown (n : Nat) : Machine SSEGlobals GuardStep SSEMutex where
  init := .start n
  enabled := SSEGlobals.enabled
  step := SSEGlobals.step

/-! ## §2. Counting. -/

/-- The threads between their increment and their decrement. -/
def SSEGlobals.insiders (g : SSEGlobals) : Nat := g.threads.countP GuardPc.inside

/-- A thread that moves counts where it goes and no longer where it was. -/
theorem insiders_move {g : SSEGlobals} {i : Nat} {pc : GuardPc} (h : g.threads[i]? = some pc)
    (pc' : GuardPc) :
    ((g.move i pc').insiders : Int) = g.insiders - pc.inside.toInt + pc'.inside.toInt := by
  obtain ⟨hi, hpc⟩ := List.getElem?_eq_some_iff.mp h
  have hset : (g.move i pc').insiders
      = g.insiders - (if pc.inside then 1 else 0) + if pc'.inside then 1 else 0 := by
    show (g.threads.set i pc').countP GuardPc.inside = _
    rw [List.countP_set hi, hpc]
    rfl
  have hpos : pc.inside = true → 0 < g.insiders := by
    intro hin
    exact List.countP_pos_iff.mpr ⟨pc, List.mem_of_getElem? h, hin⟩
  rw [hset]
  cases hin : pc.inside with
  | false => cases pc'.inside <;> simp
  | true =>
      have := hpos hin
      cases pc'.inside <;> simp <;> omega

theorem insiders_le (g : SSEGlobals) : g.insiders ≤ g.threads.length := List.countP_le_length

/-! ## §3. The invariant. -/

/-- What holds between any two steps. -/
structure GuardInv (n : Nat) (g : SSEGlobals) : Prop where
  size : g.threads.length = n
  counted : g.entrants = g.insiders
  flag : g.active = true → g.finalizer = .running
  drained : g.finalizer.drained = true → ∀ pc ∈ g.threads, pc.admitted = false
  deleted : ∀ m, g.alive m = false → g.finalizer.drained = true

/-- A thread's step keeps the invariant if it counts what it does and lets no one
in once the finalizer is past its wait. -/
theorem GuardInv.move {n : Nat} {g : SSEGlobals} (h : GuardInv n g) {i : Nat} {pc pc' : GuardPc}
    (hi : g.threads[i]? = some pc) {c : Int}
    (hcount : c = g.insiders - pc.inside.toInt + pc'.inside.toInt)
    (hpc' : g.finalizer.drained = true → pc'.admitted = false) :
    GuardInv n { g.move i pc' with entrants := c } where
  size := by
    show (g.threads.set i pc').length = n
    rw [List.length_set]
    exact h.size
  counted := by
    rw [hcount]
    exact (insiders_move hi pc').symm
  flag := h.flag
  drained := by
    intro hd pc hpc
    rcases List.mem_or_eq_of_mem_set hpc with hpc | rfl
    · exact h.drained hd pc hpc
    · exact hpc' hd
  deleted := h.deleted

/-- Past the wait, the finalizer may do what it likes with the mutexes. -/
theorem GuardInv.pastWait {n : Nat} {g : SSEGlobals} (h : GuardInv n g)
    (hactive : g.active = false) (hnone : ∀ pc ∈ g.threads, pc.admitted = false)
    (queueMutex stateMutex : Bool) (pc : FinalizePc) (hpc : pc.drained = true) :
    GuardInv n { g with queueMutex := queueMutex, stateMutex := stateMutex, finalizer := pc } where
  size := h.size
  counted := h.counted
  flag := by
    intro hflag
    rw [show g.active = true from hflag] at hactive
    cases hactive
  drained := fun _ => hnone
  deleted := fun _ _ => hpc

/-- The finalizer before it is past the wait. -/
theorem GuardInv.beforeWait {n : Nat} {g : SSEGlobals} (h : GuardInv n g)
    (hd : g.finalizer.drained = false) (pc : FinalizePc) (hpc : pc.drained = false) :
    GuardInv n { g with active := false, finalizer := pc } where
  size := h.size
  counted := h.counted
  flag := by
    intro hflag
    cases hflag
  drained := by
    intro hdrained
    rw [show pc.drained = true from hdrained] at hpc
    cases hpc
  deleted := by
    intro m hm
    rw [h.deleted m hm] at hd
    cases hd

/-- The finalizer's step. -/
theorem GuardInv.appFinalize {n : Nat} {g g' : SSEGlobals} (h : GuardInv n g)
    (hstep : g.appFinalize = .ok g') : GuardInv n g' := by
  have hactive : g.finalizer ≠ .running → g.active = false := by
    intro hne
    cases hflag : g.active with
    | false => rfl
    | true => exact absurd (h.flag hflag) hne
  -- the flag is down already, so to lower it again is nothing
  have hsame : g.finalizer ≠ .running → { g with active := false } = g := by
    intro hne
    rw [← hactive hne]
  have hdrained : g.finalizer.drained = true → ∀ (queueMutex stateMutex : Bool)
      (pc : FinalizePc), pc.drained = true →
        GuardInv n { g with queueMutex := queueMutex, stateMutex := stateMutex, finalizer := pc } := by
    intro hd
    apply h.pastWait (hactive _) (h.drained hd)
    intro hrun
    rw [hrun] at hd
    cases hd
  unfold SSEGlobals.appFinalize at hstep
  cases hpc : g.finalizer with
  | running =>
      rw [hpc] at hstep hdrained
      cases hstep
      exact h.beforeWait (by rw [hpc]; rfl) .waiting rfl
  | waiting =>
      rw [hpc] at hstep
      cases hstep
      have hne : g.finalizer ≠ .running := by
        rw [hpc]
        decide
      by_cases hzero : g.entrants = 0
      · -- nobody is inside
        have hnone : ∀ pc ∈ g.threads, pc.admitted = false := by
          have hcount : g.insiders = 0 := by
            have := h.counted
            omega
          intro pc hmem
          have hout := List.countP_eq_zero.mp hcount pc hmem
          cases pc with
          | outside => rfl
          | _ => exact absurd rfl hout
        rw [if_neg (not_not.mpr hzero)]
        exact h.pastWait (hactive hne) hnone g.queueMutex g.stateMutex .emptyQueue rfl
      · rw [if_pos hzero, ← hsame hne]
        exact h.beforeWait (by rw [hpc]; rfl) .sleeping rfl
  | sleeping =>
      rw [hpc] at hstep
      cases hstep
      have hne : g.finalizer ≠ .running := by
        rw [hpc]
        decide
      rw [← hsame hne]
      exact h.beforeWait (by rw [hpc]; rfl) .waiting rfl
  | emptyQueue =>
      rw [hpc] at hstep hdrained
      simp only at hstep
      by_cases hmutex : g.queueMutex = true
      · rw [if_pos hmutex, SSEGlobals.use, SSEGlobals.alive, if_pos hmutex] at hstep
        cases hstep
        exact hdrained rfl g.queueMutex g.stateMutex .deleteQueue rfl
      · rw [if_neg hmutex] at hstep
        cases hstep
        exact hdrained rfl g.queueMutex g.stateMutex .emptyState rfl
  | deleteQueue =>
      rw [hpc] at hstep hdrained
      cases hstep
      exact hdrained rfl false g.stateMutex .emptyState rfl
  | emptyState =>
      rw [hpc] at hstep hdrained
      simp only at hstep
      by_cases hmutex : g.stateMutex = true
      · rw [if_pos hmutex, SSEGlobals.use, SSEGlobals.alive, if_pos hmutex] at hstep
        cases hstep
        exact hdrained rfl g.queueMutex g.stateMutex .deleteState rfl
      · rw [if_neg hmutex] at hstep
        cases hstep
        exact hdrained rfl g.queueMutex g.stateMutex .finished rfl
  | deleteState =>
      rw [hpc] at hstep hdrained
      cases hstep
      exact hdrained rfl g.queueMutex false .finished rfl
  | finished =>
      rw [hpc] at hstep
      cases hstep
      exact h

/-- The count after `fetch_add(1)`: one thread more, and no more than there are. -/
theorem GuardInv.entrants_fetchAdd {n : Nat} (hn : n < 2 ^ 31) {g : SSEGlobals}
    (h : GuardInv n g) {i : Nat} (hi : g.threads[i]? = some .outside) :
    g.fetchAdd.entrants = g.insiders + 1 := by
  have hmove := insiders_move hi (.counted .queuePush)
  have hle := insiders_le (g.move i (.counted .queuePush))
  have hsize : (g.move i (.counted .queuePush)).threads.length = n := by
    show (g.threads.set i _).length = n
    rw [List.length_set]
    exact h.size
  have hcount := h.counted
  show toInt32 (g.entrants + 1) = g.insiders + 1
  simp only [GuardPc.inside, Bool.toInt_false, Bool.toInt_true] at hmove
  rw [hcount, toInt32_of_fits (by omega) (by omega)]

/-- The count after `fetch_sub(1)`: the thread was counted. -/
theorem GuardInv.entrants_fetchSub {n : Nat} (hn : n < 2 ^ 31) {g : SSEGlobals}
    (h : GuardInv n g) {i : Nat} {pc : GuardPc} (hi : g.threads[i]? = some pc)
    (hin : pc.inside = true) :
    g.fetchSub.entrants = g.insiders - 1 := by
  -- the thread itself is counted, so nothing wraps
  have hpos : 0 < g.insiders := List.countP_pos_iff.mpr ⟨pc, List.mem_of_getElem? hi, hin⟩
  have hle := insiders_le g
  have hsize := h.size
  have hcount := h.counted
  show toInt32 (g.entrants - 1) = g.insiders - 1
  rw [hcount, toInt32_of_fits (by omega) (by omega)]

/-- **Every step keeps the invariant**, with fewer than 2^31 threads. -/
theorem guardInv {n : Nat} (hn : n < 2 ^ 31) : (shutdown n).Invariant (GuardInv n) where
  init := by
    refine ⟨List.length_replicate, ?_, fun _ => rfl, ?_, ?_⟩
    · show (0 : Int) = ((List.replicate n GuardPc.outside).countP GuardPc.inside : Nat)
      rw [List.countP_replicate]
      rfl
    · intro hd
      cases hd
    · intro m hm
      cases m <;> cases hm
  step := by
    intro g a g' h hen hstep
    cases a with
    | enter i call =>
        have hi : g.threads[i]? = some .outside := of_decide_eq_true hen
        cases hstep
        exact h.move hi (by rw [h.entrants_fetchAdd hn hi]; simp [GuardPc.inside]) (fun _ => rfl)
    | check i call =>
        have hi : g.threads[i]? = some (.counted call) := of_decide_eq_true hen
        cases hstep
        apply h.move hi (c := g.entrants)
        · rw [h.counted]
          cases g.active <;> simp [GuardPc.inside]
        · -- the flag is down before the wait, so nobody is let in past it
          intro hd
          cases hactive : g.active with
          | false => rfl
          | true =>
              rw [h.flag hactive] at hd
              cases hd
    | backOut i call =>
        have hi : g.threads[i]? = some (.refused call) := of_decide_eq_true hen
        cases hstep
        exact h.move hi (by rw [h.entrants_fetchSub hn hi rfl]; simp [GuardPc.inside])
          (fun _ => rfl)
    | body i call =>
        have hi : g.threads[i]? = some (.entered call) := of_decide_eq_true hen
        have hstep : g.use call.mutex (g.move i (.leaving call)) = .ok g' := hstep
        unfold SSEGlobals.use at hstep
        split at hstep
        · cases hstep
          apply h.move hi (c := g.entrants)
          · rw [h.counted]
            simp [GuardPc.inside]
          · intro hd
            -- nobody is admitted any more
            have hout : (GuardPc.entered call).admitted = false :=
              h.drained hd _ (List.mem_of_getElem? hi)
            cases hout
        · cases hstep
    | leave i call =>
        have hi : g.threads[i]? = some (.leaving call) := of_decide_eq_true hen
        cases hstep
        exact h.move hi (by rw [h.entrants_fetchSub hn hi rfl]; simp [GuardPc.inside])
          (fun _ => rfl)
    | appFinalize => exact h.appFinalize hstep

/-! ## §4. The guard. -/

/-- **THE SHUTDOWN GUARD.** With fewer than 2^31 platform threads, whatever the
interleaving: the counter is the number of threads inside a guard; the wait ends
only when there is none; past the wait no body runs; and nobody uses a mutex that
was deleted. -/
theorem shutdown_guard {n : Nat} (hn : n < 2 ^ 31) {g : SSEGlobals}
    (hg : (shutdown n).Reachable g) :
    g.entrants = g.insiders
      ∧ (∀ g', g.finalizer.drained = false → (shutdown n).step g .appFinalize = .ok g' →
          g'.finalizer.drained = true → g.insiders = 0)
      ∧ (g.finalizer.drained = true →
          ∀ i call, (shutdown n).enabled g (.body i call) = false)
      ∧ ∀ a, (shutdown n).enabled g a = true → ∃ g', (shutdown n).step g a = .ok g' := by
  have h := (guardInv hn).reachable hg
  have hbody : g.finalizer.drained = true →
      ∀ i call, (shutdown n).enabled g (.body i call) = false := by
    intro hd i call
    apply decide_eq_false
    intro hi
    have hout : (GuardPc.entered call).admitted = false :=
      h.drained hd _ (List.mem_of_getElem? hi)
    cases hout
  refine ⟨h.counted, ?_, hbody, ?_⟩
  · intro g' hd hstep hd'
    have hstep : g.appFinalize = .ok g' := hstep
    unfold SSEGlobals.appFinalize at hstep
    cases hpc : g.finalizer with
    | waiting =>
        rw [hpc] at hstep
        cases hstep
        by_cases hzero : g.entrants = 0
        · have := h.counted
          omega
        · rw [if_pos hzero] at hd'
          cases hd'
    | running =>
        rw [hpc] at hstep
        cases hstep
        cases hd'
    | sleeping =>
        rw [hpc] at hstep
        cases hstep
        cases hd'
    -- the others are past the wait already
    | _ =>
        rw [hpc] at hd
        cases hd
  · intro a hen
    cases a with
    | body i call =>
        refine ⟨g.move i (.leaving call), ?_⟩
        show g.use call.mutex (g.move i (.leaving call)) = _
        unfold SSEGlobals.use
        rw [if_pos]
        -- a mutex is deleted only past the wait, where no body runs
        by_contra hdead
        have hd := h.deleted call.mutex (by simpa using hdead)
        rw [hbody hd i call] at hen
        cases hen
    | appFinalize =>
        show ∃ g', g.appFinalize = .ok g'
        unfold SSEGlobals.appFinalize SSEGlobals.use SSEGlobals.alive
        split
        all_goals first | exact ⟨_, rfl⟩ | (split <;> exact ⟨_, rfl⟩)
    | _ => exact ⟨_, rfl⟩

/-- A thread is let in, the flag goes down, a second thread is refused, and the
finalizer waits for both. -/
theorem shutdown_guard_twoThreads :
    ∃ g, (shutdown 2).run (.start 2)
        [.enter 0 .queuePush, .check 0 .queuePush, .appFinalize, .enter 1 .isUserClosed,
          .check 1 .isUserClosed, .appFinalize, .body 0 .queuePush, .leave 0 .queuePush,
          .backOut 1 .isUserClosed, .appFinalize, .appFinalize, .appFinalize] = some g
      ∧ g.finalizer = .deleteQueue ∧ g.entrants = g.insiders
      ∧ ∀ i call, (shutdown 2).enabled g (.body i call) = false := by
  have hrun : (shutdown 2).run (.start 2)
      [.enter 0 .queuePush, .check 0 .queuePush, .appFinalize, .enter 1 .isUserClosed,
        .check 1 .isUserClosed, .appFinalize, .body 0 .queuePush, .leave 0 .queuePush,
        .backOut 1 .isUserClosed, .appFinalize, .appFinalize, .appFinalize]
      = some ⟨false, 0, true, true, [.outside, .outside], .deleteQueue⟩ := by decide
  have h := shutdown_guard (n := 2) (by decide) ⟨_, hrun⟩
  exact ⟨_, hrun, rfl, h.1, h.2.2.1 rfl⟩

/-- `k` threads increment one after the other. -/
theorem run_enters (n k : Nat) (hk : k ≤ n) :
    ∃ g, (shutdown n).run (.start n) ((List.range k).map (fun i => .enter i .queuePush)) = some g
      ∧ g.threads = List.replicate k (.counted .queuePush) ++ List.replicate (n - k) .outside
      ∧ g.entrants = toInt32 k := by
  induction k with
  | zero => exact ⟨.start n, rfl, rfl, rfl⟩
  | succ k ih =>
      obtain ⟨g, hrun, hthreads, hentrants⟩ := ih (by omega)
      have hrest : List.replicate (n - k) GuardPc.outside
          = .outside :: List.replicate (n - (k + 1)) .outside := by
        rw [← List.replicate_succ]
        congr 1
        omega
      have hk : g.threads[k]? = some .outside := by
        rw [hthreads, List.getElem?_append_right (by simp), hrest]
        simp
      refine ⟨g.fetchAdd.move k (.counted .queuePush), ?_, ?_, ?_⟩
      · rw [List.range_succ, List.map_append]
        apply walk_trans hrun
        have hnext : (shutdown n).next g (.enter k .queuePush)
            = some (g.fetchAdd.move k (.counted .queuePush)) :=
          (shutdown n).next_eq_some.mpr ⟨decide_eq_true hk, rfl⟩
        show walk (shutdown n).next g [.enter k .queuePush] = _
        rw [walk_cons, hnext]
        rfl
      · show g.threads.set k (.counted .queuePush) = _
        rw [hthreads, List.set_append_right _ _ (by simp), hrest]
        simp [List.replicate_succ']
      · show toInt32 (g.entrants + 1) = toInt32 ((k + 1 : Nat) : Int)
        rw [hentrants]
        unfold toInt32
        rw [Int.bmod_add_bmod]
        rfl

/-- 2^31 threads inside their guards at once make the counter negative. -/
theorem entrants_wrap :
    ¬ ∀ (n : Nat) (g : SSEGlobals), (shutdown n).Reachable g → g.entrants = g.insiders := by
  intro h
  obtain ⟨g, hrun, -, hentrants⟩ := run_enters (2 ^ 31) (2 ^ 31) (le_refl _)
  have hcount := h (2 ^ 31) g ⟨_, hrun⟩
  have hwrap : toInt32 ((2 ^ 31 : Nat) : Int) = -2 ^ 31 := by decide
  rw [hentrants, hwrap] at hcount
  omega

end DefoldSSE
