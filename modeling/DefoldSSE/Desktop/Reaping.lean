/-
  DefoldSSE.Desktop.Reaping — every worker's object is owned once and freed once.

  `ReapPhase` is the life an object should lead: started, finished by its worker,
  joined, freed.  `ReapInv` says of every object where it is (the connection's
  field, the zombies, nowhere) and that its deeds so far are such a life; each
  call of the main thread or a worker is one use of `ReapInv.change`.

  Over a run of `SSE_Platform_Update` the zombies are cut in two by the loop's
  index: those asked and kept stand before it, the others after it (`Swept`).
-/
import DefoldSSE.Desktop.Reaper

namespace DefoldSSE

open CLib

/-! ## §1. The life of an object. -/

inductive ReapPhase where
  | unborn
  | refused
  | running
  | finished
  | joined
  | freed
  deriving DecidableEq, Repr

namespace ReapPhase

def next : ReapPhase → ReapDeed → Option ReapPhase
  | .unborn, .started => some .running
  | .unborn, .notStarted => some .refused
  | .running, .inspected false => some .running
  | .running, .finished => some .finished
  | .finished, .inspected true => some .finished
  | .finished, .joined => some .joined
  | .joined, .freed => some .freed
  | _, _ => none

/-- The books of an object's life so far. -/
structure Account (ds : List ReapDeed) (ph : ReapPhase) : Prop where
  started : ReapDeed.started ∈ ds ↔ ph ≠ .unborn ∧ ph ≠ .refused
  finished : ReapDeed.finished ∈ ds ↔ ph = .finished ∨ ph = .joined ∨ ph = .freed
  joined : ReapDeed.joined ∈ ds ↔ ph = .joined ∨ ph = .freed
  freed : ds.count .freed = if ph = .freed then 1 else 0

/-- One more deed, transition by transition. -/
theorem Account.next {ds : List ReapDeed} {before : ReapPhase} (h : Account ds before)
    {x : ReapDeed} {ph : ReapPhase} (hx : before.next x = some ph) : Account (ds ++ [x]) ph := by
  obtain ⟨hstarted, hfinished, hjoined, hfreed⟩ := h
  unfold ReapPhase.next at hx
  split at hx
  all_goals
    cases hx
  all_goals
    refine ⟨?_, ?_, ?_, ?_⟩ <;> simp_all [List.count_append]

/-- **Every accepted life keeps its books.** -/
theorem account {ds : List ReapDeed} :
    ∀ {ph : ReapPhase}, walk ReapPhase.next .unborn ds = some ph → Account ds ph := by
  induction ds using List.reverseRecOn with
  | nil =>
    intro ph h
    cases h
    exact ⟨by simp, by simp, by simp, rfl⟩
  | append_singleton ds x ih =>
    intro ph h
    obtain ⟨before, hbefore, hlast⟩ := walk_split h
    have hx : before.next x = some ph := by
      rw [walk_cons] at hlast
      simpa using hlast
    exact (ih hbefore).next hx

/-- **Freed after its worker has finished and was joined.** -/
theorem freed_after {before after : List ReapDeed} {ph : ReapPhase}
    (h : walk ReapPhase.next .unborn (before ++ .freed :: after) = some ph) :
    ReapDeed.finished ∈ before ∧ ReapDeed.joined ∈ before := by
  obtain ⟨m, hbefore, hrest⟩ := walk_split h
  rw [walk_cons] at hrest
  obtain ⟨m', hm', -⟩ := Option.bind_eq_some_iff.mp hrest
  -- only a joined object is freed
  have hjoined : m = .joined := by
    cases m <;> cases hm'
    rfl
  subst hjoined
  have hbooks := account hbefore
  exact ⟨hbooks.finished.mpr (.inr (.inl rfl)), hbooks.joined.mpr (.inl rfl)⟩

/-- **An inspection says whether the worker had finished.** -/
theorem inspected_iff {before after : List ReapDeed} {b : Bool} {ph : ReapPhase}
    (h : walk ReapPhase.next .unborn (before ++ .inspected b :: after) = some ph) :
    b = true ↔ ReapDeed.finished ∈ before := by
  obtain ⟨m, hbefore, hrest⟩ := walk_split h
  rw [walk_cons] at hrest
  obtain ⟨m', hm', -⟩ := Option.bind_eq_some_iff.mp hrest
  rw [(account hbefore).finished]
  -- a running object answers no, a finished one yes; no other is asked
  cases m <;> cases b <;> cases hm'
  · simp
  · simp

end ReapPhase

/-! ## §2. The invariant. -/

/-- What happened to the object `d`. -/
def reapDeeds (d : Ptr) (trace : List (Ptr × ReapDeed)) : List ReapDeed :=
  trace.filterMap (fun x => if x.1 = d then some x.2 else none)

theorem reapDeeds_append (d : Ptr) (t t' : List (Ptr × ReapDeed)) :
    reapDeeds d (t ++ t') = reapDeeds d t ++ reapDeeds d t' := List.filterMap_append

theorem reapDeeds_self (d : Ptr) (ds : List ReapDeed) :
    reapDeeds d (ds.map (fun x => (d, x))) = ds := by
  simp [reapDeeds, List.filterMap_map]

theorem reapDeeds_of_ne {d q : Ptr} (h : q ≠ d) (ds : List ReapDeed) :
    reapDeeds q (ds.map (fun x => (d, x))) = [] := by
  have hne : ¬ d = q := fun heq => h heq.symm
  simp [reapDeeds, List.filterMap_map, hne]

/-- The phases of what is at an address. -/
def Fits (x : Option DesktopObject) (ph : ReapPhase) : Prop :=
  match x with
  | some r => ph = if r.finished then .finished else .running
  | none => ph = .unborn ∨ ph = .refused ∨ ph = .freed

/-- The worker of what is at an address still runs. -/
def runs (x : Option DesktopObject) : Bool :=
  match x with
  | some r => !r.finished
  | none => false

namespace ReapControl

/-- The zombies that the loop of `SSE_Platform_Finalize` has not come to. -/
def closing : ReapControl → List Ptr
  | .finalizing zombies i => zombies.data.drop i
  | _ => []

/-- `SSE_Platform_Finalize` has begun. -/
def shutDown : ReapControl → Bool
  | .finalizing _ _ => true
  | .finalized => true
  | _ => false

end ReapControl

namespace Reaper

/-- The zombies, in whichever array. -/
def awaiting (s : Reaper) : List Ptr := s.zombies.data ++ s.control.closing

/-- How often the object is held: as the data of a connection, or as a zombie. -/
def held (s : Reaper) (d : Ptr) : Nat := s.platformData.count (some d) + s.awaiting.count d

/-- The object is freed, after these deeds. -/
def bury (s : Reaper) (d : Ptr) (ds : List ReapDeed) : Reaper :=
  { s with
    heap := Function.update s.heap d none
    trace := s.trace ++ ds.map (fun x => (d, x)) }

theorem join_free (s : Reaper) (d : Ptr) (r : DesktopObject) :
    (s.join d r).free d = .ok (s.bury d [.joined, .freed]) := by
  have hr : (s.join d r).heap d = some { r with thread := false } := Function.update_self _ _ _
  unfold free
  rw [hr]
  simp only [bury, join, write, log, Function.update_idem, List.append_assoc]
  rfl

end Reaper

structure ReapInv (s : Reaper) : Prop where
  /-- A live object is held once, a dead one nowhere. -/
  held : ∀ d, s.held d = if (s.heap d).isSome then 1 else 0
  thread : ∀ d r, s.heap d = some r → r.thread = true
  running : ∀ d, s.running d = runs (s.heap d)
  life : ∀ d, ∃ ph, walk ReapPhase.next .unborn (reapDeeds d s.trace) = some ph ∧ Fits (s.heap d) ph
  unborn : ∀ d, s.nextPtr ≤ d → reapDeeds d s.trace = []
  /-- At the end no connection has data, and all zombies are in the local array. -/
  shutDown : s.control.shutDown = true →
    (∀ d, s.platformData.count (some d) = 0) ∧ s.zombies.data = []

theorem reapInv_init : ReapInv .platformInitialize where
  held d := rfl
  thread d r h := by cases h
  running d := rfl
  life d := ⟨.unborn, rfl, .inl rfl⟩
  unborn d _ := rfl
  shutDown h := by cases h

namespace ReapInv

variable {s s' : Reaper}

/-- **Something happens to one object**; the others stay where they are. -/
theorem change (h : ReapInv s) {d : Ptr} {x : Option DesktopObject} (ds : List ReapDeed)
    (hheap : s'.heap = Function.update s.heap d x)
    (htrace : s'.trace = s.trace ++ ds.map (fun x => (d, x)))
    (hrunning : s'.running = Function.update s.running d (runs x))
    (hgrows : s.nextPtr ≤ s'.nextPtr) (hborn : d < s'.nextPtr)
    (hthread : ∀ r, x = some r → r.thread = true)
    (hlife : ∃ ph, walk ReapPhase.next .unborn (reapDeeds d s.trace ++ ds) = some ph ∧ Fits x ph)
    (hself : s'.held d = if x.isSome then 1 else 0) (hothers : ∀ q, q ≠ d → s'.held q = s.held q)
    (hshutDown : s'.control.shutDown = true →
      (∀ d, s'.platformData.count (some d) = 0) ∧ s'.zombies.data = []) : ReapInv s' where
  held q := by
    by_cases hq : q = d
    · subst hq
      rw [hheap, Function.update_self]
      exact hself
    · rw [hheap, Function.update_of_ne hq, hothers q hq]
      exact h.held q
  thread q r hr := by
    rw [hheap] at hr
    rcases update_eq_some hr with ⟨-, hnew⟩ | ⟨-, hold⟩
    · exact hthread r hnew
    · exact h.thread q r hold
  running q := by
    rw [hrunning, hheap]
    by_cases hq : q = d
    · subst hq
      rw [Function.update_self, Function.update_self]
    · rw [Function.update_of_ne hq, Function.update_of_ne hq]
      exact h.running q
  life q := by
    rw [htrace, hheap, reapDeeds_append]
    by_cases hq : q = d
    · subst hq
      rw [reapDeeds_self, Function.update_self]
      exact hlife
    · rw [reapDeeds_of_ne hq, List.append_nil, Function.update_of_ne hq]
      exact h.life q
  unborn q hq := by
    have hne : q ≠ d := by
      rintro rfl
      exact absurd hborn (Nat.not_lt.mpr hq)
    rw [htrace, reapDeeds_append, reapDeeds_of_ne hne, List.append_nil]
    exact h.unborn q (Nat.le_trans hgrows hq)
  shutDown := hshutDown

/-- A live object is in the phase of its flag. -/
theorem life_of_some (h : ReapInv s) {d : Ptr} {r : DesktopObject} (hr : s.heap d = some r) :
    walk ReapPhase.next .unborn (reapDeeds d s.trace)
      = some (if r.finished then .finished else .running) := by
  obtain ⟨ph, hwalk, hfits⟩ := h.life d
  rw [hr] at hfits
  rw [hwalk, show ph = _ from hfits]

/-- Whatever is held is alive. -/
theorem alive (h : ReapInv s) {d : Ptr} (hd : 0 < s.held d) : ∃ r, s.heap d = some r := by
  rw [h.held d] at hd
  cases hheap : s.heap d with
  | some r => exact ⟨r, rfl⟩
  | none =>
      rw [hheap] at hd
      exact absurd hd (Nat.lt_irrefl 0)

/-- A live object was given its address. -/
theorem born (h : ReapInv s) {d : Ptr} {r : DesktopObject} (hr : s.heap d = some r) :
    d < s.nextPtr := by
  by_contra hunborn
  have hwalk := h.life_of_some hr
  rw [h.unborn d (Nat.le_of_not_lt hunborn), walk_nil] at hwalk
  cases hfinished : r.finished with
  | true =>
      rw [hfinished] at hwalk
      cases hwalk
  | false =>
      rw [hfinished] at hwalk
      cases hwalk

end ReapInv

/-! ## §3. What a step does. -/

inductive Reaps (s : Reaper) : ReapAction → Reaper → Prop where
  | connected (hidle : s.control = .idle) : Reaps s (.connect true) (s.connect true)
  | refused (hidle : s.control = .idle) : Reaps s (.connect false) (s.connect false)
  | ignored {c : Nat} : Reaps s (.disconnect c) s
  | freed {c : Nat} {d : Ptr} {r : DesktopObject} (hc : s.platformData[c]? = some (some d))
      (hr : s.heap d = some r) (hfinished : r.finished = true) (hidle : s.control = .idle) :
      Reaps s (.disconnect c)
        { s.bury d [.inspected true, .joined, .freed] with
          platformData := s.platformData.set c none }
  | deferred {c : Nat} {d : Ptr} {r : DesktopObject} (hc : s.platformData[c]? = some (some d))
      (hr : s.heap d = some r) (hrunning : r.finished = false) (hidle : s.control = .idle) :
      Reaps s (.disconnect c)
        { (s.write d { r with stop := true }).log d (.inspected false) with
          platformData := s.platformData.set c none
          zombies := s.zombies.pushGrowing d }
  | finished {d : Ptr} {r : DesktopObject} (hr : s.heap d = some r)
      (hrunning : r.finished = false) :
      Reaps s (.markFinished d)
        ({ s.write d { r with finished := true } with
          running := Function.update s.running d false }.log d .finished)
  | updated (hidle : s.control = .idle) : Reaps s .update { s with control := .updating 0 }
  | reaped {i : Nat} {d : Ptr} {r : DesktopObject} (hcontrol : s.control = .updating i)
      (hi : s.zombies.data[i]? = some d) (hr : s.heap d = some r) (hfinished : r.finished = true) :
      Reaps s .inspect
        { s.bury d [.inspected true, .joined, .freed] with zombies := s.zombies.eraseSwap i }
  | kept {i : Nat} {d : Ptr} {r : DesktopObject} (hcontrol : s.control = .updating i)
      (hi : s.zombies.data[i]? = some d) (hr : s.heap d = some r) (hrunning : r.finished = false) :
      Reaps s .inspect { s.log d (.inspected false) with control := .updating (i + 1) }
  | updateOver {i : Nat} (hcontrol : s.control = .updating i) (hi : s.zombies.data[i]? = none) :
      Reaps s .inspect { s with control := .idle }
  | finalizes (hidle : s.control = .idle) (hnone : ∀ d, s.platformData.count (some d) = 0) :
      Reaps s .finalize s.finalize
  | closed {zombies : DmArray Ptr} {i : Nat} {d : Ptr} {r : DesktopObject}
      (hcontrol : s.control = .finalizing zombies i) (hi : zombies.data[i]? = some d)
      (hr : s.heap d = some r) (hfinished : r.finished = true) :
      Reaps s .finalizeNext
        { s.bury d [.joined, .freed] with control := .finalizing zombies (i + 1) }
  | finalizeOver {zombies : DmArray Ptr} {i : Nat} (hcontrol : s.control = .finalizing zombies i)
      (hi : zombies.data[i]? = none) : Reaps s .finalizeNext { s with control := .finalized }

namespace Reaper

theorem idle_of_isIdle {s : Reaper} (h : s.control.isIdle = true) : s.control = .idle := by
  cases hcontrol : s.control with
  | idle => rfl
  | _ =>
      rw [hcontrol] at h
      cases h

theorem not_shutDown {s : Reaper} (hidle : s.control = .idle) : ¬ s.control.shutDown = true := by
  rw [hidle]
  exact Bool.false_ne_true

theorem held_of_owned {s : Reaper} {c : Nat} {d : Ptr} (hc : s.platformData[c]? = some (some d)) :
    0 < s.held d :=
  Nat.add_pos_left (List.count_pos_iff.mpr (List.mem_of_getElem? hc)) _

theorem held_of_zombie {s : Reaper} {i : Nat} {d : Ptr} (hi : s.zombies.data[i]? = some d) :
    0 < s.held d :=
  Nat.add_pos_right _ (List.count_pos_iff.mpr (List.mem_append_left _ (List.mem_of_getElem? hi)))

theorem held_of_closing {s : Reaper} {zombies : DmArray Ptr} {i : Nat} {d : Ptr}
    (hcontrol : s.control = .finalizing zombies i) (hi : zombies.data[i]? = some d) :
    0 < s.held d := by
  apply Nat.add_pos_right
  apply List.count_pos_iff.mpr
  apply List.mem_append_right
  rw [hcontrol]
  show d ∈ zombies.data.drop i
  exact List.mem_of_getElem? (i := 0) (by rw [List.getElem?_drop]; exact hi)

end Reaper

namespace ReapInv

variable {s s' : Reaper}

/-- **No step reads or frees an object that is gone**, and each does one of these
things. -/
theorem reaps (h : ReapInv s) {a : ReapAction} (hen : s.enabled a = true) :
    ∃ s', s.step a = .ok s' ∧ Reaps s a s' := by
  cases a with
  | connect started =>
      cases started with
      | true => exact ⟨_, rfl, .connected (Reaper.idle_of_isIdle hen)⟩
      | false => exact ⟨_, rfl, .refused (Reaper.idle_of_isIdle hen)⟩
  | disconnect c =>
      have hidle : s.control = .idle := Reaper.idle_of_isIdle hen
      show ∃ s', s.disconnect c = .ok s' ∧ _
      unfold Reaper.disconnect
      split
      · next d hc =>
          obtain ⟨r, hr⟩ := h.alive (Reaper.held_of_owned hc)
          have hthread := h.thread d r hr
          rw [hr]
          simp only
          -- only objects whose thread was started are stored, so it is not freed here
          rw [if_neg (by simp [hthread])]
          by_cases hfinished : r.finished = true
          · refine ⟨_, ?_, .freed hc hr hfinished hidle⟩
            rw [if_pos hfinished, Reaper.join_free, hfinished]
            simp only [Reaper.bury, Reaper.write, Reaper.log, Function.update_idem,
              List.append_assoc]
            rfl
          · have hrunning : r.finished = false := by simpa using hfinished
            refine ⟨_, ?_, .deferred hc hr hrunning hidle⟩
            rw [if_neg hfinished, hrunning]
            rfl
      · exact ⟨s, rfl, .ignored⟩
  | markFinished d =>
      have hrunning : runs (s.heap d) = true := by
        rw [← h.running d]
        exact hen
      cases hr : s.heap d with
      | none =>
          rw [hr] at hrunning
          cases hrunning
      | some r =>
          rw [hr] at hrunning
          have hfinished : r.finished = false := by simpa [runs] using hrunning
          refine ⟨_, ?_, .finished hr hfinished⟩
          show s.markFinished d = _
          unfold Reaper.markFinished
          rw [hr]
  | update => exact ⟨_, rfl, .updated (Reaper.idle_of_isIdle hen)⟩
  | inspect =>
      have hupdating : s.control.isUpdating = true := hen
      show ∃ s', s.inspect = .ok s' ∧ _
      unfold Reaper.inspect
      cases hcontrol : s.control with
      | updating i =>
          simp only
          cases hi : s.zombies.data[i]? with
          | none => exact ⟨_, rfl, .updateOver hcontrol hi⟩
          | some d =>
              obtain ⟨r, hr⟩ := h.alive (Reaper.held_of_zombie hi)
              simp only [hr]
              by_cases hfinished : r.finished = true
              · refine ⟨_, ?_, .reaped hcontrol hi hr hfinished⟩
                rw [if_pos hfinished, Reaper.join_free, hfinished]
                simp only [Reaper.bury, Reaper.log, List.append_assoc]
                rfl
              · have hrunning : r.finished = false := by simpa using hfinished
                refine ⟨_, ?_, .kept hcontrol hi hr hrunning⟩
                rw [if_neg hfinished, hrunning]
      | _ =>
          rw [hcontrol] at hupdating
          cases hupdating
  | finalize =>
      obtain ⟨hidle, hnone⟩ := Bool.and_eq_true_iff.mp hen
      refine ⟨_, rfl, .finalizes (Reaper.idle_of_isIdle hidle) (fun d => ?_)⟩
      rw [List.count_eq_zero]
      intro hmem
      have hdata := List.all_eq_true.mp hnone _ hmem
      cases hdata
  | finalizeNext =>
      obtain ⟨hfinalizing, hreturns⟩ := Bool.and_eq_true_iff.mp hen
      show ∃ s', s.finalizeNext = .ok s' ∧ _
      unfold Reaper.joinReturns at hreturns
      unfold Reaper.finalizeNext
      cases hcontrol : s.control with
      | finalizing zombies i =>
          rw [hcontrol] at hreturns
          simp only at hreturns ⊢
          cases hi : zombies.data[i]? with
          | none => exact ⟨_, rfl, .finalizeOver hcontrol hi⟩
          | some d =>
              obtain ⟨r, hr⟩ := h.alive (Reaper.held_of_closing hcontrol hi)
              rw [hi] at hreturns
              -- a join that returns is one of a finished worker
              simp only [h.running d, hr, runs, Bool.not_not] at hreturns
              simp only [hr, h.thread d r hr, if_true, Reaper.join_free]
              exact ⟨_, rfl, .closed hcontrol hi hr hreturns⟩
      | _ =>
          rw [hcontrol] at hfinalizing
          cases hfinalizing

/-! ## §4. The invariant is kept. -/

/-- The main thread goes on, and nothing else happens. -/
theorem goesOn (h : ReapInv s) {c : ReapControl} (hclosing : c.closing = s.control.closing)
    (hshutDown : c.shutDown = true →
      (∀ d, s.platformData.count (some d) = 0) ∧ s.zombies.data = []) :
    ReapInv { s with control := c } where
  held d := by
    show s.platformData.count (some d) + (s.zombies.data ++ c.closing).count d = _
    rw [hclosing]
    exact h.held d
  thread := h.thread
  running := h.running
  life := h.life
  unborn := h.unborn
  shutDown := hshutDown

/-- `running` says what it said before. -/
theorem running_same (h : ReapInv s) {d : Ptr} {x : Option DesktopObject}
    (hx : runs x = runs (s.heap d)) : s.running = Function.update s.running d (runs x) := by
  rw [hx, ← h.running d]
  exact (Function.update_eq_self d s.running).symm

/-- Where no object is yet, none is held. -/
theorem fresh (h : ReapInv s) : s.heap s.nextPtr = none := by
  cases hr : s.heap s.nextPtr with
  | none => rfl
  | some r => exact absurd (h.born hr) (Nat.lt_irrefl _)

/-- The connection gives its object up. -/
theorem count_released {l : List (Option Ptr)} {c : Nat} {d : Ptr} (hc : l[c]? = some (some d))
    (q : Ptr) :
    (l.set c none).count (some q) + (if q = d then 1 else 0) = l.count (some q) := by
  obtain ⟨hlt, hget⟩ := List.getElem?_eq_some_iff.mp hc
  rw [List.count_set hlt, hget]
  by_cases hq : q = d
  · subst hq
    have hpos : 0 < l.count (some q) := List.count_pos_iff.mpr (List.mem_of_getElem? hc)
    simp only [beq_self_eq_true, if_true, reduceCtorEq, beq_iff_eq, if_false]
    omega
  · have hne : ¬ (some d == some q) = true := by
      simpa using fun h => hq h.symm
    simp only [hne, reduceCtorEq, beq_iff_eq, if_false, hq]
    omega

theorem connected (h : ReapInv s) (hidle : s.control = .idle) : ReapInv (s.connect true) := by
  have hnone : s.held s.nextPtr = 0 := by
    rw [h.held, h.fresh]
    rfl
  have hheld : ∀ q, (s.connect true).held q = s.held q + if q = s.nextPtr then 1 else 0 := by
    intro q
    show (s.platformData ++ [some s.nextPtr]).count (some q) + s.awaiting.count q = _
    unfold Reaper.held
    rw [List.count_append, List.count_singleton]
    by_cases hq : q = s.nextPtr
    · subst hq
      simp only [beq_self_eq_true, if_true]
      omega
    · have hne : ¬ (some s.nextPtr == some q) = true := by
        simpa using fun h => hq h.symm
      rw [if_neg hne, if_neg hq]
      omega
  refine h.change (d := s.nextPtr) (x := some { thread := true }) [.started] rfl rfl rfl
    (Nat.le_succ _) (Nat.lt_succ_self _) ?_ ?_ ?_ ?_ ?_
  · intro r hr
    cases hr
    rfl
  · rw [h.unborn _ (Nat.le_refl _)]
    exact ⟨.running, rfl, rfl⟩
  · rw [hheld, hnone, if_pos rfl]
    rfl
  · intro q hq
    rw [hheld, if_neg hq, Nat.add_zero]
  · exact fun hclosed => (Reaper.not_shutDown hidle hclosed).elim

theorem refused (h : ReapInv s) (hidle : s.control = .idle) : ReapInv (s.connect false) := by
  have hheld : ∀ q, (s.connect false).held q = s.held q := by
    intro q
    show (s.platformData ++ [none]).count (some q) + s.awaiting.count q = _
    unfold Reaper.held
    rw [List.count_append, List.count_singleton]
    simp only [reduceCtorEq, beq_iff_eq, if_false, Nat.add_zero]
  have hheap : (s.connect false).heap = Function.update s.heap s.nextPtr none := by
    rw [← h.fresh]
    exact (Function.update_eq_self _ _).symm
  refine h.change (d := s.nextPtr) (x := none) [.notStarted] hheap rfl
    (h.running_same (by rw [h.fresh])) (Nat.le_succ _) (Nat.lt_succ_self _) ?_ ?_ ?_ ?_ ?_
  · intro r hr
    cases hr
  · rw [h.unborn _ (Nat.le_refl _)]
    exact ⟨.refused, rfl, .inr (.inl rfl)⟩
  · rw [hheld, h.held, h.fresh]
  · intro q _
    exact hheld q
  · exact fun hclosed => (Reaper.not_shutDown hidle hclosed).elim

/-- What is freed was held once, and is held no more. -/
theorem bury (h : ReapInv s) {d : Ptr} {r : DesktopObject} {ds : List ReapDeed}
    {platformData : List (Option Ptr)} {zombies : DmArray Ptr} {control : ReapControl}
    (hr : s.heap d = some r) (hfinished : r.finished = true)
    (hds : walk ReapPhase.next .finished ds = some .freed)
    (hheld : ∀ q, platformData.count (some q) + (zombies.data ++ control.closing).count q
      + (if q = d then 1 else 0) = s.held q)
    (hshutDown : control.shutDown = true →
      (∀ d, platformData.count (some d) = 0) ∧ zombies.data = []) :
    ReapInv { s.bury d ds with
      platformData := platformData, zombies := zombies, control := control } := by
  refine h.change (d := d) (x := none) ds rfl rfl (h.running_same ?_) (Nat.le_refl _)
    (h.born hr) ?_ ?_ ?_ ?_ hshutDown
  · rw [hr]
    show false = !r.finished
    rw [hfinished]
    rfl
  · intro r' hr'
    cases hr'
  · have hwalk := h.life_of_some hr
    rw [hfinished] at hwalk
    exact ⟨.freed, walk_trans hwalk hds, .inr (.inr rfl)⟩
  · have hone := hheld d
    rw [if_pos rfl, h.held d, hr] at hone
    have hone : platformData.count (some d) + (zombies.data ++ control.closing).count d + 1 = 1 :=
      hone
    show platformData.count (some d) + (zombies.data ++ control.closing).count d = 0
    omega
  · intro q hq
    have hsame := hheld q
    rw [if_neg hq, Nat.add_zero] at hsame
    exact hsame

/-- A live object goes on to live, and stays held. -/
theorem touched (h : ReapInv s) {d : Ptr} {r r' : DesktopObject} {ds : List ReapDeed}
    (hr : s.heap d = some r) (hheap : s'.heap = Function.update s.heap d (some r'))
    (hds : walk ReapPhase.next (if r.finished then .finished else .running) ds
      = some (if r'.finished then .finished else .running))
    (hthread : r'.thread = r.thread) (htrace : s'.trace = s.trace ++ ds.map (fun x => (d, x)))
    (hrunning : s'.running = Function.update s.running d (!r'.finished))
    (hptr : s'.nextPtr = s.nextPtr)
    (hheld : ∀ q, s'.held q = s.held q)
    (hshutDown : s'.control.shutDown = true →
      (∀ d, s'.platformData.count (some d) = 0) ∧ s'.zombies.data = []) : ReapInv s' := by
  refine h.change ds hheap htrace hrunning (Nat.le_of_eq hptr.symm) (hptr ▸ h.born hr) ?_ ?_ ?_
    (fun q _ => hheld q) hshutDown
  · intro r'' hr''
    cases hr''
    rw [hthread]
    exact h.thread d r hr
  · exact ⟨_, walk_trans (h.life_of_some hr) hds, rfl⟩
  · rw [hheld, h.held, hr]
    rfl

/-- The flag of a live object already says whether it runs. -/
theorem flag_kept (h : ReapInv s) {d : Ptr} {r : DesktopObject} (hr : s.heap d = some r) :
    s.running = Function.update s.running d (!r.finished) := by
  have hsame := h.running_same (d := d) (x := some r) (by rw [hr])
  exact hsame

/-- An object that is asked and answers that it runs goes on running. -/
theorem walk_inspected {r : DesktopObject} (hrunning : r.finished = false) :
    walk ReapPhase.next (if r.finished then .finished else .running) [.inspected false]
      = some (if r.finished then .finished else .running) := by
  rw [hrunning]
  rfl

/-- **Every step keeps the invariant.** -/
theorem next (h : ReapInv s) {a : ReapAction} (hs' : Reaps s a s') : ReapInv s' := by
  cases hs' with
  | connected hidle => exact h.connected hidle
  | refused hidle => exact h.refused hidle
  | ignored => exact h
  | @freed c d r hc hr hfinished hidle =>
      refine h.bury hr hfinished rfl (fun q => ?_) (fun hclosed => ?_)
      · have hcount := count_released hc q
        show (s.platformData.set c none).count (some q) + s.awaiting.count q + _ = s.held q
        unfold Reaper.held
        omega
      · exact (Reaper.not_shutDown hidle hclosed).elim
  | @deferred c d r hc hr hrunning hidle =>
      refine h.touched hr rfl (walk_inspected hrunning) rfl rfl (h.flag_kept (r := r) hr) rfl (fun q => ?_)
        (fun hclosed => ?_)
      · -- from the connection to the zombies
        have hcount := count_released hc q
        show (s.platformData.set c none).count (some q)
          + ((s.zombies.pushGrowing d).data ++ s.control.closing).count q = s.held q
        unfold Reaper.held Reaper.awaiting
        rw [DmArray.pushGrowing_data, List.count_append, List.count_append, List.count_append,
          List.count_singleton]
        simp only [beq_iff_eq, eq_comm (a := d)]
        omega
      · exact (Reaper.not_shutDown hidle hclosed).elim
  | @finished d r hr hrunning =>
      have hds : walk ReapPhase.next (if r.finished then .finished else .running) [.finished]
          = some .finished := by
        rw [hrunning]
        rfl
      exact h.touched hr rfl hds rfl rfl rfl rfl (fun q => rfl) h.shutDown
  | updated hidle =>
      apply h.goesOn
      · rw [hidle]
        rfl
      · intro hclosed
        cases hclosed
  | @reaped i d r hcontrol hi hr hfinished =>
      refine h.bury hr hfinished rfl (fun q => ?_) (fun hclosed => ?_)
      · -- the others are still there, in another order
        obtain ⟨hlt, hget⟩ := List.getElem?_eq_some_iff.mp hi
        have hperm := (s.zombies.cons_eraseSwap_perm hlt).count_eq q
        rw [hget, List.count_cons] at hperm
        show s.platformData.count (some q)
          + ((s.zombies.eraseSwap i).data ++ s.control.closing).count q + _ = s.held q
        unfold Reaper.held Reaper.awaiting
        rw [List.count_append, List.count_append]
        simp only [beq_iff_eq, eq_comm (a := d)] at hperm
        omega
      · have hclosed : s.control.shutDown = true := hclosed
        rw [hcontrol] at hclosed
        cases hclosed
  | @kept i d r hcontrol hi hr hrunning =>
      have hheap : s.heap = Function.update s.heap d (some r) := by
        rw [← hr]
        exact (Function.update_eq_self d s.heap).symm
      refine h.touched hr hheap (walk_inspected hrunning) rfl rfl (h.flag_kept hr) rfl (fun q => ?_)
        (fun hclosed => by cases hclosed)
      unfold Reaper.held Reaper.awaiting
      rw [hcontrol]
      rfl
  | updateOver hcontrol hi =>
      apply h.goesOn
      · rw [hcontrol]
        rfl
      · intro hclosed
        cases hclosed
  | finalizes hidle hnone =>
      refine ⟨fun d => ?_, h.thread, h.running, h.life, h.unborn, fun _ => ⟨hnone, rfl⟩⟩
      have hsame : s.finalize.held d = s.held d := by
        unfold Reaper.held Reaper.awaiting
        rw [hidle]
        show _ + ([] ++ s.zombies.data.drop 0).count d = _ + (s.zombies.data ++ []).count d
        rw [List.nil_append, List.drop_zero, List.append_nil]
        rfl
      rw [hsame]
      exact h.held d
  | @closed zombies i d r hcontrol hi hr hfinished =>
      have hshut := h.shutDown (by rw [hcontrol]; rfl)
      refine h.bury hr hfinished rfl (fun q => ?_) (fun _ => hshut)
      obtain ⟨hlt, hget⟩ := List.getElem?_eq_some_iff.mp hi
      have hdrop : zombies.data.drop i = d :: zombies.data.drop (i + 1) := by
        rw [List.drop_eq_getElem_cons hlt, hget]
      show s.platformData.count (some q) + (s.zombies.data ++ zombies.data.drop (i + 1)).count q + _
        = s.held q
      unfold Reaper.held Reaper.awaiting
      rw [hcontrol]
      show _ = _ + (s.zombies.data ++ zombies.data.drop i).count q
      rw [hdrop, List.count_append, List.count_append, List.count_cons]
      simp only [beq_iff_eq, eq_comm (a := d)]
      omega
  | @finalizeOver zombies i hcontrol hi =>
      apply h.goesOn
      · rw [hcontrol]
        show [] = zombies.data.drop i
        exact (List.drop_eq_nil_of_le (List.getElem?_eq_none_iff.mp hi)).symm
      · intro _
        apply h.shutDown
        rw [hcontrol]
        rfl

end ReapInv

theorem ReapInv.reaps_of_ok {s s' : Reaper} (h : ReapInv s) {a : ReapAction}
    (hen : s.enabled a = true) (hok : s.step a = .ok s') : Reaps s a s' := by
  obtain ⟨s'', hok', hs''⟩ := h.reaps hen
  rw [hok] at hok'
  cases hok'
  exact hs''

/-- **`ReapInv` holds in every reachable state.** -/
theorem reapInvariant : reaper.Invariant ReapInv where
  init := reapInv_init
  step _ _ _ h hen hok := h.next (h.reaps_of_ok hen hok)

/-! ## §5. One `SSE_Platform_Update`. -/

/-- The objects asked in a piece of the history, and the answers. -/
def inspections (t : List (Ptr × ReapDeed)) : List (Ptr × Bool) :=
  t.filterMap (fun x =>
    match x.2 with
    | .inspected b => some (x.1, b)
    | _ => none)

theorem inspections_append (t t' : List (Ptr × ReapDeed)) :
    inspections (t ++ t') = inspections t ++ inspections t' := List.filterMap_append

/-- What can happen while the loop runs. -/
def ReapAction.duringUpdate : ReapAction → Bool
  | .inspect => true
  | .markFinished _ => true
  | _ => false

/-- The zombies that the loop has asked and kept; all of them, when it is over. -/
def Reaper.kept (s : Reaper) : List Ptr :=
  match s.control with
  | .updating i => s.zombies.data.take i
  | _ => s.zombies.data

/-- The loop began in `s₀` and has come to `s` in `n` turns: the zombies in
`removed` are gone. -/
structure Swept (s₀ s : Reaper) (n : Nat) (t : List (Ptr × ReapDeed)) (removed : List Ptr) :
    Prop where
  trace : s.trace = s₀.trace ++ t
  split : (s.zombies.data ++ removed).Perm s₀.zombies.data
  asked : (inspections t).Perm (s.kept.map (·, false) ++ removed.map (·, true))
  gone : ∀ d ∈ removed, ReapDeed.freed ∈ reapDeeds d s.trace
  /-- Each turn asks one zombie, but for the last. -/
  turns : n = (inspections t).length + if s.control.isUpdating then 0 else 1

/-- The loop asks no more zombies than there were. -/
theorem Swept.turns_le {s₀ s : Reaper} {n : Nat} {t : List (Ptr × ReapDeed)} {removed : List Ptr}
    (h : Swept s₀ s n t removed) : n ≤ s₀.zombies.data.length + 1 := by
  have hasked := h.asked.length_eq
  have hsplit := h.split.length_eq
  have hkept : s.kept.length ≤ s.zombies.data.length := by
    unfold Reaper.kept
    split
    · exact List.length_take_le' _ _
    · exact Nat.le_refl _
  rw [List.length_append, List.length_map, List.length_map] at hasked
  rw [List.length_append] at hsplit
  have hturns := h.turns
  split at hturns <;> omega

/-- What was freed stays freed. -/
theorem freed_grown {d : Ptr} {t : List (Ptr × ReapDeed)} (h : ReapDeed.freed ∈ reapDeeds d t)
    (x : List (Ptr × ReapDeed)) : ReapDeed.freed ∈ reapDeeds d (t ++ x) := by
  rw [reapDeeds_append]
  exact List.mem_append_left _ h

namespace Swept

variable {s₀ s : Reaper} {n : Nat} {t : List (Ptr × ReapDeed)} {removed : List Ptr}

/-- A worker finishes while the loop runs: no zombie moves. -/
theorem finished (h : Swept s₀ s n t removed) (d : Ptr) (r : DesktopObject) (running : Ptr → Bool) :
    Swept s₀ ({ s.write d r with running := running }.log d .finished) n (t ++ [(d, .finished)])
      removed where
  trace := by
    show s.trace ++ _ = _
    rw [h.trace, List.append_assoc]
  split := h.split
  asked := by
    rw [inspections_append]
    show (inspections t ++ []).Perm _
    rw [List.append_nil]
    exact h.asked
  gone := fun q hq => freed_grown (h.gone q hq) _
  turns := by
    rw [inspections_append, h.turns]
    show _ = (inspections t ++ []).length + if s.control.isUpdating then 0 else 1
    rw [List.append_nil]

/-- A zombie that has finished goes; the last one takes its place, not yet asked. -/
theorem reaped (h : Swept s₀ s n t removed) {i : Nat} {d : Ptr} (hcontrol : s.control = .updating i)
    (hi : s.zombies.data[i]? = some d) :
    Swept s₀
      { s.bury d [.inspected true, .joined, .freed] with zombies := s.zombies.eraseSwap i } (n + 1)
      (t ++ [(d, .inspected true), (d, .joined), (d, .freed)]) (removed ++ [d]) := by
  obtain ⟨hlt, hget⟩ := List.getElem?_eq_some_iff.mp hi
  refine ⟨?_, ?_, ?_, ?_, ?_⟩
  · show s.trace ++ _ = _
    rw [h.trace, List.append_assoc]
    rfl
  · have hperm := s.zombies.cons_eraseSwap_perm hlt
    rw [hget] at hperm
    show ((s.zombies.eraseSwap i).data ++ (removed ++ [d])).Perm s₀.zombies.data
    rw [← List.append_assoc]
    refine (List.perm_append_singleton d _).trans (.trans ?_ h.split)
    exact hperm.append_right removed
  · -- what stands before the index has not moved
    have hkept : Reaper.kept { s.bury d [.inspected true, .joined, .freed] with
        zombies := s.zombies.eraseSwap i } = s.kept := by
      unfold Reaper.kept
      show (match s.control with
        | .updating i => _
        | _ => _) = _
      rw [hcontrol]
      exact s.zombies.take_eraseSwap hlt
    rw [hkept, inspections_append, List.map_append, ← List.append_assoc]
    exact h.asked.append_right _
  · intro q hq
    rcases List.mem_append.mp hq with hq | hq
    · exact freed_grown (h.gone q hq) _
    · rw [List.mem_singleton.mp hq]
      show ReapDeed.freed ∈ reapDeeds d (s.trace ++ _)
      rw [reapDeeds_append, reapDeeds_self]
      simp
  · have hupdating : s.control.isUpdating = true := by
      rw [hcontrol]
      rfl
    rw [inspections_append, h.turns, if_pos hupdating]
    show _ = (inspections t ++ [(d, true)]).length + if s.control.isUpdating then 0 else 1
    rw [List.length_append, if_pos hupdating]
    rfl

/-- A zombie whose worker still runs stays, and the index moves over it. -/
theorem stays (h : Swept s₀ s n t removed) {i : Nat} {d : Ptr} (hcontrol : s.control = .updating i)
    (hi : s.zombies.data[i]? = some d) :
    Swept s₀ { s.log d (.inspected false) with control := .updating (i + 1) } (n + 1)
      (t ++ [(d, .inspected false)]) removed where
  trace := by
    show s.trace ++ _ = _
    rw [h.trace, List.append_assoc]
  split := h.split
  asked := by
    have hkept : Reaper.kept { s.log d (.inspected false) with control := .updating (i + 1) }
        = s.kept ++ [d] := by
      unfold Reaper.kept
      rw [hcontrol]
      show s.zombies.data.take (i + 1) = s.zombies.data.take i ++ [d]
      rw [List.take_add_one, hi]
      rfl
    rw [hkept, inspections_append, List.map_append]
    refine (h.asked.append_right _).trans ?_
    rw [List.append_assoc, List.append_assoc]
    exact List.perm_append_comm.append_left _
  gone := fun q hq => freed_grown (h.gone q hq) _
  turns := by
    rw [inspections_append, h.turns, hcontrol]
    show _ = (inspections t ++ [(d, false)]).length + 0
    rw [List.length_append]
    rfl

/-- The turn that finds no zombie ends the loop. -/
theorem ends (h : Swept s₀ s n t removed) {i : Nat} (hcontrol : s.control = .updating i)
    (hi : s.zombies.data[i]? = none) :
    Swept s₀ { s with control := .idle } (n + 1) t removed where
  trace := h.trace
  split := h.split
  asked := by
    -- the index is behind the last one, so all were asked
    have hkept : Reaper.kept { s with control := .idle } = s.kept := by
      unfold Reaper.kept
      rw [hcontrol]
      exact (List.take_of_length_le (List.getElem?_eq_none_iff.mp hi)).symm
    rw [hkept]
    exact h.asked
  gone := h.gone
  turns := by
    rw [h.turns, hcontrol]
    rfl

/-- **One turn of the loop**, or a worker that finishes meanwhile. -/
theorem next {s' : Reaper} (h : Swept s₀ s n t removed) {a : ReapAction}
    (ha : a.duringUpdate = true) (hs' : Reaps s a s') :
    ∃ t' removed', Swept s₀ s' (n + if a = .inspect then 1 else 0) t' removed' := by
  cases hs' with
  | @finished d r _ _ =>
      rw [if_neg (by simp)]
      exact ⟨_, _, h.finished d _ _⟩
  | reaped hcontrol hi _ _ => exact ⟨_, _, h.reaped hcontrol hi⟩
  | kept hcontrol hi _ _ => exact ⟨_, _, h.stays hcontrol hi⟩
  | updateOver hcontrol hi => exact ⟨_, _, h.ends hcontrol hi⟩
  | _ => cases ha

end Swept

/-- **The run of the loop.** -/
theorem swept_run {s₀ s s' : Reaper} {n : Nat} {t : List (Ptr × ReapDeed)} {removed : List Ptr}
    (hinv : ReapInv s) (h : Swept s₀ s n t removed) {bs : List ReapAction}
    (hbs : ∀ b ∈ bs, b.duringUpdate = true) (hrun : reaper.run s bs = some s') :
    ∃ t' removed', Swept s₀ s' (n + bs.count .inspect) t' removed' := by
  induction bs generalizing s n t removed with
  | nil =>
    cases hrun
    exact ⟨t, removed, h⟩
  | cons b bs ih =>
    obtain ⟨m, hm, hrest⟩ := Option.bind_eq_some_iff.mp hrun
    obtain ⟨hen, hok⟩ := reaper.next_eq_some.mp hm
    have hreaps := hinv.reaps_of_ok hen hok
    obtain ⟨t', removed', hnext⟩ := h.next (hbs b List.mem_cons_self) hreaps
    have hlater := ih (hinv.next hreaps) hnext (fun b' hb' => hbs b' (List.mem_cons_of_mem _ hb'))
      hrest
    rw [List.count_cons]
    simp only [beq_iff_eq]
    rwa [Nat.add_assoc, Nat.add_comm (if b = .inspect then 1 else 0)] at hlater

/-- **A whole `SSE_Platform_Update`**, up to any of its turns. -/
theorem swept_update {s s' : Reaper} (h : ReapInv s) (hidle : s.control = .idle)
    {bs : List ReapAction} (hbs : ∀ b ∈ bs, b.duringUpdate = true)
    (hrun : reaper.run s (.update :: bs) = some s') :
    ∃ t removed, Swept s s' (bs.count .inspect) t removed := by
  obtain ⟨m, hm, hrest⟩ := Option.bind_eq_some_iff.mp hrun
  obtain ⟨hen, hok⟩ := reaper.next_eq_some.mp hm
  have hreaps : Reaps s .update m := h.reaps_of_ok hen hok
  cases hreaps with
  | updated _ =>
    have hstart : Swept s { s with control := .updating 0 } 0 [] [] :=
      ⟨(List.append_nil _).symm, by rw [List.append_nil], List.Perm.refl _,
        (fun d hd => by cases hd), rfl⟩
    have hswept := swept_run (h.next (.updated hidle)) hstart hbs hrest
    rwa [Nat.zero_add] at hswept

/-! ## §6. The contract. -/

/-- What holds of the objects in the state a run leads to. -/
structure ReapContract (s : Reaper) : Prop where
  /-- No call reads or frees an object that is gone. -/
  noFault : ∀ a, reaper.enabled s a = true → ∃ s', reaper.step s a = .ok s'
  /-- An object whose thread was started is the data of one connection, or a zombie
  once, or freed. -/
  place : ∀ d, ReapDeed.started ∈ reapDeeds d s.trace →
    (s.platformData.count (some d) = 1 ∧ s.awaiting.count d = 0
        ∧ ReapDeed.freed ∉ reapDeeds d s.trace)
      ∨ (s.platformData.count (some d) = 0 ∧ s.awaiting.count d = 1
        ∧ ReapDeed.freed ∉ reapDeeds d s.trace)
      ∨ (s.platformData.count (some d) = 0 ∧ s.awaiting.count d = 0
        ∧ ReapDeed.freed ∈ reapDeeds d s.trace)
  freedOnce : ∀ d, (reapDeeds d s.trace).count .freed ≤ 1
  freedAfter : ∀ d before after, reapDeeds d s.trace = before ++ .freed :: after →
    ReapDeed.finished ∈ before ∧ ReapDeed.joined ∈ before
  /-- The main thread is told whether the worker has finished by then. -/
  answers : ∀ d b before after, reapDeeds d s.trace = before ++ .inspected b :: after →
    (b = true ↔ ReapDeed.finished ∈ before)
  /-- An `SSE_Platform_Update` asks every zombie once; it removes and frees those
  that have finished, and keeps the others. -/
  update : s.control = .idle → ∀ bs s', (∀ b ∈ bs, b.duringUpdate = true) →
    reaper.run s (.update :: bs) = some s' → s'.control = .idle →
      ∃ t removed, s'.trace = s.trace ++ t
        ∧ (s'.zombies.data ++ removed).Perm s.zombies.data
        ∧ (inspections t).Perm (s'.zombies.data.map (·, false) ++ removed.map (·, true))
        ∧ ∀ d ∈ removed, ReapDeed.freed ∈ reapDeeds d s'.trace
  /-- It ends: no zombie is asked twice. -/
  updateEnds : s.control = .idle → ∀ bs s', (∀ b ∈ bs, b.duringUpdate = true) →
    reaper.run s (.update :: bs) = some s' → bs.count .inspect ≤ s.zombies.data.length + 1
  /-- When `SSE_Platform_Finalize` has returned, nothing is left. -/
  finalized : s.control = .finalized → ∀ d, ReapDeed.started ∈ reapDeeds d s.trace →
    ReapDeed.freed ∈ reapDeeds d s.trace

/-- An object that was started is alive until it is freed. -/
theorem ReapInv.freed_iff {s : Reaper} (h : ReapInv s) {d : Ptr}
    (hstarted : ReapDeed.started ∈ reapDeeds d s.trace) :
    ReapDeed.freed ∈ reapDeeds d s.trace ↔ s.heap d = none := by
  obtain ⟨ph, hwalk, hfits⟩ := h.life d
  have hbooks := ReapPhase.account hwalk
  have hfreed : ReapDeed.freed ∈ reapDeeds d s.trace ↔ ph = .freed := by
    rw [← List.count_pos_iff, hbooks.freed]
    split <;> simp_all
  rw [hfreed]
  cases hheap : s.heap d with
  | some r =>
      rw [hheap] at hfits
      have hph : ph = if r.finished then .finished else .running := hfits
      rw [hph]
      cases r.finished with
      | true => simp
      | false => simp
  | none =>
      rw [hheap] at hfits
      obtain ⟨hborn, hkept⟩ := hbooks.started.mp hstarted
      rcases hfits with hph | hph | hph
      · exact absurd hph hborn
      · exact absurd hph hkept
      · simp [hph]

namespace ReapInv

variable {s : Reaper}

/-- A started object is in one of the three places. -/
theorem place (h : ReapInv s) {d : Ptr} (hstarted : ReapDeed.started ∈ reapDeeds d s.trace) :
    (s.platformData.count (some d) = 1 ∧ s.awaiting.count d = 0
        ∧ ReapDeed.freed ∉ reapDeeds d s.trace)
      ∨ (s.platformData.count (some d) = 0 ∧ s.awaiting.count d = 1
        ∧ ReapDeed.freed ∉ reapDeeds d s.trace)
      ∨ (s.platformData.count (some d) = 0 ∧ s.awaiting.count d = 0
        ∧ ReapDeed.freed ∈ reapDeeds d s.trace) := by
  have hheld : s.platformData.count (some d) + s.awaiting.count d
      = if (s.heap d).isSome then 1 else 0 := h.held d
  have hfreed := h.freed_iff hstarted
  cases hheap : s.heap d with
  | none =>
      rw [hheap] at hheld hfreed
      have hzero : s.platformData.count (some d) + s.awaiting.count d = 0 := hheld
      exact .inr (.inr ⟨by omega, by omega, hfreed.mpr rfl⟩)
  | some r =>
      rw [hheap] at hheld hfreed
      have hone : s.platformData.count (some d) + s.awaiting.count d = 1 := hheld
      have halive : ReapDeed.freed ∉ reapDeeds d s.trace := fun hmem => by cases hfreed.mp hmem
      by_cases howned : s.platformData.count (some d) = 1
      · exact .inl ⟨howned, by omega, halive⟩
      · exact .inr (.inl ⟨by omega, by omega, halive⟩)

theorem freed_le_one (h : ReapInv s) (d : Ptr) : (reapDeeds d s.trace).count .freed ≤ 1 := by
  obtain ⟨ph, hwalk, -⟩ := h.life d
  rw [(ReapPhase.account hwalk).freed]
  split
  · exact Nat.le_refl 1
  · exact Nat.zero_le 1

/-- Once the main thread has finalized, nobody holds an object, so none is alive. -/
theorem freed_of_finalized (h : ReapInv s) (hfinalized : s.control = .finalized) {d : Ptr}
    (hstarted : ReapDeed.started ∈ reapDeeds d s.trace) :
    ReapDeed.freed ∈ reapDeeds d s.trace := by
  obtain ⟨hnone, hempty⟩ := h.shutDown (by rw [hfinalized]; rfl)
  rw [h.freed_iff hstarted]
  have hheld := h.held d
  have hzero : s.held d = 0 := by
    unfold Reaper.held Reaper.awaiting
    rw [hnone d, hempty, hfinalized]
    rfl
  rw [hzero] at hheld
  cases hheap : s.heap d with
  | none => rfl
  | some r =>
      rw [hheap] at hheld
      cases hheld

end ReapInv

/-- **EVERY WORKER'S OBJECT IS OWNED ONCE AND FREED ONCE**, in every reachable
state. -/
theorem reapContract (s : Reaper) (hs : reaper.Reachable s) : ReapContract s := by
  have h : ReapInv s := reapInvariant.reachable hs
  refine ⟨?_, fun d hstarted => h.place hstarted, h.freed_le_one, ?_, ?_, ?_, ?_,
    fun hfinalized d hstarted => h.freed_of_finalized hfinalized hstarted⟩
  · intro a hen
    obtain ⟨s', hok, -⟩ := h.reaps hen
    exact ⟨s', hok⟩
  · intro d before after hsplit
    obtain ⟨ph, hwalk, -⟩ := h.life d
    rw [hsplit] at hwalk
    exact ReapPhase.freed_after hwalk
  · intro d b before after hsplit
    obtain ⟨ph, hwalk, -⟩ := h.life d
    rw [hsplit] at hwalk
    exact ReapPhase.inspected_iff hwalk
  · intro hidle bs s' hbs hrun hidle'
    obtain ⟨t, removed, hswept⟩ := swept_update h hidle hbs hrun
    have hkept : s'.kept = s'.zombies.data := by
      unfold Reaper.kept
      rw [hidle']
    have hasked := hswept.asked
    rw [hkept] at hasked
    exact ⟨t, removed, hswept.trace, hswept.split, hasked, hswept.gone⟩
  · intro hidle bs s' hbs hrun
    obtain ⟨t, removed, hswept⟩ := swept_update h hidle hbs hrun
    exact hswept.turns_le

/-- Two workers: one finishes before its disconnect, the other during an update
that has asked it already; the next update frees it. -/
def twoWorkers : List ReapAction :=
  [.connect true, .connect true, .markFinished 0, .disconnect 0, .disconnect 1, .update, .inspect,
    .markFinished 1, .inspect, .update, .inspect, .inspect, .finalize, .finalizeNext]

theorem reapContract_twoWorkers :
    ∃ s, reaper.run reaper.init twoWorkers = some s ∧ s.control = .finalized
      ∧ reapDeeds 1 s.trace
        = [.started, .inspected false, .inspected false, .finished, .inspected true, .joined, .freed]
      ∧ ReapContract s :=
  ⟨_, rfl, rfl, rfl, reapContract _ ⟨twoWorkers, rfl⟩⟩

end DefoldSSE
