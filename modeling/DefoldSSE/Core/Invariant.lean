/-
  DefoldSSE.Core.Invariant — records and the table, kept by every operation.

  `Inv` holds between any two steps: exactly the live records are in the table,
  each under the handle of its address, all of them open except the one whose
  callback runs, which may have been closed meanwhile; and every record's deeds
  so far are a life the automaton of `Core/Phase.lean` accepts.

  The operations come in four kinds (`Connected`, `Settled`, `Dispatched`,
  `Ended`).  For each kind there is one lemma that an operation is of that kind,
  faults excluded, and one that the kind keeps `Inv`.
-/
import DefoldSSE.Core.Operations

namespace DefoldSSE

open CLib

/-! ## §1. The invariant. -/

/-- The phase a live record is in between two steps. -/
def phaseOf (r : SSEConnection) : Phase := if r.userClosed then .closed else .open

/-- The phase of whatever is at `p`. -/
def CoreState.phase (s : CoreState) (p : Ptr) : Phase :=
  match s.heap p with
  | some r => phaseOf r
  | none => if (s.lost p).isSome then .lost else if p < s.nextPtr then .gone else .unborn

theorem CoreState.phase_some {s : CoreState} {p : Ptr} {r : SSEConnection}
    (hr : s.heap p = some r) : s.phase p = phaseOf r := by
  unfold CoreState.phase
  rw [hr]

theorem CoreState.phase_congr {s s' : CoreState} {p : Ptr} (hheap : s.heap p = s'.heap p)
    (hlost : s.lost p = s'.lost p) (hborn : p < s.nextPtr ↔ p < s'.nextPtr) :
    s.phase p = s'.phase p := by
  unfold CoreState.phase
  rw [hheap, hlost, if_congr hborn rfl rfl]

/-- The handle given to the record at `p`. -/
def handleOf (p : Ptr) : Int := p + 1

theorem handleOf_inj {p q : Ptr} (h : handleOf p = handleOf q) : p = q := by
  have hcast : (p : Int) = (q : Int) := by
    unfold handleOf at h
    omega
  exact Int.natCast_inj.mp hcast

/-- A life the automaton accepts, under one handle. -/
structure Life (p : Ptr) (ds : List Deed) (ph : Phase) : Prop where
  accepted : walk Phase.next .unborn ds = some ph
  handle : ∀ n, Deed.created n ∈ ds → n = handleOf p
  addressed : ∀ e, Deed.invoked e ∈ ds → e.handle = handleOf p

theorem Life.append {p : Ptr} {ds ds' : List Deed} {ph ph' : Phase} (h : Life p ds ph)
    (hwalk : walk Phase.next ph ds' = some ph')
    (hcreated : ∀ n, Deed.created n ∈ ds' → n = handleOf p)
    (hinvoked : ∀ e, Deed.invoked e ∈ ds' → e.handle = handleOf p) : Life p (ds ++ ds') ph' where
  accepted := walk_trans h.accepted hwalk
  handle n hmem := (List.mem_append.mp hmem).elim (h.handle n) (hcreated n)
  addressed e hmem := (List.mem_append.mp hmem).elim (h.addressed e) (hinvoked e)

/-- Lives go on when something happens to one record only. -/
theorem lives_go_on {s s' : CoreState} {p : Ptr} {ds : List Deed}
    (h : ∀ q, Life q (deeds q s.trace) (s.phase q))
    (htrace : s'.trace = s.trace ++ ds.map (.deed p))
    (hwalk : walk Phase.next (s.phase p) ds = some (s'.phase p))
    (hcreated : ∀ n, Deed.created n ∈ ds → n = handleOf p)
    (hinvoked : ∀ e, Deed.invoked e ∈ ds → e.handle = handleOf p)
    (hothers : ∀ q, q ≠ p → s'.phase q = s.phase q) (q : Ptr) :
    Life q (deeds q s'.trace) (s'.phase q) := by
  rw [htrace, deeds_append]
  by_cases hqp : q = p
  · subst hqp
    rw [deeds_self]
    exact (h q).append hwalk hcreated hinvoked
  · rw [deeds_of_ne p q ds hqp, List.append_nil, hothers q hqp]
    exact h q

/-- A live record at `p`, given the record whose callback runs. -/
structure RecordOk (current : Option Ptr) (p : Ptr) (r : SSEConnection) : Prop where
  handle : r.handle = handleOf p
  callback : r.callback = some p
  platform : r.platformData = !r.userClosed
  deferred : r.destroyAfterDispatch = r.userClosed
  dispatching : r.dispatching = true ↔ current = some p
  /-- Only a running callback keeps a closed record alive. -/
  closed : r.userClosed = true → current = some p

/-- It is the same for who sees the same of its callback. -/
theorem RecordOk.congr {current current' : Option Ptr} {p : Ptr} {r : SSEConnection}
    (h : RecordOk current p r) (hsame : current' = some p ↔ current = some p) :
    RecordOk current' p r where
  handle := h.handle
  callback := h.callback
  platform := h.platform
  deferred := h.deferred
  dispatching := h.dispatching.trans hsame.symm
  closed := fun hclosed => hsame.mpr (h.closed hclosed)

/-- A live record is not where a dead one was. -/
theorem ne_of_dead {heap : Ptr → Option SSEConnection} {p q : Ptr} {r : SSEConnection}
    (hr : heap p = some r) (hgone : heap q = none) : q ≠ p := by
  rintro rfl
  rw [hr] at hgone
  cases hgone

theorem born_succ {p q : Ptr} (hne : q ≠ p) : q < p + 1 ↔ q < p := by
  rw [Nat.lt_succ_iff_lt_or_eq, or_iff_left hne]

structure Inv (s : CoreState) : Prop where
  nodup : s.connections.data.Nodup
  registered : ∀ p, p ∈ s.connections.data ↔ (s.heap p).isSome = true
  born : ∀ p r, s.heap p = some r → p < s.nextPtr
  /-- A record is either alive or lost. -/
  lost : ∀ p r, s.lost p = some r → p < s.nextPtr ∧ s.heap p = none
  nextHandle : s.nextHandle = s.nextPtr + 1
  record : ∀ p r, s.heap p = some r → RecordOk s.control.current p r
  current : ∀ p, s.control.current = some p → (s.heap p).isSome = true
  life : ∀ p, Life p (deeds p s.trace) (s.phase p)

namespace Inv

theorem init : Inv .appInitialize where
  nodup := List.nodup_nil
  registered p := by simp [CoreState.appInitialize]
  born p r h := by cases h
  lost p r h := by cases h
  nextHandle := rfl
  record p r h := by cases h
  current p h := by cases h
  life p := ⟨rfl, (fun n hmem => by cases hmem), (fun e hmem => by cases hmem)⟩

variable {s : CoreState}

theorem alive (h : Inv s) : ∀ p ∈ s.connections.data, (s.heap p).isSome = true :=
  fun p hp => (h.registered p).mp hp

theorem fresh (h : Inv s) : s.heap s.nextPtr = none := by
  cases hheap : s.heap s.nextPtr with
  | none => rfl
  | some r => exact absurd (h.born _ r hheap) (Nat.lt_irrefl _)

/-- There is nothing at the next address. -/
theorem unlost (h : Inv s) {p : Ptr} (hp : s.nextPtr ≤ p) : s.lost p = none := by
  cases hlost : s.lost p with
  | none => rfl
  | some r => exact absurd (h.lost p r hlost).1 (Nat.not_lt.mpr hp)

/-- Nor was it lost. -/
theorem notLost (h : Inv s) {p : Ptr} {r : SSEConnection} (hr : s.heap p = some r) :
    s.lost p = none := by
  cases hlost : s.lost p with
  | none => rfl
  | some r' =>
      rw [(h.lost p r' hlost).2] at hr
      cases hr

theorem unlisted (h : Inv s) : s.nextPtr ∉ s.connections.data := by
  intro hmem
  have halive := h.alive _ hmem
  rw [h.fresh] at halive
  cases halive

theorem phase_unborn_of_le (h : Inv s) {p : Ptr} (hp : s.nextPtr ≤ p) : s.phase p = .unborn := by
  unfold CoreState.phase
  cases hheap : s.heap p with
  | none => simp [h.unlost hp, Nat.not_lt.mpr hp]
  | some r => exact absurd (h.born p r hheap) (Nat.not_lt.mpr hp)

theorem phase_unborn (h : Inv s) : s.phase s.nextPtr = .unborn :=
  h.phase_unborn_of_le (Nat.le_refl _)

/-- Nothing was done to a record that does not exist yet. -/
theorem deeds_unborn (h : Inv s) {p : Ptr} (hp : s.nextPtr ≤ p) : deeds p s.trace = [] := by
  have hphase := h.phase_unborn_of_le hp
  have hwalk := (h.life p).accepted
  rw [hphase] at hwalk
  cases hdeeds : deeds p s.trace with
  | nil => rfl
  | cons d ds =>
      -- no transition leads back to `unborn`
      rw [hdeeds, walk_cons] at hwalk
      obtain ⟨ph, hph, hrest⟩ := Option.bind_eq_some_iff.mp hwalk
      have hborn : ph ≠ .unborn := by
        intro heq
        subst heq
        cases d <;> cases hph
      have hback : Phase.unborn ≠ .unborn := by
        refine walk_keeps (P := fun ph => ph ≠ .unborn) ?_ hborn hrest
        intro ph d ph' _ hnext heq
        subst heq
        cases ph <;> cases d <;> cases hnext
      exact absurd rfl hback

/-! ## §2. A record is written, buried or added. -/

/-- The other records do not notice. -/
theorem rewrite (h : Inv s) {p : Ptr} {r r' : SSEConnection} (hr : s.heap p = some r)
    {ds : List Deed} {c : Control}
    (hothers : ∀ q, q ≠ p → (c.current = some q ↔ s.control.current = some q))
    (hok : RecordOk c.current p r')
    (hwalk : walk Phase.next (phaseOf r) ds = some (phaseOf r'))
    (hcreated : ∀ n, Deed.created n ∉ ds)
    (hinvoked : ∀ e, Deed.invoked e ∈ ds → e.handle = handleOf p) :
    Inv { s.rewrite p r' ds with control := c } where
  nodup := h.nodup
  registered q := by
    show q ∈ s.connections.data ↔ (Function.update s.heap p (some r') q).isSome = true
    by_cases hq : q = p
    · subst hq
      rw [Function.update_self, h.registered, hr]
      simp
    · rw [Function.update_of_ne hq]
      exact h.registered q
  born q r'' hq := by
    rcases update_eq_some hq with ⟨rfl, -⟩ | ⟨-, hold⟩
    · exact h.born q r hr
    · exact h.born q r'' hold
  lost q r'' hq := by
    obtain ⟨hborn, hgone⟩ := h.lost q r'' hq
    refine ⟨hborn, ?_⟩
    show Function.update s.heap p (some r') q = none
    rw [Function.update_of_ne (ne_of_dead hr hgone)]
    exact hgone
  nextHandle := h.nextHandle
  record q r'' hq := by
    rcases update_eq_some hq with ⟨rfl, hnew⟩ | ⟨hqp, hold⟩
    · cases hnew
      exact hok
    · exact (h.record q r'' hold).congr (hothers q hqp)
  current q hq := by
    show (Function.update s.heap p (some r') q).isSome = true
    by_cases hqp : q = p
    · subst hqp
      rw [Function.update_self]
      rfl
    · rw [Function.update_of_ne hqp]
      exact h.current q ((hothers q hqp).mp hq)
  life := by
    refine lives_go_on h.life rfl ?_ (fun n hmem => absurd hmem (hcreated n)) hinvoked ?_
    · rw [CoreState.phase_some hr, hwalk]
      simp [CoreState.phase, CoreState.rewrite]
    · intro q hqp
      apply CoreState.phase_congr
      · exact Function.update_of_ne hqp _ _
      · rfl
      · exact Iff.rfl

theorem bury (h : Inv s) {p : Ptr} {r : SSEConnection} (hr : s.heap p = some r)
    {ds : List Deed} {c : Control} (hc : c.current ≠ some p)
    (hothers : ∀ q, q ≠ p → (c.current = some q ↔ s.control.current = some q))
    (hwalk : walk Phase.next (phaseOf r) (ds ++ [.destroyed]) = some .gone)
    (hcreated : ∀ n, Deed.created n ∉ ds) (hinvoked : ∀ e, Deed.invoked e ∉ ds) :
    Inv { s.bury p ds with control := c } where
  nodup := s.nodup_removeConnection p h.nodup
  registered q := by
    show q ∈ (s.removeConnection p).connections.data
      ↔ (Function.update s.heap p none q).isSome = true
    rw [s.mem_removeConnection p q h.nodup, h.registered]
    by_cases hq : q = p
    · subst hq
      simp
    · rw [Function.update_of_ne hq]
      simp [hq]
  born q r' hq := by
    rcases update_eq_some hq with ⟨-, hnone⟩ | ⟨-, hold⟩
    · cases hnone
    · exact h.born q r' hold
  lost q r' hq := by
    obtain ⟨hborn, hgone⟩ := h.lost q r' hq
    refine ⟨hborn, ?_⟩
    show Function.update s.heap p none q = none
    rw [Function.update_of_ne (ne_of_dead hr hgone)]
    exact hgone
  nextHandle := h.nextHandle
  record q r' hq := by
    rcases update_eq_some hq with ⟨-, hnone⟩ | ⟨hqp, hold⟩
    · cases hnone
    · exact (h.record q r' hold).congr (hothers q hqp)
  current q hq := by
    show (Function.update s.heap p none q).isSome = true
    have hqp : q ≠ p := by
      intro heq
      subst heq
      exact hc hq
    rw [Function.update_of_ne hqp]
    exact h.current q ((hothers q hqp).mp hq)
  life := by
    refine lives_go_on h.life rfl ?_ ?_ ?_ ?_
    · rw [CoreState.phase_some hr, hwalk]
      simp [CoreState.phase, CoreState.bury, h.born p r hr, h.notLost hr]
    · intro n hmem
      simp [hcreated n] at hmem
    · intro e hmem
      simp [hinvoked e] at hmem
    · intro q hqp
      apply CoreState.phase_congr
      · exact Function.update_of_ne hqp _ _
      · rfl
      · exact Iff.rfl

/-- A record that came and went within one call. -/
theorem stillborn (h : Inv s) {capacity : Nat} {fits : s.connections.data.length ≤ capacity}
    {valid : Bool} {ds : List Deed}
    (hds : ds = [.destroyed] ∨ ds = [.callbackDestroyed, .destroyed]) :
    Inv (s.stillborn capacity fits valid ds) where
  nodup := h.nodup
  registered := h.registered
  born p r hr := Nat.lt_succ_of_lt (h.born p r hr)
  lost p r hr := ⟨Nat.lt_succ_of_lt (h.lost p r hr).1, (h.lost p r hr).2⟩
  nextHandle := by
    show s.nextHandle + 1 = ((s.nextPtr + 1 : Nat) : Int) + 1
    rw [h.nextHandle]
    rfl
  record := h.record
  current := h.current
  life := by
    refine lives_go_on h.life rfl ?_ ?_ ?_ ?_
    · -- from `unborn` to `gone` within the call; nobody saw it in between
      have hunlost := h.unlost (Nat.le_refl _)
      have hafter : (s.stillborn capacity fits valid ds).phase s.nextPtr = .gone := by
        simp [CoreState.phase, CoreState.stillborn, h.fresh, hunlost]
      rw [h.phase_unborn, hafter]
      rcases hds with rfl | rfl
      · rfl
      · rfl
    · intro n hmem
      rcases hds with rfl | rfl
      · simpa [h.nextHandle, handleOf] using hmem
      · simpa [h.nextHandle, handleOf] using hmem
    · intro e hmem
      rcases hds with rfl | rfl
      · simp at hmem
      · simp at hmem
    · intro q hq
      apply CoreState.phase_congr
      · rfl
      · rfl
      · exact born_succ hq

/-- A record whose address was lost. -/
theorem orphan (h : Inv s) (r : SSEConnection) : Inv (s.orphan r) where
  nodup := h.nodup
  registered := h.registered
  born p r' hr := Nat.lt_succ_of_lt (h.born p r' hr)
  lost p r' hp := by
    show p < s.nextPtr + 1 ∧ s.heap p = none
    rcases update_eq_some hp with ⟨rfl, -⟩ | ⟨-, hold⟩
    · exact ⟨Nat.lt_succ_self _, h.fresh⟩
    · exact ⟨Nat.lt_succ_of_lt (h.lost p r' hold).1, (h.lost p r' hold).2⟩
  nextHandle := by
    show s.nextHandle + 1 = ((s.nextPtr + 1 : Nat) : Int) + 1
    rw [h.nextHandle]
    rfl
  record := h.record
  current := h.current
  life := by
    refine lives_go_on h.life rfl ?_ ?_ ?_ ?_
    · have hafter : (s.orphan r).phase s.nextPtr = .lost := by
        simp [CoreState.phase, CoreState.orphan, h.fresh]
      rw [h.phase_unborn, hafter]
      rfl
    · intro n hmem
      simpa [h.nextHandle, handleOf] using hmem
    · intro e hmem
      simp at hmem
    · intro q hq
      apply CoreState.phase_congr
      · rfl
      · exact Function.update_of_ne hq _ _
      · exact born_succ hq

/-- A record that stays. -/
theorem birth (h : Inv s) (hcurrent : s.control.current ≠ some s.nextPtr) {r : SSEConnection}
    (handle : r.handle = s.nextHandle) (callback : r.callback = some s.nextPtr)
    (platform : r.platformData = true) (closed : r.userClosed = false)
    (dispatching : r.dispatching = false) (deferred : r.destroyAfterDispatch = false) :
    Inv (s.birth r) where
  nodup := by
    show (s.connections.pushGrowing s.nextPtr).data.Nodup
    rw [DmArray.pushGrowing_data]
    exact List.nodup_append.mpr ⟨h.nodup, by simp,
      fun q hq q' hq' heq => h.unlisted (List.mem_singleton.mp hq' ▸ heq ▸ hq)⟩
  registered q := by
    show q ∈ (s.connections.pushGrowing s.nextPtr).data
      ↔ (Function.update s.heap s.nextPtr (some r) q).isSome = true
    rw [DmArray.pushGrowing_data, List.mem_append, List.mem_singleton]
    by_cases hq : q = s.nextPtr
    · subst hq
      rw [Function.update_self]
      simp
    · rw [Function.update_of_ne hq, ← h.registered q, or_iff_left hq]
  born q r' hq := by
    show q < s.nextPtr + 1
    rcases update_eq_some hq with ⟨hnew, -⟩ | ⟨-, hold⟩
    · rw [hnew]
      exact Nat.lt_succ_self _
    · exact Nat.lt_succ_of_lt (h.born q r' hold)
  lost q r' hq := by
    obtain ⟨hborn, hgone⟩ := h.lost q r' hq
    refine ⟨Nat.lt_succ_of_lt hborn, ?_⟩
    show Function.update s.heap s.nextPtr (some r) q = none
    rw [Function.update_of_ne (Nat.ne_of_lt hborn)]
    exact hgone
  nextHandle := by
    show s.nextHandle + 1 = ((s.nextPtr + 1 : Nat) : Int) + 1
    rw [h.nextHandle]
    rfl
  record q r' hq := by
    rcases update_eq_some hq with ⟨rfl, hnew⟩ | ⟨-, hold⟩
    · cases hnew
      refine ⟨handle.trans h.nextHandle, callback, ?_, ?_, ?_, ?_⟩
      · rw [platform, closed]
        rfl
      · rw [deferred, closed]
      · rw [dispatching]
        exact ⟨(fun hd => by cases hd), fun hcur => absurd hcur hcurrent⟩
      · intro hcl
        rw [closed] at hcl
        cases hcl
    · exact h.record q r' hold
  current q hq := by
    show (Function.update s.heap s.nextPtr (some r) q).isSome = true
    have hqp : q ≠ s.nextPtr := fun heq => hcurrent (heq ▸ hq)
    rw [Function.update_of_ne hqp]
    exact h.current q hq
  life := by
    refine lives_go_on h.life rfl ?_ ?_ ?_ ?_
    · have hafter : (s.birth r).phase s.nextPtr = .open := by
        simp [CoreState.phase, CoreState.birth, phaseOf, closed]
      rw [h.phase_unborn, hafter]
      rfl
    · intro n hmem
      simpa [h.nextHandle, handleOf] using hmem
    · intro e hmem
      simp at hmem
    · intro q hq
      apply CoreState.phase_congr
      · exact Function.update_of_ne hq _ _
      · rfl
      · exact born_succ hq

/-- What neither touches a record nor enters or leaves a callback. -/
theorem frame (h : Inv s) {s' : CoreState} (hconnections : s'.connections = s.connections)
    (hheap : s'.heap = s.heap) (hlost : s'.lost = s.lost) (hptr : s'.nextPtr = s.nextPtr)
    (hhandle : s'.nextHandle = s.nextHandle)
    (hcurrent : s'.control.current = s.control.current)
    (htrace : ∀ p, deeds p s'.trace = deeds p s.trace) : Inv s' where
  nodup := by
    rw [hconnections]
    exact h.nodup
  registered p := by
    rw [hconnections, hheap]
    exact h.registered p
  born p r := by
    rw [hheap, hptr]
    exact h.born p r
  lost p r := by
    rw [hheap, hlost, hptr]
    exact h.lost p r
  nextHandle := by
    rw [hhandle, hptr]
    exact h.nextHandle
  record p r := by
    rw [hheap, hcurrent]
    exact h.record p r
  current p := by
    rw [hcurrent, hheap]
    exact h.current p
  life p := by
    have hphase : s'.phase p = s.phase p := by
      apply CoreState.phase_congr
      · rw [hheap]
      · rw [hlost]
      · rw [hptr]
    rw [htrace, hphase]
    exact h.life p

theorem connected (h : Inv s) {s' : CoreState} (hs' : s.Connected s') : Inv s' := by
  cases hs' with
  | unsupported => exact h
  | failed capacity fits valid ds hds => exact h.stillborn hds
  | raised r => exact h.orphan r
  | succeeded r handle callback platform _ closed dispatching deferred =>
      refine h.birth ?_ handle callback platform closed dispatching deferred
      intro hcurrent
      have halive := h.current _ hcurrent
      rw [h.fresh] at halive
      cases halive

end Inv

/-! ## §3. The kinds of operations. -/

/-- A call that finds at most one record of the table. -/
inductive Settled (s : CoreState) : CoreState → Prop where
  | unchanged : Settled s s
  /-- The record learns that it is connected, or its last event id. -/
  | touched {p : Ptr} {r : SSEConnection} (hr : s.heap p = some r) (connected : Bool)
      (id : Option CString) :
      Settled s (s.rewrite p { r with connected := connected, lastEventId := id } [])
  /-- It is closed while its callback runs. -/
  | deferred {p : Ptr} {r : SSEConnection} (hr : s.heap p = some r)
      (hcurrent : s.control.current = some p) (hopen : r.userClosed = false) :
      Settled s (s.rewrite p
        { r with userClosed := true, connected := false, platformData := false,
                 destroyAfterDispatch := true } [.platformDisconnected])
  /-- It is closed and destroyed. -/
  | buried {p : Ptr} {r : SSEConnection} (hr : s.heap p = some r)
      (hcurrent : s.control.current ≠ some p) (hopen : r.userClosed = false) :
      Settled s (s.bury p [.platformDisconnected, .callbackDestroyed])

/-- A dispatch up to the call of the callback, whose record comes out. -/
inductive Dispatched (s : CoreState) (e : SSEEvent) : Option Ptr → CoreState → Prop where
  | missed (hnone : ∀ p r, s.heap p = some r → r.handle ≠ e.handle) : Dispatched s e none s
  | orphaned {p : Ptr} {r : SSEConnection} (hr : s.heap p = some r) (hhandle : r.handle = e.handle)
      (hinvalid : s.callbackValid p = false) (hopen : r.userClosed = false) :
      Dispatched s e none (s.bury p [.platformDisconnected, .callbackDestroyed])
  | failed {p : Ptr} {r : SSEConnection} (hr : s.heap p = some r) (hhandle : r.handle = e.handle)
      (hopen : r.userClosed = false) : Dispatched s e none (s.log (.deed p (.notSetUp e)))
  | entered {p : Ptr} {r : SSEConnection} (hr : s.heap p = some r) (hhandle : r.handle = e.handle)
      (hopen : r.userClosed = false) :
      Dispatched s e (some p) (s.rewrite p { r with dispatching := true } [.invoked e])

/-- The end of a dispatch whose callback ran. -/
inductive Ended (s : CoreState) (p : Ptr) : CoreState → Prop where
  | kept {r : SSEConnection} (hr : s.heap p = some r) (hopen : r.userClosed = false) :
      Ended s p (s.rewrite p { r with dispatching := false } [])
  | buried {r : SSEConnection} (hr : s.heap p = some r) (hclosed : r.userClosed = true) :
      Ended s p (s.bury p [.callbackDestroyed])

namespace Inv

variable {s : CoreState}

theorem phaseOf_open {r : SSEConnection} (hopen : r.userClosed = false) : phaseOf r = .open := by
  unfold phaseOf
  rw [hopen]
  rfl

theorem phaseOf_closed {r : SSEConnection} (hclosed : r.userClosed = true) :
    phaseOf r = .closed := by
  unfold phaseOf
  rw [hclosed]
  rfl

theorem settled (h : Inv s) {s' : CoreState} (hs' : Settled s s') : Inv s' := by
  cases hs' with
  | unchanged => exact h
  | @touched p r hr connected id =>
      obtain ⟨hhandle, hcallback, hplatform, hdeferred, hdispatching, hclosed⟩ := h.record p r hr
      refine h.rewrite hr (fun q _ => Iff.rfl) ?_ rfl (fun n hn => by cases hn)
        (fun e he => by cases he)
      exact ⟨hhandle, hcallback, hplatform, hdeferred, hdispatching, hclosed⟩
  | @deferred p r hr hcurrent hopen =>
      have hrec := h.record p r hr
      refine h.rewrite hr (fun q _ => Iff.rfl) ?_ ?_ (fun n hn => by simp at hn)
        (fun e he => by simp at he)
      · exact ⟨hrec.handle, hrec.callback, rfl, rfl, hrec.dispatching, fun _ => hcurrent⟩
      · rw [phaseOf_open hopen]
        rfl
  | @buried p r hr hcurrent hopen =>
      refine h.bury hr hcurrent (fun q _ => Iff.rfl) ?_ (fun n hn => by simp at hn)
        (fun e he => by simp at he)
      rw [phaseOf_open hopen]
      rfl

theorem dispatched (h : Inv s) (hidle : s.control.current = none) {e : SSEEvent} {o : Option Ptr}
    {s' : CoreState} (hs' : Dispatched s e o s') {c : Control} (hc : c.current = o) :
    Inv { s' with control := c } := by
  cases hs' with
  | missed hnone =>
      exact h.frame rfl rfl rfl rfl rfl (hc.trans hidle.symm) (fun p => rfl)
  | @orphaned p r hr hhandle hinvalid hopen =>
      refine h.bury hr (by rw [hc]; simp) (fun q _ => by rw [hc, hidle])
        ?_ (fun n hn => by simp at hn) (fun e he => by simp at he)
      rw [phaseOf_open hopen]
      rfl
  | @failed p r hr hhandle hopen =>
      have hrec := h.record p r hr
      have hinv : Inv { s.rewrite p r [.notSetUp e] with control := c } := by
        refine h.rewrite hr (fun q _ => by rw [hc, hidle]) ?_ ?_ (fun n hn => by simp at hn)
          (fun e he => by simp at he)
        · rw [hc, ← hidle]
          exact hrec
        · rw [phaseOf_open hopen]
          rfl
      rw [s.rewrite_same hr] at hinv
      exact hinv
  | @entered p r hr hhandle hopen =>
      have hrec := h.record p r hr
      refine h.rewrite hr ?_ ?_ ?_ (fun n hn => by simp at hn) ?_
      · intro q hq
        rw [hc, hidle]
        simp [Ne.symm hq]
      · refine ⟨hrec.handle, hrec.callback, hrec.platform, hrec.deferred, ?_, fun _ => hc⟩
        exact ⟨fun _ => hc, fun _ => rfl⟩
      · rw [phaseOf_open hopen]
        exact congrArg some (phaseOf_open hopen).symm
      · intro e' he'
        cases List.mem_singleton.mp he'
        exact hhandle.symm.trans hrec.handle

theorem ended (h : Inv s) {p : Ptr} (hcurrent : s.control.current = some p) {s' : CoreState}
    (hs' : Ended s p s') {c : Control} (hc : c.current = none) : Inv { s' with control := c } := by
  have hothers : ∀ q, q ≠ p → (c.current = some q ↔ s.control.current = some q) := by
    intro q hq
    rw [hc, hcurrent]
    simp [Ne.symm hq]
  cases hs' with
  | @kept r hr hopen =>
      have hrec := h.record p r hr
      refine h.rewrite hr hothers ?_ ?_ (fun n hn => by cases hn) (fun e he => by cases he)
      · refine ⟨hrec.handle, hrec.callback, hrec.platform, hrec.deferred, ?_, ?_⟩
        · rw [hc]
          simp
        · intro hclosed
          rw [show r.userClosed = true from hclosed] at hopen
          cases hopen
      · rfl
  | @buried r hr hclosed =>
      refine h.bury hr (by rw [hc]; simp) hothers ?_ (fun n hn => by simp at hn)
        (fun e he => by simp at he)
      rw [phaseOf_closed hclosed]
      rfl

/-! ## §4. No operation faults. -/

/-- A record nothing is going on with. -/
structure AtRest (r : SSEConnection) : Prop where
  notClosed : r.userClosed = false
  notDispatching : r.dispatching = false
  notDeferred : r.destroyAfterDispatch = false
  platform : r.platformData = true

/-- While no callback runs, every record is at rest. -/
theorem atRest (h : Inv s) (hidle : s.control.current = none) {p : Ptr} {r : SSEConnection}
    (hr : s.heap p = some r) : AtRest r := by
  have hrec := h.record p r hr
  have hopen : r.userClosed = false := by
    cases hclosed : r.userClosed with
    | false => rfl
    | true =>
        have hcurrent := hrec.closed hclosed
        rw [hidle] at hcurrent
        cases hcurrent
  refine ⟨hopen, ?_, hrec.deferred.trans hopen, ?_⟩
  · cases hd : r.dispatching with
    | false => rfl
    | true =>
        have hcurrent := hrec.dispatching.mp hd
        rw [hidle] at hcurrent
        cases hcurrent
  · rw [hrec.platform, hopen]
    rfl

/-- The record with a handle is the one at its address. -/
theorem unique (h : Inv s) {p q : Ptr} {r r' : SSEConnection} (hr : s.heap p = some r)
    (hr' : s.heap q = some r') (hhandle : r.handle = r'.handle) : p = q := by
  apply handleOf_inj
  rw [← (h.record p r hr).handle, ← (h.record q r' hr').handle, hhandle]

theorem setConnected_settled (h : Inv s) (handle : Int) (connected : Bool) :
    ∃ s', s.setConnected handle connected = .ok s' ∧ Settled s s' := by
  unfold CoreState.setConnected
  split
  · rcases s.findConnection_cases handle h.alive with hfound | hnone
    · obtain ⟨p, r, hfind, -, hr, -⟩ := hfound
      rw [hfind]
      exact ⟨_, rfl, by rw [s.write_eq]; exact .touched hr connected r.lastEventId⟩
    · rw [hnone.1]
      exact ⟨s, rfl, .unchanged⟩
  · exact ⟨s, rfl, .unchanged⟩

theorem setLastEventId_settled (h : Inv s) (handle : Int) (id : Option CString) :
    ∃ s', s.setLastEventId handle id = .ok s' ∧ Settled s s' := by
  unfold CoreState.setLastEventId
  split
  · rcases s.findConnection_cases handle h.alive with hfound | hnone
    · obtain ⟨p, r, hfind, -, hr, -⟩ := hfound
      rw [hfind]
      exact ⟨_, rfl, by rw [s.write_eq]; exact .touched hr r.connected _⟩
    · rw [hnone.1]
      exact ⟨s, rfl, .unchanged⟩
  · exact ⟨s, rfl, .unchanged⟩

/-- A disconnect leaves no open record under its handle. -/
theorem disconnect_settled (h : Inv s) (handle : Int) :
    ∃ s', s.disconnect handle = .ok s' ∧ Settled s s'
      ∧ ∀ p r, s'.heap p = some r → r.handle = handle → r.userClosed = true := by
  unfold CoreState.disconnect
  rcases s.findConnection_cases handle h.alive with hfound | hnone
  · obtain ⟨p, r, hfind, -, hr, hhandle⟩ := hfound
    have hrec := h.record p r hr
    rw [hfind]
    simp only
    cases hclosed : r.userClosed with
    | true =>
        refine ⟨s, rfl, .unchanged, ?_⟩
        intro q r' hr' hhandle'
        have hq := h.unique hr hr' (hhandle.trans hhandle'.symm)
        subst hq
        rw [hr] at hr'
        cases hr'
        exact hclosed
    | false =>
        have hplatform : r.platformData = true := by
          rw [hrec.platform, hclosed]
          rfl
        -- under another address there is another handle
        have hothers : ∀ q r', q ≠ p → s.heap q = some r' → r'.handle ≠ handle := by
          intro q r' hq hr' hhandle'
          exact hq (h.unique hr' hr (hhandle'.trans hhandle.symm))
        simp only [Bool.false_eq_true, if_false, hplatform, if_true, s.write_eq,
          CoreState.platformDisconnect_eq, CoreState.rewrite_rewrite, List.nil_append,
          CoreState.write_eq]
        by_cases hcurrent : s.control.current = some p
        · rw [if_pos (hrec.dispatching.mpr hcurrent)]
          refine ⟨_, rfl, .deferred hr hcurrent hclosed, ?_⟩
          intro q r' hr' hhandle'
          have hr' : Function.update s.heap p (some _) q = some r' := hr'
          by_cases hq : q = p
          · subst hq
            rw [Function.update_self] at hr'
            cases hr'
            rfl
          · rw [Function.update_of_ne hq] at hr'
            exact absurd hhandle' (hothers q r' hq hr')
        · rw [if_neg (fun hd => hcurrent (hrec.dispatching.mp hd)),
            CoreState.destroyConnection_eq _ (CoreState.rewrite_heap_self s p _ _),
            CoreState.bury_rewrite]
          simp only [hrec.callback]
          refine ⟨_, rfl, .buried hr hcurrent hclosed, ?_⟩
          intro q r' hr' hhandle'
          have hr' : Function.update s.heap p none q = some r' := hr'
          by_cases hq : q = p
          · subst hq
            rw [Function.update_self] at hr'
            cases hr'
          · rw [Function.update_of_ne hq] at hr'
            exact absurd hhandle' (hothers q r' hq hr')
  · obtain ⟨hfind, hnone⟩ := hnone
    rw [hfind]
    refine ⟨s, rfl, .unchanged, fun q r' hr' hhandle' => ?_⟩
    have hq : q ∈ s.connections.data := (h.registered q).mpr (by rw [hr']; rfl)
    exact absurd hhandle' (hnone q hq r' hr')

theorem endDispatch_ended (h : Inv s) {p : Ptr} (hcurrent : s.control.current = some p) :
    ∃ s', s.endDispatch p = .ok s' ∧ Ended s p s' := by
  obtain ⟨r, hr⟩ := Option.isSome_iff_exists.mp (h.current p hcurrent)
  have hrec := h.record p r hr
  unfold CoreState.endDispatch
  rw [hr]
  simp only [s.write_eq]
  by_cases hclosed : r.userClosed = true
  · rw [if_pos (hrec.deferred.trans hclosed),
      CoreState.destroyConnection_eq _ (CoreState.rewrite_heap_self s p _ _),
      CoreState.bury_rewrite]
    simp only [hrec.callback]
    exact ⟨_, rfl, .buried hr hclosed⟩
  · have hopen : r.userClosed = false := by simpa using hclosed
    rw [if_neg (by rw [hrec.deferred]; exact hclosed)]
    exact ⟨_, rfl, .kept hr hopen⟩

theorem dispatchEvent_dispatched (h : Inv s) (hidle : s.control.current = none) (e : SSEEvent)
    (setup : Bool) : ∃ o s', s.dispatchEvent e setup = .ok (o, s') ∧ Dispatched s e o s' := by
  unfold CoreState.dispatchEvent
  rcases s.findConnection_cases e.handle h.alive with hfound | hnone
  · obtain ⟨p, r, hfind, -, hr, hhandle⟩ := hfound
    have hrec := h.record p r hr
    obtain ⟨hopen, hdispatching, hdeferred, hplatform⟩ := h.atRest hidle hr
    have hnot : ¬r.userClosed = true := by
      rw [hopen]
      simp
    rw [hfind]
    simp only [s.write_eq]
    split
    · next hcallback =>
        rw [hrec.callback] at hcallback
        cases hcallback
    · next callback hcallback =>
        rw [hrec.callback] at hcallback
        cases hcallback
        rw [if_neg hnot]
        cases hvalid : s.callbackValid p with
        | false =>
            rw [if_pos (by rfl),
              CoreState.destroyConnection_eq _ (CoreState.rewrite_heap_self s p _ _),
              CoreState.bury_rewrite]
            simp only [hplatform, hrec.callback]
            exact ⟨none, _, rfl, .orphaned hr hhandle hvalid hopen⟩
        | true =>
            rw [if_neg (by simp)]
            cases setup with
            | true =>
                rw [if_pos rfl, CoreState.rewrite_log]
                exact ⟨some p, _, rfl, .entered hr hhandle hopen⟩
            | false =>
                -- the flag goes up and down again
                have hsame : { r with dispatching := false } = r := by
                  rw [← hdispatching]
                have hnotDeferred : ¬r.destroyAfterDispatch = true := by
                  rw [hdeferred]
                  simp
                refine ⟨none, s.log (.deed p (.notSetUp e)), ?_, .failed hr hhandle hopen⟩
                rw [if_neg (by simp), CoreState.rewrite_log]
                unfold CoreState.endDispatch
                rw [CoreState.rewrite_heap_self]
                simp only [CoreState.write_eq, CoreState.rewrite_rewrite]
                rw [if_neg hnotDeferred, hsame, s.rewrite_same hr]
                rfl
  · obtain ⟨hfind, hnone⟩ := hnone
    rw [hfind]
    refine ⟨none, s, rfl, .missed (fun q r' hr' => ?_)⟩
    exact hnone q ((h.registered q).mpr (by rw [hr']; rfl)) r' hr'

end Inv

end DefoldSSE
