/-
  DefoldSSE.Core.Periods — the pushes between one swap and the next, and the queue
  that holds them.

  A history is cut at its swaps.  What a period owes a handle (`expected`) is its
  accepted events in order, then one overflow error if any was refused: that is
  the sequence of its pushes with the refused ones replaced, since once a push
  was refused, every later one of the period is (`Ordered`).

  `QueueOk` ties the four arrays to the periods.
-/
import Mathlib.Data.List.ReduceOption
import DefoldSSE.Core.Lifecycle

namespace DefoldSSE

open CLib

/-! ## §1. Periods. -/

/-- A push and its answer. -/
abbrev Push := SSEEvent × Bool

/-- The pushes and the swaps of a history; a swap is `none`. -/
def pushLog (trace : List CoreEffect) : List (Option Push) :=
  trace.filterMap (fun
    | .push e ok => some (some (e, ok))
    | .swap => some none
    | .deed _ _ => none)

/-- The periods that a swap has ended. -/
def closedPeriods (trace : List CoreEffect) : List (List Push) :=
  (cut none (pushLog trace)).1.map List.reduceOption

/-- The pushes since the last swap. -/
def openPeriod (trace : List CoreEffect) : List Push :=
  (cut none (pushLog trace)).2.reduceOption

/-- The events the queue took. -/
def acceptedEvents (period : List Push) : List SSEEvent := (period.filter Prod.snd).map Prod.fst

/-- The handles whose events it refused. -/
def refusedHandles (period : List Push) : List Int :=
  (period.filter (fun x => !x.2)).map (fun x => x.1.handle)

/-- The events for a handle. -/
def eventsFor (handle : Int) (es : List SSEEvent) : List SSEEvent :=
  es.filter (fun e => e.handle = handle)

/-- The overflow errors for a handle. -/
def overflowsFor (handle : Int) (handles : List Int) : List SSEEvent :=
  (handles.filter (fun h => h = handle)).map overflowEvent

/-- What a period owes a handle. -/
def expected (handle : Int) (period : List Push) : List SSEEvent :=
  eventsFor handle (acceptedEvents period)
    ++ (if handle ∈ refusedHandles period then [overflowEvent handle] else [])

/-- Once a push is refused, so is every later one of the period. -/
def Ordered (period : List Push) : Prop :=
  ∃ taken dropped, period = taken ++ dropped ∧ (∀ x ∈ taken, x.2 = true)
    ∧ ∀ x ∈ dropped, x.2 = false

section Periods

variable (t : List CoreEffect)

theorem pushLog_append (t' : List CoreEffect) : pushLog (t ++ t') = pushLog t ++ pushLog t' :=
  List.filterMap_append

@[simp] theorem pushLog_deeds (p : Ptr) (ds : List Deed) : pushLog (ds.map (.deed p)) = [] := by
  simp [pushLog, List.filterMap_map]

theorem closedPeriods_push (e : SSEEvent) (ok : Bool) :
    closedPeriods (t ++ [.push e ok]) = closedPeriods t := by
  unfold closedPeriods
  rw [pushLog_append]
  simp [pushLog, cut_snoc_ne]

theorem openPeriod_push (e : SSEEvent) (ok : Bool) :
    openPeriod (t ++ [.push e ok]) = openPeriod t ++ [(e, ok)] := by
  unfold openPeriod
  rw [pushLog_append]
  simp [pushLog, cut_snoc_ne, List.reduceOption_append]

theorem closedPeriods_swap : closedPeriods (t ++ [.swap]) = closedPeriods t ++ [openPeriod t] := by
  unfold closedPeriods openPeriod
  rw [pushLog_append]
  simp [pushLog, cut_snoc_self]

theorem openPeriod_swap : openPeriod (t ++ [.swap]) = [] := by
  unfold openPeriod
  rw [pushLog_append]
  simp [pushLog, cut_snoc_self]

theorem acceptedEvents_snoc (period : List Push) (e : SSEEvent) (ok : Bool) :
    acceptedEvents (period ++ [(e, ok)]) = acceptedEvents period ++ (if ok then [e] else []) := by
  cases ok <;> simp [acceptedEvents]

theorem refusedHandles_snoc (period : List Push) (e : SSEEvent) (ok : Bool) :
    refusedHandles (period ++ [(e, ok)]) = refusedHandles period ++ (if ok then [] else [e.handle]) := by
  cases ok <;> simp [refusedHandles]

/-- A period stays ordered as long as nothing is accepted after a refusal. -/
theorem Ordered.snoc {period : List Push} (h : Ordered period) (e : SSEEvent) {ok : Bool}
    (hok : ok = true → refusedHandles period = []) : Ordered (period ++ [(e, ok)]) := by
  obtain ⟨taken, dropped, rfl, htaken, hdropped⟩ := h
  cases ok with
  | false =>
      refine ⟨taken, dropped ++ [(e, false)], List.append_assoc _ _ _, htaken, ?_⟩
      intro x hx
      rcases List.mem_append.mp hx with hx | hx
      · exact hdropped x hx
      · rw [List.mem_singleton.mp hx]
  | true =>
      have hnone : dropped = [] := by
        cases hd : dropped with
        | nil => rfl
        | cons x xs =>
            have hx : x.2 = false := hdropped x (by rw [hd]; exact List.mem_cons_self)
            have hmem : x.1.handle ∈ refusedHandles (taken ++ dropped) := by
              refine List.mem_map.mpr ⟨x, List.mem_filter.mpr ⟨?_, by simp [hx]⟩, rfl⟩
              rw [hd]
              simp
            rw [hok rfl] at hmem
            cases hmem
      subst hnone
      refine ⟨taken ++ [(e, true)], [], by simp, ?_, (fun x hx => by cases hx)⟩
      intro x hx
      rcases List.mem_append.mp hx with hx | hx
      · exact htaken x hx
      · rw [List.mem_singleton.mp hx]

end Periods

/-! ## §2. What is waiting. -/

/-- The events for a handle that the flush has not come to yet. -/
def SSEEventQueue.waiting (q : SSEEventQueue) (handle : Int) : Control → List SSEEvent
  | .idle => []
  | .events i =>
      eventsFor handle (q.eventsSwap.data.drop i) ++ overflowsFor handle q.overflowSwap.data
  | .inEvent i _ =>
      eventsFor handle (q.eventsSwap.data.drop (i + 1)) ++ overflowsFor handle q.overflowSwap.data
  | .overflows i => overflowsFor handle (q.overflowSwap.data.drop i)
  | .inOverflow i _ => overflowsFor handle (q.overflowSwap.data.drop (i + 1))

/-- The batch of the flush, as far as it is over. -/
def BatchOk (q : SSEEventQueue) : Control → Prop
  | .idle => q.eventsSwap.data = [] ∧ q.overflowSwap.data = []
  | .overflows _ => q.eventsSwap.data = []
  | .inOverflow _ _ => q.eventsSwap.data = []
  | _ => True

/-- The arrays are those of the periods. -/
structure QueueOk (s : CoreState) : Prop where
  active : s.active = true
  eventsCapacity : s.queue.events.capacity = sseQueueCapacity
  swapCapacity : s.queue.eventsSwap.capacity = sseQueueCapacity
  events : s.queue.events.data = acceptedEvents (openPeriod s.trace)
  overflow : ∀ h, h ∈ s.queue.overflowHandles.data ↔ h ∈ refusedHandles (openPeriod s.trace)
  overflowNodup : s.queue.overflowHandles.data.Nodup
  /-- Only a full queue refuses. -/
  full : refusedHandles (openPeriod s.trace) ≠ [] → s.queue.events.full = true
  ordered : ∀ period ∈ closedPeriods s.trace ++ [openPeriod s.trace], Ordered period
  batch : BatchOk s.queue s.control
  /-- Whatever was pushed has a handle that was given out. -/
  given : ∀ period ∈ closedPeriods s.trace ++ [openPeriod s.trace], ∀ x ∈ period,
    x.1.handle < s.nextHandle
  givenEvents : ∀ e ∈ s.queue.eventsSwap.data, e.handle < s.nextHandle
  givenOverflows : ∀ h ∈ s.queue.overflowSwap.data, h < s.nextHandle

/-- Nothing but the table, the records and the handles changes. -/
structure TableOnly (s s' : CoreState) : Prop where
  queue : s'.queue = s.queue
  active : s'.active = s.active
  pushLog : pushLog s'.trace = pushLog s.trace
  nextHandle : s.nextHandle ≤ s'.nextHandle

theorem TableOnly.closedPeriods {s s' : CoreState} (h : TableOnly s s') :
    closedPeriods s'.trace = closedPeriods s.trace := by
  unfold DefoldSSE.closedPeriods
  rw [h.pushLog]

theorem TableOnly.openPeriod {s s' : CoreState} (h : TableOnly s s') :
    openPeriod s'.trace = openPeriod s.trace := by
  unfold DefoldSSE.openPeriod
  rw [h.pushLog]

theorem TableOnly.refl (s : CoreState) : TableOnly s s := ⟨rfl, rfl, rfl, Int.le_refl _⟩

theorem TableOnly.trans {s m s' : CoreState} (h : TableOnly s m) (h' : TableOnly m s') :
    TableOnly s s' where
  queue := h'.queue.trans h.queue
  active := h'.active.trans h.active
  pushLog := h'.pushLog.trans h.pushLog
  nextHandle := Int.le_trans h.nextHandle h'.nextHandle

/-- Deeds of one record. -/
theorem TableOnly.deeds {s s' : CoreState} {p : Ptr} {ds : List Deed} (hqueue : s'.queue = s.queue)
    (hactive : s'.active = s.active) (htrace : s'.trace = s.trace ++ ds.map (.deed p))
    (hhandle : s.nextHandle ≤ s'.nextHandle) : TableOnly s s' where
  queue := hqueue
  active := hactive
  pushLog := by rw [htrace, pushLog_append, pushLog_deeds, List.append_nil]
  nextHandle := hhandle

theorem CoreState.Connected.tableOnly {s s' : CoreState} (h : s.Connected s') :
    TableOnly s s' ∧ s'.control = s.control := by
  have hnext : s.nextHandle ≤ s.nextHandle + 1 := by omega
  cases h with
  | unsupported => exact ⟨.refl s, rfl⟩
  | failed => exact ⟨.deeds rfl rfl rfl hnext, rfl⟩
  | raised => exact ⟨.deeds rfl rfl rfl hnext, rfl⟩
  | succeeded => exact ⟨.deeds rfl rfl rfl hnext, rfl⟩

theorem Settled.tableOnly {s s' : CoreState} (h : Settled s s') :
    TableOnly s s' ∧ s'.control = s.control := by
  cases h with
  | unchanged => exact ⟨.refl s, rfl⟩
  | touched => exact ⟨.deeds rfl rfl rfl (Int.le_refl _), rfl⟩
  | deferred => exact ⟨.deeds rfl rfl rfl (Int.le_refl _), rfl⟩
  | buried => exact ⟨.deeds rfl rfl rfl (Int.le_refl _), rfl⟩

theorem Dispatched.tableOnly {s s' : CoreState} {e : SSEEvent} {o : Option Ptr}
    (h : Dispatched s e o s') : TableOnly s s' := by
  cases h with
  | missed => exact .refl s
  | orphaned => exact .deeds rfl rfl rfl (Int.le_refl _)
  | @failed p r => exact @TableOnly.deeds _ _ p [.notSetUp e] rfl rfl rfl (Int.le_refl _)
  | entered => exact .deeds rfl rfl rfl (Int.le_refl _)

theorem Ended.tableOnly {s s' : CoreState} {p : Ptr} (h : Ended s p s') : TableOnly s s' := by
  cases h with
  | kept => exact .deeds rfl rfl rfl (Int.le_refl _)
  | buried => exact .deeds rfl rfl rfl (Int.le_refl _)

/-! ## §3. The queue keeps to its periods. -/

namespace QueueOk

theorem init : QueueOk .appInitialize where
  active := rfl
  eventsCapacity := rfl
  swapCapacity := rfl
  events := rfl
  overflow h := by
    simp [CoreState.appInitialize, openPeriod, pushLog, refusedHandles, List.reduceOption]
  overflowNodup := List.nodup_nil
  full h := absurd rfl h
  ordered period hp := by
    rw [List.mem_singleton.mp hp]
    exact ⟨[], [], rfl, (fun x hx => by cases hx), (fun x hx => by cases hx)⟩
  batch := ⟨rfl, rfl⟩
  given period hp x hx := by
    rw [List.mem_singleton.mp hp] at hx
    cases hx
  givenEvents e he := by cases he
  givenOverflows h hh := by cases hh

variable {s s' : CoreState}

/-- The flush goes on, or empties an array it is done with. -/
theorem moved (h : QueueOk s) (ht : TableOnly s s') {queue : SSEEventQueue} {c : Control}
    (hevents : queue.events = s.queue.events)
    (hoverflow : queue.overflowHandles = s.queue.overflowHandles)
    (hswap : queue.eventsSwap = s.queue.eventsSwap ∨ queue.eventsSwap = s.queue.eventsSwap.clear)
    (hoverflowSwap : queue.overflowSwap = s.queue.overflowSwap
      ∨ queue.overflowSwap = s.queue.overflowSwap.clear)
    (hbatch : BatchOk queue c) : QueueOk { s' with queue := queue, control := c } where
  active := ht.active.trans h.active
  eventsCapacity := by
    rw [hevents]
    exact h.eventsCapacity
  swapCapacity := by
    show queue.eventsSwap.capacity = _
    rcases hswap with hswap | hswap
    · rw [hswap]
      exact h.swapCapacity
    · rw [hswap]
      exact h.swapCapacity
  events := by
    rw [hevents, ht.openPeriod]
    exact h.events
  overflow n := by
    rw [hoverflow, ht.openPeriod]
    exact h.overflow n
  overflowNodup := by
    rw [hoverflow]
    exact h.overflowNodup
  full := by
    rw [hevents, ht.openPeriod]
    exact h.full
  ordered := by
    rw [ht.closedPeriods, ht.openPeriod]
    exact h.ordered
  batch := hbatch
  given period := by
    rw [ht.closedPeriods, ht.openPeriod]
    intro hp x hx
    exact Int.lt_of_lt_of_le (h.given period hp x hx) ht.nextHandle
  givenEvents e he := by
    rcases hswap with hswap | hswap
    · exact Int.lt_of_lt_of_le (h.givenEvents e (hswap ▸ he)) ht.nextHandle
    · rw [hswap] at he
      cases he
  givenOverflows n hn := by
    rcases hoverflowSwap with hswap | hswap
    · exact Int.lt_of_lt_of_le (h.givenOverflows n (hswap ▸ hn)) ht.nextHandle
    · rw [hswap] at hn
      cases hn

/-- An operation on the table does not move the flush. -/
theorem tableOnly (h : QueueOk s) (ht : TableOnly s s') (hcontrol : s'.control = s.control) :
    QueueOk s' := by
  have hbatch := h.batch
  rw [← ht.queue, ← hcontrol] at hbatch
  exact h.moved ht (by rw [ht.queue]) (by rw [ht.queue]) (.inl (by rw [ht.queue]))
    (.inl (by rw [ht.queue])) hbatch

/-- The swap ends a period and begins the next. -/
theorem startFlush (h : QueueOk s) (hidle : s.control = .idle) : QueueOk s.startFlush := by
  have hbatch := h.batch
  rw [hidle] at hbatch
  obtain ⟨hevents, hoverflow⟩ := hbatch
  have hopen : openPeriod s.startFlush.trace = [] := openPeriod_swap s.trace
  have hclosed : closedPeriods s.startFlush.trace = closedPeriods s.trace ++ [openPeriod s.trace] :=
    closedPeriods_swap s.trace
  have hperiods : ∀ period ∈ closedPeriods s.startFlush.trace ++ [openPeriod s.startFlush.trace],
      period = [] ∨ period ∈ closedPeriods s.trace ++ [openPeriod s.trace] := by
    intro period hp
    rw [hclosed, hopen] at hp
    rcases List.mem_append.mp hp with hp | hp
    · exact .inr hp
    · exact .inl (List.mem_singleton.mp hp)
  refine ⟨h.active, h.swapCapacity, h.eventsCapacity, ?_, ?_, ?_, ?_, ?_, trivial, ?_, ?_, ?_⟩
  · rw [hopen]
    exact hevents
  · intro n
    rw [hopen]
    show n ∈ s.queue.overflowSwap.data ↔ _
    rw [hoverflow]
    rfl
  · show s.queue.overflowSwap.data.Nodup
    rw [hoverflow]
    exact List.nodup_nil
  · rw [hopen]
    exact fun hne => absurd rfl hne
  · intro period hp
    rcases hperiods period hp with rfl | hp
    · exact ⟨[], [], rfl, (fun x hx => by cases hx), (fun x hx => by cases hx)⟩
    · exact h.ordered period hp
  · intro period hp x hx
    rcases hperiods period hp with rfl | hp
    · cases hx
    · exact h.given period hp x hx
  · intro e he
    have he : e ∈ acceptedEvents (openPeriod s.trace) := h.events ▸ he
    obtain ⟨x, hx, rfl⟩ := List.mem_map.mp he
    exact h.given _ (List.mem_append_right _ (List.mem_singleton_self _)) x
      (List.mem_of_mem_filter hx)
  · intro n hn
    have hn : n ∈ refusedHandles (openPeriod s.trace) := (h.overflow n).mp hn
    obtain ⟨x, hx, rfl⟩ := List.mem_map.mp hn
    exact h.given _ (List.mem_append_right _ (List.mem_singleton_self _)) x
      (List.mem_of_mem_filter hx)

/-- One more push in the open period. -/
theorem pushed (h : QueueOk s) {e : SSEEvent} (he : e.handle < s.nextHandle) {ok : Bool}
    {queue : SSEEventQueue} (hswap : queue.eventsSwap = s.queue.eventsSwap)
    (hoverflowSwap : queue.overflowSwap = s.queue.overflowSwap)
    (hcapacity : queue.events.capacity = s.queue.events.capacity)
    (hevents : queue.events.data = s.queue.events.data ++ if ok then [e] else [])
    (hoverflow : ∀ n, n ∈ queue.overflowHandles.data
      ↔ n ∈ s.queue.overflowHandles.data ∨ n ∈ if ok then [] else [e.handle])
    (hnodup : queue.overflowHandles.data.Nodup)
    (hfull : ok = false → queue.events.full = true)
    (hroom : ok = true → refusedHandles (openPeriod s.trace) = []) :
    QueueOk { s with queue := queue, trace := s.trace ++ [.push e ok] } := by
  have hperiods : ∀ period,
      period ∈ closedPeriods (s.trace ++ [.push e ok]) ++ [openPeriod (s.trace ++ [.push e ok])] →
        period ∈ closedPeriods s.trace ∨ period = openPeriod s.trace ++ [(e, ok)] := by
    intro period hp
    rw [closedPeriods_push, openPeriod_push] at hp
    rcases List.mem_append.mp hp with hp | hp
    · exact .inl hp
    · exact .inr (List.mem_singleton.mp hp)
  have hlast : openPeriod s.trace ∈ closedPeriods s.trace ++ [openPeriod s.trace] :=
    List.mem_append_right _ (List.mem_singleton_self _)
  refine ⟨h.active, hcapacity.trans h.eventsCapacity, ?_, ?_, ?_, hnodup, ?_, ?_, ?_, ?_, ?_, ?_⟩
  · rw [hswap]
    exact h.swapCapacity
  · rw [openPeriod_push, acceptedEvents_snoc, hevents, h.events]
  · intro n
    rw [openPeriod_push, refusedHandles_snoc, List.mem_append, hoverflow, h.overflow]
  · intro hne
    apply hfull
    cases ok with
    | false => rfl
    | true =>
        rw [openPeriod_push, refusedHandles_snoc, hroom rfl] at hne
        exact absurd rfl hne
  · intro period hp
    rcases hperiods period hp with hp | rfl
    · exact h.ordered period (List.mem_append_left _ hp)
    · exact (h.ordered _ hlast).snoc e hroom
  · have hbatch := h.batch
    unfold BatchOk at hbatch ⊢
    rw [hswap, hoverflowSwap]
    exact hbatch
  · intro period hp x hx
    rcases hperiods period hp with hp | rfl
    · exact h.given period (List.mem_append_left _ hp) x hx
    · rcases List.mem_append.mp hx with hx | hx
      · exact h.given _ hlast x hx
      · rw [List.mem_singleton.mp hx]
        exact he
  · rw [hswap]
    exact h.givenEvents
  · rw [hoverflowSwap]
    exact h.givenOverflows

/-- **A push joins the open period**, accepted or refused. -/
theorem queuePush (h : QueueOk s) {e : SSEEvent} (he : e.handle < s.nextHandle) :
    QueueOk (s.queuePush e).2 := by
  unfold CoreState.queuePush
  rw [if_pos h.active]
  split
  · next hfull =>
      refine h.pushed he rfl rfl rfl (List.append_nil _).symm ?_ ?_ (fun _ => hfull)
        (fun hok => by cases hok)
      · intro n
        show n ∈ DmArray.data (if _ then _ else _) ↔ _ ∨ n ∈ [e.handle]
        split
        · next hin =>
            rw [List.mem_singleton]
            exact ⟨.inl, fun hn => hn.elim id (fun heq => heq ▸ hin)⟩
        · rw [DmArray.pushGrowing_data, List.mem_append]
      · show (DmArray.data (if _ then _ else _)).Nodup
        split
        · exact h.overflowNodup
        · next hnew =>
            rw [DmArray.pushGrowing_data]
            refine List.nodup_append.mpr ⟨h.overflowNodup, by simp, fun n hn n' hn' heq => ?_⟩
            rw [heq, List.mem_singleton.mp hn'] at hn
            exact hnew hn
  · next hfull =>
      refine h.pushed he rfl rfl rfl rfl (fun n => by simp) h.overflowNodup
        (fun hok => by cases hok) (fun _ => ?_)
      -- a queue with room has refused nothing in this period
      by_contra hrefused
      exact hfull (h.full hrefused)

end QueueOk

end DefoldSSE
