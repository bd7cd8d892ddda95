/-
  DefoldSSE.Core.Delivery — what a connection's callback is called with.

  A record that is SERVED, that is open, valid and always set up, was called with
  exactly what the swaps so far owe its handle, less what the flush has not come
  to yet (`Owed`).  `Calls` says per kind of operation which events are passed
  on; the queue's side is `QueueOk`.

  The queue contract of `sse.cpp` is both, over every run.
-/
import DefoldSSE.Core.Periods

namespace DefoldSSE

open CLib

/-! ## §1. The queue, step by step. -/

theorem SettledAll.tableOnly {s s' : CoreState} (hs' : SettledAll s s') :
    TableOnly s s' ∧ s'.control = s.control := by
  refine SettledAll.keeps (P := fun m => TableOnly s m ∧ m.control = s.control) ?_ hs'
    ⟨.refl s, rfl⟩
  intro m m' hlast hm
  exact ⟨hm.1.trans hlast.tableOnly.1, hlast.tableOnly.2.trans hm.2⟩

/-- **Every step keeps the queue to its periods.** -/
theorem QueueOk.next {s s' : CoreState} (h : QueueOk s) {a : Action} (hs' : Stepped s a s') :
    QueueOk s' := by
  have hbatch := h.batch
  cases hs' with
  | connected hs' => exact h.tableOnly hs'.tableOnly.1 hs'.tableOnly.2
  | disconnected hs' _ => exact h.tableOnly hs'.tableOnly.1 hs'.tableOnly.2
  | asked => exact h
  | askedClosed => exact h
  | pushed hhandle => exact h.queuePush hhandle.2
  | setConnected hs' => exact h.tableOnly hs'.tableOnly.1 hs'.tableOnly.2
  | setLastEventId hs' => exact h.tableOnly hs'.tableOnly.1 hs'.tableOnly.2
  | updated hidle => exact h.startFlush hidle
  | @dispatchedEvent i e setup o s' hcontrol he hs' =>
      have hqueue := hs'.tableOnly.queue
      refine h.moved hs'.tableOnly (by rw [hqueue]) (by rw [hqueue]) (.inl (by rw [hqueue]))
        (.inl (by rw [hqueue])) ?_
      cases o with
      | _ => trivial
  | eventsOver hcontrol he => exact h.moved (.refl s) rfl rfl (.inr rfl) (.inl rfl) rfl
  | @dispatchedOverflow i handle setup o s' hcontrol he hs' =>
      have hqueue := hs'.tableOnly.queue
      rw [hcontrol] at hbatch
      refine h.moved hs'.tableOnly (by rw [hqueue]) (by rw [hqueue]) (.inl (by rw [hqueue]))
        (.inl (by rw [hqueue])) ?_
      rw [← hqueue] at hbatch
      cases o with
      | _ => exact hbatch
  | overflowsOver hcontrol he =>
      rw [hcontrol] at hbatch
      exact h.moved (.refl s) rfl rfl (.inl rfl) (.inr rfl) ⟨hbatch, rfl⟩
  | leftEvent hcontrol hs' =>
      have hqueue := hs'.tableOnly.queue
      exact h.moved hs'.tableOnly (by rw [hqueue]) (by rw [hqueue]) (.inl (by rw [hqueue]))
        (.inl (by rw [hqueue])) trivial
  | leftOverflow hcontrol hs' =>
      have hqueue := hs'.tableOnly.queue
      rw [hcontrol, ← hqueue] at hbatch
      exact h.moved hs'.tableOnly (by rw [hqueue]) (by rw [hqueue]) (.inl (by rw [hqueue]))
        (.inl (by rw [hqueue])) hbatch
  | invalidated => exact h.tableOnly ⟨rfl, rfl, rfl, Int.le_refl _⟩ rfl
  | finalized hidle hs' hempty =>
      obtain ⟨htable, hcontrol⟩ := SettledAll.tableOnly hs'
      exact (h.tableOnly htable hcontrol).startFlush (hcontrol.trans hidle)

/-! ## §2. What is passed on. -/

/-- The record at `p` is open, its callback is valid and was always set up. -/
structure Served (s : CoreState) (p : Ptr) : Prop where
  notClosed : ∃ r, s.heap p = some r ∧ r.userClosed = false
  valid : s.callbackValid p = true
  setUp : ∀ e, Deed.notSetUp e ∉ deeds p s.trace

/-- Nothing that was not served before is served after. -/
theorem Served.back {s s' : CoreState} {p : Ptr} (h : Served s' p)
    (hopen : ∀ r', s'.heap p = some r' → r'.userClosed = false →
      ∃ r, s.heap p = some r ∧ r.userClosed = false)
    (hvalid : s'.callbackValid p = true → s.callbackValid p = true)
    (htrace : s.trace <+: s'.trace) : Served s p where
  notClosed := by
    obtain ⟨r', hr', hclosed⟩ := h.notClosed
    exact hopen r' hr' hclosed
  valid := hvalid h.valid
  setUp e hmem := by
    obtain ⟨t, ht⟩ := htrace
    apply h.setUp e
    rw [← ht, deeds_append]
    exact List.mem_append_left _ hmem

/-- An operation that calls each served record with these events. -/
structure Calls (s s' : CoreState) (es : Ptr → List SSEEvent) : Prop where
  back : ∀ p, Served s' p → Served s p ∨ s.nextPtr ≤ p
  passed : ∀ p, Served s' p → invoked (deeds p s'.trace) = invoked (deeds p s.trace) ++ es p

/-- Calls of nothing. -/
abbrev Calls.nothing (s s' : CoreState) : Prop := Calls s s' (fun _ => [])

theorem invoked_deeds_append (p q : Ptr) (t : List CoreEffect) (ds : List Deed) :
    invoked (deeds q (t ++ ds.map (.deed p)))
      = invoked (deeds q t) ++ (if q = p then invoked ds else []) := by
  rw [deeds_append, invoked_append]
  by_cases hqp : q = p
  · subst hqp
    rw [deeds_self, if_pos rfl]
  · rw [deeds_of_ne p q ds hqp, if_neg hqp]
    rfl

/-- Deeds that are no calls. -/
theorem invoked_deeds_quiet (p q : Ptr) (t : List CoreEffect) {ds : List Deed}
    (hds : invoked ds = []) : invoked (deeds q (t ++ ds.map (.deed p))) = invoked (deeds q t) ++ [] := by
  rw [invoked_deeds_append, hds, ite_self]

namespace Calls

variable {s s' : CoreState}

theorem refl (s : CoreState) : Calls.nothing s s :=
  ⟨fun _ hp => .inl hp, fun _ _ => (List.append_nil _).symm⟩

/-- Where the flush is does not matter. -/
theorem moved {es : Ptr → List SSEEvent} (h : Calls s s' es) (queue : SSEEventQueue)
    (c : Control) : Calls s { s' with queue := queue, control := c } es where
  back p hp := h.back p ⟨hp.notClosed, hp.valid, hp.setUp⟩
  passed p hp := h.passed p ⟨hp.notClosed, hp.valid, hp.setUp⟩

theorem served_rewrite {p q : Ptr} {r r' : SSEConnection} {ds : List Deed}
    (h : Served (s.rewrite p r' ds) q) (hr : s.heap p = some r)
    (hopen : r'.userClosed = false → r.userClosed = false) : Served s q := by
  refine h.back ?_ id (List.prefix_append _ _)
  intro r'' hr'' hclosed
  rcases update_eq_some hr'' with ⟨rfl, hnew⟩ | ⟨-, hold⟩
  · cases hnew
    exact ⟨r, hr, hopen hclosed⟩
  · exact ⟨r'', hold, hclosed⟩

theorem served_bury {p q : Ptr} {ds : List Deed} (h : Served (s.bury p ds) q) :
    Served s q ∧ q ≠ p := by
  have hqp : q ≠ p := by
    intro heq
    subst heq
    obtain ⟨r, hr, -⟩ := h.notClosed
    have hr : Function.update s.heap q none q = some r := hr
    rw [Function.update_self] at hr
    cases hr
  refine ⟨h.back ?_ id (List.prefix_append _ _), hqp⟩
  intro r hr hclosed
  refine ⟨r, ?_, hclosed⟩
  rw [← hr]
  exact (Function.update_of_ne hqp none s.heap).symm

theorem settled (hs' : Settled s s') : Calls.nothing s s' := by
  cases hs' with
  | unchanged => exact .refl s
  | touched hr connected id =>
      exact ⟨fun q hq => .inl (served_rewrite hq hr (fun h => h)),
        fun q _ => invoked_deeds_quiet _ q s.trace rfl⟩
  | deferred hr hcurrent hopen =>
      exact ⟨fun q hq => .inl (served_rewrite hq hr (fun _ => hopen)),
        fun q _ => invoked_deeds_quiet _ q s.trace rfl⟩
  | buried hr hcurrent hopen =>
      exact ⟨fun q hq => .inl (served_bury hq).1, fun q _ => invoked_deeds_quiet _ q s.trace rfl⟩

theorem ended {p : Ptr} (hs' : Ended s p s') : Calls.nothing s s' := by
  cases hs' with
  | kept hr hopen =>
      exact ⟨fun q hq => .inl (served_rewrite hq hr (fun h => h)),
        fun q _ => invoked_deeds_quiet _ q s.trace rfl⟩
  | buried hr hclosed =>
      exact ⟨fun q hq => .inl (served_bury hq).1, fun q _ => invoked_deeds_quiet _ q s.trace rfl⟩

theorem connected (hs' : s.Connected s') : Calls.nothing s s' := by
  cases hs' with
  | unsupported => exact .refl s
  | failed capacity fits valid ds hds =>
      refine ⟨fun q hq => ?_, fun q _ => invoked_deeds_quiet _ q s.trace ?_⟩
      · by_cases hnew : q = s.nextPtr
        · exact .inr (Nat.le_of_eq hnew.symm)
        · refine .inl (hq.back (fun r hr hclosed => ⟨r, hr, hclosed⟩) (fun hvalid => ?_)
            (List.prefix_append _ _))
          rw [← hvalid]
          exact (Function.update_of_ne hnew valid s.callbackValid).symm
      · rcases hds with rfl | rfl
        · rfl
        · rfl
  | raised r =>
      refine ⟨fun q hq => ?_, fun q _ => invoked_deeds_quiet _ q s.trace rfl⟩
      by_cases hnew : q = s.nextPtr
      · exact .inr (Nat.le_of_eq hnew.symm)
      · refine .inl (hq.back (fun r hr hclosed => ⟨r, hr, hclosed⟩) (fun hvalid => ?_)
          (List.prefix_append _ _))
        rw [← hvalid]
        exact (Function.update_of_ne hnew true s.callbackValid).symm
  | succeeded r =>
      refine ⟨fun q hq => ?_, fun q _ => invoked_deeds_quiet _ q s.trace rfl⟩
      by_cases hnew : q = s.nextPtr
      · exact .inr (Nat.le_of_eq hnew.symm)
      · refine .inl (hq.back (fun r' hr' hclosed => ⟨r', ?_, hclosed⟩) (fun hvalid => ?_)
          (List.prefix_append _ _))
        · rw [← hr']
          exact (Function.update_of_ne hnew (some r) s.heap).symm
        · rw [← hvalid]
          exact (Function.update_of_ne hnew true s.callbackValid).symm

/-- A dispatch calls the record that the event is for. -/
theorem dispatched (h : Inv s) {e : SSEEvent} {o : Option Ptr} (hs' : Dispatched s e o s') :
    Calls s s' (fun p => if e.handle = handleOf p then [e] else []) := by
  have hother : ∀ {p q : Ptr} {r : SSEConnection}, s.heap p = some r → r.handle = e.handle →
      q ≠ p → ¬e.handle = handleOf q := by
    intro p q r hr hhandle hqp heq
    have hp : e.handle = handleOf p := hhandle.symm.trans (h.record p r hr).handle
    exact hqp (handleOf_inj (heq.symm.trans hp))
  cases hs' with
  | missed hnone =>
      refine ⟨fun q hq => .inl hq, fun q hq => ?_⟩
      obtain ⟨r, hr, -⟩ := hq.notClosed
      rw [if_neg, List.append_nil]
      intro heq
      exact hnone q r hr ((h.record q r hr).handle.trans heq.symm)
  | orphaned hr hhandle hinvalid hopen =>
      refine ⟨fun q hq => .inl (served_bury hq).1, fun q hq => ?_⟩
      rw [if_neg (hother hr hhandle (served_bury hq).2)]
      exact invoked_deeds_quiet _ q s.trace rfl
  | @failed p r hr hhandle hopen =>
      refine ⟨fun q hq => .inl (hq.back (fun r hr hclosed => ⟨r, hr, hclosed⟩) id
        (List.prefix_append _ _)), fun q hq => ?_⟩
      have hqp : q ≠ p := by
        intro heq
        subst heq
        apply hq.setUp e
        show Deed.notSetUp e ∈ deeds q (s.trace ++ [Deed.notSetUp e].map (.deed q))
        rw [deeds_append, deeds_self]
        exact List.mem_append_right _ (List.mem_singleton_self _)
      rw [if_neg (hother hr hhandle hqp)]
      exact @invoked_deeds_quiet p q s.trace [.notSetUp e] rfl
  | @entered p r hr hhandle hopen =>
      refine ⟨fun q hq => .inl (served_rewrite hq hr (fun h => h)), fun q _ => ?_⟩
      show invoked (deeds q (s.trace ++ [Deed.invoked e].map (.deed p))) = _
      rw [invoked_deeds_append]
      congr 1
      by_cases hqp : q = p
      · subst hqp
        rw [if_pos rfl, if_pos (hhandle.symm.trans (h.record q r hr).handle)]
        rfl
      · rw [if_neg hqp, if_neg (hother hr hhandle hqp)]

end Calls

/-! ## §3. What a step passes on. -/

theorem eventsFor_cons (handle : Int) (e : SSEEvent) (es : List SSEEvent) :
    eventsFor handle (e :: es) = (if e.handle = handle then [e] else []) ++ eventsFor handle es := by
  unfold eventsFor
  rw [List.filter_cons]
  by_cases h : e.handle = handle
  · simp [h]
  · simp [h]

theorem overflowsFor_cons (handle n : Int) (ns : List Int) :
    overflowsFor handle (n :: ns)
      = (if (overflowEvent n).handle = handle then [overflowEvent n] else [])
        ++ overflowsFor handle ns := by
  unfold overflowsFor
  rw [List.filter_cons]
  by_cases h : n = handle
  · simp [h, overflowEvent]
  · simp [h, overflowEvent]

/-- Without repetitions there is one overflow error, or none. -/
theorem overflowsFor_eq {ns : List Int} (h : ns.Nodup) (handle : Int) :
    overflowsFor handle ns = if handle ∈ ns then [overflowEvent handle] else [] := by
  unfold overflowsFor
  induction ns with
  | nil => rfl
  | cons n ns ih =>
    obtain ⟨hn, hns⟩ := List.nodup_cons.mp h
    rw [List.filter_cons]
    by_cases heq : n = handle
    · subst heq
      have hrest := ih hns
      rw [if_neg hn] at hrest
      simp [hrest]
    · have hne : ¬handle = n := fun h' => heq h'.symm
      simp [heq, hne, ih hns]

section Waiting

variable (q : SSEEventQueue) (handle : Int)

/-- The first loop goes on to its next event. -/
theorem waiting_events {i : Nat} {e : SSEEvent} (he : q.eventsSwap.data[i]? = some e)
    (o : Option Ptr) :
    q.waiting handle (.events i) = (if e.handle = handle then [e] else [])
      ++ q.waiting handle (Control.after (.inEvent i) (.events (i + 1)) o) := by
  obtain ⟨hi, he⟩ := List.getElem?_eq_some_iff.mp he
  have hdrop : q.waiting handle (.events i) = (if e.handle = handle then [e] else [])
      ++ q.waiting handle (.events (i + 1)) := by
    simp only [SSEEventQueue.waiting]
    rw [List.drop_eq_getElem_cons hi, eventsFor_cons, he, List.append_assoc]
  cases o with
  | _ => exact hdrop

/-- The second loop goes on to its next handle. -/
theorem waiting_overflows {i : Nat} {n : Int} (he : q.overflowSwap.data[i]? = some n)
    (o : Option Ptr) :
    q.waiting handle (.overflows i)
      = (if (overflowEvent n).handle = handle then [overflowEvent n] else [])
        ++ q.waiting handle (Control.after (.inOverflow i) (.overflows (i + 1)) o) := by
  obtain ⟨hi, he⟩ := List.getElem?_eq_some_iff.mp he
  have hdrop : q.waiting handle (.overflows i)
      = (if (overflowEvent n).handle = handle then [overflowEvent n] else [])
        ++ q.waiting handle (.overflows (i + 1)) := by
    simp only [SSEEventQueue.waiting]
    rw [List.drop_eq_getElem_cons hi, overflowsFor_cons, he]
  cases o with
  | _ => exact hdrop

end Waiting

/-- What the next swap will put into the batch for a handle. -/
def SSEEventQueue.pending (q : SSEEventQueue) (handle : Int) : List SSEEvent :=
  eventsFor handle q.events.data ++ overflowsFor handle q.overflowHandles.data

/-- Between two swaps events are passed on as they stop waiting, and nothing
that is pending goes away. -/
structure Passes (s s' : CoreState) (es : Ptr → List SSEEvent) : Prop extends Calls s s' es where
  periods : closedPeriods s'.trace = closedPeriods s.trace
  waiting : ∀ p, s.queue.waiting (handleOf p) s.control
    = es p ++ s'.queue.waiting (handleOf p) s'.control
  pending : ∀ handle, s.queue.pending handle ⊆ s'.queue.pending handle

namespace Passes

variable {s s' : CoreState}

/-- An operation that neither calls nor moves the flush. -/
theorem tableOnly (hcalls : Calls.nothing s s') (ht : TableOnly s s' ∧ s'.control = s.control) :
    Passes s s' (fun _ => []) where
  toCalls := hcalls
  periods := ht.1.closedPeriods
  waiting p := by
    rw [ht.1.queue, ht.2]
    rfl
  pending handle := by
    rw [ht.1.queue]
    exact List.Subset.refl _

/-- The flush goes on after an operation on the table. -/
theorem moved {es : Ptr → List SSEEvent} (hcalls : Calls s s' es) (ht : TableOnly s s')
    {queue : SSEEventQueue} {c : Control} (hevents : queue.events = s.queue.events)
    (hoverflow : queue.overflowHandles = s.queue.overflowHandles)
    (hwaiting : ∀ p, s.queue.waiting (handleOf p) s.control
      = es p ++ queue.waiting (handleOf p) c) :
    Passes s { s' with queue := queue, control := c } es where
  toCalls := hcalls.moved queue c
  periods := ht.closedPeriods
  waiting := hwaiting
  pending handle := by
    unfold SSEEventQueue.pending
    rw [hevents, hoverflow]
    exact List.Subset.refl _

/-- A push waits for the next swap. -/
theorem queuePush (s : CoreState) (e : SSEEvent) :
    Passes s (s.queuePush e).2 (fun _ => []) := by
  have hqueue : (s.queuePush e).2.queue.eventsSwap = s.queue.eventsSwap
      ∧ (s.queuePush e).2.queue.overflowSwap = s.queue.overflowSwap
      ∧ s.queue.events.data ⊆ (s.queuePush e).2.queue.events.data
      ∧ s.queue.overflowHandles.data ⊆ (s.queuePush e).2.queue.overflowHandles.data := by
    unfold CoreState.queuePush
    split
    · split
      · refine ⟨rfl, rfl, List.Subset.refl _, ?_⟩
        show _ ⊆ DmArray.data (if _ then _ else _)
        split
        · exact List.Subset.refl _
        · rw [DmArray.pushGrowing_data]
          exact List.subset_append_left _ _
      · exact ⟨rfl, rfl, List.subset_append_left _ _, List.Subset.refl _⟩
    · exact ⟨rfl, rfl, List.Subset.refl _, List.Subset.refl _⟩
  obtain ⟨queue, ok, hpush⟩ := s.queuePush_eq e
  rw [hpush] at hqueue ⊢
  obtain ⟨hswap, hoverflowSwap, hevents, hoverflows⟩ := hqueue
  have hdeeds : ∀ p, deeds p (s.trace ++ [.push e ok]) = deeds p s.trace := fun p => by simp
  refine ⟨⟨fun p hp => .inl ⟨hp.notClosed, hp.valid, ?_⟩, fun p _ => ?_⟩,
    closedPeriods_push s.trace e ok, fun p => ?_, fun handle x hx => ?_⟩
  · intro e' hmem
    exact hp.setUp e' (by rw [hdeeds]; exact hmem)
  · rw [List.append_nil]
    exact congrArg invoked (hdeeds p)
  · show s.queue.waiting _ _ = queue.waiting _ s.control
    unfold SSEEventQueue.waiting
    rw [hswap, hoverflowSwap]
  · rcases List.mem_append.mp hx with hx | hx
    · exact List.mem_append_left _ (List.filter_subset _ hevents hx)
    · exact List.mem_append_right _ (List.map_subset _ (List.filter_subset _ hoverflows) hx)

end Passes

/-- The script of a callback dies. -/
theorem Calls.invalidated (s : CoreState) (p : Ptr) :
    Calls.nothing s { s with callbackValid := Function.update s.callbackValid p false } := by
  refine ⟨fun q hq => .inl (hq.back ?_ ?_ List.prefix_rfl), fun q _ => (List.append_nil _).symm⟩
  · exact fun r hr hclosed => ⟨r, hr, hclosed⟩
  · intro hvalid
    have hvalid : Function.update s.callbackValid p false q = true := hvalid
    by_cases hqp : q = p
    · subst hqp
      rw [Function.update_self] at hvalid
      cases hvalid
    · rw [Function.update_of_ne hqp] at hvalid
      exact hvalid

/-- **A step passes events on, or swaps, or leaves no record.** -/
theorem Stepped.passes {s s' : CoreState} (hi : Inv s) {a : Action} (hs' : Stepped s a s') :
    (∃ es, Passes s s' es) ∨ (s.control = .idle ∧ s' = s.startFlush)
      ∨ ∀ p, s'.heap p = none := by
  cases hs' with
  | connected hs' => exact .inl ⟨_, .tableOnly (.connected hs') hs'.tableOnly⟩
  | disconnected hs' _ => exact .inl ⟨_, .tableOnly (.settled hs') hs'.tableOnly⟩
  | asked => exact .inl ⟨_, .tableOnly (.refl s) ⟨.refl s, rfl⟩⟩
  | askedClosed => exact .inl ⟨_, .tableOnly (.refl s) ⟨.refl s, rfl⟩⟩
  | @pushed e _ => exact .inl ⟨_, .queuePush s e⟩
  | setConnected hs' => exact .inl ⟨_, .tableOnly (.settled hs') hs'.tableOnly⟩
  | setLastEventId hs' => exact .inl ⟨_, .tableOnly (.settled hs') hs'.tableOnly⟩
  | updated hidle => exact .inr (.inl ⟨hidle, rfl⟩)
  | @dispatchedEvent i e setup o s' hcontrol he hs' =>
      have hqueue := hs'.tableOnly.queue
      refine .inl ⟨_, .moved (.dispatched hi hs') hs'.tableOnly (by rw [hqueue]) (by rw [hqueue])
        (fun p => ?_)⟩
      rw [hqueue, hcontrol]
      exact waiting_events s.queue (handleOf p) he o
  | @eventsOver i setup hcontrol he =>
      refine .inl ⟨_, .moved (.refl s) (.refl s) rfl rfl (fun p => ?_)⟩
      rw [hcontrol]
      show eventsFor _ (s.queue.eventsSwap.data.drop i) ++ _ = _
      rw [List.drop_eq_nil_of_le (List.getElem?_eq_none_iff.mp he)]
      rfl
  | @dispatchedOverflow i handle setup o s' hcontrol he hs' =>
      have hqueue := hs'.tableOnly.queue
      refine .inl ⟨_, .moved (.dispatched hi hs') hs'.tableOnly (by rw [hqueue]) (by rw [hqueue])
        (fun p => ?_)⟩
      rw [hqueue, hcontrol]
      exact waiting_overflows s.queue (handleOf p) he o
  | @overflowsOver i setup hcontrol he =>
      refine .inl ⟨_, .moved (.refl s) (.refl s) rfl rfl (fun p => ?_)⟩
      rw [hcontrol]
      show overflowsFor _ (s.queue.overflowSwap.data.drop i) = _
      rw [List.drop_eq_nil_of_le (List.getElem?_eq_none_iff.mp he)]
      rfl
  | @leftEvent i p s' hcontrol hs' =>
      have hqueue := hs'.tableOnly.queue
      refine .inl ⟨_, .moved (.ended hs') hs'.tableOnly (by rw [hqueue]) (by rw [hqueue])
        (fun p => ?_)⟩
      rw [hqueue, hcontrol]
      rfl
  | @leftOverflow i p s' hcontrol hs' =>
      have hqueue := hs'.tableOnly.queue
      refine .inl ⟨_, .moved (.ended hs') hs'.tableOnly (by rw [hqueue]) (by rw [hqueue])
        (fun p => ?_)⟩
      rw [hqueue, hcontrol]
      rfl
  | @invalidated p =>
      exact .inl ⟨_, .tableOnly (.invalidated s p) ⟨⟨rfl, rfl, rfl, Int.le_refl _⟩, rfl⟩⟩
  | finalized hidle hs' hempty => exact .inr (.inr hempty)

/-! ## §4. What is owed. -/

/-- Every served record was called with what its handle is owed, less what waits. -/
def Owed (s : CoreState) : Prop :=
  ∀ p, Served s p → invoked (deeds p s.trace) ++ s.queue.waiting (handleOf p) s.control
    = (closedPeriods s.trace).flatMap (expected (handleOf p))

/-- Nothing waits for, and nothing is owed to, a handle that was not given out. -/
theorem owed_unborn {s : CoreState} (h : Inv s) (hq : QueueOk s) {p : Ptr} (hp : s.nextPtr ≤ p) :
    invoked (deeds p s.trace) ++ s.queue.waiting (handleOf p) s.control
      = (closedPeriods s.trace).flatMap (expected (handleOf p)) := by
  have hnext : s.nextHandle ≤ handleOf p := by
    have hcast : (s.nextPtr : Int) ≤ (p : Int) := Int.ofNat_le.mpr hp
    have hnext := h.nextHandle
    unfold handleOf
    omega
  have hevents : ∀ k, eventsFor (handleOf p) (s.queue.eventsSwap.data.drop k) = [] := by
    intro k
    refine List.filter_eq_nil_iff.mpr (fun e he heq => ?_)
    have hlt := hq.givenEvents e (List.mem_of_mem_drop he)
    have heq : e.handle = handleOf p := by simpa using heq
    omega
  have hoverflows : ∀ k, overflowsFor (handleOf p) (s.queue.overflowSwap.data.drop k) = [] := by
    intro k
    unfold overflowsFor
    rw [List.map_eq_nil_iff]
    refine List.filter_eq_nil_iff.mpr (fun n hn heq => ?_)
    have hlt := hq.givenOverflows n (List.mem_of_mem_drop hn)
    have heq : n = handleOf p := by simpa using heq
    omega
  have hwaiting : s.queue.waiting (handleOf p) s.control = [] := by
    unfold SSEEventQueue.waiting
    have hall := hoverflows 0
    rw [List.drop_zero] at hall
    split
    · rfl
    · rw [hevents, hall]
      rfl
    · rw [hevents, hall]
      rfl
    · exact hoverflows _
    · exact hoverflows _
  have hexpected : ∀ period ∈ closedPeriods s.trace, expected (handleOf p) period = [] := by
    intro period hperiod
    have hgiven : ∀ x ∈ period, x.1.handle ≠ handleOf p := by
      intro x hx heq
      have hlt := hq.given period (List.mem_append_left _ hperiod) x hx
      omega
    unfold expected
    rw [if_neg, List.append_nil]
    · refine List.filter_eq_nil_iff.mpr (fun e he heq => ?_)
      obtain ⟨x, hx, rfl⟩ := List.mem_map.mp he
      exact hgiven x (List.mem_of_mem_filter hx) (by simpa using heq)
    · intro hmem
      obtain ⟨x, hx, heq⟩ := List.mem_map.mp hmem
      exact hgiven x (List.mem_of_mem_filter hx) heq
  rw [h.deeds_unborn hp, hwaiting]
  exact (List.flatMap_eq_nil_iff.mpr hexpected).symm

namespace Owed

variable {s s' : CoreState}

/-- Events are passed on as they stop waiting. -/
theorem passes (h : Owed s) (hi : Inv s) (hq : QueueOk s) {es : Ptr → List SSEEvent}
    (hpasses : Passes s s' es) : Owed s' := by
  intro p hp
  rw [hpasses.passed p hp, hpasses.periods, List.append_assoc, ← hpasses.waiting p]
  rcases hpasses.back p hp with hserved | hunborn
  · exact h p hserved
  · exact owed_unborn hi hq hunborn

/-- The swap makes the open period owed, and puts it all in the batch. -/
theorem startFlush (h : Owed s) (hq : QueueOk s) (hidle : s.control = .idle) :
    Owed s.startFlush := by
  intro p hp
  have hserved : Served s p := by
    refine hp.back (fun r hr hclosed => ⟨r, hr, hclosed⟩) id (List.prefix_append _ _)
  have hbefore := h p hserved
  rw [hidle] at hbefore
  have hdeeds : deeds p s.startFlush.trace = deeds p s.trace := by
    simp [CoreState.startFlush, CoreState.log]
  have hclosed : closedPeriods s.startFlush.trace = closedPeriods s.trace ++ [openPeriod s.trace] :=
    closedPeriods_swap s.trace
  have hbatch : s.startFlush.queue.waiting (handleOf p) s.startFlush.control
      = expected (handleOf p) (openPeriod s.trace) := by
    show eventsFor _ (s.queue.events.data.drop 0) ++ overflowsFor _ s.queue.overflowHandles.data = _
    rw [List.drop_zero, overflowsFor_eq hq.overflowNodup, hq.events]
    unfold expected
    rw [if_congr (hq.overflow (handleOf p)) rfl rfl]
  have hwaited : s.queue.waiting (handleOf p) .idle = [] := rfl
  rw [hwaited, List.append_nil] at hbefore
  rw [hdeeds, hclosed, hbatch, hbefore, List.flatMap_append, List.flatMap_singleton]

/-- **Every step leaves what is owed owed.** -/
theorem next (h : Owed s) (hi : Inv s) (hq : QueueOk s) {a : Action} (hs' : Stepped s a s') :
    Owed s' := by
  rcases hs'.passes hi with ⟨es, hpasses⟩ | ⟨hidle, rfl⟩ | hempty
  · exact h.passes hi hq hpasses
  · exact h.startFlush hq hidle
  · -- no record is left that could be served
    intro p hp
    obtain ⟨r, hr, -⟩ := hp.notClosed
    rw [hempty p] at hr
    cases hr

end Owed

/-! ## §5. The contract. -/

/-- What the queue promises in a state. -/
structure QueueContract (s : CoreState) : Prop where
  /-- The queue stays within its capacity. -/
  bounded : s.queue.events.data.length ≤ sseQueueCapacity
  /-- Between flushes the swap arrays are empty, and nothing was lost of the capacity. -/
  swapped : s.control = .idle → s.queue.eventsSwap.data = [] ∧ s.queue.overflowSwap.data = []
    ∧ s.queue.eventsSwap.capacity = sseQueueCapacity ∧ s.queue.events.capacity = sseQueueCapacity
  /-- No handle is noted twice. -/
  notedOnce : s.queue.overflowHandles.data.Nodup
  /-- The refused pushes of a period are its last ones. -/
  ordered : ∀ period ∈ closedPeriods s.trace ++ [openPeriod s.trace], Ordered period
  /-- Between flushes every served record was called with what is owed. -/
  delivered : s.control = .idle → ∀ p r, s.heap p = some r → Served s p →
    invoked (deeds p s.trace) = (closedPeriods s.trace).flatMap (expected r.handle)
  /-- During a flush the rest of the batch is missing. -/
  owed : ∀ p r, s.heap p = some r → Served s p →
    invoked (deeds p s.trace) ++ s.queue.waiting r.handle s.control
      = (closedPeriods s.trace).flatMap (expected r.handle)

/-- What the contract is kept by. -/
structure QueueInv (s : CoreState) : Prop where
  inv : Inv s
  queue : QueueOk s
  owed : Owed s

theorem queueInv : core.Invariant QueueInv where
  init := ⟨.init, .init, fun p hp => by
    obtain ⟨r, hr, -⟩ := hp.notClosed
    cases hr⟩
  step s a s' h hen hok := by
    have hstepped := h.inv.stepped_of_ok hen hok
    exact ⟨h.inv.next hstepped, h.queue.next hstepped, h.owed.next h.inv h.queue hstepped⟩

/-- **ORDER, EXACTLY ONCE, AND GAPS MARKED**, in every reachable state. -/
theorem queueContract (s : CoreState) (hs : core.Reachable s) : QueueContract s := by
  obtain ⟨hi, hq, howed⟩ := queueInv.reachable hs
  have howed' : ∀ p r, s.heap p = some r → Served s p →
      invoked (deeds p s.trace) ++ s.queue.waiting r.handle s.control
        = (closedPeriods s.trace).flatMap (expected r.handle) := by
    intro p r hr hp
    rw [(hi.record p r hr).handle]
    exact howed p hp
  refine ⟨?_, ?_, hq.overflowNodup, hq.ordered, ?_, howed'⟩
  · have hfits := s.queue.events.fits
    rw [hq.eventsCapacity] at hfits
    exact hfits
  · intro hidle
    have hbatch := hq.batch
    rw [hidle] at hbatch
    exact ⟨hbatch.1, hbatch.2, hq.swapCapacity, hq.eventsCapacity⟩
  · intro hidle p r hr hp
    have heq := howed' p r hr hp
    rw [hidle] at heq
    exact (List.append_nil _).symm.trans heq

/-- As many pushes as the queue has room for are all accepted. -/
theorem run_fill (e : SSEEvent) (n : Nat) :
    ∀ {s : CoreState}, s.active = true → (0 < e.handle ∧ e.handle < s.nextHandle) →
      s.queue.events.data.length + n ≤ s.queue.events.capacity →
      ∃ events, core.run s (List.replicate n (.push e))
          = some { s with
              queue := { s.queue with events := events }
              trace := s.trace ++ List.replicate n (.push e true) }
        ∧ events.data = s.queue.events.data ++ List.replicate n e
        ∧ events.capacity = s.queue.events.capacity := by
  induction n with
  | zero =>
    intro s _ _ _
    exact ⟨s.queue.events, by simp [Machine.run], by simp, rfl⟩
  | succ n ih =>
    intro s hactive hgiven hroom
    have hnotFull : s.queue.events.full = false := by
      simp only [DmArray.full, beq_eq_false_iff_ne]
      omega
    have hpush : core.next s (.push e) = some
        { s with
          queue := { s.queue with events := s.queue.events.push e hnotFull }
          trace := s.trace ++ [.push e true] } := by
      refine core.next_eq_some.mpr ⟨decide_eq_true hgiven, ?_⟩
      show Except.ok (s.queuePush e).2 = _
      unfold CoreState.queuePush
      rw [if_pos hactive, dif_neg (by rw [hnotFull]; simp)]
      rfl
    obtain ⟨events, hrun, hdata, hcapacity⟩ := ih (s :=
      { s with
        queue := { s.queue with events := s.queue.events.push e hnotFull }
        trace := s.trace ++ [.push e true] }) hactive hgiven (by
          show (s.queue.events.data ++ [e]).length + n ≤ s.queue.events.capacity
          rw [List.length_append, List.length_singleton]
          omega)
    refine ⟨events, ?_, ?_, hcapacity⟩
    · rw [List.replicate_succ, Machine.run, walk_cons, hpush]
      refine hrun.trans ?_
      simp [List.replicate_succ]
    · rw [hdata]
      simp [List.replicate_succ]

/-- A full queue notes the handle and changes nothing else. -/
theorem queuePush_full {s : CoreState} (hactive : s.active = true)
    (hfull : s.queue.events.full = true) (e : SSEEvent) :
    ∃ noted, (s.queuePush e).2 = { s with
        queue := { s.queue with overflowHandles := noted }
        trace := s.trace ++ [.push e false] }
      ∧ (s.queue.overflowHandles.data = [] → noted.data = [e.handle]) := by
  unfold CoreState.queuePush
  rw [if_pos hactive, dif_pos hfull]
  refine ⟨_, rfl, fun hnone => ?_⟩
  rw [if_neg (by rw [hnone]; exact List.not_mem_nil), DmArray.pushGrowing_data, hnone]
  rfl

/-- The push that a full queue answers, as a run. -/
theorem run_refused {s : CoreState} (hactive : s.active = true)
    (hfull : s.queue.events.full = true) (e : SSEEvent)
    (hgiven : 0 < e.handle ∧ e.handle < s.nextHandle) :
    ∃ noted, core.run s [.push e] = some { s with
        queue := { s.queue with overflowHandles := noted }
        trace := s.trace ++ [.push e false] }
      ∧ (s.queue.overflowHandles.data = [] → noted.data = [e.handle]) := by
  obtain ⟨noted, hpush, hhandles⟩ := queuePush_full hactive hfull e
  exact ⟨noted, Machine.run_single (decide_eq_true hgiven) (congrArg Except.ok hpush), hhandles⟩

/-- Two connections, three events of theirs, one flush; then as many events as the
queue has room for, and one more. -/
def overflowing : List Action :=
  [.connect { url := ascii "http://x" }, .connect { url := ascii "http://y" },
      .push (openEvent 1 200), .push (openEvent 2 200), .push (closedEvent 1), .update,
      .advance true, .callbackReturn, .advance true, .callbackReturn, .advance true,
      .callbackReturn, .advance true, .advance true]
    ++ (List.replicate sseQueueCapacity (.push (openEvent 1 200)) ++ [.push (closedEvent 2)])

theorem queueContract_overflowing :
    ∃ s, core.run core.init overflowing = some s ∧ s.control = .idle
      ∧ invoked (deeds 0 s.trace) = [openEvent 1 200, closedEvent 1]
      ∧ invoked (deeds 1 s.trace) = [openEvent 2 200]
      ∧ s.queue.overflowHandles.data = [2] ∧ QueueContract s := by
  -- up to the end of the flush the run is evaluated
  obtain ⟨s₀, hflushed, hactive, hnext, hdata, hcapacity, hnoted, hcontrol, hfirst, hsecond⟩ :
      ∃ s₀, core.run core.init (overflowing.take 14) = some s₀ ∧ s₀.active = true
        ∧ s₀.nextHandle = 3 ∧ s₀.queue.events.data = []
        ∧ s₀.queue.events.capacity = sseQueueCapacity ∧ s₀.queue.overflowHandles.data = []
        ∧ s₀.control = .idle
        ∧ invoked (deeds 0 s₀.trace) = [openEvent 1 200, closedEvent 1]
        ∧ invoked (deeds 1 s₀.trace) = [openEvent 2 200] :=
    ⟨_, rfl, rfl, rfl, rfl, rfl, rfl, rfl, rfl, rfl⟩
  -- the rest goes by the two lemmas, whatever the capacity is
  obtain ⟨events, hrun, hevents, hcap⟩ := run_fill (openEvent 1 200) sseQueueCapacity hactive
    (by rw [hnext]; decide) (by rw [hdata, hcapacity]; simp)
  rw [hdata, List.nil_append] at hevents
  have hfull : events.full = true := by
    simp [DmArray.full, hevents, hcap, hcapacity]
  obtain ⟨noted, hrefused, hhandles⟩ := run_refused (s := { s₀ with
    queue := { s₀.queue with events := events }
    trace := s₀.trace ++ List.replicate sseQueueCapacity (.push (openEvent 1 200) true) })
    hactive hfull (closedEvent 2) (by rw [hnext]; decide)
  have hwhole : core.run core.init overflowing = some _ :=
    walk_trans hflushed (walk_trans hrun hrefused)
  refine ⟨_, hwhole, hcontrol, ?_, ?_, hhandles hnoted, queueContract _ ⟨overflowing, hwhole⟩⟩
  · rw [← hfirst]
    simp [deeds]
  · rw [← hsecond]
    simp [deeds]

end DefoldSSE
