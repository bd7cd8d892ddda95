/-
  DefoldSSE.Core.Terminal — what becomes of a worker's last event.

  CLOSED goes through the same bounded queue as everything else.  If the queue
  took it, it is COMING, that is pending, in the batch or passed on, for as long
  as the connection is served; if the queue was full, the overflow error is
  coming in its place.
-/
import DefoldSSE.Core.Delivery

namespace DefoldSSE

open CLib

/-! ## §1. Nothing that is coming gets lost. -/

/-- The record at `p` will be called with `e`, or was, in the history `since`. -/
def Coming (s : CoreState) (p : Ptr) (since : List CoreEffect) (e : SSEEvent) : Prop :=
  e ∈ s.queue.pending (handleOf p) ∨ e ∈ s.queue.waiting (handleOf p) s.control
    ∨ e ∈ invoked (deeds p since)

theorem mem_invoked {e : SSEEvent} {ds : List Deed} : e ∈ invoked ds ↔ Deed.invoked e ∈ ds := by
  unfold invoked
  rw [List.mem_filterMap]
  constructor
  · rintro ⟨d, hd, heq⟩
    cases d <;> cases heq
    exact hd
  · exact fun h => ⟨_, h, rfl⟩

/-- A record is served if its deeds say so. -/
theorem Served.of_deeds {s : CoreState} {p : Ptr}
    (hopen : ∃ r, s.heap p = some r ∧ r.userClosed = false) (hvalid : s.callbackValid p = true)
    (hdeeds : (deeds p s.trace).all (fun d => !d matches .notSetUp _) = true) : Served s p where
  notClosed := hopen
  valid := hvalid
  setUp e hmem := by
    have hnot := List.all_eq_true.mp hdeeds _ hmem
    cases hnot

theorem served_of_startFlush {s : CoreState} {p : Ptr} (h : Served s.startFlush p) : Served s p :=
  h.back (fun r hr hclosed => ⟨r, hr, hclosed⟩) id (List.prefix_append _ _)

/-- **One step on, it is still coming.** -/
theorem Coming.next {s s' : CoreState} (hi : Inv s) {a : Action} (hs' : Stepped s a s') {p : Ptr}
    (hborn : p < s.nextPtr) (hserved : Served s' p) {t t' : List CoreEffect}
    (htrace : s'.trace = s.trace ++ t') {e : SSEEvent}
    (h : Served s p → Coming s p t e) : Coming s' p (t ++ t') e := by
  rcases hs'.passes hi with ⟨es, hpasses⟩ | ⟨hidle, rfl⟩ | hempty
  · have hbefore : Served s p := by
      rcases hpasses.back p hserved with hbefore | hunborn
      · exact hbefore
      · exact absurd hborn (Nat.not_lt.mpr hunborn)
    -- the events of this step are what stopped waiting
    have hes : invoked (deeds p t') = es p := by
      have hpassed := hpasses.passed p hserved
      rw [htrace, deeds_append, invoked_append] at hpassed
      exact List.append_cancel_left hpassed
    rcases h hbefore with hpending | hwaiting | hinvoked
    · exact .inl (hpasses.pending _ hpending)
    · rw [hpasses.waiting p] at hwaiting
      rcases List.mem_append.mp hwaiting with hpassed | hwaiting
      · refine .inr (.inr ?_)
        rw [deeds_append, invoked_append, hes]
        exact List.mem_append_right _ hpassed
      · exact .inr (.inl hwaiting)
    · refine .inr (.inr ?_)
      rw [deeds_append, invoked_append]
      exact List.mem_append_left _ hinvoked
  · -- the swap: what was pending is the batch, and no batch was waiting
    rcases h (served_of_startFlush hserved) with hpending | hwaiting | hinvoked
    · exact .inr (.inl hpending)
    · rw [hidle] at hwaiting
      cases hwaiting
    · refine .inr (.inr ?_)
      rw [deeds_append, invoked_append]
      exact List.mem_append_left _ hinvoked
  · -- finalized: no connection is left to be served
    obtain ⟨r, hr, -⟩ := hserved.notClosed
    rw [hempty p] at hr
    cases hr

/-- **Over a run it is still coming.** -/
theorem Coming.run {s s' : CoreState} (hi : Inv s) {p : Ptr} (hborn : p < s.nextPtr) {e : SSEEvent}
    (h : Coming s p [] e) {as : List Action} (hrun : core.run s as = some s')
    (hserved : Served s' p) : ∃ t, s'.trace = s.trace ++ t ∧ Coming s' p t e := by
  have hkept := Machine.run_keeps
    (P := fun m => Inv m ∧ p < m.nextPtr
      ∧ ∃ t, m.trace = s.trace ++ t ∧ (Served m p → Coming m p t e)) ?_
    ⟨hi, hborn, [], (List.append_nil _).symm, fun _ => h⟩ hrun
  · obtain ⟨-, -, t, ht, hcoming⟩ := hkept
    exact ⟨t, ht, hcoming hserved⟩
  · intro m a m' hm hen hok
    obtain ⟨hi, hborn, t, ht, hcoming⟩ := hm
    have hstepped := hi.stepped_of_ok hen hok
    obtain ⟨t', ht'⟩ := hstepped.extends
    refine ⟨hi.next hstepped, ?_, t ++ t', ?_, ?_⟩
    · exact Nat.lt_of_lt_of_le hborn hstepped.nextPtr.1
    · rw [← ht', ht, List.append_assoc]
    · intro hserved
      exact Coming.next hi hstepped hborn hserved ht'.symm hcoming

/-! ## §2. The last event. -/

theorem mem_eventsFor {handle : Int} {e : SSEEvent} {es : List SSEEvent} :
    e ∈ eventsFor handle es ↔ e ∈ es ∧ e.handle = handle := by
  simp [eventsFor]

theorem mem_overflowsFor {handle : Int} {e : SSEEvent} {handles : List Int} :
    e ∈ overflowsFor handle handles ↔ handle ∈ handles ∧ e = overflowEvent handle := by
  unfold overflowsFor
  rw [List.mem_map]
  constructor
  · rintro ⟨n, hmem, rfl⟩
    obtain ⟨hn, heq⟩ := List.mem_filter.mp hmem
    have heq : n = handle := by simpa using heq
    rw [heq] at hn ⊢
    exact ⟨hn, rfl⟩
  · rintro ⟨hn, rfl⟩
    exact ⟨handle, List.mem_filter.mpr ⟨hn, by simp⟩, rfl⟩

/-- CLOSED is in the queue or in the batch, or was passed on in `t`. -/
def ClosedComing (s : CoreState) (handle : Int) (p : Ptr) (t : List CoreEffect) : Prop :=
  closedEvent handle ∈ s.queue.events.data ∨ closedEvent handle ∈ s.queue.waiting handle s.control
    ∨ Deed.invoked (closedEvent handle) ∈ deeds p t

/-- The push of CLOSED: it is coming, or the overflow error is. -/
theorem coming_of_closed {s : CoreState} (hactive : s.active = true) (p : Ptr) :
    Coming (s.queuePush (closedEvent (handleOf p))).2 p []
      (if s.queue.events.full = true then overflowEvent (handleOf p)
        else closedEvent (handleOf p)) := by
  refine .inl ?_
  unfold CoreState.queuePush
  rw [if_pos hactive]
  by_cases hfull : s.queue.events.full = true
  · rw [dif_pos hfull, if_pos hfull]
    refine List.mem_append_right _ (mem_overflowsFor.mpr ⟨?_, rfl⟩)
    show handleOf p ∈ DmArray.data (if _ then _ else _)
    split
    · next hnoted => exact hnoted
    · rw [DmArray.pushGrowing_data]
      exact List.mem_append_right _ (List.mem_singleton_self _)
  · rw [dif_neg hfull, if_neg hfull]
    refine List.mem_append_left _ (mem_eventsFor.mpr ⟨?_, rfl⟩)
    exact List.mem_append_right _ (List.mem_singleton_self _)

/-- **THE LAST EVENT IS COMING, OR ITS LOSS IS MARKED**: whatever happens between
the push of CLOSED and a state in which its connection is served. -/
theorem closed_or_marked (as : List Action) (s : CoreState)
    (hrun : core.run core.init as = some s) (handle : Int)
    (hen : core.enabled s (.push (closedEvent handle)) = true) (s₁ : CoreState)
    (hpush : core.step s (.push (closedEvent handle)) = .ok s₁) (bs : List Action) (s₂ : CoreState)
    (hbs : core.run s₁ bs = some s₂) (p : Ptr) (r : SSEConnection) (hr : s₂.heap p = some r)
    (hhandle : r.handle = handle) (hserved : Served s₂ p) :
    ∃ t, s₂.trace = s₁.trace ++ t
      ∧ if s.queue.events.full = true then Coming s₂ p t (overflowEvent handle)
        else ClosedComing s₂ handle p t := by
  obtain ⟨hi, hq, -⟩ := queueInv.reachable ⟨as, hrun⟩
  have hstepped : Stepped s (.push (closedEvent handle)) s₁ := hi.stepped_of_ok hen hpush
  have hi₁ := hi.next hstepped
  have hp : handle = handleOf p := by
    have hi₂ := (run_extends hi₁ hbs).1
    exact hhandle.symm.trans (hi₂.record p r hr).handle
  subst hp
  cases hstepped with
  | pushed hgiven =>
      -- the handle was given out, so the record is as old as the push
      have hborn : p < (s.queuePush (closedEvent (handleOf p))).2.nextPtr := by
        have hlt : handleOf p < s.nextHandle := hgiven.2
        have hnext : s.nextHandle = s.nextPtr + 1 := hi.nextHandle
        have hsame : (s.queuePush (closedEvent (handleOf p))).2.nextPtr = s.nextPtr := by
          obtain ⟨queue, ok, heq⟩ := s.queuePush_eq (closedEvent (handleOf p))
          rw [heq]
        rw [hsame]
        unfold handleOf at hlt
        exact Int.ofNat_lt.mp (by omega)
      obtain ⟨t, ht, hcoming⟩ := Coming.run hi₁ hborn (coming_of_closed hq.active p) hbs hserved
      refine ⟨t, ht, ?_⟩
      by_cases hfull : s.queue.events.full = true
      · rw [if_pos hfull] at hcoming ⊢
        exact hcoming
      · -- CLOSED is no overflow error, so it is among the events
        rw [if_neg hfull] at hcoming ⊢
        rcases hcoming with hpending | hwaiting | hinvoked
        · rcases List.mem_append.mp hpending with hevent | hoverflow
          · exact .inl (mem_eventsFor.mp hevent).1
          · cases (mem_overflowsFor.mp hoverflow).2
        · exact .inr (.inl hwaiting)
        · exact .inr (.inr (mem_invoked.mp hinvoked))

/-- One event, and then CLOSED, both passed on. -/
def openThenClosed : List Action :=
  [.connect { url := ascii "http://x" }, .push (openEvent 1 200)]

/-- After that push the flush has come as far as the callback of OPEN. -/
theorem closed_or_marked_openThenClosed :
    ∃ s s₁ s₂, core.run core.init openThenClosed = some s
      ∧ core.step s (.push (closedEvent 1)) = .ok s₁
      ∧ core.run s₁ [.update, .advance true] = some s₂
      ∧ ∃ t, s₂.trace = s₁.trace ++ t
        ∧ if s.queue.events.full = true then Coming s₂ 0 t (overflowEvent 1)
          else ClosedComing s₂ 1 0 t :=
  ⟨_, _, _, rfl, rfl, rfl, closed_or_marked openThenClosed _ rfl 1 rfl _ rfl [.update, .advance true]
    _ rfl 0 _ rfl rfl (.of_deeds ⟨_, rfl, rfl⟩ rfl rfl)⟩

/-! ## §3. A full queue. -/

/-- One connection, and as many events as the queue has room for. -/
def crowd : List Action :=
  .connect { url := ascii "http://x" }
    :: List.replicate sseQueueCapacity (.push (openEvent 1 200))

/-- **A full queue drops CLOSED**: the connection is served, and right after the
push CLOSED is neither in the queue nor in the batch, nor was it passed on. -/
theorem closed_is_dropped :
    ∃ s s₁, core.run core.init crowd = some s
      ∧ core.enabled s (.push (closedEvent 1)) = true
      ∧ core.step s (.push (closedEvent 1)) = .ok s₁
      ∧ (∃ r, s₁.heap 0 = some r ∧ r.handle = 1) ∧ Served s₁ 0
      ∧ ¬∃ t, s₁.trace = s₁.trace ++ t ∧ ClosedComing s₁ 1 0 t := by
  obtain ⟨s₀, hconnect, hactive, hnext, hdata, hcapacity, hcontrol, ⟨r, hr, hhandle, hopen⟩, hvalid,
      hdeeds⟩ : ∃ s₀, core.next core.init (.connect { url := ascii "http://x" }) = some s₀
        ∧ s₀.active = true ∧ s₀.nextHandle = 2 ∧ s₀.queue.events.data = []
        ∧ s₀.queue.events.capacity = sseQueueCapacity ∧ s₀.control = .idle
        ∧ (∃ r, s₀.heap 0 = some r ∧ r.handle = 1 ∧ r.userClosed = false)
        ∧ s₀.callbackValid 0 = true ∧ deeds 0 s₀.trace = [.created 1, .attached] :=
    ⟨_, rfl, rfl, rfl, rfl, rfl, rfl, ⟨_, rfl, rfl, rfl⟩, rfl, rfl⟩
  unfold crowd
  -- which capacity it is does not matter
  generalize sseQueueCapacity = n at hcapacity ⊢
  obtain ⟨events, hrun, hevents, hcap⟩ := run_fill (openEvent 1 200) n hactive
    (by rw [hnext]; decide) (by rw [hdata, hcapacity]; simp)
  rw [hdata, List.nil_append] at hevents
  have hfull : events.full = true := by
    simp [DmArray.full, hevents, hcap, hcapacity]
  -- the state with the full queue
  generalize hs : ({ s₀ with
    queue := { s₀.queue with events := events }
    trace := s₀.trace ++ List.replicate n (.push (openEvent 1 200) true) } :
      CoreState) = s at hrun
  obtain ⟨noted, hpush, -⟩ := queuePush_full (s := s) (by rw [← hs]; exact hactive)
    (by rw [← hs]; exact hfull) (closedEvent 1)
  have hquiet : deeds 0 (s₀.trace
      ++ List.replicate n (.push (openEvent 1 200) true)
      ++ [.push (closedEvent 1) false]) = [.created 1, .attached] := by
    rw [deeds_append, deeds_append, hdeeds]
    simp [deeds]
  have hstep : core.step s (.push (closedEvent 1)) = .ok (s.queuePush (closedEvent 1)).2 := rfl
  rw [hpush] at hstep
  refine ⟨s, _, ?_, ?_, hstep, ⟨r, ?_, hhandle⟩, .of_deeds ⟨r, ?_, hopen⟩ ?_ ?_, ?_⟩
  · show walk core.next core.init (_ :: _) = some s
    rw [walk_cons, hconnect, Option.bind_some]
    exact hrun
  · refine decide_eq_true ⟨by decide, ?_⟩
    rw [← hs]
    show 1 < s₀.nextHandle
    rw [hnext]
    decide
  · rw [← hs]
    exact hr
  · rw [← hs]
    exact hr
  · rw [← hs]
    exact hvalid
  · rw [← hs]
    show (deeds 0 _).all _ = true
    rw [hquiet]
    rfl
  · rintro ⟨t, ht, hcoming⟩
    have hnothing : t = [] := List.append_right_eq_self.mp ht.symm
    subst hnothing
    rcases hcoming with hqueued | hwaiting | hinvoked
    · rw [← hs] at hqueued
      have hqueued : closedEvent 1 ∈ events.data := hqueued
      rw [hevents] at hqueued
      have heq := List.eq_of_mem_replicate hqueued
      cases heq
    · rw [← hs] at hwaiting
      have hwaiting : closedEvent 1 ∈ SSEEventQueue.waiting _ 1 s₀.control := hwaiting
      rw [hcontrol] at hwaiting
      cases hwaiting
    · cases hinvoked

end DefoldSSE
