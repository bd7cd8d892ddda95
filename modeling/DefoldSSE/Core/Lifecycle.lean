/-
  DefoldSSE.Core.Lifecycle — the life of connections over whole runs.

  `Stepped` says once what each step can do; `stepped` and `stepped_of_ok` say
  that a step does one of these things and never faults.  From it:

    (1) `invariant`   — `Inv` holds in every reachable state;
    (2) `extends`     — histories only grow, and a record that fell silent stays
                        silent;
    (3) `lifecycle`   — so every connection lives as `Lifecycle` says.
-/
import DefoldSSE.Core.Invariant

namespace DefoldSSE

open CLib

/-! ## §1. What a step does. -/

/-- Any number of records is settled one after the other. -/
abbrev SettledAll : CoreState → CoreState → Prop := Relation.ReflTransGen Settled

/-- What one settling keeps, all of them keep. -/
theorem SettledAll.keeps {P : CoreState → Prop} (hkeep : ∀ {m m'}, Settled m m' → P m → P m')
    {s s' : CoreState} (hs' : SettledAll s s') (h : P s) : P s' := by
  induction hs' with
  | refl => exact h
  | tail _ hlast ih => exact hkeep hlast ih

inductive Stepped (s : CoreState) : Action → CoreState → Prop where
  | connected {call : ConnectCall} {s' : CoreState} (hs' : s.Connected s') :
      Stepped s (.connect call) s'
  | disconnected {handle : Int} {s' : CoreState} (hs' : Settled s s')
      (hclosed : ∀ p r, s'.heap p = some r → r.handle = handle → r.userClosed = true) :
      Stepped s (.disconnect handle) s'
  | asked {platform : SSEConnection → Bool} {handle : Int} :
      Stepped s (.isConnected platform handle) s
  | askedClosed {handle : Int} : Stepped s (.isUserClosed handle) s
  | pushed {e : SSEEvent} (hhandle : 0 < e.handle ∧ e.handle < s.nextHandle) :
      Stepped s (.push e) (s.queuePush e).2
  | setConnected {handle : Int} {connected : Bool} {s' : CoreState} (hs' : Settled s s') :
      Stepped s (.setConnected handle connected) s'
  | setLastEventId {handle : Int} {id : Option CString} {s' : CoreState} (hs' : Settled s s') :
      Stepped s (.setLastEventId handle id) s'
  | updated (hidle : s.control = .idle) : Stepped s .update s.startFlush
  | dispatchedEvent {i : Nat} {e : SSEEvent} {setup : Bool} {o : Option Ptr} {s' : CoreState}
      (hcontrol : s.control = .events i) (he : s.queue.eventsSwap.data[i]? = some e)
      (hs' : Dispatched s e o s') :
      Stepped s (.advance setup)
        { s' with control := Control.after (.inEvent i) (.events (i + 1)) o }
  | eventsOver {i : Nat} {setup : Bool} (hcontrol : s.control = .events i)
      (he : s.queue.eventsSwap.data[i]? = none) :
      Stepped s (.advance setup)
        { s with
          queue := { s.queue with eventsSwap := s.queue.eventsSwap.clear }
          control := .overflows 0 }
  | dispatchedOverflow {i : Nat} {handle : Int} {setup : Bool} {o : Option Ptr} {s' : CoreState}
      (hcontrol : s.control = .overflows i) (he : s.queue.overflowSwap.data[i]? = some handle)
      (hs' : Dispatched s (overflowEvent handle) o s') :
      Stepped s (.advance setup)
        { s' with control := Control.after (.inOverflow i) (.overflows (i + 1)) o }
  | overflowsOver {i : Nat} {setup : Bool} (hcontrol : s.control = .overflows i)
      (he : s.queue.overflowSwap.data[i]? = none) :
      Stepped s (.advance setup)
        { s with
          queue := { s.queue with overflowSwap := s.queue.overflowSwap.clear }
          control := .idle }
  | leftEvent {i : Nat} {p : Ptr} {s' : CoreState} (hcontrol : s.control = .inEvent i p)
      (hs' : Ended s p s') : Stepped s .callbackReturn { s' with control := .events (i + 1) }
  | leftOverflow {i : Nat} {p : Ptr} {s' : CoreState} (hcontrol : s.control = .inOverflow i p)
      (hs' : Ended s p s') : Stepped s .callbackReturn { s' with control := .overflows (i + 1) }
  | invalidated {p : Ptr} :
      Stepped s (.invalidate p) { s with callbackValid := Function.update s.callbackValid p false }
  | finalized {s' : CoreState} (hidle : s.control = .idle) (hs' : SettledAll s s')
      (hempty : ∀ p, s'.heap p = none) : Stepped s .finalize s'.startFlush

theorem Control.current_after {inside : Ptr → Control} {next : Control}
    (hinside : ∀ p, (inside p).current = some p) (hnext : next.current = none) (o : Option Ptr) :
    (Control.after inside next o).current = o := by
  cases o with
  | none => exact hnext
  | some p => exact hinside p

namespace Inv

variable {s : CoreState}

theorem settledAll (h : Inv s) {s' : CoreState} (hs' : SettledAll s s') : Inv s' :=
  SettledAll.keeps (fun hlast hm => hm.settled hlast) hs' h

theorem settled_control {s s' : CoreState} (hs' : Settled s s') : s'.control = s.control := by
  cases hs' with
  | _ => rfl

/-- The loop of `FinalizeSSE` empties the table. -/
theorem destroyAll_settled (n : Nat) :
    ∀ {s : CoreState}, Inv s → s.control.current = none → s.connections.data.length ≤ n →
      ∃ s', s.destroyAll n = .ok s' ∧ SettledAll s s' ∧ s'.connections.data = [] := by
  induction n with
  | zero =>
    intro s h _ hlen
    exact ⟨s, rfl, .refl, List.length_eq_zero_iff.mp (Nat.le_zero.mp hlen)⟩
  | succ n ih =>
    intro s h hidle hlen
    cases htable : s.connections.data with
    | nil => exact ⟨s, by rw [CoreState.destroyAll, htable], .refl, htable⟩
    | cons p ps =>
        have hp : p ∈ s.connections.data := by
          rw [htable]
          exact List.mem_cons_self
        obtain ⟨r, hr⟩ := Option.isSome_iff_exists.mp (h.alive p hp)
        obtain ⟨hopen, -, -, hplatform⟩ := h.atRest hidle hr
        have hburied : Settled s (s.bury p [.platformDisconnected, .callbackDestroyed]) := by
          refine .buried hr ?_ hopen
          rw [hidle]
          simp
        -- the record leaves the table, so a turn less is enough for the rest
        have hshorter :
            (s.bury p [.platformDisconnected, .callbackDestroyed]).connections.data.length ≤ n := by
          have hlength := s.length_removeConnection hp
          show (s.removeConnection p).connections.data.length ≤ n
          omega
        obtain ⟨s', hall, hs', hempty⟩ := ih (h.settled hburied) hidle hshorter
        refine ⟨s', ?_, .head hburied hs', hempty⟩
        rw [CoreState.destroyAll, htable]
        simp only
        rw [s.destroyConnection_eq hr true, hplatform, (h.record p r hr).callback]
        exact hall

/-- **What a step does**: one of the things above, and never a fault, unless the
handles have run out. -/
theorem stepped (h : Inv s) {a : Action} (hen : s.enabled a = true)
    (hroom : ∀ call, a = .connect call → call.supported = true → s.nextHandle ≠ INT32_MAX) :
    ∃ s', s.step a = .ok s' ∧ Stepped s a s' := by
  cases a with
  | connect call =>
      obtain ⟨result, s', hok, hs'⟩ := s.connect_cases h.fresh h.unlisted call (hroom call rfl)
      exact ⟨s', by rw [CoreState.step, hok]; rfl, .connected hs'⟩
  | disconnect handle =>
      obtain ⟨s', hok, hs', hclosed⟩ := h.disconnect_settled handle
      exact ⟨s', hok, .disconnected hs' hclosed⟩
  | isConnected platform handle =>
      refine ⟨s, ?_, .asked⟩
      show (s.isConnected platform handle).map (fun _ => s) = .ok s
      unfold CoreState.isConnected
      rcases s.findConnection_cases handle h.alive with hfound | hnone
      · obtain ⟨p, r, hfind, -, -, -⟩ := hfound
        rw [hfind]
        rfl
      · rw [hnone.1]
        rfl
  | isUserClosed handle =>
      refine ⟨s, ?_, .askedClosed⟩
      show (s.isUserClosed handle).map (fun _ => s) = .ok s
      unfold CoreState.isUserClosed
      split
      · rcases s.findConnection_cases handle h.alive with hfound | hnone
        · obtain ⟨p, r, hfind, -, -, -⟩ := hfound
          rw [hfind]
          rfl
        · rw [hnone.1]
          rfl
      · rfl
  | push e => exact ⟨_, rfl, .pushed (of_decide_eq_true hen)⟩
  | setConnected handle connected =>
      obtain ⟨s', hok, hs'⟩ := h.setConnected_settled handle connected
      exact ⟨s', hok, .setConnected hs'⟩
  | setLastEventId handle id =>
      obtain ⟨s', hok, hs'⟩ := h.setLastEventId_settled handle id
      exact ⟨s', hok, .setLastEventId hs'⟩
  | update => exact ⟨_, rfl, .updated (eq_of_beq hen)⟩
  | advance setup =>
      show ∃ s', s.advance setup = .ok s' ∧ _
      have hflushing : s.control.flushing = true := hen
      cases hcontrol : s.control with
      | events i =>
          cases he : s.queue.eventsSwap.data[i]? with
          | some e =>
              obtain ⟨o, s', hok, hs'⟩ :=
                h.dispatchEvent_dispatched (by rw [hcontrol]; rfl) e setup
              refine ⟨_, ?_, .dispatchedEvent hcontrol he hs'⟩
              simp only [CoreState.advance, hcontrol, he, hok]
              rfl
          | none =>
              refine ⟨_, ?_, .eventsOver hcontrol he⟩
              simp only [CoreState.advance, hcontrol, he]
      | overflows i =>
          cases he : s.queue.overflowSwap.data[i]? with
          | some handle =>
              obtain ⟨o, s', hok, hs'⟩ :=
                h.dispatchEvent_dispatched (by rw [hcontrol]; rfl) (overflowEvent handle) setup
              refine ⟨_, ?_, .dispatchedOverflow hcontrol he hs'⟩
              simp only [CoreState.advance, hcontrol, he, hok]
              rfl
          | none =>
              refine ⟨_, ?_, .overflowsOver hcontrol he⟩
              simp only [CoreState.advance, hcontrol, he]
      | _ =>
          rw [hcontrol] at hflushing
          cases hflushing
  | callbackReturn =>
      show ∃ s', s.callbackReturn = .ok s' ∧ _
      have hinside : s.control.current.isSome = true := hen
      cases hcontrol : s.control with
      | inEvent i p =>
          obtain ⟨s', hok, hs'⟩ := h.endDispatch_ended (p := p) (by rw [hcontrol]; rfl)
          refine ⟨_, ?_, .leftEvent hcontrol hs'⟩
          simp only [CoreState.callbackReturn, hcontrol, hok]
          rfl
      | inOverflow i p =>
          obtain ⟨s', hok, hs'⟩ := h.endDispatch_ended (p := p) (by rw [hcontrol]; rfl)
          refine ⟨_, ?_, .leftOverflow hcontrol hs'⟩
          simp only [CoreState.callbackReturn, hcontrol, hok]
          rfl
      | _ =>
          rw [hcontrol] at hinside
          cases hinside
  | invalidate p => exact ⟨_, rfl, .invalidated⟩
  | finalize =>
      have hcontrol : s.control = .idle := eq_of_beq hen
      obtain ⟨s', hok, hs', hempty⟩ := destroyAll_settled s.connections.data.length h
        (by rw [hcontrol]; rfl) (Nat.le_refl _)
      refine ⟨s'.startFlush, ?_, .finalized hcontrol hs' (fun p => ?_)⟩
      · show (s.destroyAll s.connections.data.length).map CoreState.startFlush = _
        rw [hok]
        rfl
      · have hlisted := (h.settledAll hs').registered p
        rw [hempty] at hlisted
        cases hheap : s'.heap p with
        | none => rfl
        | some r =>
            rw [hheap] at hlisted
            exact absurd (hlisted.mpr rfl) (by simp)

/-- A step that succeeds did one of these things. -/
theorem stepped_of_ok (h : Inv s) {a : Action} {s' : CoreState} (hen : s.enabled a = true)
    (hok : s.step a = .ok s') : Stepped s a s' := by
  have hroom : ∀ call, a = .connect call → call.supported = true → s.nextHandle ≠ INT32_MAX := by
    intro call ha hsupported hmax
    subst ha
    have hfault : s.connect call = .error .handleOverflow := by
      unfold CoreState.connect
      rw [if_pos hsupported, if_pos hmax]
    rw [CoreState.step, hfault] at hok
    cases hok
  obtain ⟨s'', hok', hstepped⟩ := h.stepped hen hroom
  rw [hok] at hok'
  cases hok'
  exact hstepped

/-- **Every step keeps the invariant.** -/
theorem next (h : Inv s) {a : Action} {s' : CoreState} (hs' : Stepped s a s') : Inv s' := by
  cases hs' with
  | connected hs' => exact h.connected hs'
  | disconnected hs' _ => exact h.settled hs'
  | asked => exact h
  | askedClosed => exact h
  | @pushed e _ =>
      obtain ⟨queue, ok, hpush⟩ := s.queuePush_eq e
      rw [hpush]
      exact h.frame rfl rfl rfl rfl rfl rfl (fun p => by simp)
  | setConnected hs' => exact h.settled hs'
  | setLastEventId hs' => exact h.settled hs'
  | updated hidle =>
      refine h.frame rfl rfl rfl rfl rfl ?_ (fun p => by simp [CoreState.startFlush, CoreState.log])
      rw [hidle]
      rfl
  | dispatchedEvent hcontrol he hs' =>
      refine h.dispatched (by rw [hcontrol]; rfl) hs' ?_
      exact Control.current_after (fun _ => rfl) rfl _
  | eventsOver hcontrol he =>
      refine h.frame rfl rfl rfl rfl rfl ?_ (fun p => rfl)
      rw [hcontrol]
      rfl
  | dispatchedOverflow hcontrol he hs' =>
      refine h.dispatched (by rw [hcontrol]; rfl) hs' ?_
      exact Control.current_after (fun _ => rfl) rfl _
  | overflowsOver hcontrol he =>
      refine h.frame rfl rfl rfl rfl rfl ?_ (fun p => rfl)
      rw [hcontrol]
      rfl
  | leftEvent hcontrol hs' => exact h.ended (by rw [hcontrol]; rfl) hs' rfl
  | leftOverflow hcontrol hs' => exact h.ended (by rw [hcontrol]; rfl) hs' rfl
  | invalidated => exact h.frame rfl rfl rfl rfl rfl rfl (fun p => rfl)
  | finalized hidle hs' hempty =>
      have hcontrol := SettledAll.keeps (P := fun m => m.control = s.control)
        (fun hlast hm => (settled_control hlast).trans hm) hs' rfl
      refine (h.settledAll hs').frame rfl rfl rfl rfl rfl ?_
        (fun p => by simp [CoreState.startFlush, CoreState.log])
      rw [hcontrol, hidle]
      rfl

end Inv

/-- **`Inv` holds in every reachable state.** -/
theorem invariant : core.Invariant Inv where
  init := .init
  step _ _ _ h hen hok := h.next (h.stepped_of_ok hen hok)

/-! ## §2. Histories grow. -/

theorem Settled.extends {s s' : CoreState} (hs' : Settled s s') : s.trace <+: s'.trace := by
  cases hs' with
  | unchanged => exact List.prefix_rfl
  | _ => exact List.prefix_append _ _

theorem Dispatched.extends {s s' : CoreState} {e : SSEEvent} {o : Option Ptr}
    (hs' : Dispatched s e o s') : s.trace <+: s'.trace := by
  cases hs' with
  | missed => exact List.prefix_rfl
  | _ => exact List.prefix_append _ _

theorem Ended.extends {s s' : CoreState} {p : Ptr} (hs' : Ended s p s') :
    s.trace <+: s'.trace := by
  cases hs' with
  | _ => exact List.prefix_append _ _

theorem Stepped.extends {s s' : CoreState} {a : Action} (hs' : Stepped s a s') :
    s.trace <+: s'.trace := by
  cases hs' with
  | connected hs' =>
      cases hs' with
      | unsupported => exact List.prefix_rfl
      | _ => exact List.prefix_append _ _
  | disconnected hs' _ => exact hs'.extends
  | asked => exact List.prefix_rfl
  | askedClosed => exact List.prefix_rfl
  | @pushed e _ =>
      obtain ⟨queue, ok, hpush⟩ := s.queuePush_eq e
      rw [hpush]
      exact List.prefix_append _ _
  | setConnected hs' => exact hs'.extends
  | setLastEventId hs' => exact hs'.extends
  | updated hidle => exact List.prefix_append _ _
  | dispatchedEvent _ _ hs' => exact hs'.extends
  | eventsOver => exact List.prefix_rfl
  | dispatchedOverflow _ _ hs' => exact hs'.extends
  | overflowsOver => exact List.prefix_rfl
  | leftEvent _ hs' => exact hs'.extends
  | leftOverflow _ hs' => exact hs'.extends
  | invalidated => exact List.prefix_rfl
  | finalized hidle hs' hempty =>
      have hall := SettledAll.keeps (P := fun m => s.trace <+: m.trace)
        (fun hlast hm => hm.trans hlast.extends) hs' List.prefix_rfl
      exact hall.trans (List.prefix_append _ _)

/-- Over a run the history grows, and the invariant stays. -/
theorem run_extends {s s' : CoreState} (h : Inv s) {as : List Action}
    (hrun : core.run s as = some s') : Inv s' ∧ s.trace <+: s'.trace := by
  refine Machine.run_keeps (P := fun s' => Inv s' ∧ s.trace <+: s'.trace) ?_
    ⟨h, List.prefix_rfl⟩ hrun
  intro m a m' hm hen hok
  have hstepped := hm.1.stepped_of_ok hen hok
  exact ⟨hm.1.next hstepped, hm.2.trans hstepped.extends⟩

/-- **A record that fell silent is not called back any more.** -/
theorem silent_run {s s' : CoreState} (h : Inv s) {p : Ptr} (hsilent : (s.phase p).silent = true)
    {as : List Action} (hrun : core.run s as = some s') :
    ∃ t, s'.trace = s.trace ++ t ∧ ∀ e, Deed.invoked e ∉ deeds p t := by
  obtain ⟨h', t, ht⟩ := run_extends h hrun
  refine ⟨t, ht.symm, fun e => ?_⟩
  have hlife := (h'.life p).accepted
  rw [← ht, deeds_append] at hlife
  obtain ⟨m, hm, hrest⟩ := walk_split hlife
  rw [(h.life p).accepted] at hm
  cases hm
  exact Phase.not_invoked_of_silent hsilent hrest e

/-! ## §3. Handles do not run out. -/

/-- The step is a call of `sse.connect`. -/
def Action.isConnect : Action → Bool
  | .connect _ => true
  | _ => false

/-- The calls of `sse.connect` in a run. -/
def connects (as : List Action) : Nat := as.countP Action.isConnect

theorem Settled.nextPtr {s s' : CoreState} (hs' : Settled s s') : s'.nextPtr = s.nextPtr := by
  cases hs' with
  | _ => rfl

/-- A step allocates at most one record, and only `sse.connect` does. -/
theorem Stepped.nextPtr {s s' : CoreState} {a : Action} (hs' : Stepped s a s') :
    s.nextPtr ≤ s'.nextPtr ∧ s'.nextPtr ≤ s.nextPtr + connects [a] := by
  have hsame : ∀ {s' : CoreState}, s'.nextPtr = s.nextPtr →
      s.nextPtr ≤ s'.nextPtr ∧ s'.nextPtr ≤ s.nextPtr + connects [a] := by
    intro s' heq
    omega
  cases hs' with
  | connected hs' =>
      cases hs' with
      | unsupported => exact hsame rfl
      | _ => exact ⟨Nat.le_succ _, Nat.le_refl _⟩
  | disconnected hs' _ => exact hsame hs'.nextPtr
  | setConnected hs' => exact hsame hs'.nextPtr
  | setLastEventId hs' => exact hsame hs'.nextPtr
  | @pushed e _ =>
      obtain ⟨queue, ok, hpush⟩ := s.queuePush_eq e
      rw [hpush]
      exact hsame rfl
  | dispatchedEvent _ _ hs' =>
      cases hs' with
      | _ => exact hsame rfl
  | dispatchedOverflow _ _ hs' =>
      cases hs' with
      | _ => exact hsame rfl
  | leftEvent _ hs' =>
      cases hs' with
      | _ => exact hsame rfl
  | leftOverflow _ hs' =>
      cases hs' with
      | _ => exact hsame rfl
  | finalized hidle hs' hempty =>
      have hall := SettledAll.keeps (P := fun m => m.nextPtr = s.nextPtr)
        (fun hlast hm => hlast.nextPtr.trans hm) hs' rfl
      exact hsame (show _ = s.nextPtr from hall)
  | _ => exact hsame rfl

theorem run_nextPtr_le {as : List Action} :
    ∀ {s s' : CoreState}, Inv s → core.run s as = some s' →
      s'.nextPtr ≤ s.nextPtr + connects as := by
  induction as with
  | nil =>
    intro s s' _ hrun
    cases hrun
    exact Nat.le_refl _
  | cons a as ih =>
    intro s s' h hrun
    obtain ⟨m, hm, hrest⟩ := Option.bind_eq_some_iff.mp hrun
    obtain ⟨hen, hok⟩ := core.next_eq_some.mp hm
    have hstepped := h.stepped_of_ok hen hok
    have hfirst := hstepped.nextPtr.2
    have hlater := ih (h.next hstepped) hrest
    have hsplit : connects (a :: as) = connects [a] + connects as := by
      simp only [connects, List.countP_cons, List.countP_nil]
      omega
    omega

/-! ## §4. The life of connections. -/

/-- What holds of connections in the state a run leads to. -/
structure Lifecycle (as : List Action) (s : CoreState) : Prop where
  /-- No step reads or frees a record that is gone, before the handles run out. -/
  noFault : ∀ a, core.enabled s a = true → connects (as ++ [a]) < 2 ^ 31 - 1 →
    ∃ s', core.step s a = .ok s'
  destroyedOnce : ∀ p, (deeds p s.trace).count .destroyed ≤ 1
  /-- Attached data are given back once, before the record is destroyed. -/
  givenBack : ∀ p, Deed.attached ∈ deeds p s.trace → Deed.destroyed ∈ deeds p s.trace →
    ∃ before, deeds p s.trace = before ++ [Deed.destroyed]
      ∧ before.count .platformDisconnected = 1
  /-- Until then a live record has them, or they were given back. -/
  held : ∀ p, Deed.attached ∈ deeds p s.trace → Deed.destroyed ∉ deeds p s.trace →
    ∃ r, s.heap p = some r
      ∧ (deeds p s.trace).count .platformDisconnected = if r.platformData then 0 else 1
  /-- After `sse.disconnect(h)` the callback of `h` is not called again. -/
  neverAgain : ∀ handle s₁, core.enabled s (.disconnect handle) = true →
    core.step s (.disconnect handle) = .ok s₁ →
    ∀ bs s₂, core.run s₁ bs = some s₂ → ∀ p, Deed.created handle ∈ deeds p s.trace →
      ∃ t, s₂.trace = s₁.trace ++ t ∧ ∀ e, Deed.invoked e ∉ deeds p t
  /-- While no callback runs, nothing is half done. -/
  atRest : s.control.current = none → ∀ p ∈ s.connections.data,
    ∃ r, s.heap p = some r ∧ Inv.AtRest r
  /-- The handles in use are distinct and below the next one. -/
  handles : ∀ p ∈ s.connections.data, ∀ q ∈ s.connections.data, ∀ r r',
    s.heap p = some r → s.heap q = some r' →
      (r.handle = r'.handle → p = q) ∧ r.handle < s.nextHandle
  /-- An event only ever reaches the connection it was pushed for: the one record
  that was created with its handle. -/
  addressed : ∀ p e, Deed.invoked e ∈ deeds p s.trace →
    Deed.created e.handle ∈ deeds p s.trace
      ∧ ∀ q, Deed.created e.handle ∈ deeds q s.trace → q = p

/-- What a disconnect leaves of a connection is silent. -/
theorem silent_of_disconnected {s s₁ : CoreState} (h : Inv s) {handle : Int}
    (hs₁ : Stepped s (.disconnect handle) s₁) {p : Ptr}
    (hcreated : Deed.created handle ∈ deeds p s.trace) : (s₁.phase p).silent = true := by
  have h₁ := h.next hs₁
  have hhandle : handle = handleOf p := (h.life p).handle handle hcreated
  cases hs₁ with
  | disconnected hsettled hclosed =>
      unfold CoreState.phase
      cases hheap : s₁.heap p with
      | some r =>
          have hr := (h₁.record p r hheap).handle
          simp only
          rw [Inv.phaseOf_closed (hclosed p r hheap (hr.trans hhandle.symm))]
          rfl
      | none =>
          -- a record that was created is below `nextPtr`
          have hborn : p < s₁.nextPtr := by
            rw [hsettled.nextPtr]
            by_contra hunborn
            rw [h.deeds_unborn (Nat.not_lt.mp hunborn)] at hcreated
            cases hcreated
          simp only [if_pos hborn]
          -- gone or lost, nobody calls it
          split
          · rfl
          · rfl

/-- What was attached to a record that is not destroyed: the record has it, or it
was given back once. -/
theorem Inv.held_of_attached {s : CoreState} (h : Inv s) {p : Ptr}
    (hattached : Deed.attached ∈ deeds p s.trace) (hdestroyed : Deed.destroyed ∉ deeds p s.trace) :
    ∃ r, s.heap p = some r
      ∧ (deeds p s.trace).count .platformDisconnected = if r.platformData then 0 else 1 := by
  have hbooks : Phase.Account (deeds p s.trace) (s.phase p) := Phase.account (h.life p).accepted
  cases hheap : s.heap p with
  | none =>
      -- nothing was attached before it was there or got lost, and else it was destroyed
      unfold CoreState.phase at hbooks
      rw [hheap] at hbooks
      simp only at hbooks
      split at hbooks
      · exact absurd hattached (hbooks.unattached (.inr (.inr rfl)))
      · split at hbooks
        · have hcount := hbooks.destroyed
          rw [if_pos rfl] at hcount
          exact absurd (List.count_pos_iff.mp (by omega)) hdestroyed
        · exact absurd hattached (hbooks.unattached (.inl rfl))
  | some r =>
      rw [CoreState.phase_some hheap] at hbooks
      refine ⟨r, rfl, ?_⟩
      rw [hbooks.givenBack hattached, (h.record p r hheap).platform]
      cases hclosed : r.userClosed with
      | true => simp [Inv.phaseOf_closed hclosed]
      | false => simp [Inv.phaseOf_open hclosed]

/-- **THE LIFE OF CONNECTIONS**, in every run. -/
theorem lifecycle (as : List Action) (s : CoreState) (hrun : core.run core.init as = some s) :
    Lifecycle as s := by
  have h : Inv s := invariant.reachable ⟨as, hrun⟩
  have hbooks : ∀ p, Phase.Account (deeds p s.trace) (s.phase p) :=
    fun p => Phase.account (h.life p).accepted
  refine ⟨?_, ?_, ?_, ?_, ?_, ?_, ?_, ?_⟩
  · intro a hen hconnects
    -- each `connect` takes at most one handle, so one is left
    have hroom : ∀ call, a = .connect call → call.supported = true → s.nextHandle ≠ INT32_MAX := by
      intro call ha _ hmax
      subst ha
      have hbound : s.nextPtr ≤ connects as := by
        have := run_nextPtr_le Inv.init hrun
        exact this.trans (Nat.le_of_eq (Nat.zero_add _))
      have hmore : connects (as ++ [.connect call]) = connects as + 1 := by
        simp [connects, List.countP_append, Action.isConnect]
      have hlast := h.nextHandle.symm.trans hmax
      unfold INT32_MAX at hlast
      omega
    obtain ⟨s', hok, -⟩ := h.stepped hen hroom
    exact ⟨s', hok⟩
  · intro p
    rw [(hbooks p).destroyed]
    split <;> omega
  · intro p hattached hdestroyed
    exact Phase.given_back (h.life p).accepted hattached hdestroyed
  · exact fun p hattached hdestroyed => h.held_of_attached hattached hdestroyed
  · intro handle s₁ hen hok bs s₂ hbs p hcreated
    have hstepped : Stepped s (.disconnect handle) s₁ := h.stepped_of_ok hen hok
    exact silent_run (h.next hstepped) (silent_of_disconnected h hstepped hcreated) hbs
  · intro hidle p hp
    obtain ⟨r, hr⟩ := Option.isSome_iff_exists.mp (h.alive p hp)
    exact ⟨r, hr, h.atRest hidle hr⟩
  · intro p hp q hq r r' hr hr'
    refine ⟨h.unique hr hr', ?_⟩
    rw [(h.record p r hr).handle, h.nextHandle]
    have hborn : (p : Int) < (s.nextPtr : Int) := Int.ofNat_lt.mpr (h.born p r hr)
    unfold handleOf
    omega
  · intro p e hinvoked
    have hlife := h.life p
    obtain ⟨handle, hcreated⟩ := Phase.created_of_mem hlife.accepted hinvoked
    have hhandle : handle = e.handle :=
      (hlife.handle handle hcreated).trans (hlife.addressed e hinvoked).symm
    subst hhandle
    refine ⟨hcreated, fun q hq => ?_⟩
    exact handleOf_inj (((h.life q).handle _ hq).symm.trans (hlife.handle _ hcreated))

/-- A connection is disconnected by its own callback, with another event of its
own still in the batch. -/
def selfDisconnect : List Action :=
  [.connect { url := ascii "http://x" }, .push (openEvent 1 200), .push (closedEvent 1), .update,
    .advance true, .disconnect 1, .callbackReturn, .advance true, .advance true, .advance true]

theorem lifecycle_selfDisconnect :
    ∃ s, core.run core.init selfDisconnect = some s
      ∧ deeds 0 s.trace = [.created 1, .attached, .invoked (openEvent 1 200),
          .platformDisconnected, .callbackDestroyed, .destroyed]
      ∧ Lifecycle selfDisconnect s :=
  ⟨_, rfl, rfl, lifecycle selfDisconnect _ rfl⟩

end DefoldSSE
