/-
  DefoldSSE.Core.Script — what the calls of a platform come to for a script.

  As long as the script has not disconnected a handle, `m_Connected` is what
  `SSE_SetConnected` said last (`flag_run`).  And a message that the queue took
  has been handed to the callback or is on its way, in the order of the pushes
  (`messages_reach`).
-/
import DefoldSSE.Core.IsConnected
import DefoldSSE.Lib.Attempts

namespace DefoldSSE

open CLib

/-! ## §1. The flag, step by step. -/

/-- What a call says of the connection. -/
def Action.flag (handle : Int) : Action → Option Bool
  | .setConnected h connected => if h = handle then some connected else none
  | _ => none

/-- The flag is what the step says of it, `sse.disconnect` apart. -/
structure Flagged (a : Action) (r r' : SSEConnection) : Prop where
  handle : r'.handle = r.handle
  connected : a ≠ .disconnect r.handle → r'.connected = (a.flag r.handle).getD r.connected

/-- A step that says nothing. -/
theorem Flagged.silent {a : Action} {r r' : SSEConnection} (hhandle : r'.handle = r.handle)
    (hconnected : r'.connected = r.connected) (hflag : a.flag r.handle = none) :
    Flagged a r r' where
  handle := hhandle
  connected _ := by rw [hflag, hconnected, Option.getD_none]

/-- Each record in `s'` is flagged by the step, or added. -/
def FlaggedAt (a : Action) (s s' : CoreState) : Prop :=
  ∀ p r', s'.heap p = some r' → (∃ r, s.heap p = some r ∧ Flagged a r r') ∨ Added s r'

section FlaggedAt

variable {a : Action} {s s' : CoreState}

/-- What stands in the heap as before. -/
theorem FlaggedAt.of_heap (hsilent : ∀ h, a.flag h = none) (h : s'.heap = s.heap) :
    FlaggedAt a s s' := by
  intro p r' hr'
  rw [h] at hr'
  exact .inl ⟨r', hr', .silent rfl rfl (hsilent _)⟩

/-- One record is written. -/
theorem FlaggedAt.of_rewrite (hsilent : ∀ h, a.flag h = none) {p : Ptr} {r r' : SSEConnection}
    (hr : s.heap p = some r) (hflagged : Flagged a r r')
    (h : s'.heap = Function.update s.heap p (some r')) : FlaggedAt a s s' := by
  intro q r'' hr''
  rw [h] at hr''
  rcases update_eq_some hr'' with ⟨rfl, hnew⟩ | ⟨-, hold⟩
  · cases hnew
    exact .inl ⟨r, hr, hflagged⟩
  · exact .inl ⟨r'', hold, .silent rfl rfl (hsilent _)⟩

/-- One record is gone. -/
theorem FlaggedAt.of_bury (hsilent : ∀ h, a.flag h = none) {p : Ptr}
    (h : s'.heap = Function.update s.heap p none) : FlaggedAt a s s' := by
  intro q r'' hr''
  rw [h] at hr''
  rcases update_eq_some hr'' with ⟨-, hnone⟩ | ⟨-, hold⟩
  · cases hnone
  · exact .inl ⟨r'', hold, .silent rfl rfl (hsilent _)⟩

end FlaggedAt

namespace Inv

variable {s s' : CoreState}

/-- `SSE_SetConnected` says it to the record of the handle, and to no other. -/
theorem flagged_setConnected (h : QueueInv s) {handle : Int} {connected : Bool}
    (hok : s.setConnected handle connected = .ok s') :
    FlaggedAt (.setConnected handle connected) s s' := by
  unfold CoreState.setConnected at hok
  rw [if_pos h.queue.active] at hok
  -- a record of another handle
  have hother : ∀ {q r}, s.heap q = some r → r.handle ≠ handle →
      Flagged (.setConnected handle connected) r r := fun _ hne =>
    .silent rfl rfl (if_neg fun heq => hne heq.symm)
  rcases s.findConnection_cases handle h.inv.alive with hfound | hnone
  · obtain ⟨p, r, hfind, -, hr, hhandle⟩ := hfound
    rw [hfind] at hok
    cases hok
    intro q r' hr'
    rcases update_eq_some hr' with ⟨rfl, hnew⟩ | ⟨hne, hold⟩
    · cases hnew
      refine .inl ⟨r, hr, rfl, fun _ => ?_⟩
      have hflag : Action.flag r.handle (.setConnected handle connected) = some connected :=
        if_pos hhandle.symm
      rw [hflag]
      rfl
    · refine .inl ⟨r', hold, hother hold fun heq => hne ?_⟩
      exact h.inv.unique hold hr (heq.trans hhandle.symm)
  · obtain ⟨hfind, hnone⟩ := hnone
    rw [hfind] at hok
    cases hok
    intro q r' hr'
    have hmem := (h.inv.registered q).mpr (by rw [hr']; rfl)
    exact .inl ⟨r', hr', hother hr' (hnone q hmem r' hr')⟩

theorem flagged_setLastEventId (h : Inv s) {handle : Int} {id : Option CString}
    (hok : s.setLastEventId handle id = .ok s') : FlaggedAt (.setLastEventId handle id) s s' := by
  unfold CoreState.setLastEventId at hok
  split at hok
  · rcases s.findConnection_cases handle h.alive with hfound | hnone
    · obtain ⟨p, r, hfind, -, hr, -⟩ := hfound
      rw [hfind] at hok
      cases hok
      have hflagged : Flagged (.setLastEventId handle id) r
          { r with lastEventId := some (id.getD (.lit "")) } := .silent rfl rfl rfl
      exact .of_rewrite (fun _ => rfl) hr hflagged rfl
    · rw [hnone.1] at hok
      cases hok
      exact .of_heap (fun _ => rfl) rfl
  · cases hok
    exact .of_heap (fun _ => rfl) rfl

/-- `sse.disconnect` leaves the records of other handles. -/
theorem flagged_disconnect (h : Inv s) {handle : Int} (hok : s.disconnect handle = .ok s') :
    FlaggedAt (.disconnect handle) s s' := by
  unfold CoreState.disconnect at hok
  rcases s.findConnection_cases handle h.alive with hfound | hnone
  · obtain ⟨p, r, hfind, -, hr, hhandle⟩ := hfound
    have hrec := h.record p r hr
    rw [hfind] at hok
    simp only at hok
    cases hclosed : r.userClosed with
    | true =>
        rw [if_pos hclosed] at hok
        cases hok
        exact .of_heap (fun _ => rfl) rfl
    | false =>
        have hplatform : r.platformData = true := by
          rw [hrec.platform, hclosed]
          rfl
        simp only [hclosed, Bool.false_eq_true, if_false, hplatform, if_true, s.write_eq,
          CoreState.platformDisconnect_eq, CoreState.rewrite_rewrite, List.nil_append,
          CoreState.write_eq] at hok
        split at hok
        · cases hok
          have hflagged : Flagged (.disconnect handle) r
              { r with userClosed := true, connected := false, platformData := false,
                       destroyAfterDispatch := true } :=
            ⟨rfl, fun hne => absurd (by rw [hhandle]) hne⟩
          exact .of_rewrite (fun _ => rfl) hr hflagged rfl
        · rw [CoreState.destroyConnection_eq _ (CoreState.rewrite_heap_self s p _ _),
            CoreState.bury_rewrite] at hok
          cases hok
          exact .of_bury (fun _ => rfl) rfl
  · rw [hnone.1] at hok
    cases hok
    exact .of_heap (fun _ => rfl) rfl

theorem flagged_dispatched {a : Action} (hsilent : ∀ h, a.flag h = none) {e : SSEEvent}
    {o : Option Ptr} {c : Control} (hs' : Dispatched s e o s') :
    FlaggedAt a s { s' with control := c } := by
  cases hs' with
  | missed _ => exact .of_heap hsilent rfl
  | orphaned _ _ _ _ => exact .of_bury hsilent rfl
  | failed _ _ _ => exact .of_heap hsilent rfl
  | @entered p r hr _ _ =>
      have hflagged : Flagged a r { r with dispatching := true } := .silent rfl rfl (hsilent _)
      exact .of_rewrite hsilent hr hflagged rfl

theorem flagged_ended {a : Action} (hsilent : ∀ h, a.flag h = none) {p : Ptr} {c : Control}
    (hs' : Ended s p s') : FlaggedAt a s { s' with control := c } := by
  cases hs' with
  | @kept r hr _ =>
      have hflagged : Flagged a r { r with dispatching := false } := .silent rfl rfl (hsilent _)
      exact .of_rewrite hsilent hr hflagged rfl
  | buried _ _ => exact .of_bury hsilent rfl

/-- **The flag of a record is what a step says of it.** -/
theorem flagged_step (h : QueueInv s) {a : Action} (hen : s.enabled a = true)
    (hok : s.step a = .ok s') : FlaggedAt a s s' := by
  have hs' := h.inv.stepped_of_ok hen hok
  cases hs' with
  | @connected call _ hs' =>
      have hkept := h.inv.kept_step hen hok
      cases hs' with
      | unsupported => exact .of_heap (fun _ => rfl) rfl
      | failed _ _ _ _ _ => exact .of_heap (fun _ => rfl) rfl
      | raised _ => exact .of_heap (fun _ => rfl) rfl
      | succeeded r handle _ _ _ _ _ _ =>
          intro p r' hr'
          rcases update_eq_some hr' with ⟨rfl, hnew⟩ | ⟨-, hold⟩
          · rcases hkept s.nextPtr r' hr' with ⟨r, hr, -⟩ | hadded
            · rw [h.inv.fresh] at hr
              cases hr
            · exact .inr hadded
          · exact .inl ⟨r', hold, .silent rfl rfl rfl⟩
  | disconnected _ _ => exact h.inv.flagged_disconnect hok
  | asked => exact .of_heap (fun _ => rfl) rfl
  | askedClosed => exact .of_heap (fun _ => rfl) rfl
  | @pushed e _ =>
      obtain ⟨queue, ok, hpush⟩ := s.queuePush_eq e
      rw [hpush]
      exact .of_heap (fun _ => rfl) rfl
  | setConnected _ => exact flagged_setConnected h hok
  | setLastEventId _ => exact h.inv.flagged_setLastEventId hok
  | updated _ => exact .of_heap (fun _ => rfl) rfl
  | dispatchedEvent _ _ hs' => exact flagged_dispatched (fun _ => rfl) hs'
  | eventsOver _ _ => exact .of_heap (fun _ => rfl) rfl
  | dispatchedOverflow _ _ hs' => exact flagged_dispatched (fun _ => rfl) hs'
  | overflowsOver _ _ => exact .of_heap (fun _ => rfl) rfl
  | leftEvent _ hs' => exact flagged_ended (fun _ => rfl) hs'
  | leftOverflow _ hs' => exact flagged_ended (fun _ => rfl) hs'
  | invalidated => exact .of_heap (fun _ => rfl) rfl
  | @finalized m _ _ hempty =>
      intro p r' hr'
      have hr' : m.heap p = some r' := hr'
      rw [hempty p] at hr'
      cases hr'

end Inv

/-! ## §2. The flag over a run. -/

/-- Only a handle that was given out is spoken of. -/
def SpeaksIssued (handle : Int) (as : List Action) : Prop :=
  ∀ seen after t connected, as = seen ++ .setConnected handle connected :: after →
    core.run core.init seen = some t → handle < t.nextHandle

/-- What `m_Connected` is after these steps. -/
structure FlagAfter (handle : Int) (seen : List Action) (t : CoreState) : Prop where
  inv : QueueInv t
  flag : ∀ p r, t.heap p = some r → r.handle = handle →
    r.connected = lastOf (Action.flag handle) false seen
  /-- Nothing was said before the handle was given out. -/
  unborn : t.nextHandle ≤ handle → lastOf (Action.flag handle) false seen = false

/-- **One step.** -/
theorem FlagAfter.next {handle : Int} {seen : List Action} {t t' : CoreState} {a : Action}
    (h : FlagAfter handle seen t) (hnext : core.next t a = some t')
    (hnot : a ≠ .disconnect handle)
    (hissued : ∀ connected, a = .setConnected handle connected → handle < t.nextHandle) :
    FlagAfter handle (seen ++ [a]) t' := by
  obtain ⟨hen, hok⟩ := core.next_eq_some.mp hnext
  have hstepped := h.inv.inv.stepped_of_ok hen hok
  have hflagged := Inv.flagged_step h.inv hen hok
  have hinv' := queueInv.step t a t' h.inv hen hok
  have hgrows : t.nextHandle ≤ t'.nextHandle := by
    rw [h.inv.inv.nextHandle, hinv'.inv.nextHandle]
    have hptr := hstepped.nextPtr.1
    omega
  -- nothing is said of a handle that nobody has
  have hunborn : t.nextHandle ≤ handle →
      lastOf (Action.flag handle) false (seen ++ [a]) = false := by
    intro hle
    have hsilent : a.flag handle = none := by
      cases a with
      | setConnected n connected =>
          refine if_neg fun heq => ?_
          subst heq
          have hlt := hissued connected rfl
          omega
      | _ => rfl
    rw [lastOf_concat, hsilent, h.unborn hle]
    rfl
  refine ⟨hinv', ?_, fun hle => hunborn (by omega)⟩
  intro p r' hr' hhandle
  rcases hflagged p r' hr' with hold | hadded
  · obtain ⟨r, hr, hstep⟩ := hold
    have hrhandle : r.handle = handle := hstep.handle.symm.trans hhandle
    rw [hstep.connected (by rw [hrhandle]; exact hnot), hrhandle, h.flag p r hr hrhandle,
      lastOf_concat]
  · have hnew : handle = t.nextHandle := hhandle.symm.trans hadded.handle
    rw [hadded.connected, hunborn (by omega)]

/-- **The run**: `m_Connected` is what was said last. -/
theorem flag_run {handle : Int} {as : List Action} (hissued : SpeaksIssued handle as)
    (hnot : .disconnect handle ∉ as) {seen after : List Action} {t : CoreState}
    (has : as = seen ++ after) (hrun : core.run core.init seen = some t) :
    FlagAfter handle seen t := by
  induction seen using List.reverseRecOn generalizing after t with
  | nil =>
      cases hrun
      exact ⟨queueInv.init, (fun p r hr => by cases hr), fun _ => rfl⟩
  | append_singleton seen a ih =>
      obtain ⟨u, hu, hnext⟩ := Machine.run_snoc hrun
      have has' : as = seen ++ a :: after := by simpa using has
      refine (ih has' hu).next hnext (fun ha => ?_) (fun connected ha => ?_)
      · subst ha
        exact hnot (by rw [has']; simp)
      · subst ha
        exact hissued seen after u connected has' hu

/-! ## §3. The messages. -/

/-- The messages among some events. -/
def messages (es : List SSEEvent) : List SSEEvent := es.filter (fun e => e.type = .eventMessage)

/-- The messages pushed for a handle, with the answers. -/
def messagesPushed (handle : Int) (trace : List CoreEffect) : List Push :=
  trace.filterMap (fun
    | .push e ok => if e.handle = handle ∧ e.type = .eventMessage then some (e, ok) else none
    | _ => none)

/-- The messages for a handle that the queue took, and that no callback has seen:
those in the batch that is flushed, and those behind it. -/
def CoreState.inTransit (s : CoreState) (handle : Int) : List SSEEvent :=
  messages (s.queue.waiting handle s.control) ++ messages (eventsFor handle s.queue.events.data)

theorem messages_append (es es' : List SSEEvent) :
    messages (es ++ es') = messages es ++ messages es' := List.filter_append es es'

/-- The messages for a handle that were taken in a period. -/
def messagesTaken (handle : Int) (period : List Push) : List SSEEvent :=
  messages (eventsFor handle (acceptedEvents period))

theorem messagesTaken_append (handle : Int) (period period' : List Push) :
    messagesTaken handle (period ++ period')
      = messagesTaken handle period ++ messagesTaken handle period' := by
  simp [messagesTaken, messages, eventsFor, acceptedEvents]

/-- An overflow error is no message. -/
theorem messages_expected (handle : Int) (period : List Push) :
    messages (expected handle period) = messagesTaken handle period := by
  have hoverflow : messages [overflowEvent handle] = [] := rfl
  unfold expected
  rw [messages_append]
  split
  · rw [hoverflow, List.append_nil]
    rfl
  · exact List.append_nil _

theorem messages_flatMap_expected (handle : Int) (periods : List (List Push)) :
    messages (periods.flatMap (expected handle)) = messagesTaken handle periods.flatten := by
  induction periods with
  | nil => rfl
  | cons period periods ih =>
      rw [List.flatMap_cons, messages_append, messages_expected, ih, List.flatten_cons,
        messagesTaken_append]

theorem messagesTaken_single (handle : Int) (e : SSEEvent) (ok : Bool) :
    messagesTaken handle [(e, ok)]
      = ((messagesPushed handle [.push e ok]).filter Prod.snd).map Prod.fst := by
  unfold messagesTaken messages eventsFor acceptedEvents messagesPushed
  by_cases hhandle : e.handle = handle
  · by_cases htype : e.type = .eventMessage
    · cases ok <;> simp [hhandle, htype]
    · cases ok <;> simp [hhandle, htype]
  · cases ok <;> simp [hhandle]

/-- The periods make up the history. -/
theorem messagesTaken_trace (handle : Int) (trace : List CoreEffect) :
    messagesTaken handle ((closedPeriods trace).flatten ++ openPeriod trace)
      = ((messagesPushed handle trace).filter Prod.snd).map Prod.fst := by
  induction trace using List.reverseRecOn with
  | nil => rfl
  | append_singleton trace x ih =>
      have hpushed : messagesPushed handle (trace ++ [x])
          = messagesPushed handle trace ++ messagesPushed handle [x] := List.filterMap_append
      rw [hpushed, List.filter_append, List.map_append, ← ih]
      cases x with
      | push e ok =>
          rw [closedPeriods_push, openPeriod_push, ← List.append_assoc, messagesTaken_append]
          rw [messagesTaken_single]
      | swap =>
          rw [closedPeriods_swap, openPeriod_swap]
          simp [messagesPushed]
      | deed p d =>
          have hlog : pushLog (trace ++ [.deed p d]) = pushLog trace := by
            rw [pushLog_append]
            exact List.append_nil _
          unfold closedPeriods openPeriod
          rw [hlog]
          simp [messagesPushed]

/-- **A message that the queue took has been handed to the callback, or is on its
way**, in every reachable state. -/
theorem messages_reach {s : CoreState} (hs : core.Reachable s) {p : Ptr} {r : SSEConnection}
    (hr : s.heap p = some r) (hserved : Served s p) :
    messages (invoked (deeds p s.trace)) ++ s.inTransit r.handle
      = ((messagesPushed r.handle s.trace).filter Prod.snd).map Prod.fst := by
  obtain ⟨hinv, hqueue, howed⟩ := queueInv.reachable hs
  have hhandle := (hinv.record p r hr).handle
  have hbatch := howed p hserved
  rw [← hhandle] at hbatch
  rw [← messagesTaken_trace, messagesTaken_append, ← messages_flatMap_expected, ← hbatch,
    messages_append, CoreState.inTransit, hqueue.events, List.append_assoc]
  rfl

end DefoldSSE
