/-
  DefoldSSE.Core.IsConnected — what `sse.is_connected` says of a disconnected handle.

  The record of a connection survives `sse.disconnect` while its callback runs.
  The adapters of the desktop ask the platform data, which are gone by then; the
  others ask `m_Connected` again, which a platform thread may still set.

  `Kept` says once what a step leaves of a record.  From it: a record is closed
  only by `sse.disconnect` of its handle, and its flag rises only by
  `SSE_SetConnected`.
-/
import DefoldSSE.Core.Delivery

namespace DefoldSSE

open CLib

/-! ## §1. The adapters' answers. -/

/-- The adapters; libcurl, WinHTTP and the connection pool are `desktop`. -/
inductive Platform where
  | desktop
  | android
  | ios
  | html5
  deriving DecidableEq, Repr

namespace Platform

/-- `SSE_Platform_IsConnected`; `opened` and `stop` are what the desktop's data
say at the time, if the record has any. -/
def isConnected (opened stop : Bool) : Platform → SSEConnection → Bool
  | .desktop, r => r.platformData && opened && !stop
  | .android, r => r.connected
  | .ios, r => r.connected
  | .html5, r => r.connected

/-- Once its flag is up, a record can read as connected. -/
def exposed : Platform → SSEConnection → Bool
  | .desktop, r => r.platformData
  | _, _ => true

theorem isConnected_of_not_exposed {platform : Platform} {r : SSEConnection}
    (h : platform.exposed r = false) (opened stop : Bool) :
    platform.isConnected opened stop r = false := by
  cases platform with
  | desktop =>
      have hdata : r.platformData = false := h
      simp only [isConnected, hdata, Bool.false_and]
  | _ => cases h

theorem isConnected_of_exposed {platform : Platform} {r : SSEConnection}
    (h : platform.exposed r = true) (hconnected : r.connected = true) :
    platform.isConnected true false r = true := by
  cases platform with
  | desktop =>
      have hdata : r.platformData = true := h
      simp only [isConnected, hdata, Bool.and_self, Bool.not_false]
  | _ => exact hconnected

end Platform

/-! ## §2. What a step leaves of a record. -/

structure Kept (a : Action) (r r' : SSEConnection) : Prop where
  handle : r'.handle = r.handle
  /-- The flag is raised by `SSE_SetConnected` only. -/
  connected : r'.connected = true → r.connected = true ∨ a = .setConnected r.handle true
  platform : r'.platformData = true → r.platformData = true
  /-- The record is closed by `sse.disconnect` only, which lowers the flag. -/
  closed : r'.userClosed = true →
    r.userClosed = true ∨ a = .disconnect r.handle ∧ r'.connected = false
  stays : r.userClosed = true → r'.userClosed = true

theorem Kept.refl (a : Action) (r : SSEConnection) : Kept a r r where
  handle := rfl
  connected h := .inl h
  platform h := h
  closed h := .inl h
  stays h := h

/-- A record that was just added. -/
structure Added (s : CoreState) (r : SSEConnection) : Prop where
  handle : r.handle = s.nextHandle
  connected : r.connected = false
  closed : r.userClosed = false

/-- Each record in `s'` was kept by the step, or added. -/
def KeptAt (a : Action) (s s' : CoreState) : Prop :=
  ∀ p r', s'.heap p = some r' → (∃ r, s.heap p = some r ∧ Kept a r r') ∨ Added s r'

theorem KeptAt.of_heap {a : Action} {s s' : CoreState} (h : s'.heap = s.heap) : KeptAt a s s' := by
  intro p r' hr'
  rw [h] at hr'
  exact .inl ⟨r', hr', .refl a r'⟩

theorem KeptAt.of_rewrite {a : Action} {s s' : CoreState} {p : Ptr} {r r' : SSEConnection}
    (hr : s.heap p = some r) (hkept : Kept a r r')
    (h : s'.heap = Function.update s.heap p (some r')) : KeptAt a s s' := by
  intro q r'' hr''
  rw [h] at hr''
  rcases update_eq_some hr'' with ⟨rfl, hnew⟩ | ⟨-, hold⟩
  · cases hnew
    exact .inl ⟨r, hr, hkept⟩
  · exact .inl ⟨r'', hold, .refl a r''⟩

theorem KeptAt.of_bury {a : Action} {s s' : CoreState} {p : Ptr}
    (h : s'.heap = Function.update s.heap p none) : KeptAt a s s' := by
  intro q r'' hr''
  rw [h] at hr''
  rcases update_eq_some hr'' with ⟨-, hnone⟩ | ⟨-, hold⟩
  · cases hnone
  · exact .inl ⟨r'', hold, .refl a r''⟩

namespace Inv

variable {s s' : CoreState}

theorem kept_setConnected (h : Inv s) {handle : Int} {connected : Bool}
    (hok : s.setConnected handle connected = .ok s') :
    KeptAt (.setConnected handle connected) s s' := by
  unfold CoreState.setConnected at hok
  split at hok
  · rcases s.findConnection_cases handle h.alive with hfound | hnone
    · obtain ⟨p, r, hfind, -, hr, hhandle⟩ := hfound
      rw [hfind] at hok
      cases hok
      have hkept : Kept (.setConnected handle connected) r { r with connected := connected } := by
        refine ⟨rfl, fun hup => .inr ?_, id, .inl, id⟩
        have hup : connected = true := hup
        rw [hhandle, hup]
      exact .of_rewrite hr hkept rfl
    · rw [hnone.1] at hok
      cases hok
      exact .of_heap rfl
  · cases hok
    exact .of_heap rfl

theorem kept_setLastEventId (h : Inv s) {handle : Int} {id : Option CString}
    (hok : s.setLastEventId handle id = .ok s') : KeptAt (.setLastEventId handle id) s s' := by
  unfold CoreState.setLastEventId at hok
  split at hok
  · rcases s.findConnection_cases handle h.alive with hfound | hnone
    · obtain ⟨p, r, hfind, -, hr, -⟩ := hfound
      rw [hfind] at hok
      cases hok
      have hkept : Kept (.setLastEventId handle id) r
          { r with lastEventId := some (id.getD (.lit "")) } :=
        ⟨rfl, .inl, (fun hdata => hdata), .inl, fun hclosed => hclosed⟩
      exact .of_rewrite hr hkept rfl
    · rw [hnone.1] at hok
      cases hok
      exact .of_heap rfl
  · cases hok
    exact .of_heap rfl

theorem kept_disconnect (h : Inv s) {handle : Int} (hok : s.disconnect handle = .ok s') :
    KeptAt (.disconnect handle) s s' := by
  unfold CoreState.disconnect at hok
  rcases s.findConnection_cases handle h.alive with hfound | hnone
  · obtain ⟨p, r, hfind, -, hr, hhandle⟩ := hfound
    have hrec := h.record p r hr
    rw [hfind] at hok
    simp only at hok
    cases hclosed : r.userClosed with
    | true =>
        rw [if_pos hclosed] at hok
        cases hok
        exact .of_heap rfl
    | false =>
        have hplatform : r.platformData = true := by
          rw [hrec.platform, hclosed]
          rfl
        simp only [hclosed, Bool.false_eq_true, if_false, hplatform, if_true, s.write_eq,
          CoreState.platformDisconnect_eq, CoreState.rewrite_rewrite, List.nil_append,
          CoreState.write_eq] at hok
        split at hok
        · cases hok
          have hkept : Kept (.disconnect handle) r
              { r with userClosed := true, connected := false, platformData := false,
                       destroyAfterDispatch := true } :=
            ⟨rfl, (fun hup => by cases hup), (fun hdata => by cases hdata),
              (fun _ => .inr ⟨by rw [hhandle], rfl⟩), fun _ => rfl⟩
          exact .of_rewrite hr hkept rfl
        · rw [CoreState.destroyConnection_eq _ (CoreState.rewrite_heap_self s p _ _),
            CoreState.bury_rewrite] at hok
          cases hok
          exact .of_bury rfl
  · rw [hnone.1] at hok
    cases hok
    exact .of_heap rfl

theorem kept_connected {call : ConnectCall} (hs' : s.Connected s') :
    KeptAt (.connect call) s s' := by
  cases hs' with
  | unsupported => exact .of_heap rfl
  | failed _ _ _ _ _ => exact .of_heap rfl
  | raised _ => exact .of_heap rfl
  | succeeded r handle _ _ connected closed _ _ =>
      intro q r' hr'
      rcases update_eq_some hr' with ⟨rfl, hnew⟩ | ⟨-, hold⟩
      · cases hnew
        exact .inr ⟨handle, connected, closed⟩
      · exact .inl ⟨r', hold, .refl _ r'⟩

theorem kept_dispatched {a : Action} {e : SSEEvent} {o : Option Ptr} {c : Control}
    (hs' : Dispatched s e o s') : KeptAt a s { s' with control := c } := by
  cases hs' with
  | missed _ => exact .of_heap rfl
  | orphaned _ _ _ _ => exact .of_bury rfl
  | failed _ _ _ => exact .of_heap rfl
  | @entered p r hr _ _ =>
      have hkept : Kept a r { r with dispatching := true } := ⟨rfl, .inl, id, .inl, id⟩
      exact .of_rewrite hr hkept rfl

theorem kept_ended {a : Action} {p : Ptr} {c : Control} (hs' : Ended s p s') :
    KeptAt a s { s' with control := c } := by
  cases hs' with
  | @kept r hr _ =>
      have hkept : Kept a r { r with dispatching := false } := ⟨rfl, .inl, id, .inl, id⟩
      exact .of_rewrite hr hkept rfl
  | buried _ _ => exact .of_bury rfl

/-- **Every step keeps the records it does not add.** -/
theorem kept_step (h : Inv s) {a : Action} (hen : s.enabled a = true) (hok : s.step a = .ok s') :
    KeptAt a s s' := by
  have hs' := h.stepped_of_ok hen hok
  cases hs' with
  | connected hs' => exact kept_connected hs'
  | disconnected _ _ => exact h.kept_disconnect hok
  | asked => exact .of_heap rfl
  | askedClosed => exact .of_heap rfl
  | @pushed e _ =>
      obtain ⟨queue, ok, hpush⟩ := s.queuePush_eq e
      rw [hpush]
      exact .of_heap rfl
  | setConnected _ => exact h.kept_setConnected hok
  | setLastEventId _ => exact h.kept_setLastEventId hok
  | updated _ => exact .of_heap rfl
  | dispatchedEvent _ _ hs' => exact kept_dispatched hs'
  | eventsOver _ _ => exact .of_heap rfl
  | dispatchedOverflow _ _ hs' => exact kept_dispatched hs'
  | overflowsOver _ _ => exact .of_heap rfl
  | leftEvent _ hs' => exact kept_ended hs'
  | leftOverflow _ hs' => exact kept_ended hs'
  | invalidated => exact .of_heap rfl
  | @finalized m _ _ hempty =>
      intro p r' hr'
      have hr' : m.heap p = some r' := hr'
      rw [hempty p] at hr'
      cases hr'

end Inv

/-! ## §3. Disconnected handles over a run. -/

/-- A state of the run that `core.run core.init seen` leads to, `seen` being the
steps so far. -/
structure Reading (platform : Platform) (handle : Int) (seen : List Action) (t : CoreState) : Prop where
  inv : Inv t
  before : .disconnect handle ∉ seen →
    ∀ p r, t.heap p = some r → r.handle = handle → r.userClosed = false
  after : .disconnect handle ∈ seen →
    ∀ p r, t.heap p = some r → r.handle = handle → platform.exposed r = true → r.connected = false

/-- After `sse.disconnect(handle)`, `SSE_SetConnected(handle, true)` finds a record
that can read as connected. -/
def RaisedLate (platform : Platform) (handle : Int) (as : List Action) : Prop :=
  ∃ seen after t, as = seen ++ .setConnected handle true :: after ∧ .disconnect handle ∈ seen
    ∧ core.run core.init seen = some t
    ∧ ∃ p r, t.heap p = some r ∧ r.handle = handle ∧ platform.exposed r = true

/-- After `sse.disconnect(handle)`, `sse.is_connected(handle)` is false. -/
def NeverReadsConnected (platform : Platform) (handle : Int) (as : List Action) : Prop :=
  ∀ seen after t, as = seen ++ after → .disconnect handle ∈ seen →
    core.run core.init seen = some t →
      ∀ opened stop, t.isConnected (platform.isConnected opened stop) handle = .ok false

/-- What is disconnected is a handle that was given out. -/
def DisconnectsIssued (handle : Int) (as : List Action) : Prop :=
  ∀ seen after t, as = seen ++ .disconnect handle :: after → core.run core.init seen = some t →
    handle < t.nextHandle

theorem reading_init (platform : Platform) (handle : Int) :
    Reading platform handle [] core.init where
  inv := .init
  before _ p r hr := by cases hr
  after _ p r hr := by cases hr

theorem exposed_mono {a : Action} {platform : Platform} {r r' : SSEConnection} (hkept : Kept a r r')
    (h : platform.exposed r' = true) : platform.exposed r = true := by
  cases platform with
  | desktop => exact hkept.platform h
  | _ => rfl

/-- **One step.** -/
theorem Reading.next {platform : Platform} {handle : Int} {seen : List Action} {t t' : CoreState}
    {a : Action} (h : Reading platform handle seen t) (hnext : core.next t a = some t')
    (hlate : .disconnect handle ∈ seen → a = .setConnected handle true →
      ∀ p r, t.heap p = some r → r.handle = handle → platform.exposed r = false) :
    Reading platform handle (seen ++ [a]) t' := by
  obtain ⟨hen, hok⟩ := core.next_eq_some.mp hnext
  have hkept := h.inv.kept_step hen hok
  have hstepped := h.inv.stepped_of_ok hen hok
  refine ⟨h.inv.next hstepped, ?_, ?_⟩
  · intro hseen p r' hr' hhandle
    rw [List.mem_append, not_or, List.mem_singleton] at hseen
    rcases hkept p r' hr' with hold | hadded
    · obtain ⟨r, hr, hk⟩ := hold
      have hopen := h.before hseen.1 p r hr (hk.handle.symm.trans hhandle)
      cases hclosed : r'.userClosed with
      | false => rfl
      | true =>
          -- nobody else closes it
          rcases hk.closed hclosed with hwas | hnow
          · rw [hopen] at hwas
            cases hwas
          · rw [← hk.handle, hhandle] at hnow
            exact absurd hnow.1.symm hseen.2
    · exact hadded.closed
  · intro hseen p r' hr' hhandle hexposed
    rcases hkept p r' hr' with hold | hadded
    · obtain ⟨r, hr, hk⟩ := hold
      have hhandle' : r.handle = handle := hk.handle.symm.trans hhandle
      have hexposed' := exposed_mono hk hexposed
      by_cases hearlier : .disconnect handle ∈ seen
      · have hdown := h.after hearlier p r hr hhandle' hexposed'
        cases hup : r'.connected with
        | false => rfl
        | true =>
            rcases hk.connected hup with hwas | hset
            · rw [hdown] at hwas
              cases hwas
            · rw [hhandle'] at hset
              rw [hlate hearlier hset p r hr hhandle'] at hexposed'
              cases hexposed'
      · -- this step is the disconnect
        have ha : .disconnect handle = a := by
          rcases List.mem_append.mp hseen with hin | hin
          · exact absurd hin hearlier
          · exact List.mem_singleton.mp hin
        subst ha
        have hopen := h.before hearlier p r hr hhandle'
        cases hstepped with
        | disconnected _ hclosed =>
            rcases hk.closed (hclosed p r' hr' hhandle) with hwas | hnow
            · rw [hopen] at hwas
              cases hwas
            · exact hnow.2
    · exact hadded.connected

/-- **The run.** -/
theorem reading_run {platform : Platform} {handle : Int} {as : List Action}
    (hlate : ¬ RaisedLate platform handle as) {seen after : List Action} {t : CoreState}
    (has : as = seen ++ after) (hrun : core.run core.init seen = some t) :
    Reading platform handle seen t := by
  induction seen using List.reverseRecOn generalizing after t with
  | nil =>
    cases hrun
    exact reading_init platform handle
  | append_singleton seen a ih =>
    obtain ⟨u, hu, hnext⟩ := Machine.run_snoc hrun
    have has' : as = seen ++ a :: after := by simpa using has
    refine (ih has' hu).next hnext (fun hseen ha p r hr hhandle => ?_)
    subst ha
    cases hexposed : platform.exposed r with
    | false => rfl
    | true => exact absurd ⟨seen, after, u, has', hseen, hu, p, r, hr, hhandle, hexposed⟩ hlate

/-! ## §4. What a disconnected handle reads as. -/

theorem isConnected_cases {s : CoreState} (h : Inv s) (platform : SSEConnection → Bool)
    (handle : Int) :
    (∃ p r, s.heap p = some r ∧ r.handle = handle
        ∧ s.isConnected platform handle = .ok (r.connected && platform r))
      ∨ s.isConnected platform handle = .ok false
        ∧ ∀ p r, s.heap p = some r → r.handle ≠ handle := by
  unfold CoreState.isConnected
  rcases s.findConnection_cases handle h.alive with hfound | hnone
  · obtain ⟨p, r, hfind, -, hr, hhandle⟩ := hfound
    rw [hfind]
    exact .inl ⟨p, r, hr, hhandle, rfl⟩
  · obtain ⟨hfind, hnone⟩ := hnone
    rw [hfind]
    exact .inr ⟨rfl, fun p r hr => hnone p ((h.registered p).mpr (by rw [hr]; rfl)) r hr⟩

/-- A record that cannot read as connected. -/
theorem isConnected_false {s : CoreState} (h : Inv s) {platform : Platform} {handle : Int}
    (hdown : ∀ p r, s.heap p = some r → r.handle = handle → platform.exposed r = true →
      r.connected = false) (opened stop : Bool) :
    s.isConnected (platform.isConnected opened stop) handle = .ok false := by
  rcases isConnected_cases h (platform.isConnected opened stop) handle with hfound | hnone
  · obtain ⟨p, r, hr, hhandle, hanswer⟩ := hfound
    rw [hanswer]
    cases hexposed : platform.exposed r with
    | false => rw [Platform.isConnected_of_not_exposed hexposed, Bool.and_false]
    | true => rw [hdown p r hr hhandle hexposed, Bool.false_and]
  · exact hnone.1

/-- A record that `SSE_SetConnected` has found. -/
theorem setConnected_reads {s s' : CoreState} (h : QueueInv s) {platform : Platform} {handle : Int}
    {p : Ptr} {r : SSEConnection} (hr : s.heap p = some r) (hhandle : r.handle = handle)
    (hexposed : platform.exposed r = true) (hok : s.setConnected handle true = .ok s')
    (h' : Inv s') : s'.isConnected (platform.isConnected true false) handle = .ok true := by
  unfold CoreState.setConnected at hok
  rw [if_pos h.queue.active] at hok
  rcases s.findConnection_cases handle h.inv.alive with hfound | hnone
  · obtain ⟨q, rq, hfind, -, hq, hqhandle⟩ := hfound
    have hpq := h.inv.unique hr hq (hhandle.trans hqhandle.symm)
    subst hpq
    rw [hr] at hq
    cases hq
    rw [hfind] at hok
    cases hok
    have hup : (s.write p { r with connected := true }).heap p = some { r with connected := true } :=
      Function.update_self _ _ _
    rcases isConnected_cases h' (platform.isConnected true false) handle with hfound | hnone
    · obtain ⟨q, rq, hq, hqhandle, hanswer⟩ := hfound
      have hpq := h'.unique hup hq (hhandle.trans hqhandle.symm)
      subst hpq
      rw [hup] at hq
      cases hq
      have hexposed' : platform.exposed { r with connected := true } = true := by
        cases platform with
        | desktop => exact hexposed
        | _ => rfl
      rw [hanswer, Platform.isConnected_of_exposed hexposed' rfl]
      rfl
    · exact absurd hhandle (hnone.2 p { r with connected := true } hup)
  · exact absurd hhandle (hnone.2 p ((h.inv.registered p).mpr (by rw [hr]; rfl)) r hr)

/-- The handle was given out, and its record is closed or gone. -/
structure ClosedAfter (handle : Int) (seen : List Action) (t : CoreState) : Prop where
  inv : Inv t
  issued : .disconnect handle ∈ seen → handle < t.nextHandle
  closed : .disconnect handle ∈ seen →
    ∀ p r, t.heap p = some r → r.handle = handle → r.userClosed = true

theorem ClosedAfter.next {handle : Int} {seen : List Action} {t t' : CoreState} {a : Action}
    (h : ClosedAfter handle seen t) (hnext : core.next t a = some t')
    (hissued : a = .disconnect handle → handle < t.nextHandle) :
    ClosedAfter handle (seen ++ [a]) t' := by
  obtain ⟨hen, hok⟩ := core.next_eq_some.mp hnext
  have hkept := h.inv.kept_step hen hok
  have hstepped := h.inv.stepped_of_ok hen hok
  have hinv := h.inv.next hstepped
  have hgrows : t.nextHandle ≤ t'.nextHandle := by
    rw [h.inv.nextHandle, hinv.nextHandle]
    have hptr := hstepped.nextPtr.1
    omega
  have hbefore : .disconnect handle ∈ seen ++ [a] → handle < t.nextHandle := by
    intro hseen
    rcases List.mem_append.mp hseen with hin | hin
    · exact h.issued hin
    · exact hissued (List.mem_singleton.mp hin).symm
  refine ⟨hinv, fun hseen => Int.lt_of_lt_of_le (hbefore hseen) hgrows, ?_⟩
  intro hseen p r' hr' hhandle
  rcases hkept p r' hr' with hold | hadded
  · obtain ⟨r, hr, hk⟩ := hold
    rcases List.mem_append.mp hseen with hin | hin
    · exact hk.stays (h.closed hin p r hr (hk.handle.symm.trans hhandle))
    · have ha := List.mem_singleton.mp hin
      subst ha
      cases hstepped with
      | disconnected _ hclosed => exact hclosed p r' hr' hhandle
  · -- a new record has a new handle
    have hnew := hadded.handle
    have hold := hbefore hseen
    omega

theorem closedAfter_run {handle : Int} {as : List Action} (hissued : DisconnectsIssued handle as)
    {seen after : List Action} {t : CoreState} (has : as = seen ++ after)
    (hrun : core.run core.init seen = some t) : ClosedAfter handle seen t := by
  induction seen using List.reverseRecOn generalizing after t with
  | nil =>
    cases hrun
    exact ⟨.init, (fun hmem => by cases hmem), fun hmem => by cases hmem⟩
  | append_singleton seen a ih =>
    obtain ⟨u, hu, hnext⟩ := Machine.run_snoc hrun
    have has' : as = seen ++ a :: after := by simpa using has
    refine (ih has' hu).next hnext (fun ha => ?_)
    subst ha
    exact hissued seen after u has' hu

/-- **WHEN A DISCONNECTED HANDLE NEVER READS AS CONNECTED**: on every platform
exactly if no thread raises the flag of a record that is still in the table and
can be read; on the desktop always, since the platform data are gone with the
disconnect. -/
theorem disconnected_isConnected (platform : Platform) (handle : Int) {as : List Action}
    {s : CoreState} (hrun : core.run core.init as = some s) :
    (NeverReadsConnected platform handle as ↔ ¬ RaisedLate platform handle as)
      ∧ (platform = .desktop → DisconnectsIssued handle as →
          NeverReadsConnected platform handle as) := by
  refine ⟨⟨?_, ?_⟩, ?_⟩
  · rintro hnever ⟨seen, after, t, has, hseen, ht, p, r, hr, hhandle, hexposed⟩
    subst has
    obtain ⟨u, t', hu, hnext, ht'⟩ := Machine.run_at hrun
    cases ht.symm.trans hu
    obtain ⟨hen, hok⟩ := core.next_eq_some.mp hnext
    have hinv : QueueInv t := queueInv.reachable ⟨seen, ht⟩
    have hreads := setConnected_reads hinv hr hhandle hexposed hok
      (invariant.reachable ⟨_, ht'⟩)
    have hfalse := hnever (seen ++ [.setConnected handle true]) after t' (by simp)
      (List.mem_append_left _ hseen) ht' true false
    rw [hreads] at hfalse
    cases hfalse
  · intro hlate seen after t has hseen ht opened stop
    have hreading := reading_run hlate has ht
    exact isConnected_false hreading.inv (hreading.after hseen) opened stop
  · intro hplatform hissued seen after t has hseen ht opened stop
    have hclosed := closedAfter_run hissued has ht
    apply isConnected_false hclosed.inv
    intro p r hr hhandle hexposed
    subst hplatform
    -- a closed record has no platform data
    have hdata : r.platformData = true := hexposed
    rw [(hclosed.inv.record p r hr).platform, hclosed.closed hseen p r hr hhandle] at hdata
    cases hdata

/-- The callback of an error disconnects; the platform's thread, which was past
its own check, opens the next attempt. -/
def lateOpen : List Action :=
  [.connect { url := ascii "http://x" }, .push (errorEvent 1 none 0 true 3000), .update,
    .advance true, .disconnect 1, .setConnected 1 true, .push (openEvent 1 200)]

theorem disconnected_isConnected_lateOpen :
    ∃ s, core.run core.init lateOpen = some s
      ∧ (NeverReadsConnected .desktop 1 lateOpen ↔ ¬ RaisedLate .desktop 1 lateOpen)
        ∧ (Platform.desktop = .desktop → DisconnectsIssued 1 lateOpen →
          NeverReadsConnected .desktop 1 lateOpen) :=
  ⟨_, rfl, disconnected_isConnected .desktop 1 rfl⟩

/-- Where the platform asks `m_Connected`, the handle reads as connected inside
the callback that disconnected it. -/
theorem lateOpen_readsConnected : ¬ NeverReadsConnected .android 1 lateOpen := by
  intro h
  have hfalse := h (lateOpen.take 6) (lateOpen.drop 6) _ rfl (by simp [lateOpen]) rfl true false
  cases hfalse

end DefoldSSE
