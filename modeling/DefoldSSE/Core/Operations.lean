/-
  DefoldSSE.Core.Operations — what each operation comes down to.

  An operation of `sse.cpp` passes through states in which a record is half
  gone.  This file says once where it ends: a record is written, buried, or
  added.  The lemmas assume what they read of the record, no invariant; putting
  the two together is `Core/Invariant.lean`.
-/
import DefoldSSE.Core.Phase
import DefoldSSE.Core.Step

namespace DefoldSSE

open CLib

/-! ## §1. Histories, record by record. -/

/-- What happened to the record at `p`. -/
def deeds (p : Ptr) (trace : List CoreEffect) : List Deed :=
  trace.filterMap (fun
    | .deed q d => if q = p then some d else none
    | _ => none)

/-- The events a record's callback was called with. -/
def invoked (ds : List Deed) : List SSEEvent :=
  ds.filterMap (fun
    | .invoked e => some e
    | _ => none)

section Deeds

variable (p q : Ptr) (t t' : List CoreEffect) (ds : List Deed)

@[simp] theorem deeds_nil : deeds p [] = [] := rfl

@[simp] theorem deeds_append : deeds p (t ++ t') = deeds p t ++ deeds p t' :=
  List.filterMap_append

@[simp] theorem deeds_push (e : SSEEvent) (ok : Bool) : deeds p [.push e ok] = [] := rfl

@[simp] theorem deeds_swap : deeds p [.swap] = [] := rfl

@[simp] theorem deeds_self : deeds p (ds.map (.deed p)) = ds := by
  simp [deeds, List.filterMap_map]

theorem deeds_of_ne (h : q ≠ p) : deeds q (ds.map (.deed p)) = [] := by
  have hne : ¬p = q := fun heq => h heq.symm
  simp [deeds, List.filterMap_map, hne]

@[simp] theorem invoked_append (ds' : List Deed) :
    invoked (ds ++ ds') = invoked ds ++ invoked ds' := List.filterMap_append

end Deeds

namespace CoreState

/-- The record at `p` is written, after these deeds. -/
def rewrite (s : CoreState) (p : Ptr) (r : SSEConnection) (ds : List Deed) : CoreState :=
  { s with heap := Function.update s.heap p (some r), trace := s.trace ++ ds.map (.deed p) }

/-- The record at `p` is destroyed, after these deeds. -/
def bury (s : CoreState) (p : Ptr) (ds : List Deed) : CoreState :=
  { s with
    connections := (s.removeConnection p).connections
    heap := Function.update s.heap p none
    trace := s.trace ++ (ds ++ [Deed.destroyed]).map (.deed p) }

/-! ## §2. Finding. -/

/-- What `SSE_FindConnection` finds where every record in the table is alive. -/
theorem findConnection_cases (s : CoreState) (handle : Int)
    (halive : ∀ p ∈ s.connections.data, (s.heap p).isSome = true) :
    (∃ p r, s.findConnection handle = .ok (some (p, r)) ∧ p ∈ s.connections.data
        ∧ s.heap p = some r ∧ r.handle = handle)
      ∨ (s.findConnection handle = .ok none
        ∧ ∀ p ∈ s.connections.data, ∀ r, s.heap p = some r → r.handle ≠ handle) := by
  unfold findConnection
  generalize s.connections.data = ps at halive
  induction ps with
  | nil => exact .inr ⟨rfl, fun p hp => by cases hp⟩
  | cons p ps ih =>
    obtain ⟨r, hr⟩ := Option.isSome_iff_exists.mp (halive p List.mem_cons_self)
    rw [findIn, hr]
    simp only
    by_cases hhandle : r.handle = handle
    · rw [if_pos hhandle]
      exact .inl ⟨p, r, rfl, List.mem_cons_self, hr, hhandle⟩
    · rw [if_neg hhandle]
      rcases ih (fun q hq => halive q (List.mem_cons_of_mem _ hq)) with h | h
      · obtain ⟨q, r', hfind, hq, hheap, hr'⟩ := h
        exact .inl ⟨q, r', hfind, List.mem_cons_of_mem _ hq, hheap, hr'⟩
      · obtain ⟨hfind, hnone⟩ := h
        refine .inr ⟨hfind, fun q hq r' hr' => ?_⟩
        rcases List.mem_cons.mp hq with rfl | hq
        · rw [hr] at hr'
          cases hr'
          exact hhandle
        · exact hnone q hq r' hr'

/-- The table without `p`, in another order. -/
theorem removeConnection_perm (s : CoreState) (p : Ptr) :
    (s.removeConnection p).connections.data.Perm (s.connections.data.erase p) := by
  unfold removeConnection
  simp only
  split
  · next hp =>
      have hperm := s.connections.eraseSwap_perm (List.idxOf_lt_length_iff.mpr hp)
      rw [List.eraseIdx_idxOf_eq_erase] at hperm
      exact hperm
  · next hp => rw [List.erase_of_not_mem hp]

theorem mem_removeConnection (s : CoreState) (p q : Ptr) (hnodup : s.connections.data.Nodup) :
    q ∈ (s.removeConnection p).connections.data ↔ q ∈ s.connections.data ∧ q ≠ p := by
  rw [(s.removeConnection_perm p).mem_iff, hnodup.mem_erase_iff, and_comm]

theorem nodup_removeConnection (s : CoreState) (p : Ptr) (hnodup : s.connections.data.Nodup) :
    (s.removeConnection p).connections.data.Nodup :=
  (s.removeConnection_perm p).nodup_iff.mpr (hnodup.erase p)

theorem length_removeConnection (s : CoreState) {p : Ptr} (hp : p ∈ s.connections.data) :
    (s.removeConnection p).connections.data.length + 1 = s.connections.data.length := by
  have hpos := List.length_pos_of_mem hp
  rw [(s.removeConnection_perm p).length_eq, List.length_erase_of_mem hp]
  omega

/-- A push touches the queue only. -/
theorem queuePush_eq (s : CoreState) (e : SSEEvent) :
    ∃ queue ok, s.queuePush e = (ok, { s with queue := queue, trace := s.trace ++ [.push e ok] }) := by
  unfold queuePush
  split
  · split
    · exact ⟨_, false, rfl⟩
    · exact ⟨_, true, rfl⟩
  · exact ⟨s.queue, false, rfl⟩

/-! ## §3. Destroying. -/

/-- `SSE_DestroyConnection` on a live record. -/
theorem destroyConnection_eq (s : CoreState) {p : Ptr} {r : SSEConnection}
    (hr : s.heap p = some r) (disconnectPlatform : Bool) :
    s.destroyConnection p disconnectPlatform
      = .ok (s.bury p ((if disconnectPlatform && r.platformData then [.platformDisconnected] else [])
          ++ (if r.callback.isSome then [.callbackDestroyed] else []))) := by
  unfold destroyConnection
  rw [hr]
  simp only
  cases disconnectPlatform && r.platformData <;> cases r.callback.isSome <;>
    simp [bury, removeConnection, platformDisconnect, write, log]

theorem bury_rewrite (s : CoreState) (p : Ptr) (r : SSEConnection) (ds ds' : List Deed) :
    (s.rewrite p r ds).bury p ds' = s.bury p (ds ++ ds') := by
  simp only [bury, rewrite, Function.update_idem, List.append_assoc, List.map_append]
  rfl

theorem rewrite_rewrite (s : CoreState) (p : Ptr) (r r' : SSEConnection) (ds ds' : List Deed) :
    (s.rewrite p r ds).rewrite p r' ds' = s.rewrite p r' (ds ++ ds') := by
  simp [rewrite]

theorem write_eq (s : CoreState) (p : Ptr) (r : SSEConnection) : s.write p r = s.rewrite p r [] := by
  simp [write, rewrite]

theorem rewrite_log (s : CoreState) (p : Ptr) (r : SSEConnection) (ds : List Deed) (d : Deed) :
    (s.rewrite p r ds).log (.deed p d) = s.rewrite p r (ds ++ [d]) := by
  simp [rewrite, log]

theorem platformDisconnect_eq (s : CoreState) (p : Ptr) (r : SSEConnection) :
    s.platformDisconnect p r = s.rewrite p { r with platformData := false }
      [.platformDisconnected] := rfl

@[simp] theorem rewrite_heap_self (s : CoreState) (p : Ptr) (r : SSEConnection) (ds : List Deed) :
    (s.rewrite p r ds).heap p = some r := Function.update_self p _ _

/-- Writing what is there already leaves the deeds. -/
theorem rewrite_same (s : CoreState) {p : Ptr} {r : SSEConnection} (hr : s.heap p = some r)
    (ds : List Deed) :
    s.rewrite p r ds = { s with trace := s.trace ++ ds.map (.deed p) } := by
  have hheap : Function.update s.heap p (some r) = s.heap := by
    rw [← hr]
    exact Function.update_eq_self p s.heap
  rw [rewrite, hheap]

/-! ## §4. Connecting. -/

end CoreState

/-- The deeds that undo a record within the call. -/
def ConnectCall.undone (call : ConnectCall) : List Deed :=
  (if call.callback.isSome then [.callbackDestroyed] else []) ++ [.destroyed]

theorem ConnectCall.undone_cases (call : ConnectCall) :
    call.undone = [.destroyed] ∨ call.undone = [.callbackDestroyed, .destroyed] := by
  unfold ConnectCall.undone
  split
  · exact .inr rfl
  · exact .inl rfl

/-- What is wrong with a call, once its record was allocated: the first mistake
counts. -/
def ConnectCall.failure (call : ConnectCall) : Option ConnectError :=
  if call.callback = some true then
    match (readOptions call.options {}).1 with
    | some error => some error
    | none =>
        call.platform.map
          (fun error => .message (if error = "" then "failed to connect sse" else error))
  else some (.message "failed to create sse callback")

theorem ConnectCall.failure_eq (call : ConnectCall) :
    call.failure = if call.callback = some true then
        (readOptions call.options {}).1.or (call.platform.map
          (fun error => .message (if error = "" then "failed to connect sse" else error)))
      else some (.message "failed to create sse callback") := by
  unfold ConnectCall.failure
  cases (readOptions call.options {}).1 <;> rfl

namespace CoreState

/-- A record was allocated and destroyed within one call of `sse.connect`; the
table may have grown for it, and it leaves a callback that is gone. -/
def stillborn (s : CoreState) (capacity : Nat) (fits : s.connections.data.length ≤ capacity)
    (valid : Bool) (ds : List Deed) : CoreState :=
  { s with
    connections := ⟨capacity, s.connections.data, fits⟩
    callbackValid := Function.update s.callbackValid s.nextPtr valid
    nextPtr := s.nextPtr + 1
    nextHandle := s.nextHandle + 1
    trace := s.trace ++ (Deed.created s.nextHandle :: ds).map (.deed s.nextPtr) }

/-- A record was allocated, and its address was lost with a Lua error. -/
def orphan (s : CoreState) (r : SSEConnection) : CoreState :=
  { s with
    lost := Function.update s.lost s.nextPtr (some r)
    callbackValid := Function.update s.callbackValid s.nextPtr true
    nextPtr := s.nextPtr + 1
    nextHandle := s.nextHandle + 1
    trace := s.trace ++ [Deed.created s.nextHandle, .lost].map (.deed s.nextPtr) }

/-- A record was allocated and is in the table. -/
def birth (s : CoreState) (r : SSEConnection) : CoreState :=
  { s with
    connections := s.connections.pushGrowing s.nextPtr
    heap := Function.update s.heap s.nextPtr (some r)
    callbackValid := Function.update s.callbackValid s.nextPtr true
    nextPtr := s.nextPtr + 1
    nextHandle := s.nextHandle + 1
    trace := s.trace ++ [Deed.created s.nextHandle, .attached].map (.deed s.nextPtr) }

/-- What `sse.connect` comes to. -/
inductive Connected (s : CoreState) : CoreState → Prop where
  | unsupported : Connected s s
  /-- It failed: the record is gone, with its callback if it had one. -/
  | failed (capacity : Nat) (fits : s.connections.data.length ≤ capacity) (valid : Bool)
      (ds : List Deed) (hds : ds = [.destroyed] ∨ ds = [.callbackDestroyed, .destroyed]) :
      Connected s (s.stillborn capacity fits valid ds)
  /-- A Lua error left it: the record stays, and nobody has it. -/
  | raised (r : SSEConnection) : Connected s (s.orphan r)
  | succeeded (r : SSEConnection) (handle : r.handle = s.nextHandle)
      (callback : r.callback = some s.nextPtr) (platform : r.platformData = true)
      (connected : r.connected = false) (closed : r.userClosed = false)
      (dispatching : r.dispatching = false) (deferred : r.destroyAfterDispatch = false) :
      Connected s (s.birth r)

/-- A record that is destroyed before it is in the table. -/
theorem stillborn_unregistered (s : CoreState) (hfresh : s.heap s.nextPtr = none)
    (hunlisted : s.nextPtr ∉ s.connections.data) (call : ConnectCall) (r : SSEConnection)
    (hr : r.callback = call.callback.map (fun _ => s.nextPtr)) :
    ((s.allocate call).1.write s.nextPtr r).destroyConnection s.nextPtr false
      = .ok (s.stillborn s.connections.capacity s.connections.fits (call.callback.getD false)
          call.undone) := by
  have hheap : ((s.allocate call).1.write s.nextPtr r).heap s.nextPtr = some r :=
    Function.update_self _ _ _
  have hback : Function.update s.heap s.nextPtr none = s.heap := by
    rw [← hfresh]
    exact Function.update_eq_self _ _
  have hcases : ∀ ds : List Deed,
      ((s.allocate call).1.write s.nextPtr r).bury s.nextPtr ds
        = s.stillborn s.connections.capacity s.connections.fits (call.callback.getD false)
            (ds ++ [Deed.destroyed]) := by
    intro ds
    simp [bury, removeConnection, allocate, write, log, stillborn, hunlisted, hback]
  rw [destroyConnection_eq _ hheap false, hcases, hr, Option.isSome_map]
  rfl

/-- A record that is destroyed when it was already in the table: it was the last
one there. -/
theorem stillborn_registered (s : CoreState) (hfresh : s.heap s.nextPtr = none)
    (hunlisted : s.nextPtr ∉ s.connections.data) (call : ConnectCall)
    (hvalid : call.callback = some true) (r : SSEConnection)
    (hr : r.callback = some s.nextPtr) :
    ∃ capacity fits, CoreState.destroyConnection
        { (s.allocate call).1.write s.nextPtr r with
          connections := (s.allocate call).1.connections.pushGrowing s.nextPtr } s.nextPtr false
      = .ok (s.stillborn capacity fits true call.undone) := by
  have hback : Function.update s.heap s.nextPtr none = s.heap := by
    rw [← hfresh]
    exact Function.update_eq_self _ _
  obtain ⟨capacity, fits, htable⟩ : ∃ capacity, ∃ fits : s.connections.data.length ≤ capacity,
      (s.connections.pushGrowing s.nextPtr).eraseSwap
        (List.idxOf s.nextPtr (s.connections.data ++ [s.nextPtr]))
          = ⟨capacity, s.connections.data, fits⟩ := by
    rw [List.idxOf_append_of_notMem hunlisted]
    simp only [List.idxOf_cons_self, Nat.add_zero]
    have hdata := s.connections.eraseSwap_pushGrowing s.nextPtr
    generalize (s.connections.pushGrowing s.nextPtr).eraseSwap s.connections.data.length = a at hdata
    exact ⟨a.capacity, hdata ▸ a.fits, DmArray.ext rfl hdata⟩
  have hmem : s.nextPtr ∈ (s.connections.pushGrowing s.nextPtr).data := by simp
  refine ⟨capacity, fits, ?_⟩
  rw [destroyConnection_eq _ (Function.update_self _ _ _) false, hr]
  simp [bury, removeConnection, allocate, write, log, stillborn, hback, htable, hvalid,
    ConnectCall.undone]

section Answer

variable (s : CoreState) {call : ConnectCall} (hsupported : call.supported = true)
  (hroom : s.nextHandle ≠ INT32_MAX)

include hsupported hroom

/-- **A call with something wrong answers nil and the message**, and leaves a
record that came and went; but for a Lua error. -/
theorem connect_failed (hfresh : s.heap s.nextPtr = none)
    (hunlisted : s.nextPtr ∉ s.connections.data) {message : String}
    (hfailure : call.failure = some (.message message)) :
    ∃ capacity fits valid, s.connect call
      = .ok (.error (.message message), s.stillborn capacity fits valid call.undone) := by
  have hcallback : (s.allocate call).2.callback = call.callback.map (fun _ => s.nextPtr) := rfl
  by_cases hvalid : call.callback = some true
  · have hid := (readOptions_reads call.options).identity (s.allocate call).2
    have herror := (readOptions_reads call.options).error (s.allocate call).2 {}
    rw [ConnectCall.failure, if_pos hvalid, ← herror] at hfailure
    cases hoptions : readOptions call.options (s.allocate call).2 with
    | mk error r =>
      rw [hoptions] at hid hfailure
      simp only [SSEConnection.identity, Prod.mk.injEq, List.cons.injEq] at hid
      have hcb := hid.2.1.trans hcallback
      cases error with
      | some error =>
          cases hfailure
          have hdestroy := s.stillborn_unregistered hfresh hunlisted call r hcb
          refine ⟨s.connections.capacity, s.connections.fits, call.callback.getD false, ?_⟩
          simp [connect, hsupported, hroom, hvalid, hoptions, hdestroy, Except.map]
      | none =>
          rw [hvalid] at hcb
          obtain ⟨error, hplatform, hmessage⟩ := Option.map_eq_some_iff.mp hfailure
          cases hmessage
          obtain ⟨capacity, fits, hdestroy⟩ := s.stillborn_registered hfresh hunlisted call
            hvalid r hcb
          refine ⟨capacity, fits, true, ?_⟩
          simp [connect, hsupported, hroom, hvalid, hoptions, hplatform, hdestroy, Except.map]
  · rw [ConnectCall.failure, if_neg hvalid] at hfailure
    cases hfailure
    have hdestroy := s.stillborn_unregistered hfresh hunlisted call (s.allocate call).2 hcallback
    have hwritten : (s.allocate call).1.write s.nextPtr (s.allocate call).2
        = (s.allocate call).1 := by
      simp [write, allocate, log]
    rw [hwritten] at hdestroy
    refine ⟨s.connections.capacity, s.connections.fits, call.callback.getD false, ?_⟩
    simp [connect, hsupported, hroom, hvalid, hdestroy, Except.map]

omit hsupported hroom in
/-- Only a lookup in the options raises. -/
theorem failure_raised_iff : call.failure = some .raised
    ↔ call.callback = some true ∧ call.options.lookupRaises = true := by
  rw [← readOptions_raised_iff call.options {}, ConnectCall.failure]
  by_cases hvalid : call.callback = some true
  · rw [if_pos hvalid]
    cases (readOptions call.options {}).1 with
    | some error => simp [hvalid]
    | none => simp
  · rw [if_neg hvalid]
    simp [hvalid]

/-- **A Lua error answers nothing**, and leaves a record that nobody has. -/
theorem connect_raised (hfresh : s.heap s.nextPtr = none)
    (hfailure : call.failure = some .raised) :
    ∃ r, s.connect call = .ok (.error .raised, s.orphan r) := by
  obtain ⟨hvalid, hraises⟩ := failure_raised_iff.mp hfailure
  have hback : Function.update s.heap s.nextPtr none = s.heap := by
    rw [← hfresh]
    exact Function.update_eq_self _ _
  have herror := (readOptions_raised_iff call.options (s.allocate call).2).mpr hraises
  cases hoptions : readOptions call.options (s.allocate call).2 with
  | mk error r =>
      rw [hoptions] at herror
      cases herror
      refine ⟨r, ?_⟩
      simp only [connect, hsupported, if_true, if_neg hroom, hvalid, hoptions]
      simp [lose, allocate, log, orphan, hback, hvalid]

/-- **A call with nothing wrong answers the handle.** -/
theorem connect_succeeded (hfailure : call.failure = none) :
    ∃ s', s.connect call = .ok (.ok s.nextHandle, s') ∧ Connected s s' := by
  rw [ConnectCall.failure] at hfailure
  split at hfailure
  · next hvalid =>
      have hid := (readOptions_reads call.options).identity (s.allocate call).2
      have herror := (readOptions_reads call.options).error (s.allocate call).2 {}
      rw [← herror] at hfailure
      cases hoptions : readOptions call.options (s.allocate call).2 with
      | mk error r =>
        rw [hoptions] at hid hfailure
        simp only [SSEConnection.identity, Prod.mk.injEq, List.cons.injEq] at hid
        obtain ⟨hhandle, hcb, hconnected, hclosed, hdispatching, hdeferred, -⟩ := hid
        have hcallback : (s.allocate call).2.callback = some s.nextPtr := by
          simp [allocate, hvalid]
        cases error with
        | some error => cases hfailure
        | none =>
            have hplatform : call.platform = none := Option.map_eq_none_iff.mp hfailure
            refine ⟨s.birth { r with platformData := true }, ?_, ?_⟩
            · simp only [connect, hsupported, if_true, if_neg hroom, hvalid, hoptions, hplatform,
                hhandle]
              simp [birth, allocate, write, log, hvalid]
            · exact .succeeded _ hhandle (hcb.trans hcallback) rfl hconnected hclosed hdispatching
                hdeferred
  · cases hfailure

end Answer

/-- **`sse.connect` does not fault, and comes to one of these.** -/
theorem connect_cases (s : CoreState) (hfresh : s.heap s.nextPtr = none)
    (hunlisted : s.nextPtr ∉ s.connections.data) (call : ConnectCall)
    (hroom : call.supported = true → s.nextHandle ≠ INT32_MAX) :
    ∃ result s', s.connect call = .ok (result, s') ∧ Connected s s' := by
  by_cases hsupported : call.supported = true
  · cases hfailure : call.failure with
    | some error =>
        cases error with
        | message message =>
            obtain ⟨capacity, fits, valid, hconnect⟩ := s.connect_failed hsupported
              (hroom hsupported) hfresh hunlisted hfailure
            exact ⟨_, _, hconnect, .failed capacity fits valid _ call.undone_cases⟩
        | raised =>
            obtain ⟨r, hconnect⟩ := s.connect_raised hsupported (hroom hsupported) hfresh hfailure
            exact ⟨_, _, hconnect, .raised r⟩
    | none =>
        obtain ⟨s', hconnect, hs'⟩ := s.connect_succeeded hsupported (hroom hsupported)
          hfailure
        exact ⟨_, s', hconnect, hs'⟩
  · exact ⟨_, s, by unfold connect; rw [if_neg hsupported], .unsupported⟩

end CoreState

end DefoldSSE
