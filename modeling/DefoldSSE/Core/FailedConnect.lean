/-
  DefoldSSE.Core.FailedConnect — when a failed `sse.connect` changes nothing.

  Two models of `SSE_Connect` meet here.  `CoreState.connect` has the table, the
  queue and the other records; `Held.connect` below has the resources, down to
  the adapter's.  They go wrong in the same way, `ConnectCall.failure`.

  The states range over the runs since `AppInitializeSSE`.

  `SSE_ReadOptions` means not to raise Lua errors, since "a longjmp here would
  leak the connection struct and its callback ref".  But `lua_getfield` runs the
  `__index` of the options.

  Main results:
    • `failedConnect_iff` — a call that fails changes nothing, but for the handle
      and the address it used up, exactly where no lookup in the options raises;
    • `failedConnect_raisingIndex` — where one does, the record and its callback
      stay for good.
-/
import DefoldSSE.Core.Adapters
import DefoldSSE.Core.Lifecycle

namespace DefoldSSE

open CLib

/-! ## §1. The call over a ledger. -/

/-- The arguments of `sse.connect`, and the adapter it meets. -/
structure ConnectRequest where
  url : Bytes
  options : LuaValue := .nil
  /-- `dmScript::CreateCallback`: nothing, or a callback and whether it is valid. -/
  callback : Option Bool := some true
  adapter : PlatformAdapter

/-- The same call, with what the adapter answers. -/
def ConnectRequest.call (request : ConnectRequest) : ConnectCall where
  supported := request.adapter.isSupported
  url := request.url
  options := request.options
  callback := request.callback
  platform := request.adapter.failure

namespace Held

/-- `dmScript::CreateCallback`. -/
def createCallback : Option Bool → Owning Resource (Option Nat)
  | none => pure none
  | some _ => do
      let callback ← acquire .callback
      pure (some callback)

/-- The record, with its url and its callback. -/
def allocate (request : ConnectRequest) : Owning Resource HeldConnection := do
  let connection ← acquire .connection
  let url ← strDup (some request.url)
  let callback ← createCallback request.callback
  pure { connection, url, callback }

/-- `SSE_Connect` once the record is there. -/
def connectAllocated (request : ConnectRequest) (c : HeldConnection) :
    Owning Resource (Except ConnectError HeldConnection) :=
  if request.callback = some true then do
    let (error, c) ← readOptions request.options c
    match error with
    -- the error leaves by `longjmp`, past the destruction
    | some .raised => pure (.error .raised)
    | some (.message error) => do
        -- with the headers that were read before the mistake
        destroyConnection c
        pure (.error (.message error))
    | none => do
        -- the record enters the table here, which takes nothing
        let (error, c) ← request.adapter.connect c
        match error with
        | some error => do
            destroyConnection c
            pure (.error (.message (if error = "" then "failed to connect sse" else error)))
        | none => pure (.ok c)
  else do
    destroyConnection c
    pure (.error (.message "failed to create sse callback"))

/-- `SSE_Connect`. -/
def connect (request : ConnectRequest) : Owning Resource (Except ConnectError HeldConnection) :=
  if request.adapter.isSupported then do
    let c ← allocate request
    connectAllocated request c
  else pure (.error (.message "sse is not supported on this platform"))

/-- What the call leaves: nothing, with the message, or a record, which is lost if
a lookup raised. -/
def Outcome (request : ConnectRequest) :
    Except ConnectError HeldConnection → Multiset (Resource × Nat) → Prop
  | .error (.message message), mid => request.call.failure = some (.message message) ∧ mid = 0
  | .error .raised, mid =>
      request.call.failure = some .raised
        ∧ ∃ c : HeldConnection, c.callback.isSome = true ∧ mid = c.held
  | .ok c, mid => request.call.failure = none ∧ mid = c.held

/-- What is wrong with the call is what it answers. -/
theorem Outcome.eq_error {request : ConnectRequest} {result : Except ConnectError HeldConnection}
    {mid : Multiset (Resource × Nat)} (h : Outcome request result mid) {error : ConnectError}
    (hfailure : request.call.failure = some error) : result = .error error := by
  cases result with
  | ok c => exact absurd (hfailure.symm.trans h.1) (Option.some_ne_none error)
  | error error' =>
      have hsame : request.call.failure = some error' := by
        cases error' with
        | message message => exact h.1
        | raised => exact h.1
      rw [Option.some.inj (hfailure.symm.trans hsame)]

/-- The entries of the allocation. -/
def allocated (request : ConnectRequest) (n : Nat) : List (Entry Resource) :=
  [.took (.connection, n), .took (.string, n + 1)]
    ++ if request.callback.isSome then [.took (.callback, n + 2)] else []

/-- The allocation, as it is. -/
theorem allocate_eq (request : ConnectRequest) (L : Ledger Resource) :
    ∃ c L', allocate request L = .ok (c, L') ∧ L'.held = c.held + L.held
      ∧ L'.log = L.log ++ allocated request L.next
      ∧ c.platformData = none
      ∧ Mirrors c (CoreState.appInitialize.allocate request.call).2 := by
  have hmirrors : ∀ c : HeldConnection, c.url.isSome = true → c.lastEventId = none →
      c.callback.isSome = request.callback.isSome → c.headers = [] → c.platformData = none →
      Mirrors c (CoreState.appInitialize.allocate request.call).2 := by
    intro c hurl hid hcallback hheaders hplatform
    refine ⟨hurl, ?_, ?_, ?_, ?_⟩
    · rw [hid]
      rfl
    · rw [hcallback]
      exact Option.isSome_map.symm
    · rw [hheaders]
      rfl
    · rw [hplatform]
      rfl
  cases hcallback : request.callback with
  | none =>
      refine ⟨{ connection := L.next, url := some (L.next + 1) },
        (L.take .connection).take .string, ?_, ?_, ?_, rfl, ?_⟩
      · unfold allocate
        rw [hcallback]
        rfl
      · show {(Resource.string, L.next + 1)} + ({(Resource.connection, L.next)} + L.held) = _
        simp only [HeldConnection.held, block_some, block_none, headersHeld, List.map_nil,
          List.sum_nil, Option.elim_none]
        abel
      · simp [allocated, hcallback, Ledger.take]
      · exact hmirrors _ rfl rfl (by rw [hcallback]; rfl) rfl rfl
  | some valid =>
      refine ⟨{ connection := L.next, url := some (L.next + 1), callback := some (L.next + 2) },
        ((L.take .connection).take .string).take .callback, ?_, ?_, ?_, rfl, ?_⟩
      · unfold allocate
        rw [hcallback]
        rfl
      · show {(Resource.callback, L.next + 2)} + ({(Resource.string, L.next + 1)}
          + ({(Resource.connection, L.next)} + L.held)) = _
        simp only [HeldConnection.held, block_some, block_none, headersHeld, List.map_nil,
          List.sum_nil, Option.elim_none]
        abel
      · simp [allocated, hcallback, Ledger.take]
      · exact hmirrors _ rfl rfl (by rw [hcallback]; rfl) rfl rfl

/-- A record without platform data is destroyed, and the message is answered. -/
theorem fail_triple (request : ConnectRequest) {message : String}
    (hfailure : request.call.failure = some (.message message)) {c : HeldConnection}
    (hdetached : c.platformData = none) :
    Triple c.held (do destroyConnection c; pure (.error (.message message)))
      (Outcome request) := by
  refine (destroyConnection_triple c hdetached).bind ?_
  intro _ mid hmid
  subst hmid
  exact Triple.ret ⟨hfailure, rfl⟩

/-- **Wherever it fails with a message, it holds nothing afterwards.** -/
theorem connectAllocated_triple (request : ConnectRequest) {c : HeldConnection}
    {r : SSEConnection} (h : Mirrors c r) (hdetached : c.platformData = none)
    (hcallback : r.callback.isSome = request.callback.isSome) :
    Triple c.held (connectAllocated request c) (Outcome request) := by
  unfold connectAllocated
  have hfailure : request.call.failure = if request.callback = some true then
        (DefoldSSE.readOptions request.options r).1.or (request.adapter.failure.map
          (fun error => .message (if error = "" then "failed to connect sse" else error)))
      else some (.message "failed to create sse callback") := by
    rw [(readOptions_reads request.options).error r {}]
    exact request.call.failure_eq
  by_cases hvalid : request.callback = some true
  · rw [if_pos hvalid] at hfailure ⊢
    refine (readOptions_triple h request.options).bind ?_
    intro result mid hmid
    obtain ⟨error, c'⟩ := result
    obtain ⟨rfl, herror, hc'⟩ := hmid
    -- the options touch neither the platform data nor the callback
    have hid := (readOptions_reads request.options).identity r
    simp only [SSEConnection.identity, Prod.mk.injEq, List.cons.injEq] at hid
    have hcallback' : c'.callback.isSome = true := by
      rw [hc'.callback, hid.2.1, hcallback, hvalid]
      rfl
    have hdetached' : c'.platformData = none := by
      have hplatform := hc'.platformData
      rw [hid.2.2.2.2.2.2.1, ← h.platformData, hdetached] at hplatform
      exact Option.isSome_eq_false_iff.mp hplatform |> Option.isNone_iff_eq_none.mp
    rw [← herror] at hfailure
    cases error with
    | some error =>
        cases error with
        | message error => exact fail_triple request hfailure hdetached'
        | raised => exact Triple.ret ⟨hfailure, c', hcallback', rfl⟩
    | none =>
        refine (PlatformAdapter.connect_triple hdetached' request.adapter).bind ?_
        intro result mid hmid
        obtain ⟨error, c''⟩ := result
        obtain ⟨rfl, herror, data, rfl, hdata⟩ := hmid
        rw [← herror] at hfailure hdata
        cases error with
        | some error =>
            refine fail_triple request hfailure ?_
            exact Option.isNone_iff_eq_none.mp (Option.isSome_eq_false_iff.mp hdata)
        | none => exact Triple.ret ⟨hfailure, rfl⟩
  · rw [if_neg hvalid] at hfailure ⊢
    exact fail_triple request hfailure hdetached

/-- The call from its allocation on; what was held before is the frame. -/
theorem connect_outcome (request : ConnectRequest)
    (hsupported : request.adapter.isSupported = true) (L : Ledger Resource) :
    ∃ result L' mid rest, connect request L = .ok (result, L') ∧ Outcome request result mid
      ∧ L'.held = mid + L.held ∧ L'.log = L.log ++ (allocated request L.next ++ rest) := by
  obtain ⟨c, M, hallocate, hheld, hlog, hdetached, hmirrors⟩ := allocate_eq request L
  obtain ⟨result, L', mid, hrun, hresult, hheld', rest, hrest⟩ :=
    connectAllocated_triple request hmirrors hdetached Option.isSome_map M L.held hheld
  refine ⟨result, L', mid, rest, ?_, hresult, hheld', ?_⟩
  · unfold connect
    rw [if_pos hsupported]
    show (allocate request L >>= fun x => connectAllocated request x.1 x.2) = .ok (result, L')
    rw [hallocate]
    exact hrun
  · rw [← hrest, hlog, List.append_assoc]

/-- **A failed call gives back what it took, once each**: the record, its strings,
its callback, and whatever the adapter took. -/
theorem connect_paidBack (request : ConnectRequest)
    (hsupported : request.adapter.isSupported = true) {message : String}
    (hfailure : request.call.failure = some (.message message)) (L : Ledger Resource) :
    ∃ L' es, connect request L = .ok (.error (.message message), L')
      ∧ L'.log = L.log ++ es ∧ L'.held = L.held
      ∧ allocated request L.next <+: es ∧ PaidBack es := by
  obtain ⟨result, L', mid, rest, hconnect, hresult, hheld, hlog⟩ :=
    connect_outcome request hsupported L
  obtain rfl := Outcome.eq_error hresult hfailure
  obtain ⟨-, rfl⟩ := hresult
  rw [zero_add] at hheld
  exact ⟨L', _, hconnect, hlog, hheld, List.prefix_append _ _, Ledger.paidBack hlog hheld⟩

/-- **Where a lookup raises, the record and its callback are held for good.** -/
theorem connect_leaks (request : ConnectRequest)
    (hsupported : request.adapter.isSupported = true)
    (hfailure : request.call.failure = some .raised) (L : Ledger Resource) :
    ∃ L', ∃ c : HeldConnection, connect request L = .ok (.error .raised, L')
      ∧ c.callback.isSome = true ∧ L'.held = c.held + L.held := by
  obtain ⟨result, L', mid, rest, hconnect, hresult, hheld, -⟩ :=
    connect_outcome request hsupported L
  obtain rfl := Outcome.eq_error hresult hfailure
  obtain ⟨-, c, hcallback, rfl⟩ := hresult
  exact ⟨L', c, hconnect, hcallback, hheld⟩

end Held

/-! ## §2. The message. -/

/-- A message is never empty. -/
theorem ConnectCall.failure_ne (call : ConnectCall) : call.failure ≠ some (.message "") := by
  unfold ConnectCall.failure
  split
  · have hoptions := (readOptions_reads call.options).told {}
    split
    · next error herror =>
        rw [herror] at hoptions
        exact hoptions
    · intro hempty
      obtain ⟨error, -, herror⟩ := Option.map_eq_some_iff.mp hempty
      have herror := ConnectError.message.inj herror
      by_cases he : error = ""
      · rw [if_pos he] at herror
        exact absurd herror (by decide)
      · rw [if_neg he] at herror
        exact he herror
  · simp

/-! ## §3. The handle. -/

/-- No run gets anywhere with this handle: no record has it, no event for it
reaches a callback, no callback was ever called with it, and no `sse.connect`
answers it. -/
structure Forgotten (handle : Int) (t : CoreState) : Prop where
  unheld : ∀ p r, t.heap p = some r → r.handle ≠ handle
  unfound : ∀ e setup, e.handle = handle → t.dispatchEvent e setup = .ok (none, t)
  uncalled : ∀ p e, Deed.invoked e ∈ deeds p t.trace → e.handle ≠ handle
  unissued : ∀ call n u, t.connect call = .ok (.ok n, u) → n ≠ handle

namespace Inv

variable {s : CoreState}

/-- A handle that is answered is the next one. -/
theorem connect_handle (h : Inv s) {call : ConnectCall} {n : Int} {u : CoreState}
    (hok : s.connect call = .ok (.ok n, u)) : n = s.nextHandle := by
  by_cases hsupported : call.supported = true
  · by_cases hroom : s.nextHandle = INT32_MAX
    · unfold CoreState.connect at hok
      rw [if_pos hsupported, if_pos hroom] at hok
      cases hok
    · cases hfailure : call.failure with
      | some error =>
          cases error with
          | message message =>
              obtain ⟨_, _, _, hfailed⟩ :=
                s.connect_failed hsupported hroom h.fresh h.unlisted hfailure
              rw [hfailed] at hok
              cases hok
          | raised =>
              obtain ⟨_, hraised⟩ := s.connect_raised hsupported hroom h.fresh hfailure
              rw [hraised] at hok
              cases hok
      | none =>
          obtain ⟨s', hsucceeded, -⟩ := s.connect_succeeded hsupported hroom hfailure
          rw [hsucceeded] at hok
          cases hok
          rfl
  · unfold CoreState.connect at hok
    rw [if_neg hsupported] at hok
    cases hok

/-- Addresses are not used again. -/
theorem run_nextPtr_ge (h : Inv s) {bs : List Action} {t : CoreState}
    (hrun : core.run s bs = some t) : s.nextPtr ≤ t.nextPtr := by
  refine (Machine.run_keeps (P := fun t => Inv t ∧ s.nextPtr ≤ t.nextPtr) ?_
    ⟨h, Nat.le_refl _⟩ hrun).2
  intro m a m' hm hen hok
  have hstepped := hm.1.stepped_of_ok hen hok
  exact ⟨hm.1.next hstepped, hm.2.trans hstepped.nextPtr.1⟩

/-- **A record that is gone stays gone**, and one that is lost stays lost. -/
theorem isOver_run (h : Inv s) {p : Ptr} (hover : (s.phase p).isOver = true) {bs : List Action}
    {t : CoreState} (hrun : core.run s bs = some t) :
    t.phase p = s.phase p ∧ deeds p t.trace = deeds p s.trace := by
  obtain ⟨ht, tail, htail⟩ := run_extends h hrun
  have hwalk := (ht.life p).accepted
  rw [← htail, deeds_append] at hwalk
  obtain ⟨m, hm, hrest⟩ := walk_split hwalk
  rw [(h.life p).accepted] at hm
  cases hm
  rw [← htail, deeds_append]
  cases hdeeds : deeds p tail with
  | nil =>
      rw [hdeeds] at hrest
      exact ⟨(Option.some.inj hrest).symm, List.append_nil _⟩
  | cons d ds =>
      rw [hdeeds, walk_cons, Phase.next_isOver hover] at hrest
      cases hrest

/-- **The handle of a record that is gone or lost is forgotten.** -/
theorem forgotten (h : Inv s) {p : Ptr} (hover : (s.phase p).isOver = true)
    (huncalled : ∀ e, Deed.invoked e ∉ deeds p s.trace) {bs : List Action} {t : CoreState}
    (hrun : core.run s bs = some t) : Forgotten (handleOf p) t := by
  obtain ⟨ht, -⟩ := run_extends h hrun
  obtain ⟨hphase, hdeeds⟩ := h.isOver_run hover hrun
  have hunheld : ∀ q r, t.heap q = some r → r.handle ≠ handleOf p := by
    intro q r hr heq
    have hqp : q = p := handleOf_inj ((ht.record q r hr).handle.symm.trans heq)
    subst hqp
    rw [← hphase, CoreState.phase_some hr] at hover
    unfold phaseOf at hover
    split at hover <;> cases hover
  refine ⟨hunheld, ?_, ?_, ?_⟩
  · intro e setup he
    unfold CoreState.dispatchEvent
    rcases t.findConnection_cases e.handle ht.alive with hfound | ⟨hnone, -⟩
    · obtain ⟨q, r, -, -, hr, hhandle⟩ := hfound
      exact absurd (hhandle.trans he) (hunheld q r hr)
    · rw [hnone]
  · intro q e hmem heq
    have hqp : q = p := handleOf_inj (((ht.life q).addressed e hmem).symm.trans heq)
    subst hqp
    rw [hdeeds] at hmem
    exact huncalled e hmem
  · intro call n u hok heq
    have hn := ht.connect_handle hok
    -- the record is older than any that is still to come
    have hborn : p < s.nextPtr := by
      by_contra hunborn
      rw [h.phase_unborn_of_le (Nat.not_lt.mp hunborn)] at hover
      cases hover
    have hlt : p < t.nextPtr := Nat.lt_of_lt_of_le hborn (h.run_nextPtr_ge hrun)
    have hcast : (p : Int) < t.nextPtr := Int.ofNat_lt.mpr hlt
    have hnext := ht.nextHandle
    unfold handleOf at heq
    omega

end Inv

/-! ## §4. A failed call. -/

/-- `s'` is `s` after a call that answered nil and `message`. -/
structure FailedConnect (s : CoreState) (request : ConnectRequest) (message : String)
    (s' : CoreState) : Prop where
  told : message ≠ ""
  /-- The same records in the same order. -/
  table : s'.connections.data = s.connections.data
  queue : s'.queue = s.queue
  /-- Every record is as it was, and there is none at the address of the call's. -/
  records : s'.heap = s.heap
  vacant : s.heap s.nextPtr = none
  callbacks : ∀ p, p ≠ s.nextPtr → s'.callbackValid p = s.callbackValid p
  control : s'.control = s.control
  active : s'.active = s.active
  /-- The record was created, its callback destroyed if it had one, and itself
  destroyed, once each and in this order; no platform data were attached. -/
  history : s'.trace = s.trace
    ++ (Deed.created s.nextHandle :: request.call.undone).map (.deed s.nextPtr)
  first : deeds s.nextPtr s.trace = []
  /-- What was taken was given back, once each. -/
  paidBack : ∀ L : Ledger Resource, ∃ L' es,
    Held.connect request L = .ok (.error (.message message), L') ∧ L'.log = L.log ++ es
      ∧ L'.held = L.held ∧ Held.allocated request L.next <+: es ∧ PaidBack es
  /-- Nobody ever gets the handle. -/
  forgotten : ∀ bs t, core.run s' bs = some t → Forgotten s.nextHandle t

/-- `s'` is `s` after a Lua error left the call. -/
structure Leaked (s : CoreState) (request : ConnectRequest) (s' : CoreState) : Prop where
  /-- The record and its callback are still held, and whatever it got meanwhile. -/
  held : ∀ L : Ledger Resource, ∃ L', ∃ c : HeldConnection,
    Held.connect request L = .ok (.error .raised, L') ∧ c.callback.isSome = true
      ∧ L'.held = c.held + L.held
  /-- Nothing more happens to it, in any run. -/
  forever : ∀ bs t, core.run s' bs = some t →
    deeds s.nextPtr t.trace = [.created s.nextHandle, .lost]

section Call

variable {s : CoreState} (h : Inv s) {request : ConnectRequest}
  (hsupported : request.adapter.isSupported = true) (hroom : s.nextHandle ≠ INT32_MAX)

include h hsupported hroom

/-- A call that answers a message. -/
theorem connect_failedConnect {message : String}
    (hfailure : request.call.failure = some (.message message)) :
    ∃ s', s.connect request.call = .ok (.error (.message message), s')
      ∧ FailedConnect s request message s' := by
  obtain ⟨capacity, fits, valid, hconnect⟩ :=
    s.connect_failed hsupported hroom h.fresh h.unlisted hfailure
  refine ⟨_, hconnect, ?_⟩
  have hdeeds : ∀ p, deeds p (s.stillborn capacity fits valid request.call.undone).trace
      = deeds p s.trace
        ++ deeds p ((Deed.created s.nextHandle :: request.call.undone).map (.deed s.nextPtr)) :=
    fun p => deeds_append p _ _
  have hfirst := h.deeds_unborn (Nat.le_refl s.nextPtr)
  have hnever : ∀ e, Deed.invoked e
      ∉ deeds s.nextPtr (s.stillborn capacity fits valid request.call.undone).trace := by
    intro e
    rw [hdeeds, hfirst, deeds_self]
    rcases request.call.undone_cases with hundone | hundone <;> simp [hundone]
  have hover :
      ((s.stillborn capacity fits valid request.call.undone).phase s.nextPtr).isOver = true := by
    have hunlost := h.unlost (Nat.le_refl s.nextPtr)
    simp [CoreState.phase, CoreState.stillborn, h.fresh, hunlost, Phase.isOver]
  have hhandle : handleOf s.nextPtr = s.nextHandle := h.nextHandle.symm
  exact
    { told := fun hempty => request.call.failure_ne (hempty ▸ hfailure)
      table := rfl
      queue := rfl
      records := rfl
      vacant := h.fresh
      callbacks := fun p hp => Function.update_of_ne hp _ _
      control := rfl
      active := rfl
      history := rfl
      first := hfirst
      paidBack := fun L => Held.connect_paidBack request hsupported hfailure L
      forgotten := fun bs t ht =>
        hhandle ▸ (h.stillborn request.call.undone_cases).forgotten hover hnever ht }

/-- A call that a lookup ends. -/
theorem connect_leaked (hfailure : request.call.failure = some .raised) :
    ∃ s', s.connect request.call = .ok (.error .raised, s') ∧ Leaked s request s' := by
  obtain ⟨r, hconnect⟩ := s.connect_raised hsupported hroom h.fresh hfailure
  refine ⟨_, hconnect, fun L => Held.connect_leaks request hsupported hfailure L, ?_⟩
  intro bs t ht
  have hlost : ((s.orphan r).phase s.nextPtr).isOver = true := by
    simp [CoreState.phase, CoreState.orphan, h.fresh, Phase.isOver]
  rw [((h.orphan r).isOver_run hlost ht).2]
  show deeds s.nextPtr (s.trace ++ [Deed.created s.nextHandle, .lost].map (.deed s.nextPtr)) = _
  rw [deeds_append, h.deeds_unborn (Nat.le_refl _), deeds_self]
  rfl

end Call

/-- Two headers and an id are read before `retry_ms` turns out to be a table. -/
def badRetryMs : ConnectRequest where
  url := ascii "http://h/"
  options := .plain
    [(.string (ascii "headers") none, .plain
        [(.string (ascii "A") none, .string (ascii "1") none),
         (.string (ascii "B") none, .string (ascii "2") none)]),
     (.string (ascii "last_event_id") none, .string (ascii "7") none),
     (.string (ascii "retry_ms") none, .plain [])]
  adapter := .libcurl true true

/-- `setmetatable({}, {__index = function() error("x") end})`. -/
def raisingIndex : ConnectRequest where
  url := ascii "http://h/"
  options := .table [] fun _ => none
  adapter := .libcurl true true

/-- The names and values of the headers, and the id, are taken and given back
with the rest. -/
example : (Held.connect badRetryMs .empty).toOption.map (fun x => (taken x.2.log).map Prod.fst)
    = some [.connection, .string, .callback, .string, .string, .string, .string, .string] := rfl

end DefoldSSE
