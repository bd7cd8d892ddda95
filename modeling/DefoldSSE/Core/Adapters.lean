/-
  DefoldSSE.Core.Adapters — `SSE_Platform_Connect`, adapter by adapter.

  Each adapter has its own way of failing and undoes by itself what it did until
  then.  The three desktop ones share one undo path, taken when the worker thread
  does not start; the Android one has two, after the Java constructor and after
  the Java `connect`.

  What the platform answers in the call is part of the adapter's value.

  Main result:
    • `PlatformAdapter.connect_triple` — an adapter that fails leaves the record
      as it was, and holds nothing; one that succeeds holds what `m_PlatformData`
      points to.
-/
import Mathlib.Algebra.BigOperators.Group.List.Basic
import DefoldSSE.Core.Holdings

namespace DefoldSSE

open CLib

/-! ## §1. The adapters. -/

/-- An adapter, and what its platform answers. -/
inductive PlatformAdapter where
  /-- libcurl: `g_CurlInitialized`, and whether `dmThread::New` gives a thread. -/
  | libcurl (initialized threadStarts : Bool)
  /-- Defold's connection pool: whether there is one. -/
  | connectionPool (created threadStarts : Bool)
  | winhttp (threadStarts : Bool)
  /-- A desktop build with none of the three. -/
  | unlinked
  /-- `g_SSEClientClass`, whether `NewObject` gives an object, and whether the
  constructor and `SseClient.connect` throw. -/
  | android (classLoaded object constructorThrows connectThrows : Bool)
  /-- Whether `initWithConnection` gives a client. -/
  | ios (made : Bool)
  | html5
  | null

namespace PlatformAdapter

/-- `SSE_Platform_IsSupported`. -/
def isSupported : PlatformAdapter → Bool
  | .libcurl initialized _ => initialized
  | .connectionPool created _ => created
  | .winhttp _ => true
  | .unlinked => false
  | .android classLoaded _ _ _ => classLoaded
  | .ios _ => true
  | .html5 => true
  | .null => false

/-- The message when the worker thread does not start. -/
def workerFailure (threadStarts : Bool) : Option String :=
  if threadStarts then none else some "failed to start SSE worker thread"

/-- The message of `SSE_Platform_Connect`, if it returns false. -/
def failure : PlatformAdapter → Option String
  | .libcurl initialized threadStarts =>
      if initialized then workerFailure threadStarts else some "libcurl is not initialized"
  | .connectionPool created threadStarts =>
      if created then workerFailure threadStarts
      else some "Defold connection pool is not initialized"
  | .winhttp threadStarts => workerFailure threadStarts
  | .unlinked => some "desktop SSE support requires libcurl to be linked for this platform"
  | .android classLoaded object constructorThrows connectThrows =>
      if !classLoaded then some "failed to load Android SSE Java adapter"
      else if constructorThrows || !object then some "failed to create Android SSE client"
      else if connectThrows then some "Android SSE client failed to start"
      else none
  | .ios made => if made then none else some "failed to create iOS SSE client"
  | .html5 => none
  | .null => some "sse is not supported on this platform"

/-! ## §2. `SSE_Platform_Connect`. -/

/-- A header is copied for the worker. -/
def copyHeader (copies : List HeldHeader) (h : HeldHeader) :
    Owning Resource (List HeldHeader) := do
  let name ← Held.strDup h.name
  let value ← Held.strDup h.value
  pure (copies ++ [⟨name, value⟩])

/-- The desktop adapters, past their own first check. -/
def workerConnect (threadStarts : Bool) (c : HeldConnection) :
    Owning Resource (Option String × HeldConnection) := do
  let desktop ← acquire .desktop
  let url ← Held.strDup c.url
  let lastEventId ← Held.strDup c.lastEventId
  let mutex ← acquire .mutex
  let headers ← c.headers.foldlM copyHeader []
  let d : HeldDesktop := { desktop, url, lastEventId, headers, mutex, thread := none }
  -- attached before the thread is there, since the thread may run at once
  let c := { c with platformData := some (.desktop d) }
  if threadStarts then do
    let thread ← acquire .thread
    pure (none, { c with platformData := some (.desktop { d with thread := some thread }) })
  else do
    -- detached again, so that the caller's destroy does not see it
    let c := { c with platformData := none }
    Held.freeHeaders d.headers
    release .mutex d.mutex
    releaseAny .string d.url
    releaseAny .string d.lastEventId
    release .desktop d.desktop
    pure (some "failed to start SSE worker thread", c)

/-- `SSEAndroid_NewStringArray`. -/
def newStringArray : Owning Resource Nat := do
  let stringClass ← acquire .localRef
  let array ← acquire .localRef
  release .localRef stringClass
  pure array

/-- `SSEAndroid_SetStringArrayItem`. -/
def setStringArrayItem : Owning Resource Unit := do
  let stringValue ← acquire .localRef
  release .localRef stringValue

/-- `NewObject`. -/
def newObject : Bool → Owning Resource (Option Nat)
  | false => pure none
  | true => do
      let object ← acquire .localRef
      pure (some object)

/-- A header goes into the two arrays. -/
def setHeaderItems : Owning Resource Unit := do
  setStringArrayItem
  setStringArrayItem

/-- The call of the Java constructor, with its arguments. -/
def constructClient (object : Bool) (c : HeldConnection) : Owning Resource (Option Nat) := do
  let keys ← newStringArray
  let values ← newStringArray
  c.headers.forM (fun _ => setHeaderItems)
  let url ← acquire .localRef
  let lastEventId ← acquire .localRef
  let localObject ← newObject object
  release .localRef url
  release .localRef lastEventId
  release .localRef keys
  release .localRef values
  pure localObject

/-- The Android adapter with the Java class there, as `SSE_Platform_IsSupported`
has just found; what `SSEAndroid_LoadClass` does without it is left out. -/
def androidConnect (object constructorThrows connectThrows : Bool) (c : HeldConnection) :
    Owning Resource (Option String × HeldConnection) := do
  let localObject ← constructClient object c
  if constructorThrows then do
    -- an object may have come back with the exception pending
    releaseAny .localRef localObject
    pure (some "failed to create Android SSE client", c)
  else
    match localObject with
    | none => pure (some "failed to create Android SSE client", c)
    | some localObject => do
        let client ← acquire .androidClient
        let object ← acquire .globalRef
        release .localRef localObject
        let c := { c with platformData := some (.android client object) }
        if connectThrows then do
          -- OkHttp refuses a malformed url here
          let c := { c with platformData := none }
          release .globalRef object
          release .androidClient client
          pure (some "Android SSE client failed to start", c)
        else pure (none, c)

/-- `SSE_Platform_Connect`: the message it returns false with, if it does, and
the record. -/
def connect (c : HeldConnection) :
    PlatformAdapter → Owning Resource (Option String × HeldConnection)
  | .libcurl initialized threadStarts =>
      if initialized then workerConnect threadStarts c
      else pure (some "libcurl is not initialized", c)
  | .connectionPool created threadStarts =>
      if created then workerConnect threadStarts c
      else pure (some "Defold connection pool is not initialized", c)
  | .winhttp threadStarts => workerConnect threadStarts c
  | .unlinked =>
      pure (some "desktop SSE support requires libcurl to be linked for this platform", c)
  | .android classLoaded object constructorThrows connectThrows =>
      if classLoaded then androidConnect object constructorThrows connectThrows c
      else pure (some "failed to load Android SSE Java adapter", c)
  | .ios made =>
      if made then do
        let client ← acquire .iosClient
        pure (none, { c with platformData := some (.ios client) })
      else pure (some "failed to create iOS SSE client", c)
  | .html5 => pure (none, { c with platformData := some .html5 })
  | .null => pure (some "sse is not supported on this platform", c)

/-! ## §3. What it leaves. -/

/-- The record after an adapter that was to answer `expected`: only the platform
data changed, and they are there exactly if it did not fail. -/
def Answered (c : HeldConnection) (expected : Option String)
    (result : Option String × HeldConnection) (mid : Multiset (Resource × Nat)) : Prop :=
  mid = result.2.held ∧ result.1 = expected
    ∧ ∃ data, result.2 = { c with platformData := data } ∧ data.isSome = expected.isNone

theorem copyHeader_triple (copies : List HeldHeader) (h : HeldHeader)
    (own : Multiset (Resource × Nat)) :
    Triple (headersHeld copies + own) (copyHeader copies h)
      (fun copies' mid => mid = headersHeld copies' + own) := by
  unfold copyHeader
  refine (Held.strDup_triple h.name _).bind ?_
  intro name mid hmid
  obtain ⟨-, rfl⟩ := hmid
  refine (Held.strDup_triple h.value _).bind ?_
  intro value mid hmid
  obtain ⟨-, rfl⟩ := hmid
  refine Triple.ret ?_
  rw [headersHeld_append, headersHeld_singleton, HeldHeader.held]
  abel

theorem newStringArray_triple (own : Multiset (Resource × Nat)) :
    Triple own newStringArray (fun array mid => mid = {(.localRef, array)} + own) := by
  unfold newStringArray
  refine (Triple.acquire Resource.localRef own).bind ?_
  intro stringClass mid hmid
  subst hmid
  refine (Triple.acquire Resource.localRef _).bind ?_
  intro array mid hmid
  subst hmid
  refine Triple.of_eq ?_ (add_left_comm _ _ _)
  refine (Triple.release Resource.localRef stringClass _).bind ?_
  intro _ mid hmid
  subst hmid
  exact Triple.ret rfl

theorem setStringArrayItem_triple (own : Multiset (Resource × Nat)) :
    Triple own setStringArrayItem (fun _ mid => mid = own) := by
  unfold setStringArrayItem
  refine (Triple.acquire Resource.localRef own).bind ?_
  intro stringValue mid hmid
  subst hmid
  exact Triple.release Resource.localRef stringValue own

theorem newObject_triple (object : Bool) (own : Multiset (Resource × Nat)) :
    Triple own (newObject object)
      (fun p mid => p.isSome = object ∧ mid = block .localRef p + own) := by
  cases object with
  | false => exact Triple.ret ⟨rfl, (zero_add own).symm⟩
  | true =>
      refine (Triple.acquire Resource.localRef own).bind ?_
      intro n mid hmid
      subst hmid
      exact Triple.ret ⟨rfl, rfl⟩

/-- The arguments of the Java constructor do not outlive the call; the object
does. -/
theorem constructClient_triple (c : HeldConnection) (object : Bool)
    (own : Multiset (Resource × Nat)) :
    Triple own (constructClient object c)
      (fun p mid => p.isSome = object ∧ mid = block .localRef p + own) := by
  unfold constructClient
  refine (newStringArray_triple own).bind ?_
  intro keys mid hmid
  subst hmid
  refine (newStringArray_triple _).bind ?_
  intro values mid hmid
  subst hmid
  generalize hown : ({(Resource.localRef, values)} + ({(Resource.localRef, keys)} + own)
    : Multiset (Resource × Nat)) = args
  -- a turn of the loop holds nothing
  have hturn : ∀ (_ : HeldHeader) (own : Multiset (Resource × Nat)),
      Triple (0 + own) setHeaderItems (fun _ mid => mid = own) := by
    intro _ own
    rw [zero_add]
    refine (setStringArrayItem_triple own).bind ?_
    intro _ mid hmid
    subst hmid
    exact setStringArrayItem_triple mid
  have hitems := Triple.forM (f := fun _ => setHeaderItems) hturn c.headers args
  refine (Triple.of_eq hitems (by simp)).bind ?_
  intro _ mid hmid
  subst hmid
  subst hown
  refine (Triple.acquire Resource.localRef _).bind ?_
  intro url mid hmid
  subst hmid
  refine (Triple.acquire Resource.localRef _).bind ?_
  intro lastEventId mid hmid
  subst hmid
  refine (newObject_triple object _).bind ?_
  intro localObject mid hmid
  obtain ⟨hsome, rfl⟩ := hmid
  -- in the order in which they go
  have horder : block Resource.localRef localObject + ({(Resource.localRef, lastEventId)}
      + ({(Resource.localRef, url)} + ({(Resource.localRef, values)}
        + ({(Resource.localRef, keys)} + own))))
      = {(Resource.localRef, url)} + ({(Resource.localRef, lastEventId)}
        + ({(Resource.localRef, keys)} + ({(Resource.localRef, values)}
          + (block Resource.localRef localObject + own)))) := by
    abel
  refine Triple.of_eq ?_ horder
  refine (Triple.release Resource.localRef url _).bind ?_
  intro _ mid hmid
  subst hmid
  refine (Triple.release Resource.localRef lastEventId _).bind ?_
  intro _ mid hmid
  subst hmid
  refine (Triple.release Resource.localRef keys _).bind ?_
  intro _ mid hmid
  subst hmid
  refine (Triple.release Resource.localRef values _).bind ?_
  intro _ mid hmid
  subst hmid
  exact Triple.ret ⟨hsome, rfl⟩

section Triples

variable {c : HeldConnection} (hdetached : c.platformData = none)

include hdetached

/-- Data attached to a record that had none. -/
theorem held_attach (data : PlatformData) :
    { c with platformData := some data }.held = data.held + c.held := by
  simp only [HeldConnection.held, hdetached, Option.elim_some, Option.elim_none]
  abel

/-- A refusal that took nothing. -/
theorem refuse (message : String) :
    Triple c.held (pure (some message, c)) (Answered c (some message)) := by
  refine Triple.ret ⟨rfl, rfl, none, ?_, rfl⟩
  rw [← hdetached]

theorem workerConnect_triple (threadStarts : Bool) :
    Triple c.held (workerConnect threadStarts c) (Answered c (workerFailure threadStarts)) := by
  unfold workerConnect
  refine (Triple.acquire Resource.desktop _).bind ?_
  intro desktop mid hmid
  subst hmid
  refine (Held.strDup_triple c.url _).bind ?_
  intro url mid hmid
  obtain ⟨-, rfl⟩ := hmid
  refine (Held.strDup_triple c.lastEventId _).bind ?_
  intro lastEventId mid hmid
  obtain ⟨-, rfl⟩ := hmid
  refine (Triple.acquire Resource.mutex _).bind ?_
  intro mutex mid hmid
  subst hmid
  -- the copies made so far are held besides
  generalize hown : ({(Resource.mutex, mutex)} + (block Resource.string lastEventId
    + (block Resource.string url + ({(Resource.desktop, desktop)} + c.held)))
      : Multiset (Resource × Nat)) = own
  let I (_ : List HeldHeader) (copies : List HeldHeader) (mid : Multiset (Resource × Nat)) : Prop :=
    mid = headersHeld copies + own
  have hinit : I [] [] own := (zero_add own).symm
  have hstep : ∀ done h copies mid, I done copies mid →
      Triple mid (copyHeader copies h) (I (done ++ [h])) :=
    fun _ h copies _ hmid => hmid ▸ copyHeader_triple copies h own
  refine (Triple.foldlM hstep hinit c.headers).bind ?_
  intro headers mid hmid
  subst hmid
  subst hown
  cases threadStarts with
  | true =>
      refine (Triple.acquire Resource.thread _).bind ?_
      intro thread mid hmid
      subst hmid
      refine Triple.ret ⟨?_, rfl, _, rfl, rfl⟩
      rw [held_attach hdetached, PlatformData.held, HeldDesktop.held]
      simp only [block_some]
      abel
  | false =>
      refine (Held.freeHeaders_triple headers _).bind ?_
      intro _ mid hmid
      subst hmid
      refine (Triple.release Resource.mutex mutex _).bind ?_
      intro _ mid hmid
      subst hmid
      refine Triple.of_eq ?_ (add_left_comm _ _ _)
      refine (Triple.releaseAny Resource.string url _).bind ?_
      intro _ mid hmid
      subst hmid
      refine (Triple.releaseAny Resource.string lastEventId _).bind ?_
      intro _ mid hmid
      subst hmid
      refine (Triple.release Resource.desktop desktop _).bind ?_
      intro _ mid hmid
      subst hmid
      refine Triple.ret ⟨?_, rfl, none, rfl, rfl⟩
      rw [← hdetached]

theorem androidConnect_triple (object constructorThrows connectThrows : Bool) :
    Triple c.held (androidConnect object constructorThrows connectThrows c)
      (Answered c (failure (.android true object constructorThrows connectThrows))) := by
  refine (constructClient_triple c object c.held).bind ?_
  intro localObject mid hmid
  obtain ⟨rfl, rfl⟩ := hmid
  cases constructorThrows with
  | true =>
      refine (Triple.releaseAny Resource.localRef localObject c.held).bind ?_
      intro _ mid hmid
      subst hmid
      exact refuse hdetached "failed to create Android SSE client"
  | false =>
      cases localObject with
      | none =>
          refine Triple.of_eq ?_ (zero_add c.held)
          exact refuse hdetached "failed to create Android SSE client"
      | some localObject =>
          refine (Triple.acquire Resource.androidClient _).bind ?_
          intro client mid hmid
          subst hmid
          refine (Triple.acquire Resource.globalRef _).bind ?_
          intro ref mid hmid
          subst hmid
          have horder : {(Resource.globalRef, ref)} + ({(Resource.androidClient, client)}
              + (block Resource.localRef (some localObject) + c.held))
              = {(Resource.localRef, localObject)} + ({(Resource.globalRef, ref)}
                + ({(Resource.androidClient, client)} + c.held)) := by
            rw [block_some]
            abel
          refine Triple.of_eq ?_ horder
          refine (Triple.release Resource.localRef localObject _).bind ?_
          intro _ mid hmid
          subst hmid
          cases connectThrows with
          | false =>
              refine Triple.ret ⟨?_, rfl, _, rfl, rfl⟩
              rw [held_attach hdetached, PlatformData.held]
              abel
          | true =>
              refine (Triple.release Resource.globalRef ref _).bind ?_
              intro _ mid hmid
              subst hmid
              refine (Triple.release Resource.androidClient client _).bind ?_
              intro _ mid hmid
              subst hmid
              refine Triple.ret ⟨?_, rfl, none, rfl, rfl⟩
              rw [← hdetached]

/-- **Whatever the adapter**: if it fails it leaves the record as it was, and if
it does not the record holds the platform data besides. -/
theorem connect_triple (a : PlatformAdapter) :
    Triple c.held (a.connect c) (Answered c a.failure) := by
  cases a with
  | libcurl initialized threadStarts =>
      cases initialized with
      | false => exact refuse hdetached _
      | true => exact workerConnect_triple hdetached threadStarts
  | connectionPool created threadStarts =>
      cases created with
      | false => exact refuse hdetached _
      | true => exact workerConnect_triple hdetached threadStarts
  | winhttp threadStarts => exact workerConnect_triple hdetached threadStarts
  | unlinked => exact refuse hdetached _
  | android classLoaded object constructorThrows connectThrows =>
      cases classLoaded with
      | false => exact refuse hdetached _
      | true => exact androidConnect_triple hdetached object constructorThrows connectThrows
  | ios made =>
      cases made with
      | false => exact refuse hdetached _
      | true =>
          refine (Triple.acquire Resource.iosClient c.held).bind ?_
          intro client mid hmid
          subst hmid
          exact Triple.ret ⟨(held_attach hdetached (.ios client)).symm, rfl, _, rfl, rfl⟩
  | html5 =>
      refine Triple.ret ⟨?_, rfl, _, rfl, rfl⟩
      rw [held_attach hdetached, PlatformData.held, zero_add]
  | null => exact refuse hdetached _

end Triples

end PlatformAdapter

end DefoldSSE
