/-
  DefoldSSE.Core.Holdings — what a connection record holds, and who frees it.

  `Core/State.lean` destroys a record in one go.  Here the same code runs over a
  ledger: every `malloc`, `new` and `CreateCallback` takes a resource, and
  `SSE_DestroyConnection` gives back whatever the record points to at the time.
  A double free, or a free of what was never taken, is a fault of the ledger.

  The record of this file is all pointers.  `Mirrors` relates it to the record of
  `Core/Options.lean`, which is all contents.
-/
import DefoldSSE.Core.Options
import DefoldSSE.Lib.Ledger

namespace DefoldSSE

open CLib

/-! ## §1. Resources. -/

/-- A kind of resource; each has its own way of being given back. -/
inductive Resource where
  /-- `new SSEConnection`. -/
  | connection
  /-- A string by `malloc`. -/
  | string
  /-- `dmScript::CreateCallback`. -/
  | callback
  /-- `new SSEDesktopConnection`. -/
  | desktop
  /-- `dmMutex::New`. -/
  | mutex
  /-- `dmThread::New`. -/
  | thread
  /-- `new SSEAndroidClient`. -/
  | androidClient
  | globalRef
  | localRef
  /-- A retained `SseIOSClient`. -/
  | iosClient
  deriving DecidableEq

/-- The pointers of an `SSEHeader`. -/
structure HeldHeader where
  name : Option Nat
  value : Option Nat

/-- The pointers of an `SSEDesktopConnection`, and its own. -/
structure HeldDesktop where
  desktop : Nat
  url : Option Nat
  lastEventId : Option Nat
  headers : List HeldHeader
  mutex : Nat
  thread : Option Nat

/-- What `m_PlatformData` points to. -/
inductive PlatformData where
  | desktop (d : HeldDesktop)
  | android (client object : Nat)
  | ios (client : Nat)
  /-- `(void*)1`. -/
  | html5

/-- The pointers of an `SSEConnection`, and its own. -/
structure HeldConnection where
  connection : Nat
  url : Option Nat := none
  lastEventId : Option Nat := none
  platformData : Option PlatformData := none
  callback : Option Nat := none
  headers : List HeldHeader := []

def HeldHeader.held (h : HeldHeader) : Multiset (Resource × Nat) :=
  block .string h.name + block .string h.value

/-- The strings of some headers. -/
def headersHeld (headers : List HeldHeader) : Multiset (Resource × Nat) :=
  (headers.map HeldHeader.held).sum

def HeldDesktop.held (d : HeldDesktop) : Multiset (Resource × Nat) :=
  {(.desktop, d.desktop)} + {(.mutex, d.mutex)} + block .string d.url
    + block .string d.lastEventId + headersHeld d.headers + block .thread d.thread

def PlatformData.held : PlatformData → Multiset (Resource × Nat)
  | .desktop d => d.held
  | .android client object => {(.androidClient, client)} + {(.globalRef, object)}
  | .ios client => {(.iosClient, client)}
  | .html5 => 0

/-- Everything a record holds, itself included. -/
def HeldConnection.held (c : HeldConnection) : Multiset (Resource × Nat) :=
  {(.connection, c.connection)} + block .string c.url + block .string c.lastEventId
    + block .callback c.callback + headersHeld c.headers + c.platformData.elim 0 PlatformData.held

theorem headersHeld_append (headers headers' : List HeldHeader) :
    headersHeld (headers ++ headers') = headersHeld headers + headersHeld headers' := by
  rw [headersHeld, List.map_append, List.sum_append]
  rfl

theorem headersHeld_singleton (h : HeldHeader) : headersHeld [h] = h.held := by
  rw [headersHeld, List.map_singleton, List.sum_singleton]

/-- The pointers of `c` are those of a record with the contents `r`. -/
structure Mirrors (c : HeldConnection) (r : SSEConnection) : Prop where
  url : c.url.isSome = r.url.isSome
  lastEventId : c.lastEventId.isSome = r.lastEventId.isSome
  callback : c.callback.isSome = r.callback.isSome
  headers : c.headers.length = r.headers.length
  platformData : c.platformData.isSome = r.platformData

/-! ## §2. Strings and headers. -/

namespace Held

/-- `SSE_StrDup`, and `SSEDesktop_StrDup`. -/
def strDup {α : Type} : Option α → Owning Resource (Option Nat)
  | none => pure none
  | some _ => do
      let copy ← acquire .string
      pure (some copy)

/-- `SSE_AddHeader`. -/
def addHeader (c : HeldConnection) (name value : CString) : Owning Resource HeldConnection := do
  let name ← strDup (some name)
  let value ← strDup (some value)
  pure { c with headers := c.headers ++ [⟨name, value⟩] }

/-- One turn of `SSE_FreeHeaders`. -/
def freeHeader (h : HeldHeader) : Owning Resource Unit := do
  releaseAny .string h.name
  releaseAny .string h.value

/-- `SSE_FreeHeaders`. -/
def freeHeaders (headers : List HeldHeader) : Owning Resource Unit := headers.forM freeHeader

theorem strDup_triple {α : Type} (value : Option α) (own : Multiset (Resource × Nat)) :
    Triple own (strDup value)
      (fun p mid => p.isSome = value.isSome ∧ mid = block .string p + own) := by
  cases value with
  | none => exact Triple.ret ⟨rfl, (zero_add own).symm⟩
  | some v =>
      refine (Triple.acquire Resource.string own).bind ?_
      intro n mid hmid
      subst hmid
      exact Triple.ret ⟨rfl, rfl⟩

theorem addHeader_triple (c : HeldConnection) (name value : CString) :
    Triple c.held (addHeader c name value) (fun c' mid => mid = c'.held
      ∧ ∃ h, c' = { c with headers := c.headers ++ [h] }) := by
  refine (strDup_triple (some name) _).bind ?_
  intro p mid hmid
  obtain ⟨-, rfl⟩ := hmid
  refine (strDup_triple (some value) _).bind ?_
  intro q mid hmid
  obtain ⟨-, rfl⟩ := hmid
  refine Triple.ret ⟨?_, _, rfl⟩
  simp only [HeldConnection.held, headersHeld_append, headersHeld_singleton, HeldHeader.held]
  abel

theorem freeHeaders_triple (headers : List HeldHeader) (own : Multiset (Resource × Nat)) :
    Triple (headersHeld headers + own) (freeHeaders headers) (fun _ mid => mid = own) := by
  refine Triple.forM (f := freeHeader) (fun h own => ?_) headers own
  rw [HeldHeader.held, add_assoc]
  refine (Triple.releaseAny Resource.string h.name _).bind ?_
  intro _ mid hmid
  subst hmid
  exact Triple.releaseAny Resource.string h.value own

/-! ## §3. `SSE_ReadOptions`. -/

/-- One pair of the headers table. -/
def readHeader (c : HeldConnection) : LuaValue × LuaValue → Owning Resource HeldConnection
  | (.string name _, value) =>
      match value.toCString with
      | some value => addHeader c (.read name) value
      | none => pure c
  | _ => pure c

/-- `options.headers`. -/
def readHeaders (options : LuaValue) (c : HeldConnection) :
    Owning Resource (Option ConnectError × HeldConnection) :=
  match getField options "headers" with
  | none => pure (some .raised, c)
  | some .nil => pure (none, c)
  | some (.table headers _) => do
      let c ← headers.foldlM readHeader c
      pure (none, c)
  | some _ => pure (some (.message "sse.connect options.headers must be a table"), c)

/-- `free` of the last event id, and a copy of the new one. -/
def replaceLastEventId (c : HeldConnection) (id : CString) :
    Owning Resource (Option ConnectError × HeldConnection) := do
  releaseAny .string c.lastEventId
  let copy ← strDup (some id)
  pure (none, { c with lastEventId := copy })

/-- `options.last_event_id`. -/
def readLastEventId (options : LuaValue) (c : HeldConnection) :
    Owning Resource (Option ConnectError × HeldConnection) :=
  match getField options "last_event_id" with
  | none => pure (some .raised, c)
  | some .nil => pure (none, c)
  | some value =>
      match value.toCString with
      | some id => replaceLastEventId c id
      | none => pure (some (.message "sse.connect options.last_event_id must be a string"), c)

/-- `options.reconnect`, which takes nothing. -/
def readReconnect (options : LuaValue) (c : HeldConnection) :
    Owning Resource (Option ConnectError × HeldConnection) :=
  match getField options "reconnect" with
  | none => pure (some .raised, c)
  | some _ => pure (none, c)

/-- `options.retry_ms`, which takes nothing. -/
def readRetryMs (options : LuaValue) (c : HeldConnection) :
    Owning Resource (Option ConnectError × HeldConnection) :=
  match getField options "retry_ms" with
  | none => pure (some .raised, c)
  | some .nil => pure (none, c)
  | some value =>
      match value.toInteger with
      | some _ => pure (none, c)
      | none => pure (some (.message "sse.connect options.retry_ms must be a number"), c)

/-- `read`, and if nothing is wrong `next`. -/
def thenRead (read next : HeldConnection → Owning Resource (Option ConnectError × HeldConnection))
    (c : HeldConnection) : Owning Resource (Option ConnectError × HeldConnection) := do
  let (error, c) ← read c
  match error with
  | some error => pure (some error, c)
  | none => next c

/-- `SSE_ReadOptions`. -/
def readOptions (options : LuaValue) (c : HeldConnection) :
    Owning Resource (Option ConnectError × HeldConnection) :=
  match options with
  | .nil => pure (none, c)
  | .table _ _ =>
      thenRead (readHeaders options) (thenRead (readLastEventId options)
        (thenRead (readReconnect options) (readRetryMs options))) c
  | _ => pure (some (.message "sse.connect options must be a table"), c)

/-- What a reader of options leaves: the message and the record that
`Core/Options.lean` has for it. -/
def Read (expected : Option ConnectError × SSEConnection)
    (result : Option ConnectError × HeldConnection) (mid : Multiset (Resource × Nat)) : Prop :=
  mid = result.2.held ∧ result.1 = expected.1 ∧ Mirrors result.2 expected.2

section ReadOptions

variable {c : HeldConnection} {r : SSEConnection} (h : Mirrors c r)

include h

theorem readHeader_triple (e : LuaValue × LuaValue) :
    Triple c.held (readHeader c e) (fun c' mid => mid = c'.held
      ∧ Mirrors c' (DefoldSSE.readHeader r e)) := by
  obtain ⟨key, value⟩ := e
  cases key with
  | string name n =>
      cases hvalue : value.toCString with
      | none =>
          simp only [readHeader, DefoldSSE.readHeader, hvalue]
          exact Triple.ret ⟨rfl, h⟩
      | some v =>
          simp only [readHeader, DefoldSSE.readHeader, hvalue]
          refine (addHeader_triple c (.read name) v).weaken ?_
          intro c' mid hmid
          obtain ⟨hheld, header, rfl⟩ := hmid
          refine ⟨hheld, h.url, h.lastEventId, h.callback, ?_, h.platformData⟩
          simp [SSEConnection.addHeader, h.headers]
  | _ => exact Triple.ret ⟨rfl, h⟩

theorem readHeaders_triple (options : LuaValue) :
    Triple c.held (readHeaders options c) (Read (DefoldSSE.readHeaders options r)) := by
  unfold readHeaders DefoldSSE.readHeaders
  cases getField options "headers" with
  | none => exact Triple.ret ⟨rfl, rfl, h⟩
  | some value =>
      cases value with
      | table headers index =>
          -- the headers read so far are those of the fold so far
          let I (done : List (LuaValue × LuaValue)) (c' : HeldConnection)
              (mid : Multiset (Resource × Nat)) : Prop :=
            mid = c'.held ∧ Mirrors c' (done.foldl DefoldSSE.readHeader r)
          have hstep : ∀ done e c' mid, I done c' mid →
              Triple mid (readHeader c' e) (I (done ++ [e])) := by
            intro done e c' mid hmid
            obtain ⟨rfl, hc'⟩ := hmid
            show Triple _ _ (fun c'' mid => mid = c''.held
              ∧ Mirrors c'' ((done ++ [e]).foldl DefoldSSE.readHeader r))
            rw [List.foldl_concat]
            exact readHeader_triple hc' e
          have hinit : I [] c c.held := ⟨rfl, h⟩
          refine (Triple.foldlM hstep hinit headers).bind ?_
          intro c' mid hmid
          obtain ⟨rfl, hc'⟩ := hmid
          exact Triple.ret ⟨rfl, rfl, hc'⟩
      | _ => exact Triple.ret ⟨rfl, rfl, h⟩

/-- The old id goes before the new one comes. -/
theorem replaceLastEventId_triple (id : CString) :
    Triple c.held (replaceLastEventId c id) (Read (none, { r with lastEventId := some id })) := by
  have hrest : c.held = block .string c.lastEventId + { c with lastEventId := none }.held := by
    simp only [HeldConnection.held, block_none]
    abel
  refine Triple.of_eq ?_ hrest
  refine (Triple.releaseAny Resource.string c.lastEventId _).bind ?_
  intro _ mid hmid
  subst hmid
  refine (strDup_triple (some id) _).bind ?_
  intro copy mid hmid
  obtain ⟨hsome, rfl⟩ := hmid
  refine Triple.ret ⟨?_, rfl, h.url, hsome, h.callback, h.headers, h.platformData⟩
  simp only [HeldConnection.held, block_none]
  abel

theorem readLastEventId_triple (options : LuaValue) :
    Triple c.held (readLastEventId options c) (Read (DefoldSSE.readLastEventId options r)) := by
  unfold readLastEventId DefoldSSE.readLastEventId
  cases getField options "last_event_id" with
  | none => exact Triple.ret ⟨rfl, rfl, h⟩
  | some value =>
      cases value with
      | number n text => exact replaceLastEventId_triple h (.read text)
      | string text n => exact replaceLastEventId_triple h (.read text)
      | _ => exact Triple.ret ⟨rfl, rfl, h⟩

theorem readReconnect_triple (options : LuaValue) :
    Triple c.held (readReconnect options c) (Read (DefoldSSE.readReconnect options r)) := by
  unfold readReconnect DefoldSSE.readReconnect
  cases getField options "reconnect" with
  | none => exact Triple.ret ⟨rfl, rfl, h⟩
  | some value =>
      have hread : Mirrors c { r with reconnect := value.toBoolean } :=
        ⟨h.url, h.lastEventId, h.callback, h.headers, h.platformData⟩
      cases value with
      | nil => exact Triple.ret ⟨rfl, rfl, h⟩
      | _ => exact Triple.ret ⟨rfl, rfl, hread⟩

theorem readRetryMs_triple (options : LuaValue) :
    Triple c.held (readRetryMs options c) (Read (DefoldSSE.readRetryMs options r)) := by
  have hread : ∀ n, Mirrors c { r with retryMs := n } := fun _ =>
    ⟨h.url, h.lastEventId, h.callback, h.headers, h.platformData⟩
  unfold readRetryMs DefoldSSE.readRetryMs
  cases getField options "retry_ms" with
  | none => exact Triple.ret ⟨rfl, rfl, h⟩
  | some value =>
      cases value with
      | number n text => exact Triple.ret ⟨rfl, rfl, hread _⟩
      | string text n =>
          cases n with
          | none => exact Triple.ret ⟨rfl, rfl, h⟩
          | some n => exact Triple.ret ⟨rfl, rfl, hread _⟩
      | _ => exact Triple.ret ⟨rfl, rfl, h⟩

omit h in
/-- Two readers one after the other. -/
theorem thenRead_triple
    {read next : HeldConnection → Owning Resource (Option ConnectError × HeldConnection)}
    {read' next' : SSEConnection → Option ConnectError × SSEConnection}
    (hread : ∀ {c r}, Mirrors c r → Triple c.held (read c) (Read (read' r)))
    (hnext : ∀ {c r}, Mirrors c r → Triple c.held (next c) (Read (next' r)))
    {c : HeldConnection} {r : SSEConnection} (h : Mirrors c r) :
    Triple c.held (thenRead read next c) (Read (DefoldSSE.thenRead read' next' r)) := by
  refine (hread h).bind ?_
  intro result mid hmid
  obtain ⟨error, c'⟩ := result
  obtain ⟨rfl, herror, hc'⟩ := hmid
  unfold DefoldSSE.thenRead
  generalize read' r = result at herror hc'
  obtain ⟨error', r'⟩ := result
  cases (herror : error = error')
  cases error with
  | some error => exact Triple.ret ⟨rfl, rfl, hc'⟩
  | none => exact hnext hc'

/-- **Reading the options, whatever they are**: the record holds what it took,
also when it stops at a mistake or a lookup raises. -/
theorem readOptions_triple (options : LuaValue) :
    Triple c.held (readOptions options c) (Read (DefoldSSE.readOptions options r)) := by
  cases options with
  | nil => exact Triple.ret ⟨rfl, rfl, h⟩
  | table entries index =>
      exact thenRead_triple (fun h => readHeaders_triple h _)
        (thenRead_triple (fun h => readLastEventId_triple h _)
          (thenRead_triple (fun h => readReconnect_triple h _)
            (fun h => readRetryMs_triple h _))) h
  | _ => exact Triple.ret ⟨rfl, rfl, h⟩

end ReadOptions

/-! ## §4. `SSE_DestroyConnection`. -/

/-- `SSE_DestroyConnection(connection, false)`: the platform data are not its
concern. -/
def destroyConnection (c : HeldConnection) : Owning Resource Unit := do
  releaseAny .callback c.callback
  freeHeaders c.headers
  releaseAny .string c.url
  releaseAny .string c.lastEventId
  release .connection c.connection

/-- **A record without platform data leaves nothing behind.** -/
theorem destroyConnection_triple (c : HeldConnection) (hdetached : c.platformData = none) :
    Triple c.held (destroyConnection c) (fun _ mid => mid = 0) := by
  have horder : c.held = block .callback c.callback + (headersHeld c.headers
      + (block .string c.url + (block .string c.lastEventId
        + ({(.connection, c.connection)} + 0)))) := by
    simp only [HeldConnection.held, hdetached, Option.elim_none]
    abel
  refine Triple.of_eq ?_ horder
  refine (Triple.releaseAny Resource.callback c.callback _).bind ?_
  intro _ mid hmid
  subst hmid
  refine (freeHeaders_triple c.headers _).bind ?_
  intro _ mid hmid
  subst hmid
  refine (Triple.releaseAny Resource.string c.url _).bind ?_
  intro _ mid hmid
  subst hmid
  refine (Triple.releaseAny Resource.string c.lastEventId _).bind ?_
  intro _ mid hmid
  subst hmid
  exact Triple.release Resource.connection c.connection 0

end Held

end DefoldSSE
