/-
  DefoldSSE.Core.Options — the connection record and `SSE_ReadOptions`.

  The options are a Lua value; what is modelled of it is what the C API lets the
  reader see.  A mistake in the options is returned as a message, and the record
  keeps what was read before it.  But a lookup may run the table's `__index`, and
  an error there does not return to the reader at all.
-/
import DefoldSSE.Lib.CStdlib
import DefoldSSE.Core.Event

namespace DefoldSSE

open CLib

/-! ## §1. The record. -/

/-- A record's address. -/
abbrev Ptr := Nat

/-- `SSEConnection`.  Of the platform data only its presence is known here, and
a callback is named by the record it was created for. -/
structure SSEConnection where
  handle : Int := 0
  url : Option CString := none
  lastEventId : Option CString := none
  retryMs : Int := 3000
  reconnect : Bool := false
  connected : Bool := false
  userClosed : Bool := false
  dispatching : Bool := false
  destroyAfterDispatch : Bool := false
  platformData : Bool := false
  callback : Option Ptr := none
  headers : List SSEHeader := []
  deriving DecidableEq

/-- The fields the options have no part in. -/
def SSEConnection.identity (c : SSEConnection) : Int × Option Ptr × List Bool :=
  (c.handle, c.callback,
    [c.connected, c.userClosed, c.dispatching, c.destroyAfterDispatch, c.platformData])

/-! ## §2. Lua values. -/

/-- A Lua value as the C API shows it. -/
inductive LuaValue where
  | nil
  | boolean (b : Bool)
  /-- What `lua_tointeger` and `lua_tostring` make of a number. -/
  | number (asInteger : Int) (asString : Bytes)
  /-- A string, and the number it spells, if it does. -/
  | string (text : Bytes) (asInteger : Option Int)
  /-- The pairs, in the order of `lua_next`; and what `__index` answers for a key
  that is not among them, nothing if it raises an error. -/
  | table (entries : List (LuaValue × LuaValue)) (index : Bytes → Option LuaValue)
  /-- A function, a userdata or a thread. -/
  | other

namespace LuaValue

/-- A table without a metatable. -/
def plain (entries : List (LuaValue × LuaValue)) : LuaValue := .table entries fun _ => some .nil

/-- `lua_tostring`. -/
def toCString : LuaValue → Option CString
  | .number _ text => some (.read text)
  | .string text _ => some (.read text)
  | _ => none

/-- `lua_isnumber`, then `lua_tointeger`. -/
def toInteger : LuaValue → Option Int
  | .number n _ => some n
  | .string _ n => n
  | _ => none

/-- `lua_toboolean`. -/
def toBoolean : LuaValue → Bool
  | .nil => false
  | .boolean b => b
  | _ => true

end LuaValue

/-- `lua_getfield`: the field, or nothing if it raises an error.  `__index` is run
only for a key that the table does not have. -/
def getField (options : LuaValue) (name : String) : Option LuaValue :=
  match options with
  | .table entries index =>
      match entries.find?
        (fun e => match e.1 with | .string text _ => text == ascii name | _ => false) with
      | some e => some e.2
      | none => index (ascii name)
  | _ => none

/-! ## §3. `SSE_ReadOptions`. -/

/-- How a call of `sse.connect` goes wrong. -/
inductive ConnectError where
  /-- It returns nil and this message. -/
  | message (text : String)
  /-- A Lua error leaves it by `longjmp`. -/
  | raised
  deriving DecidableEq

/-- `SSE_AddHeader`. -/
def SSEConnection.addHeader (c : SSEConnection) (name value : CString) : SSEConnection :=
  { c with headers := c.headers ++ [⟨some name, some value⟩] }

/-- One pair of the headers table; only a string key counts. -/
def readHeader (c : SSEConnection) : LuaValue × LuaValue → SSEConnection
  | (.string name _, value) =>
      match value.toCString with
      | some value => c.addHeader (.read name) value
      | none => c
  | _ => c

/-- `options.headers`; `lua_next` sees the pairs only. -/
def readHeaders (options : LuaValue) (c : SSEConnection) : Option ConnectError × SSEConnection :=
  match getField options "headers" with
  | none => (some .raised, c)
  | some .nil => (none, c)
  | some (.table headers _) => (none, headers.foldl readHeader c)
  | some _ => (some (.message "sse.connect options.headers must be a table"), c)

/-- `options.last_event_id`. -/
def readLastEventId (options : LuaValue) (c : SSEConnection) :
    Option ConnectError × SSEConnection :=
  match getField options "last_event_id" with
  | none => (some .raised, c)
  | some .nil => (none, c)
  | some value =>
      match value.toCString with
      | some id => (none, { c with lastEventId := some id })
      | none => (some (.message "sse.connect options.last_event_id must be a string"), c)

/-- `options.reconnect`. -/
def readReconnect (options : LuaValue) (c : SSEConnection) : Option ConnectError × SSEConnection :=
  match getField options "reconnect" with
  | none => (some .raised, c)
  | some .nil => (none, c)
  | some value => (none, { c with reconnect := value.toBoolean })

/-- `options.retry_ms`; the number is cut to an `int`. -/
def readRetryMs (options : LuaValue) (c : SSEConnection) : Option ConnectError × SSEConnection :=
  match getField options "retry_ms" with
  | none => (some .raised, c)
  | some .nil => (none, c)
  | some value =>
      match value.toInteger with
      | some n => (none, { c with retryMs := if toInt32 n ≥ 0 then toInt32 n else 0 })
      | none => (some (.message "sse.connect options.retry_ms must be a number"), c)

/-- `read`, and if nothing is wrong `next`. -/
def thenRead (read next : SSEConnection → Option ConnectError × SSEConnection)
    (c : SSEConnection) : Option ConnectError × SSEConnection :=
  match read c with
  | (some error, c) => (some error, c)
  | (none, c) => next c

/-- `SSE_ReadOptions`: what goes wrong in it, if anything, and the record as far as
it was filled. -/
def readOptions (options : LuaValue) (c : SSEConnection) : Option ConnectError × SSEConnection :=
  match options with
  | .nil => (none, c)
  | .table _ _ =>
      thenRead (readHeaders options) (thenRead (readLastEventId options)
        (thenRead (readReconnect options) (readRetryMs options))) c
  | _ => (some (.message "sse.connect options must be a table"), c)

section ReadOptions

/-- A reader of options: it leaves the rest of the record alone, what it finds wrong
does not depend on the record, and its messages are not empty. -/
structure ReadsOptions (read : SSEConnection → Option ConnectError × SSEConnection) : Prop where
  identity : ∀ c, (read c).2.identity = c.identity
  error : ∀ c c', (read c).1 = (read c').1
  told : ∀ c, (read c).1 ≠ some (.message "")

theorem ReadsOptions.andThen {read next : SSEConnection → Option ConnectError × SSEConnection}
    (h : ReadsOptions read) (h' : ReadsOptions next) : ReadsOptions (thenRead read next) := by
  have hcases : ∀ c, ((read c).1 = none ∧ thenRead read next c = next (read c).2)
      ∨ ∃ error, (read c).1 = some error ∧ thenRead read next c = (some error, (read c).2) := by
    intro c
    unfold thenRead
    cases hread : read c with
    | mk error r =>
        cases error with
        | none => exact .inl ⟨rfl, rfl⟩
        | some error => exact .inr ⟨error, rfl, rfl⟩
  refine ⟨fun c => ?_, fun c c' => ?_, fun c => ?_⟩
  · rcases hcases c with ⟨-, hthen⟩ | ⟨error, -, hthen⟩
    · rw [hthen]
      exact (h'.identity _).trans (h.identity c)
    · rw [hthen]
      exact h.identity c
  · have hsame := h.error c c'
    rcases hcases c with ⟨hnone, hthen⟩ | ⟨error, hsome, hthen⟩
    · rcases hcases c' with ⟨-, hthen'⟩ | ⟨error', hsome', -⟩
      · rw [hthen, hthen']
        exact h'.error _ _
      · rw [hnone, hsome'] at hsame
        cases hsame
    · rcases hcases c' with ⟨hnone', -⟩ | ⟨error', hsome', hthen'⟩
      · rw [hsome, hnone'] at hsame
        cases hsame
      · rw [hsome, hsome'] at hsame
        rw [hthen, hthen', hsame]
  · rcases hcases c with ⟨-, hthen⟩ | ⟨error, hsome, hthen⟩
    · rw [hthen]
      exact h'.told _
    · rw [hthen, ← hsome]
      exact h.told c

variable (options : LuaValue)

theorem readHeader_identity (c : SSEConnection) (e : LuaValue × LuaValue) :
    (readHeader c e).identity = c.identity := by
  obtain ⟨key, value⟩ := e
  cases key with
  | string name n =>
      show SSEConnection.identity (match value.toCString with
        | some value => c.addHeader (.read name) value
        | none => c) = c.identity
      cases value.toCString with
      | some v => rfl
      | none => rfl
  | _ => rfl

theorem readHeaders_reads : ReadsOptions (readHeaders options) := by
  have hfold : ∀ (headers : List (LuaValue × LuaValue)) (c : SSEConnection),
      (headers.foldl readHeader c).identity = c.identity := by
    intro headers
    induction headers with
    | nil => intro c; rfl
    | cons e headers ih =>
      intro c
      rw [List.foldl_cons, ih, readHeader_identity]
  unfold readHeaders
  split
  · exact ⟨fun _ => rfl, fun _ _ => rfl, by simp⟩
  · exact ⟨fun _ => rfl, fun _ _ => rfl, by simp⟩
  · exact ⟨fun c => hfold _ c, fun _ _ => rfl, by simp⟩
  · exact ⟨fun _ => rfl, fun _ _ => rfl, by simp⟩

theorem readLastEventId_reads : ReadsOptions (readLastEventId options) := by
  unfold readLastEventId
  repeat' split
  all_goals exact ⟨fun _ => rfl, fun _ _ => rfl, by simp⟩

theorem readReconnect_reads : ReadsOptions (readReconnect options) := by
  unfold readReconnect
  split
  all_goals exact ⟨fun _ => rfl, fun _ _ => rfl, by simp⟩

theorem readRetryMs_reads : ReadsOptions (readRetryMs options) := by
  unfold readRetryMs
  repeat' split
  all_goals exact ⟨fun _ => rfl, fun _ _ => rfl, by simp⟩

/-- **The options do not touch the rest of the record, and what is wrong with them
does not depend on it.** -/
theorem readOptions_reads : ReadsOptions (readOptions options) := by
  cases options with
  | table entries index =>
      exact (readHeaders_reads _).andThen ((readLastEventId_reads _).andThen
        ((readReconnect_reads _).andThen (readRetryMs_reads _)))
  | nil => exact ⟨fun _ => rfl, fun _ _ => rfl, by simp [readOptions]⟩
  | _ => exact ⟨fun _ => rfl, fun _ _ => rfl, by simp [readOptions]⟩

/-! ## §4. When a lookup raises. -/

/-- The field is a string or a number, or is not there. -/
def LuaValue.spells : LuaValue → Bool
  | .nil => true
  | .number _ _ => true
  | .string _ _ => true
  | _ => false

/-- The field is a table, or is not there. -/
def LuaValue.lists : LuaValue → Bool
  | .nil => true
  | .table _ _ => true
  | _ => false

/-- A lookup raises: that of `headers`, or a later one that is reached because the
fields before it have the right type. -/
def LuaValue.lookupRaises (options : LuaValue) : Bool :=
  match options with
  | .table _ _ =>
      match getField options "headers" with
      | none => true
      | some headers =>
          headers.lists &&
            match getField options "last_event_id" with
            | none => true
            | some id =>
                id.spells && ((getField options "reconnect").isNone
                  || (getField options "retry_ms").isNone)
  | _ => false

theorem thenRead_error (read next : SSEConnection → Option ConnectError × SSEConnection)
    (c : SSEConnection) : (thenRead read next c).1 = (read c).1.or (next (read c).2).1 := by
  unfold thenRead
  cases read c with
  | mk error r => cases error <;> rfl

theorem readHeaders_raises (c : SSEConnection) :
    (readHeaders options c).1 = match getField options "headers" with
      | none => some .raised
      | some headers =>
          if headers.lists then none
          else some (.message "sse.connect options.headers must be a table") := by
  unfold readHeaders
  cases getField options "headers" with
  | none => rfl
  | some headers => cases headers <;> rfl

theorem readLastEventId_raises (c : SSEConnection) :
    (readLastEventId options c).1 = match getField options "last_event_id" with
      | none => some .raised
      | some id =>
          if id.spells then none
          else some (.message "sse.connect options.last_event_id must be a string") := by
  unfold readLastEventId
  cases getField options "last_event_id" with
  | none => rfl
  | some id => cases id <;> rfl

theorem readReconnect_raises (c : SSEConnection) :
    (readReconnect options c).1
      = if (getField options "reconnect").isNone then some .raised else none := by
  unfold readReconnect
  cases getField options "reconnect" with
  | none => rfl
  | some value => cases value <;> rfl

theorem readRetryMs_raises (c : SSEConnection) :
    (readRetryMs options c).1 = some .raised ↔ (getField options "retry_ms").isNone = true := by
  unfold readRetryMs
  cases getField options "retry_ms" with
  | none => simp
  | some value =>
      cases value with
      | string text n => cases n <;> simp [LuaValue.toInteger]
      | _ => simp [LuaValue.toInteger]

/-- **The error of a lookup leaves the reader**, and nothing else does. -/
theorem readOptions_raised_iff (c : SSEConnection) :
    (readOptions options c).1 = some .raised ↔ options.lookupRaises = true := by
  cases options with
  | table entries index =>
      simp only [readOptions, LuaValue.lookupRaises]
      generalize LuaValue.table entries index = options
      simp only [thenRead_error, readHeaders_raises, readLastEventId_raises, readReconnect_raises]
      cases getField options "headers" with
      | none => simp
      | some headers =>
          cases hlists : headers.lists with
          | false => simp [hlists]
          | true =>
              cases getField options "last_event_id" with
              | none => simp [hlists]
              | some id =>
                  cases hspells : id.spells with
                  | false => simp [hlists, hspells]
                  | true =>
                      cases hreconnect : getField options "reconnect" with
                      | none => simp [hlists, hspells]
                      | some value => simp [hlists, hspells, readRetryMs_raises]
  | nil => simp [readOptions, LuaValue.lookupRaises]
  | _ => simp [readOptions, LuaValue.lookupRaises]

end ReadOptions

end DefoldSSE
