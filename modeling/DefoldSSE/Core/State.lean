/-
  DefoldSSE.Core.State — the state behind `sse.cpp` and its operations.

  Connection records live on a heap and may be freed; the table only holds their
  addresses.  Reading a freed record is a FAULT, so that "no step reads a
  destroyed record" is a statement about results.

  The history (`trace`) is what the outside sees.  No operation reads it.
-/
import Mathlib.Logic.Function.Basic
import DefoldSSE.Core.Options
import DefoldSSE.Lib.DmArray

namespace DefoldSSE

open CLib

/-! ## §1. The state. -/

/-- `SSE_QUEUE_CAPACITY`. -/
def sseQueueCapacity : Nat := 1024

/-- `INT32_MAX`. -/
def INT32_MAX : Int := 2 ^ 31 - 1

/-- What happens to one record in the course of its life. -/
inductive Deed where
  /-- `new SSEConnection`, which gets this handle. -/
  | created (handle : Int)
  /-- `SSE_Platform_Connect` attached its data. -/
  | attached
  /-- The callback is called with this event. -/
  | invoked (event : SSEEvent)
  /-- `dmScript::SetupCallback` failed, so the event went nowhere. -/
  | notSetUp (event : SSEEvent)
  /-- `SSE_Platform_Disconnect` took the data back. -/
  | platformDisconnected
  /-- `dmScript::DestroyCallback`. -/
  | callbackDestroyed
  /-- `delete connection`. -/
  | destroyed
  /-- A Lua error leaves `SSE_Connect`, and with it goes the only pointer. -/
  | lost
  deriving DecidableEq

/-- An entry of the history. -/
inductive CoreEffect where
  | deed (p : Ptr) (d : Deed)
  /-- `SSE_QueuePush`, and its answer. -/
  | push (event : SSEEvent) (accepted : Bool)
  /-- The buffers are swapped. -/
  | swap
  deriving DecidableEq

/-- `SSEEventQueue`. -/
structure SSEEventQueue where
  events : DmArray SSEEvent
  eventsSwap : DmArray SSEEvent
  overflowHandles : DmArray Int
  overflowSwap : DmArray Int

/-- Where the main thread is: outside the extension, in one of the two loops of
`SSE_FlushQueue` before its `i`-th dispatch, or in the callback of a record
during that dispatch. -/
inductive Control where
  | idle
  | events (i : Nat)
  | inEvent (i : Nat) (p : Ptr)
  | overflows (i : Nat)
  | inOverflow (i : Nat) (p : Ptr)
  deriving DecidableEq

/-- The record whose callback runs. -/
def Control.current : Control → Option Ptr
  | .inEvent _ p => some p
  | .inOverflow _ p => some p
  | _ => none

/-- Where a flush is once a dispatch began: in the callback of a record, or
before the next dispatch. -/
def Control.after (inside : Ptr → Control) (next : Control) : Option Ptr → Control
  | some p => inside p
  | none => next

/-- `SSEState`, the heap, and what the rest of the engine contributes. -/
structure CoreState where
  connections : DmArray Ptr
  queue : SSEEventQueue
  nextHandle : Int
  /-- `g_SSEActive`. -/
  active : Bool
  heap : Ptr → Option SSEConnection
  /-- The records that nothing points to any more. -/
  lost : Ptr → Option SSEConnection
  /-- The address of the next record. -/
  nextPtr : Nat
  /-- `dmScript::IsCallbackValid`. -/
  callbackValid : Ptr → Bool
  control : Control
  trace : List CoreEffect

/-- The arguments of `sse.connect`, past the checks of their types, and what the
engine and the platform answer. -/
structure ConnectCall where
  /-- `SSE_Platform_IsSupported`. -/
  supported : Bool := true
  url : Bytes
  options : LuaValue := .nil
  /-- `dmScript::CreateCallback`: nothing, or a callback and whether it is valid. -/
  callback : Option Bool := some true
  /-- `SSE_Platform_Connect`: the message it fails with, if it fails. -/
  platform : Option String := none

/-- The event of `SSE_DispatchOverflow`. -/
def overflowEvent (handle : Int) : SSEEvent where
  handle := handle
  type := .eventError
  retryMs := -1
  error := some (.lit "SSE event queue overflow; events were dropped")

/-- What must not happen. -/
inductive Fault where
  /-- A freed record is read or freed. -/
  | useAfterFree (p : Ptr)
  /-- `m_NextHandle++` overflows. -/
  | handleOverflow
  deriving DecidableEq

namespace CoreState

/-- After `AppInitializeSSE`. -/
def appInitialize : CoreState where
  connections := .withCapacity 0
  queue := ⟨.withCapacity sseQueueCapacity, .withCapacity sseQueueCapacity, .withCapacity 0,
    .withCapacity 0⟩
  nextHandle := 1
  active := true
  heap := fun _ => none
  lost := fun _ => none
  nextPtr := 0
  callbackValid := fun _ => false
  control := .idle
  trace := []

def log (s : CoreState) (e : CoreEffect) : CoreState := { s with trace := s.trace ++ [e] }

/-- The record at `p` is written. -/
def write (s : CoreState) (p : Ptr) (r : SSEConnection) : CoreState :=
  { s with heap := Function.update s.heap p (some r) }

/-! ## §2. The table. -/

/-- `SSE_FindConnectionNoLock`: every record up to the one found is read. -/
def findIn (heap : Ptr → Option SSEConnection) (handle : Int) :
    List Ptr → Except Fault (Option (Ptr × SSEConnection))
  | [] => .ok none
  | p :: ps =>
      match heap p with
      | none => .error (.useAfterFree p)
      | some r => if r.handle = handle then .ok (some (p, r)) else findIn heap handle ps

/-- `SSE_FindConnection`. -/
def findConnection (s : CoreState) (handle : Int) : Except Fault (Option (Ptr × SSEConnection)) :=
  findIn s.heap handle s.connections.data

/-- `SSE_RemoveConnectionNoLock`. -/
def removeConnection (s : CoreState) (p : Ptr) : CoreState :=
  { s with
    connections :=
      if p ∈ s.connections.data then s.connections.eraseSwap (s.connections.data.idxOf p)
      else s.connections }

/-- `SSE_Platform_Disconnect`; every adapter leaves `m_PlatformData` null. -/
def platformDisconnect (s : CoreState) (p : Ptr) (r : SSEConnection) : CoreState :=
  (s.write p { r with platformData := false }).log (.deed p .platformDisconnected)

/-- `SSE_DestroyConnection`. -/
def destroyConnection (s : CoreState) (p : Ptr) (disconnectPlatform : Bool) :
    Except Fault CoreState :=
  match s.heap p with
  | none => .error (.useAfterFree p)
  | some r =>
      let s := if disconnectPlatform && r.platformData then s.platformDisconnect p r else s
      let s := s.removeConnection p
      let s := if r.callback.isSome then s.log (.deed p .callbackDestroyed) else s
      .ok ({ s with heap := Function.update s.heap p none }.log (.deed p .destroyed))

/-! ## §3. The threads' calls. -/

/-- `SSE_QueuePush`. -/
def queuePush (s : CoreState) (event : SSEEvent) : Bool × CoreState :=
  if s.active then
    if h : s.queue.events.full = true then
      let overflow :=
        if event.handle ∈ s.queue.overflowHandles.data then s.queue.overflowHandles
        else s.queue.overflowHandles.pushGrowing event.handle
      (false, { s with queue := { s.queue with overflowHandles := overflow } }.log
        (.push event false))
    else
      let events := s.queue.events.push event (by simpa using h)
      (true, { s with queue := { s.queue with events := events } }.log (.push event true))
  else (false, s.log (.push event false))

/-- `SSE_SetConnected`. -/
def setConnected (s : CoreState) (handle : Int) (connected : Bool) : Except Fault CoreState :=
  if s.active then
    match s.findConnection handle with
    | .error fault => .error fault
    | .ok none => .ok s
    | .ok (some (p, r)) => .ok (s.write p { r with connected := connected })
  else .ok s

/-- `SSE_SetLastEventId`. -/
def setLastEventId (s : CoreState) (handle : Int) (id : Option CString) : Except Fault CoreState :=
  if s.active then
    match s.findConnection handle with
    | .error fault => .error fault
    | .ok none => .ok s
    | .ok (some (p, r)) => .ok (s.write p { r with lastEventId := some (id.getD (.lit "")) })
  else .ok s

/-- `SSE_IsUserClosed`. -/
def isUserClosed (s : CoreState) (handle : Int) : Except Fault Bool :=
  if s.active then
    match s.findConnection handle with
    | .error fault => .error fault
    | .ok none => .ok true
    | .ok (some (_, r)) => .ok r.userClosed
  else .ok true

/-! ## §4. The Lua calls. -/

/-- `SSE_Connect` past `new SSEConnection` and `CreateCallback`. -/
def allocate (s : CoreState) (call : ConnectCall) : CoreState × SSEConnection :=
  let r : SSEConnection :=
    { handle := s.nextHandle, url := some (.read call.url),
      callback := call.callback.map (fun _ => s.nextPtr) }
  ({ s with
      heap := Function.update s.heap s.nextPtr (some r)
      callbackValid := Function.update s.callbackValid s.nextPtr (call.callback.getD false)
      nextPtr := s.nextPtr + 1
      nextHandle := s.nextHandle + 1 }.log (.deed s.nextPtr (.created r.handle)), r)

/-- A Lua error throws the address of the record away. -/
def lose (s : CoreState) (p : Ptr) (r : SSEConnection) : CoreState :=
  { s with
    heap := Function.update s.heap p none
    lost := Function.update s.lost p (some r) }.log (.deed p .lost)

/-- `SSE_Connect`: the handle, or how it goes wrong. -/
def connect (s : CoreState) (call : ConnectCall) :
    Except Fault (Except ConnectError Int × CoreState) :=
  if call.supported then
    if s.nextHandle = INT32_MAX then .error .handleOverflow
    else
      let p := s.nextPtr
      let (s, r) := s.allocate call
      if call.callback = some true then
        match readOptions call.options r with
        | (some .raised, r) => .ok (.error .raised, s.lose p r)
        | (some (.message error), r) =>
            (s.write p r).destroyConnection p false |>.map (fun s => (.error (.message error), s))
        | (none, r) =>
            let s := { s.write p r with connections := s.connections.pushGrowing p }
            match call.platform with
            | some error =>
                s.destroyConnection p false |>.map (fun s =>
                  (.error (.message (if error = "" then "failed to connect sse" else error)), s))
            | none =>
                .ok (.ok r.handle,
                  (s.write p { r with platformData := true }).log (.deed p .attached))
      else
        s.destroyConnection p false |>.map (fun s =>
          (.error (.message "failed to create sse callback"), s))
  else .ok (.error (.message "sse is not supported on this platform"), s)

/-- `SSE_Disconnect`. -/
def disconnect (s : CoreState) (handle : Int) : Except Fault CoreState :=
  match s.findConnection handle with
  | .error fault => .error fault
  | .ok none => .ok s
  | .ok (some (p, r)) =>
      if r.userClosed then .ok s
      else
        let r := { r with userClosed := true, connected := false }
        let s := s.write p r
        let (s, r) :=
          if r.platformData then (s.platformDisconnect p r, { r with platformData := false })
          else (s, r)
        if r.dispatching then .ok (s.write p { r with destroyAfterDispatch := true })
        else s.destroyConnection p false

/-- `SSE_IsConnected`; `platform` is what `SSE_Platform_IsConnected` makes of the
record. -/
def isConnected (s : CoreState) (platform : SSEConnection → Bool) (handle : Int) :
    Except Fault Bool :=
  match s.findConnection handle with
  | .error fault => .error fault
  | .ok none => .ok false
  | .ok (some (_, r)) => .ok (r.connected && platform r)

/-! ## §5. Dispatching. -/

/-- The end of `SSE_DispatchEvent`. -/
def endDispatch (s : CoreState) (p : Ptr) : Except Fault CoreState :=
  match s.heap p with
  | none => .error (.useAfterFree p)
  | some r =>
      let s := s.write p { r with dispatching := false }
      if r.destroyAfterDispatch then s.destroyConnection p false else .ok s

/-- `SSE_DispatchEvent` up to the call of the callback, whose record is
returned; `setup` is the answer of `dmScript::SetupCallback`. -/
def dispatchEvent (s : CoreState) (event : SSEEvent) (setup : Bool) :
    Except Fault (Option Ptr × CoreState) :=
  match s.findConnection event.handle with
  | .error fault => .error fault
  | .ok none => .ok (none, s)
  | .ok (some (p, r)) =>
      match r.callback with
      | none => .ok (none, s)
      | some callback =>
          if r.userClosed then .ok (none, s)
          else if !s.callbackValid callback then
            -- the script died without a disconnect
            (s.write p { r with userClosed := true }).destroyConnection p true
              |>.map (fun s => (none, s))
          else
            let s := s.write p { r with dispatching := true }
            if setup then .ok (some p, s.log (.deed p (.invoked event)))
            else (s.log (.deed p (.notSetUp event))).endDispatch p |>.map (fun s => (none, s))

/-- The start of `SSE_FlushQueue`. -/
def startFlush (s : CoreState) : CoreState :=
  { s with
    queue := ⟨s.queue.eventsSwap, s.queue.events, s.queue.overflowSwap, s.queue.overflowHandles⟩
    control := .events 0 }.log .swap

/-- `SSE_FlushQueue` goes on to its next dispatch, or to its end. -/
def advance (s : CoreState) (setup : Bool) : Except Fault CoreState :=
  match s.control with
  | .events i =>
      match s.queue.eventsSwap.data[i]? with
      | some event =>
          (s.dispatchEvent event setup).map (fun (p, s) =>
            { s with control := Control.after (.inEvent i) (.events (i + 1)) p })
      | none =>
          .ok { s with
            queue := { s.queue with eventsSwap := s.queue.eventsSwap.clear }
            control := .overflows 0 }
  | .overflows i =>
      match s.queue.overflowSwap.data[i]? with
      | some handle =>
          (s.dispatchEvent (overflowEvent handle) setup).map (fun (p, s) =>
            { s with control := Control.after (.inOverflow i) (.overflows (i + 1)) p })
      | none =>
          .ok { s with
            queue := { s.queue with overflowSwap := s.queue.overflowSwap.clear }
            control := .idle }
  | _ => .ok s

/-- The callback returns to `SSE_DispatchEvent`. -/
def callbackReturn (s : CoreState) : Except Fault CoreState :=
  match s.control with
  | .inEvent i p => (s.endDispatch p).map (fun s => { s with control := .events (i + 1) })
  | .inOverflow i p => (s.endDispatch p).map (fun s => { s with control := .overflows (i + 1) })
  | _ => .ok s

/-! ## §6. The end. -/

/-- The loop of `FinalizeSSE`, at most `n` times. -/
def destroyAll (s : CoreState) : Nat → Except Fault CoreState
  | 0 => .ok s
  | n + 1 =>
      match s.connections.data with
      | [] => .ok s
      | p :: _ =>
          match s.destroyConnection p true with
          | .error fault => .error fault
          | .ok s => destroyAll s n

/-- `FinalizeSSE` up to its flush: each turn of the loop removes one record. -/
def finalize (s : CoreState) : Except Fault CoreState :=
  (s.destroyAll s.connections.data.length).map startFlush

end CoreState

end DefoldSSE
