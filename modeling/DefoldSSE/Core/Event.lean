/-
  DefoldSSE.Core.Event — the events that cross from the adapters to Lua.

  `SSEEvent` is the record of `sse_private.h`; its strings are `strdup` copies,
  hence C strings.  The four `SSE_EnqueueX` functions differ only in the record
  they fill, which is what this file defines; pushing it is the queue's job.
-/
import DefoldSSE.Lib.Bytes

namespace DefoldSSE

open CLib

/-- `SSEEventType`. -/
inductive SSEEventType where
  | eventOpen
  | eventMessage
  | eventError
  | eventClosed
  deriving DecidableEq, Repr

/-- The enumerator's value, which Lua sees as `event.type`. -/
def SSEEventType.toInt : SSEEventType → Int
  | .eventOpen => 1
  | .eventMessage => 2
  | .eventError => 3
  | .eventClosed => 4

/-- `SSEEvent`; a null string is `none`. -/
structure SSEEvent where
  handle : Int
  type : SSEEventType
  status : Int := 0
  retryMs : Int := 0
  reconnect : Bool := false
  event : Option CString := none
  data : Option CString := none
  id : Option CString := none
  error : Option CString := none
  deriving DecidableEq

/-- `SSEHeader`. -/
structure SSEHeader where
  name : Option CString
  value : Option CString
  deriving DecidableEq

/-- The event of `SSE_EnqueueOpen`. -/
def openEvent (handle status : Int) : SSEEvent where
  handle := handle
  type := .eventOpen
  status := status

/-- The event of `SSE_EnqueueMessage`, with its defaults for null arguments. -/
def messageEvent (handle : Int) (eventName data id : Option CString) : SSEEvent where
  handle := handle
  type := .eventMessage
  event := some (eventName.getD (.lit "message"))
  data := some (data.getD (.lit ""))
  id := some (id.getD (.lit ""))

/-- The event of `SSE_EnqueueError`. -/
def errorEvent (handle : Int) (error : Option CString) (status : Int) (reconnecting : Bool)
    (retryMs : Int) : SSEEvent where
  handle := handle
  type := .eventError
  status := status
  retryMs := retryMs
  reconnect := reconnecting
  error := some (error.getD (.lit "SSE error"))

/-- The event of `SSE_EnqueueClosed`. -/
def closedEvent (handle : Int) : SSEEvent where
  handle := handle
  type := .eventClosed

end DefoldSSE
