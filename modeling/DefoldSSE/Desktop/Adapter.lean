/-
  DefoldSSE.Desktop.Adapter — what the desktop adapters share: the connection
  record, the calls into `sse.cpp`, and the four parser callbacks.

  The libcurl and the connection-pool backend each have their own copy of
  `SSEDesktop_OnParserEvent` and its siblings, word for word the same; they are
  one definition here.

  A worker sees the event queue only through the answers to its pushes, and
  other connections decide how full the queue is.  So the answers are given
  from outside (`QueueAnswers`), and every call that leaves the adapter is
  written to a history (`trace`) that no function reads except to number its
  pushes.
-/
import DefoldSSE.Core.Event
import DefoldSSE.Parser.Reference

namespace DefoldSSE

open CLib

/-! ## §1. The connection and its surroundings. -/

/-- The fields of `SSEDesktopConnection` that both backends have and that the
stream code reads or writes.  `m_Stop` belongs to the main thread. -/
structure SSEDesktopConnection where
  handle : Int := 0
  url : Option CString := none
  lastEventId : Option CString := none
  headers : List SSEHeader := []
  parser : SSEParser := .reset
  retryMs : Int := 3000
  status : Int := 0
  reconnect : Bool := false
  opened : Bool := false
  deriving DecidableEq

/-- Whether the queue has room at the worker's pushes: for its `n`-th message,
and for its `n`-th event of another type. -/
structure QueueAnswers where
  message : Nat → Bool
  other : Nat → Bool

/-- A call that leaves the adapter, in the order they happen. -/
inductive Effect where
  /-- A parser callback is entered. -/
  | call (c : ParserCall)
  /-- `SSE_QueuePush`, and its answer. -/
  | push (event : SSEEvent) (accepted : Bool)
  /-- `SSE_SetConnected`. -/
  | setConnected (handle : Int) (connected : Bool)
  /-- `SSE_SetLastEventId`. -/
  | setLastEventId (handle : Int) (id : CString)
  /-- `SSEDesktop_SetString(&connection->m_LastEventId, ..)`. -/
  | storeLastEventId (id : CString)
  deriving DecidableEq

/-- The stop flag: the worker's looks at it so far, and the first look that
finds it raised. -/
structure StopFlag where
  raisedAt : Option Nat := none
  looks : Nat := 0
  deriving DecidableEq, Repr

/-- `SSEDesktop_ShouldStop`, at this look. -/
def StopFlag.raised (s : StopFlag) : Bool := s.raisedAt.any (· ≤ s.looks)

/-- One more look. -/
def StopFlag.next (s : StopFlag) : StopFlag := { s with looks := s.looks + 1 }

/-- The status of an accepted response. -/
def accepted (status : Int) : Prop := 200 ≤ status ∧ status < 300

instance : DecidablePred accepted := fun status =>
  inferInstanceAs (Decidable (200 ≤ status ∧ status < 300))

/-- A worker's connection, the answers it gets and what it has done. -/
structure Adapter where
  conn : SSEDesktopConnection
  queue : QueueAnswers
  trace : List Effect

namespace Adapter

/-- The events the parser called the adapter with. -/
def parserEvents (trace : List Effect) : List SSEParsedEvent :=
  trace.filterMap (fun
    | .call (.event event) => some event
    | _ => none)

/-- The message pushes of a history, with their answers. -/
def messagePushes (trace : List Effect) : List (SSEEvent × Bool) :=
  trace.filterMap (fun
    | .push e accepted => if e.type = .eventMessage then some (e, accepted) else none
    | _ => none)

/-- The other pushes. -/
def otherPushes (trace : List Effect) : List (SSEEvent × Bool) :=
  trace.filterMap (fun
    | .push e accepted => if e.type = .eventMessage then none else some (e, accepted)
    | _ => none)

/-- The pushes of an OPEN. -/
def openPushes (trace : List Effect) : List (SSEEvent × Bool) :=
  trace.filterMap (fun
    | .push e accepted => if e.type = .eventOpen then some (e, accepted) else none
    | _ => none)

/-- The parser's calls. -/
def parserCalls (trace : List Effect) : List ParserCall :=
  trace.filterMap (fun
    | .call c => some c
    | _ => none)

/-- The values written to `m_LastEventId`. -/
def stored (trace : List Effect) : List CString :=
  trace.filterMap (fun
    | .storeLastEventId id => some id
    | _ => none)

/-- A call is made. -/
def log (a : Adapter) (e : Effect) : Adapter := { a with trace := a.trace ++ [e] }

@[simp] theorem log_conn (a : Adapter) (e : Effect) : (a.log e).conn = a.conn := rfl
@[simp] theorem log_queue (a : Adapter) (e : Effect) : (a.log e).queue = a.queue := rfl
@[simp] theorem log_trace (a : Adapter) (e : Effect) : (a.log e).trace = a.trace ++ [e] := rfl

/-! ## §2. Calls into the extension core. -/

/-- The answer the next push of `event` gets. -/
def answer (a : Adapter) (event : SSEEvent) : Bool :=
  if event.type = .eventMessage then a.queue.message (messagePushes a.trace).length
  else a.queue.other (otherPushes a.trace).length

/-- `SSE_QueuePush` as a worker sees it. -/
def queuePush (a : Adapter) (event : SSEEvent) : Bool × Adapter :=
  (a.answer event, a.log (.push event (a.answer event)))

/-- `SSE_SetConnected`. -/
def setConnected (a : Adapter) (connected : Bool) : Adapter :=
  a.log (.setConnected a.conn.handle connected)

/-- `SSE_EnqueueOpen`. -/
def enqueueOpen (a : Adapter) (status : Int) : Adapter :=
  ((a.setConnected true).queuePush (openEvent a.conn.handle status)).2

/-- `SSE_EnqueueMessage`. -/
def enqueueMessage (a : Adapter) (eventName data id : Option CString) : Bool × Adapter :=
  a.queuePush (messageEvent a.conn.handle eventName data id)

/-- `SSE_EnqueueError`. -/
def enqueueError (a : Adapter) (error : Option CString) (status : Int) (reconnecting : Bool)
    (retryMs : Int) : Adapter :=
  (a.queuePush (errorEvent a.conn.handle error status reconnecting retryMs)).2

/-- `SSE_EnqueueClosed`. -/
def enqueueClosed (a : Adapter) : Adapter :=
  ((a.setConnected false).queuePush (closedEvent a.conn.handle)).2

/-- `SSEDesktop_SetString(&connection->m_LastEventId, id)`, then
`SSE_SetLastEventId(connection->m_Handle, id)`. -/
def commitLastEventId (a : Adapter) (id : CString) : Adapter :=
  let a := { a with conn := { a.conn with lastEventId := some id } }
  (a.log (.storeLastEventId id)).log (.setLastEventId a.conn.handle id)

/-! ## §3. The parser callbacks. -/

/-- `SSEDesktop_OnParserEvent`. -/
def onParserEvent (a : Adapter) (event : SSEParsedEvent) : Bool × Adapter :=
  let a := a.log (.call (.event event))
  let (enqueued, a) :=
    a.enqueueMessage (some (.read event.event)) (some (.read event.data)) (some (.read event.id))
  match event.lastEventId with
  | some id => if enqueued then (true, a.commitLastEventId (.read id)) else (false, a)
  | none => (enqueued, a)

/-- `SSEDesktop_OnParserRetry`. -/
def onParserRetry (a : Adapter) (retryMs : Int) : Adapter :=
  let a := a.log (.call (.retry retryMs))
  { a with conn := { a.conn with retryMs := retryMs } }

/-- `SSEDesktop_OnParserId`. -/
def onParserId (a : Adapter) (id : Bytes) : Adapter :=
  (a.log (.call (.id id))).commitLastEventId (.read id)

/-- `SSEDesktop_OnParserError`. -/
def onParserError (a : Adapter) (message : String) : Adapter :=
  (a.log (.call (.error message))).enqueueError (some (.lit message)) 0 a.conn.reconnect
    a.conn.retryMs

/-- The `SSEParserCallbacks` both backends set up. -/
def callbacks : SSEParserCallbacks Adapter where
  onEvent := some onParserEvent
  onRetry := some onParserRetry
  onId := some onParserId
  onError := some onParserError

/-- `connection->m_Parser.Feed(data, size, &callbacks, connection)`.  No
callback touches `m_Parser`. -/
def feed (a : Adapter) (bytes : Bytes) : Adapter :=
  let (parser, a) := a.conn.parser.feed bytes callbacks a
  { a with conn := { a.conn with parser := parser } }

/-- `connection->m_Status` becomes `status`. -/
def setStatus (a : Adapter) (status : Int) : Adapter :=
  { a with conn := { a.conn with status := status } }

/-- `connection->m_Opened = 1`, then `SSE_EnqueueOpen`. -/
def openConnection (a : Adapter) : Adapter :=
  { a with conn := { a.conn with opened := true } }.enqueueOpen a.conn.status

/-- An attempt as `SSEDesktop_PerformOnce` starts it: the parser is reset, the
status cleared, and the history begins here. -/
def start (conn : SSEDesktopConnection) (queue : QueueAnswers) : Adapter where
  conn := { conn with parser := .reset, status := 0, opened := false }
  queue := queue
  trace := []

end Adapter

end DefoldSSE
