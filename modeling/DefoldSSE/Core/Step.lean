/-
  DefoldSSE.Core.Step — everything that can happen between `AppInitializeSSE` and
  `AppFinalizeSSE`, one atomic step at a time.

  Lua runs when the main thread is outside the extension and inside a callback;
  the engine calls `UpdateSSE` and `FinalizeSSE` only from outside.  The threads'
  calls, and a script that dies, may come at any moment.  A thread pushes for a
  handle it was given.
-/
import DefoldSSE.Core.State
import DefoldSSE.Lib.Machine

namespace DefoldSSE

open CLib

/-- A step. -/
inductive Action where
  /-- `sse.connect`. -/
  | connect (call : ConnectCall)
  /-- `sse.disconnect`. -/
  | disconnect (handle : Int)
  /-- `sse.is_connected`. -/
  | isConnected (platform : SSEConnection → Bool) (handle : Int)
  /-- `SSE_IsUserClosed`. -/
  | isUserClosed (handle : Int)
  /-- `SSE_QueuePush`. -/
  | push (event : SSEEvent)
  /-- `SSE_SetConnected`. -/
  | setConnected (handle : Int) (connected : Bool)
  /-- `SSE_SetLastEventId`. -/
  | setLastEventId (handle : Int) (id : Option CString)
  /-- `UpdateSSE`, up to the swap. -/
  | update
  /-- The next dispatch of the flush, or its end. -/
  | advance (setup : Bool)
  /-- The callback returns. -/
  | callbackReturn
  /-- The script of a callback dies. -/
  | invalidate (p : Ptr)
  /-- `FinalizeSSE`, up to the swap of its flush. -/
  | finalize

/-- Lua code can run. -/
def Control.runsLua : Control → Bool
  | .idle => true
  | .inEvent _ _ => true
  | .inOverflow _ _ => true
  | _ => false

/-- A flush is between two dispatches. -/
def Control.flushing : Control → Bool
  | .events _ => true
  | .overflows _ => true
  | _ => false

namespace CoreState

def enabled (s : CoreState) : Action → Bool
  | .connect _ => s.control.runsLua
  | .disconnect _ => s.control.runsLua
  | .isConnected _ _ => s.control.runsLua
  | .isUserClosed _ => true
  | .push event => decide (0 < event.handle ∧ event.handle < s.nextHandle)
  | .setConnected _ _ => true
  | .setLastEventId _ _ => true
  | .update => s.control == .idle
  | .advance _ => s.control.flushing
  | .callbackReturn => s.control.current.isSome
  | .invalidate _ => true
  | .finalize => s.control == .idle

def step (s : CoreState) : Action → Except Fault CoreState
  | .connect call => (s.connect call).map Prod.snd
  | .disconnect handle => s.disconnect handle
  | .isConnected platform handle => (s.isConnected platform handle).map (fun _ => s)
  | .isUserClosed handle => (s.isUserClosed handle).map (fun _ => s)
  | .push event => .ok (s.queuePush event).2
  | .setConnected handle connected => s.setConnected handle connected
  | .setLastEventId handle id => s.setLastEventId handle id
  | .update => .ok s.startFlush
  | .advance setup => s.advance setup
  | .callbackReturn => s.callbackReturn
  | .invalidate p => .ok { s with callbackValid := Function.update s.callbackValid p false }
  | .finalize => s.finalize

end CoreState

/-- The extension core. -/
def core : Machine CoreState Action Fault where
  init := .appInitialize
  enabled := CoreState.enabled
  step := CoreState.step

end DefoldSSE
