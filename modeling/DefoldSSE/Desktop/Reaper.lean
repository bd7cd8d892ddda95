/-
  DefoldSSE.Desktop.Reaper — who owns the objects of the worker threads.

  `SSE_Platform_Connect` makes an object and a thread for it, and the connection
  owns the object.  A disconnect frees it if its worker has finished; otherwise it
  goes to `g_SSEDesktopZombies`, which `SSE_Platform_Update` looks through and
  `SSE_Platform_Finalize` empties.  libcurl and WinHTTP have the same code here.

  The main thread's calls are one step each, but for the two loops, which take one
  step a turn: a worker may finish between any two of them.
-/
import Mathlib.Logic.Function.Basic
import DefoldSSE.Core.Options
import DefoldSSE.Lib.DmArray
import DefoldSSE.Lib.Machine

namespace DefoldSSE

open CLib

/-! ## §1. The state. -/

/-- The fields of `SSEDesktopConnection` that reaping uses. -/
structure DesktopObject where
  /-- `m_Thread` is not null. -/
  thread : Bool
  stop : Bool := false
  finished : Bool := false

/-- What happens to one object in the course of its life. -/
inductive ReapDeed where
  /-- `dmThread::New`. -/
  | started
  /-- `dmThread::New` failed, and the object was deleted. -/
  | notStarted
  /-- `SSEDesktop_MarkFinished`. -/
  | finished
  /-- `SSEDesktop_IsFinished`, asked by the main thread, and its answer. -/
  | inspected (finished : Bool)
  /-- `dmThread::Join`. -/
  | joined
  /-- `SSEDesktop_Free`. -/
  | freed
  deriving DecidableEq, Repr

/-- Where the main thread is: in no loop, in that of `SSE_Platform_Update`, or in
that of `SSE_Platform_Finalize`, whose array is a local one. -/
inductive ReapControl where
  | idle
  | updating (i : Nat)
  | finalizing (zombies : DmArray Ptr) (i : Nat)
  | finalized

namespace ReapControl

def isIdle : ReapControl → Bool
  | .idle => true
  | _ => false

def isUpdating : ReapControl → Bool
  | .updating _ => true
  | _ => false

def isFinalizing : ReapControl → Bool
  | .finalizing _ _ => true
  | _ => false

end ReapControl

structure Reaper where
  heap : Ptr → Option DesktopObject
  /-- The address of the next object. -/
  nextPtr : Nat
  /-- `m_PlatformData` of every `SSEConnection` so far. -/
  platformData : List (Option Ptr)
  /-- `g_SSEDesktopZombies`. -/
  zombies : DmArray Ptr
  control : ReapControl
  /-- The worker of the object runs: it has not called `SSEDesktop_MarkFinished`. -/
  running : Ptr → Bool
  trace : List (Ptr × ReapDeed)

namespace Reaper

/-- After `SSE_Platform_Initialize`. -/
def platformInitialize : Reaper where
  heap := fun _ => none
  nextPtr := 0
  platformData := []
  zombies := .withCapacity 0
  control := .idle
  running := fun _ => false
  trace := []

/-! ## §2. The functions. -/

def log (s : Reaper) (d : Ptr) (x : ReapDeed) : Reaper := { s with trace := s.trace ++ [(d, x)] }

def write (s : Reaper) (d : Ptr) (r : DesktopObject) : Reaper :=
  { s with heap := Function.update s.heap d (some r) }

/-- `SSEDesktop_Free`. -/
def free (s : Reaper) (d : Ptr) : Except Ptr Reaper :=
  match s.heap d with
  | none => .error d
  | some _ => .ok ({ s with heap := Function.update s.heap d none }.log d .freed)

/-- `dmThread::Join` and `m_Thread = 0`. -/
def join (s : Reaper) (d : Ptr) (r : DesktopObject) : Reaper :=
  (s.write d { r with thread := false }).log d .joined

/-- `SSE_Platform_Connect` on a new connection; `started` is the answer of
`dmThread::New`. -/
def connect (s : Reaper) (started : Bool) : Reaper :=
  let d := s.nextPtr
  if started then
    { s with
      heap := Function.update s.heap d (some { thread := true })
      nextPtr := d + 1
      platformData := s.platformData ++ [some d]
      running := Function.update s.running d true }.log d .started
  else
    { s with nextPtr := d + 1, platformData := s.platformData ++ [none] }.log d .notStarted

/-- `SSE_Platform_Disconnect` of the `c`-th connection.  What it reads of the
worker is `m_Finished`, once. -/
def disconnect (s : Reaper) (c : Nat) : Except Ptr Reaper :=
  match s.platformData[c]? with
  | some (some d) =>
      match s.heap d with
      | none => .error d
      | some r =>
          let r := { r with stop := true }
          let s := { s.write d r with platformData := s.platformData.set c none }
          if !r.thread then s.free d
          else
            let s := s.log d (.inspected r.finished)
            if r.finished then (s.join d r).free d
            else .ok { s with zombies := s.zombies.pushGrowing d }
  | _ => .ok s

/-- `SSEDesktop_MarkFinished`, the worker's last access to its object. -/
def markFinished (s : Reaper) (d : Ptr) : Except Ptr Reaper :=
  match s.heap d with
  | none => .error d
  | some r =>
      .ok ({ s.write d { r with finished := true } with
        running := Function.update s.running d false }.log d .finished)

/-- One turn of the loop of `SSE_Platform_Update`, or its end. -/
def inspect (s : Reaper) : Except Ptr Reaper :=
  match s.control with
  | .updating i =>
      match s.zombies.data[i]? with
      | none => .ok { s with control := .idle }
      | some d =>
          match s.heap d with
          | none => .error d
          | some r =>
              let s := s.log d (.inspected r.finished)
              if r.finished then
                ((s.join d r).free d).map (fun s => { s with zombies := s.zombies.eraseSwap i })
              else .ok { s with control := .updating (i + 1) }
  | _ => .ok s

/-- The start of `SSE_Platform_Finalize`: the zombies move to a local array. -/
def finalize (s : Reaper) : Reaper :=
  { s with zombies := .withCapacity 0, control := .finalizing s.zombies 0 }

/-- One turn of the loop of `SSE_Platform_Finalize`, or its end. -/
def finalizeNext (s : Reaper) : Except Ptr Reaper :=
  match s.control with
  | .finalizing zombies i =>
      match zombies.data[i]? with
      | none => .ok { s with control := .finalized }
      | some d =>
          match s.heap d with
          | none => .error d
          | some r =>
              let s := if r.thread then s.join d r else s
              (s.free d).map (fun s => { s with control := .finalizing zombies (i + 1) })
  | _ => .ok s

end Reaper

/-! ## §3. The machine. -/

inductive ReapAction where
  | connect (started : Bool)
  | disconnect (c : Nat)
  | markFinished (d : Ptr)
  | update
  | inspect
  | finalize
  | finalizeNext
  deriving DecidableEq, Repr

namespace Reaper

/-- `dmThread::Join` returns: the worker it waits for has finished. -/
def joinReturns (s : Reaper) : Bool :=
  match s.control with
  | .finalizing zombies i =>
      match zombies.data[i]? with
      | some d => !s.running d
      | none => true
  | _ => true

def enabled (s : Reaper) : ReapAction → Bool
  | .connect _ => s.control.isIdle
  | .disconnect _ => s.control.isIdle
  | .markFinished d => s.running d
  | .update => s.control.isIdle
  | .inspect => s.control.isUpdating
  -- `FinalizeSSE` has disconnected every connection
  | .finalize => s.control.isIdle && s.platformData.all Option.isNone
  | .finalizeNext => s.control.isFinalizing && s.joinReturns

def step (s : Reaper) : ReapAction → Except Ptr Reaper
  | .connect started => .ok (s.connect started)
  | .disconnect c => s.disconnect c
  | .markFinished d => s.markFinished d
  | .update => .ok { s with control := .updating 0 }
  | .inspect => s.inspect
  | .finalize => .ok s.finalize
  | .finalizeNext => s.finalizeNext

end Reaper

/-- The reaping of workers; a fault is the address of a freed object that is read
or freed. -/
def reaper : Machine Reaper ReapAction Ptr where
  init := .platformInitialize
  enabled := Reaper.enabled
  step := Reaper.step

end DefoldSSE
