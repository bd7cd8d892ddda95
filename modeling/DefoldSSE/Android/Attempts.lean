/-
  DefoldSSE.Android.Attempts — the attempts of `SseClient` and the threads that
  run them.

  The engine thread connects and disconnects, the scheduler thread runs the
  watchdogs and the restarts, OkHttp's threads run the completions.  Each
  synchronized block, each native call, each read of the volatile `stopped` and
  each completion is one step.  What the native code, OkHttp and the response
  answer is left open.

  `failedAttempts` and the delays it makes are left out: they decide when a
  restart runs, and any restart may run at any time here.
-/
import Mathlib.Logic.Function.Basic
import DefoldSSE.Lib.Machine

namespace DefoldSSE

open CLib

/-! ## §1. The client. -/

/-- What an attempt reports through a native call while it is completed. -/
inductive AttemptReport where
  /-- `nativeOnError` of `onFailure`. -/
  | failure
  /-- `nativeOnError` for the HTTP status. -/
  | status
  /-- `nativeOnOpen`. -/
  | opened
  /-- `nativeOnError` for a missing body. -/
  | body
  /-- `nativeOnMessage`. -/
  | message
  /-- `nativeOnLastEventId`, or `nativeOnError` of the parser. -/
  | line
  /-- `nativeOnError` of the catch clauses. -/
  | stream
  deriving DecidableEq, Repr

/-- Where the completion of a call is. -/
inductive CompletionPc where
  /-- `start` has made the call and is about to enqueue it. -/
  | created
  | enqueued
  /-- `onFailure`: `clearFirstResponseState`. -/
  | onFailure
  /-- `if (stopped) return`, then the test of `timedOut`. -/
  | failureStop
  | failureError
  /-- `onResponse`: `clearFirstResponseState`. -/
  | onResponse
  /-- `if (timedOut)`: the test of `stopped`. -/
  | lateStop
  /-- `if (!response.isSuccessful())`. -/
  | statusTest
  | statusError
  | opening
  /-- `if (body == null)`. -/
  | bodyTest
  | bodyError
  /-- The loop of `readStream`. -/
  | streamTest
  | streamCall (report : AttemptReport)
  /-- After `readStream`: `if (!stopped)`. -/
  | streamEnd
  /-- A catch clause: `if (!stopped)`. -/
  | streamThrew
  | streamError
  /-- `scheduleReconnectOrClose`: the native call, the synchronized block. -/
  | disconnecting
  | deciding
  /-- Over, with the last value of `stopped` it read. -/
  | ended (stopped : Bool)
  deriving DecidableEq, Repr

/-- Where the first-response watchdog of a call is. -/
inductive WatchdogPc where
  | scheduled
  | cancelled
  /-- The task runs: the synchronized block of `onFirstResponseTimeout`. -/
  | running
  /-- It marked the attempt: the native call, then `watched.cancel()`. -/
  | marked
  | reported
  | done (marked : Bool)
  deriving DecidableEq, Repr

/-- The watchdog has marked its attempt as timed out. -/
def WatchdogPc.hasMarked : WatchdogPc → Bool
  | .marked => true
  | .reported => true
  | .done told => told
  | _ => false

/-- A call, and the tasks and locals around it. -/
structure SseAttempt where
  completion : CompletionPc := .created
  watchdog : WatchdogPc := .scheduled
  /-- The local `timedOut` of the completion. -/
  timedOut : Option Bool := none
  deriving DecidableEq, Repr

/-- The completion is not over. -/
def SseAttempt.inFlight (a : SseAttempt) : Bool :=
  match a.completion with
  | .ended _ => false
  | _ => true

/-- Where a call of `start` is: the first is made by `connect`, the others by
the restarts. -/
inductive StarterPc where
  | scheduled
  | dropped
  /-- The synchronized block of `start`. -/
  | starting
  /-- The catch clause of a restart: `if (!stopped)`. -/
  | threw
  | error
  | disconnecting
  | deciding
  | ended
  deriving DecidableEq, Repr

/-- It may still make a call or decide on one. -/
def StarterPc.live : StarterPc → Bool
  | .dropped => false
  | .ended => false
  | _ => true

/-- Who runs `scheduleReconnectOrClose`. -/
inductive Decider where
  | attempt (i : Nat)
  | starter (k : Nat)
  deriving DecidableEq, Repr

inductive ClientEvent where
  /-- `nativeOnError` of the watchdog. -/
  | timeout (i : Nat)
  | report (i : Nat) (report : AttemptReport)
  /-- The watchdog of call `i` sets `firstResponseTimedOut` while `call` is this. -/
  | mark (i : Nat) (call : Option Nat)
  /-- The watchdog of call `i` cancels this call. -/
  | cancel (i call : Nat)
  /-- `nativeOnError` of a restart that threw. -/
  | startFailed (k : Nat)
  | disconnected (by_ : Decider)
  | restart (by_ : Decider)
  | closed (by_ : Decider)
  deriving DecidableEq, Repr

/-- The shared fields of `SseClient`, its calls and its starts so far. -/
structure SseClient where
  stopped : Bool
  call : Option Nat
  firstResponseWatchdog : Option Nat
  firstResponseTimedOut : Bool
  calls : Nat
  attempts : Nat → SseAttempt
  starts : Nat
  starters : Nat → StarterPc
  trace : List ClientEvent

/-- In `connect`, after `stopped = false`. -/
def SseClient.connecting : SseClient where
  stopped := false
  call := none
  firstResponseWatchdog := none
  firstResponseTimedOut := false
  calls := 0
  attempts _ := {}
  starts := 1
  starters _ := .starting
  trace := []

/-- What decides a branch that is not modelled. -/
inductive ClientAnswer where
  | ok
  /-- The call failed, the status is no success, the body is missing, the
  stream ended. -/
  | fails
  | throws
  /-- A line of the stream makes a native call, maybe the next one of its line. -/
  | message
  | line
  deriving DecidableEq, Repr

/-! ## §2. The steps. -/

namespace SseClient

def emit (s : SseClient) (e : ClientEvent) : SseClient := { s with trace := s.trace ++ [e] }

/-- The completion of call `i` goes on to `pc`. -/
def goAttempt (s : SseClient) (i : Nat) (pc : CompletionPc) : SseClient :=
  { s with attempts :=
      Function.update s.attempts i { s.attempts i with completion := pc } }

def goWatchdog (s : SseClient) (i : Nat) (pc : WatchdogPc) : SseClient :=
  { s with attempts := Function.update s.attempts i { s.attempts i with watchdog := pc } }

def goStarter (s : SseClient) (k : Nat) (pc : StarterPc) : SseClient :=
  { s with starters := Function.update s.starters k pc }

/-- `ScheduledFuture.cancel`: a task that runs goes on. -/
def cancelTask (s : SseClient) (i : Nat) : SseClient :=
  if (s.attempts i).watchdog = .scheduled then s.goWatchdog i .cancelled else s

def cancelFirstResponseWatchdogLocked (s : SseClient) : SseClient :=
  match s.firstResponseWatchdog with
  | some i => { s.cancelTask i with firstResponseWatchdog := none }
  | none => s

/-- The completion of call `i` reads the flag into its local `timedOut`. -/
def clearFirstResponseState (s : SseClient) (i : Nat) : SseClient :=
  let s := s.cancelFirstResponseWatchdogLocked
  { s with
    firstResponseTimedOut := false
    attempts := Function.update s.attempts i
      { s.attempts i with timedOut := some s.firstResponseTimedOut } }

/-- The synchronized block of `onFirstResponseTimeout`. -/
def onFirstResponseTimeout (s : SseClient) (i : Nat) : SseClient :=
  if s.stopped ∨ s.call ≠ some i ∨ s.firstResponseWatchdog = none then
    s.goWatchdog i (.done false)
  else
    { s with firstResponseWatchdog := none, firstResponseTimedOut := true }
      |>.emit (.mark i s.call) |>.goWatchdog i .marked

/-- `start` makes a call and schedules its watchdog. -/
def newCall (s : SseClient) : SseClient :=
  { s with
    call := some s.calls
    firstResponseTimedOut := false
    firstResponseWatchdog := some s.calls
    attempts := Function.update s.attempts s.calls {}
    calls := s.calls + 1 }

def scheduleStart (s : SseClient) : SseClient :=
  { s with starters := Function.update s.starters s.starts .scheduled, starts := s.starts + 1 }

/-- The synchronized block of `scheduleReconnectOrClose`. -/
def scheduleReconnectOrClose (reconnect : Bool) (s : SseClient) (by_ : Decider) : SseClient :=
  if s.stopped then s
  else if reconnect then s.scheduleStart.emit (.restart by_)
  else s.emit (.closed by_)

/-- `scheduler.shutdownNow()` drops the tasks that do not run yet. -/
def shutdownNow (s : SseClient) : SseClient :=
  { s with
    attempts i := if (s.attempts i).watchdog = .scheduled then
        { s.attempts i with watchdog := .cancelled }
      else s.attempts i
    starters k := if s.starters k = .scheduled then .dropped else s.starters k }

/-- `disconnect`; how the active call ends after its `cancel` is left open. -/
def disconnect (s : SseClient) : SseClient :=
  { s with stopped := true }.cancelFirstResponseWatchdogLocked.shutdownNow

/-- After a test of `stopped` in the loop of `readStream`, or a native call of a
line. -/
def streamNext : ClientAnswer → CompletionPc
  | .ok => .streamTest
  | .fails => .streamEnd
  | .throws => .streamThrew
  | .message => .streamCall .message
  | .line => .streamCall .line

/-- One step of the completion of call `i`. -/
def attemptStep (reconnect : Bool) (s : SseClient) (i : Nat) (answer : ClientAnswer) :
    SseClient :=
  match (s.attempts i).completion with
  | .created => s.goAttempt i .enqueued
  -- OkHttp completes the call once
  | .enqueued => s.goAttempt i (if answer = .ok then .onResponse else .onFailure)
  | .onFailure => (s.clearFirstResponseState i).goAttempt i .failureStop
  | .failureStop =>
      s.goAttempt i (if s.stopped then .ended true
        else if (s.attempts i).timedOut = some true then .disconnecting else .failureError)
  | .failureError => (s.emit (.report i .failure)).goAttempt i .disconnecting
  | .onResponse =>
      (s.clearFirstResponseState i).goAttempt i
        (if s.firstResponseTimedOut then .lateStop else .statusTest)
  | .lateStop => s.goAttempt i (if s.stopped then .ended true else .disconnecting)
  | .statusTest => s.goAttempt i (if answer = .ok then .opening else .statusError)
  | .statusError => (s.emit (.report i .status)).goAttempt i .disconnecting
  | .opening => (s.emit (.report i .opened)).goAttempt i .bodyTest
  | .bodyTest =>
      s.goAttempt i (match answer with
        | .ok => .streamTest
        | .throws => .streamThrew
        | _ => .bodyError)
  | .bodyError => (s.emit (.report i .body)).goAttempt i .disconnecting
  | .streamTest => s.goAttempt i (if s.stopped then .streamEnd else streamNext answer)
  | .streamCall report => (s.emit (.report i report)).goAttempt i (streamNext answer)
  | .streamEnd => s.goAttempt i (if s.stopped then .ended true else .disconnecting)
  | .streamThrew => s.goAttempt i (if s.stopped then .ended true else .streamError)
  | .streamError => (s.emit (.report i .stream)).goAttempt i .disconnecting
  | .disconnecting => (s.emit (.disconnected (.attempt i))).goAttempt i .deciding
  -- the block reads `stopped` once: what it reads is what the attempt ends with
  | .deciding =>
      (s.goAttempt i (.ended s.stopped)).scheduleReconnectOrClose reconnect (.attempt i)
  | .ended _ => s

/-- One step of the watchdog of call `i`. -/
def watchdogStep (s : SseClient) (i : Nat) : SseClient :=
  match (s.attempts i).watchdog with
  | .scheduled => s.goWatchdog i .running
  | .running => s.onFirstResponseTimeout i
  | .marked => (s.emit (.timeout i)).goWatchdog i .reported
  | .reported => (s.emit (.cancel i i)).goWatchdog i (.done true)
  | .cancelled => s
  | .done _ => s

/-- One step of the `k`-th call of `start`; what `connect` throws, it throws to
its caller. -/
def starterStep (reconnect : Bool) (s : SseClient) (k : Nat) (answer : ClientAnswer) :
    SseClient :=
  match s.starters k with
  | .scheduled => s.goStarter k .starting
  | .starting =>
      if s.stopped then s.goStarter k .ended
      -- `start` throws: `connect` passes it on, a restart catches it
      else if answer = .throws then s.goStarter k (if k = 0 then .ended else .threw)
      else (s.goStarter k .ended).newCall
  | .threw => s.goStarter k (if s.stopped then .ended else .error)
  | .error => (s.emit (.startFailed k)).goStarter k .disconnecting
  | .disconnecting => (s.emit (.disconnected (.starter k))).goStarter k .deciding
  | .deciding => (s.goStarter k .ended).scheduleReconnectOrClose reconnect (.starter k)
  | .dropped => s
  | .ended => s

end SseClient

/-- A step of one of the threads. -/
inductive ClientStep where
  | attempt (i : Nat) (answer : ClientAnswer)
  | watchdog (i : Nat)
  | starter (k : Nat) (answer : ClientAnswer)
  | disconnect
  deriving DecidableEq, Repr

namespace SseClient

def enabled (s : SseClient) : ClientStep → Bool
  | .attempt i _ => i < s.calls && (s.attempts i).inFlight
  | .watchdog i =>
      i < s.calls && match (s.attempts i).watchdog with
        | .cancelled => false
        | .done _ => false
        | _ => true
  | .starter k _ => k < s.starts && (s.starters k).live
  | .disconnect => true

def step (reconnect : Bool) (s : SseClient) : ClientStep → SseClient
  | .attempt i answer => s.attemptStep reconnect i answer
  | .watchdog i => s.watchdogStep i
  | .starter k answer => s.starterStep reconnect k answer
  | .disconnect => s.disconnect

end SseClient

/-- A client that was told to connect, and everything that runs for it. -/
def sseClient (reconnect : Bool) : Machine SseClient ClientStep Empty where
  init := .connecting
  enabled := SseClient.enabled
  step s a := .ok (s.step reconnect a)

theorem sseClient_next {reconnect : Bool} {s s' : SseClient} {a : ClientStep} :
    (sseClient reconnect).next s a = some s' ↔ s.enabled a = true ∧ s.step reconnect a = s' := by
  rw [Machine.next_eq_some]
  exact and_congr_right' ⟨Except.ok.inj, congrArg Except.ok⟩

end DefoldSSE
