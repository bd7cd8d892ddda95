/-
  DefoldSSE.Ios.Client — `SseIOSClient` of `sse_ios.mm`, its serial queue and the
  tasks of its sessions.

  The blocks and the delegate's methods run one at a time on the client's queue;
  `disconnect` sets `stopped` on the main thread at any moment.  So a block is cut
  in two at each test of `stopped`: a step up to the test, and a step for what
  stands behind it.  Blocks that wait may run in any order.

  `NSURLSession` is what its documentation says: a task is answered at most once,
  its data comes only after an answer that was allowed, and it is completed once,
  as its last.  A task that was cancelled may still be answered.
-/
import Mathlib.Logic.Function.Basic
import DefoldSSE.Desktop.RetryDelay
import DefoldSSE.Ios.Lines

namespace DefoldSSE

open CLib

/-! ## §1. The delay. -/

/-- `SSE_IOS_MIN_DELAY_MS`. -/
def sseIosMinDelayMs : Int := 500
/-- `SSE_IOS_MAX_BACKOFF_SHIFT`. -/
def sseIosMaxBackoffShift : Nat := 8

/-- `SseIOS_ComputeRetryDelayMs`; `random` is `arc4random_uniform(401)`. -/
def sseIosComputeRetryDelayMs (retryMs failures : Int) (random : Fin 401) : Int :=
  let base := if retryMs < sseIosRetryMinMs then sseIosRetryMinMs else retryMs
  let base := if base > sseIosRetryMaxMs then sseIosRetryMaxMs else base
  let shift := if failures > 1 then failures - 1 else 0
  let shift := if shift > sseIosMaxBackoffShift then sseIosMaxBackoffShift else shift.toNat
  let delay := base * 2 ^ shift
  let delay := if delay > sseIosRetryMaxMs then sseIosRetryMaxMs else delay
  let jitter : Int := random.val - 200
  let delay := delay + (delay * jitter).tdiv 1000
  toInt32 (if delay < sseIosMinDelayMs then sseIosMinDelayMs else delay)

/-- It is the desktop's, with another source of jitter. -/
theorem sseIosComputeRetryDelayMs_eq (retryMs : Int) (failures : Nat) (random : Fin 401) :
    sseIosComputeRetryDelayMs retryMs failures random
      = computeRetryDelayMS retryMs failures random.val := by
  have hrandom : random.val % 401 = random.val := Nat.mod_eq_of_lt random.isLt
  unfold sseIosComputeRetryDelayMs computeRetryDelayMS jitteredDelay
  dsimp only
  rw [hrandom, signedShift_eq failures sseIosMaxBackoffShift]
  rfl

/-! ## §2. The client. -/

/-- What the client reports with `SSE_EnqueueError`. -/
inductive IosErrorKind where
  /-- The watchdog. -/
  | timedOut
  | httpStatus (status : Int)
  /-- The `localizedDescription` of a task's error. -/
  | failed (description : Utf16)
  deriving DecidableEq, Repr

/-- The text, as `UTF8String` gives it. -/
def IosErrorKind.message (f : Foundation) : IosErrorKind → Bytes
  | .timedOut => ascii "SSE timed out waiting for server response"
  | .httpStatus status => ascii s!"SSE request failed with HTTP status {status}"
  | .failed description => f.utf8String description

/-- A call of `SSE_EnqueueError`, without the handle. -/
structure IosError where
  kind : IosErrorKind
  status : Int
  reconnecting : Bool
  retryMs : Int
  deriving DecidableEq, Repr

/-- What the client tells `sse.cpp`, and what it asks of the server. -/
abbrev IosEvent := AttemptEvent Utf16 IosCall IosError Int

/-- Where a task is. -/
inductive IosTask where
  | resumed
  /-- `didReceiveResponse` runs. -/
  | answered
  /-- `NSURLSessionResponseAllow`. -/
  | allowed
  /-- `NSURLSessionResponseCancel`. -/
  | refused
  | completed
  deriving DecidableEq, Repr

/-- What runs on the queue, behind its test of `stopped`. -/
inductive IosBlock where
  | idle
  | startRequest
  /-- The watchdog of this task. -/
  | timedOut (task : Nat)
  | didReceiveResponse (task : Nat) (status : Int)
  /-- `didCompleteWithError`, with the description of the error. -/
  | didComplete (task : Nat) (error : Option Utf16)
  /-- `scheduleReconnectOrClose`, before its test. -/
  | schedule
  | reconnectOrClose
  deriving DecidableEq, Repr

/-- The properties of `SseIOSClient`, its tasks and what waits for the queue. -/
structure SseIOSClient where
  lastEventId : Utf16
  /-- The session, and the task in it, by the number of the request. -/
  session : Option Nat
  task : Option Nat
  parser : SseIOSParser
  reconnect : Bool
  stopped : Bool
  failedResponse : Bool
  receivedResponse : Bool
  firstResponseTimedOut : Bool
  retryMs : Int
  status : Int
  /-- An `int32_t`; what lies beyond `INT32_MAX` wraps, as it does on the hardware. -/
  failedAttempts : Int
  /-- The answers of `SSE_EnqueueMessage` during each request. -/
  answers : Nat → Nat → Bool
  /-- The requests so far, and their tasks. -/
  requests : Nat
  tasks : Nat → IosTask
  /-- The blocks with `startRequest` that wait. -/
  starts : Nat
  /-- The watchdogs that wait. -/
  watchdogs : Nat → Bool
  /-- The block of `disconnect` waits. -/
  teardown : Bool
  block : IosBlock
  trace : List IosEvent
  /-- `[task cancel]`. -/
  cancelled : List Nat
  /-- `invalidateAndCancel` and `finishTasksAndInvalidate`. -/
  invalidated : List Nat

namespace SseIOSClient

/-- `initWithConnection:`, then `connect`. -/
def connect (lastEventId : Utf16) (reconnect : Bool) (retryMs : Int)
    (answers : Nat → Nat → Bool) : SseIOSClient where
  lastEventId := lastEventId
  session := none
  task := none
  parser := .initWithHandle retryMs reconnect (answers 0)
  reconnect := reconnect
  stopped := false
  failedResponse := false
  receivedResponse := false
  firstResponseTimedOut := false
  retryMs := retryMs
  status := 0
  failedAttempts := 0
  answers := answers
  requests := 0
  tasks _ := .completed
  starts := 1
  watchdogs _ := false
  teardown := false
  block := .idle
  trace := []
  cancelled := []
  invalidated := []

def emit (s : SseIOSClient) (e : IosEvent) : SseIOSClient := { s with trace := s.trace ++ [e] }

def run (s : SseIOSClient) (block : IosBlock) : SseIOSClient := { s with block := block }

def setTask (s : SseIOSClient) (i : Nat) (task : IosTask) : SseIOSClient :=
  { s with tasks := Function.update s.tasks i task }

/-- `SSE_EnqueueError` of the client. -/
def enqueueError (s : SseIOSClient) (kind : IosErrorKind) (status : Int) : SseIOSClient :=
  s.emit (.error ⟨kind, status, s.reconnect, s.retryMs⟩)

/-- `startRequest` behind its test; `Last-Event-ID` is not sent when it is
empty. -/
def startRequest (s : SseIOSClient) : SseIOSClient :=
  let n := s.requests
  { s with
    failedResponse := false
    receivedResponse := false
    firstResponseTimedOut := false
    status := 0
    parser := .initWithHandle s.retryMs s.reconnect (s.answers n)
    session := some n
    task := some n
    requests := n + 1
    tasks := Function.update s.tasks n .resumed
    watchdogs := Function.update s.watchdogs n true }.emit (.request s.lastEventId)

/-- The watchdog of task `i`, up to its condition. -/
def watchdog (s : SseIOSClient) (i : Nat) : SseIOSClient :=
  let s := { s with watchdogs := Function.update s.watchdogs i false }
  if !s.stopped && !s.receivedResponse && decide (s.task = some i) then s.run (.timedOut i) else s

/-- The watchdog behind its condition. -/
def timedOut (s : SseIOSClient) (i : Nat) : SseIOSClient :=
  let s := { s with firstResponseTimedOut := true }.enqueueError .timedOut 0
  { s with cancelled := s.cancelled ++ [i] }

/-- `didReceiveResponse`, up to its test. -/
def didReceiveResponse (s : SseIOSClient) (i : Nat) (status : Int) : SseIOSClient :=
  if s.stopped || s.firstResponseTimedOut then s.setTask i .refused
  else (s.setTask i .answered).run (.didReceiveResponse i status)

/-- `didReceiveResponse` behind its test. -/
def receiveResponse (s : SseIOSClient) (i : Nat) (status : Int) : SseIOSClient :=
  let s := { s with receivedResponse := true, status := status }
  if status < 200 || status ≥ 300 then
    ({ s with failedResponse := true }.enqueueError (.httpStatus status) status).setTask i .refused
  else ({ s with failedAttempts := 0 }.emit (.opened status)).setTask i .allowed

/-- `didReceiveData`, which tests nothing. -/
def didReceiveData (f : Foundation) (s : SseIOSClient) (data : Bytes) : SseIOSClient :=
  let parser := s.parser.feedData f data
  { s with
    parser := parser
    trace := s.trace ++ (parser.calls.drop s.parser.calls.length).map .line }

/-- `didCompleteWithError`, up to its test. -/
def didComplete (s : SseIOSClient) (i : Nat) (error : Option Utf16) : SseIOSClient :=
  let s := (s.setTask i .completed).emit .disconnected
  if s.stopped then s else s.run (.didComplete i error)

/-- `[self.session finishTasksAndInvalidate]` or `invalidateAndCancel`, on `nil`
nothing. -/
def invalidate (s : SseIOSClient) : SseIOSClient :=
  { s with invalidated := s.invalidated ++ s.session.toList, session := none, task := none }

/-- `didCompleteWithError` behind its test, up to `scheduleReconnectOrClose`. -/
def complete (s : SseIOSClient) (error : Option Utf16) : SseIOSClient :=
  let s :=
    match error with
    | some description =>
        if !s.failedResponse && !s.firstResponseTimedOut then
          s.enqueueError (.failed description) s.status
        else s
    | none => s
  { s with
    firstResponseTimedOut := false
    retryMs := s.parser.retryMs
    lastEventId :=
      if s.parser.hasCommittedLastEventId then s.parser.storedLastEventId
      else s.lastEventId }.invalidate

/-- `scheduleReconnectOrClose` behind its test. -/
def reconnectOrClose (s : SseIOSClient) (random : Fin 401) : SseIOSClient :=
  if s.reconnect then
    let s := { s with failedAttempts := toInt32 (s.failedAttempts + 1) }
    let delay := sseIosComputeRetryDelayMs s.retryMs s.failedAttempts random
    { s with starts := s.starts + 1 }.emit (.retry delay)
  else s.emit .closed

end SseIOSClient

/-! ## §3. The steps. -/

inductive IosStep where
  /-- A block with `startRequest` begins. -/
  | start
  | watchdog (i : Nat)
  | didReceiveResponse (i : Nat) (status : Int)
  | didReceiveData (i : Nat) (data : Bytes)
  | didComplete (i : Nat) (error : Option Utf16)
  /-- What runs goes on; the number is for a delay it may compute. -/
  | goOn (random : Fin 401)
  /-- The block of `disconnect`. -/
  | teardown
  /-- `disconnect` itself, on the main thread. -/
  | disconnect
  deriving DecidableEq, Repr

namespace SseIOSClient

/-- What runs, behind its test. -/
def goOn (s : SseIOSClient) (random : Fin 401) : SseIOSClient :=
  match s.block with
  | .idle => s
  | .startRequest => s.startRequest.run .idle
  | .timedOut i => (s.timedOut i).run .idle
  | .didReceiveResponse i status => (s.receiveResponse i status).run .idle
  | .didComplete _ error => (s.complete error).run .schedule
  | .schedule => s.run (if s.stopped then .idle else .reconnectOrClose)
  | .reconnectOrClose => (s.reconnectOrClose random).run .idle

def step (f : Foundation) (s : SseIOSClient) : IosStep → SseIOSClient
  | .start =>
      { s with starts := s.starts - 1, block := if s.stopped then .idle else .startRequest }
  | .watchdog i => s.watchdog i
  | .didReceiveResponse i status => s.didReceiveResponse i status
  | .didReceiveData _ data => s.didReceiveData f data
  | .didComplete i error => s.didComplete i error
  | .goOn random => s.goOn random
  | .teardown =>
      { s with teardown := false, cancelled := s.cancelled ++ s.task.toList }.invalidate
  | .disconnect => { s with stopped := true, teardown := true }

/-- The queue runs one block at a time; `SSE_Platform_Disconnect` lets go of the
client, so that it is not called twice. -/
def enabled (s : SseIOSClient) : IosStep → Bool
  | .start => s.block = .idle && 0 < s.starts
  | .watchdog i => s.block = .idle && s.watchdogs i
  | .didReceiveResponse i _ => s.block = .idle && i < s.requests && s.tasks i = .resumed
  | .didReceiveData i _ => s.block = .idle && i < s.requests && s.tasks i = .allowed
  | .didComplete i _ => s.block = .idle && i < s.requests && s.tasks i ≠ .completed
  | .goOn _ => s.block ≠ .idle
  | .teardown => s.block = .idle && s.teardown
  | .disconnect => !s.stopped

end SseIOSClient

/-- A client that was told to connect, and its queue. -/
def iosClient (f : Foundation) (lastEventId : Utf16) (reconnect : Bool) (retryMs : Int)
    (answers : Nat → Nat → Bool) : Machine SseIOSClient IosStep Empty where
  init := .connect lastEventId reconnect retryMs answers
  enabled := SseIOSClient.enabled
  step s a := .ok (s.step f a)

end DefoldSSE
