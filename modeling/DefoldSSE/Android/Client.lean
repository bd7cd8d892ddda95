/-
  DefoldSSE.Android.Client — `SseClient` with its data.

  `Android.Attempts` has the threads of the client and where each of them is.
  Here they carry what they read and write on the way: the id and the delay, the
  failures in a row, the status of a response, what was thrown, the parser of a
  stream.  `AndroidClient.threads` is the client there, and takes the same steps.

  A line is parsed in one step, and the native calls that it makes follow one by
  one.  `nativeOnOpen` and `failedAttempts = 0` are one step.
-/
import DefoldSSE.Android.Attempts
import DefoldSSE.Android.ReadStream
import DefoldSSE.Desktop.RetryDelay
import DefoldSSE.Lib.Attempts

namespace DefoldSSE

open CLib EventStream

/-! ## §1. The delay. -/

/-- `MIN_DELAY_MS`. -/
def androidMinDelayMs : Int := 500
/-- `MAX_BACKOFF_SHIFT`. -/
def androidMaxBackoffShift : Nat := 8

/-- `computeRetryDelayMsLocked`; `random` is `random.nextInt(401)`. -/
def computeRetryDelayMsLocked (retryMs failedAttempts : Int) (random : Fin 401) : Int :=
  let base := if retryMs < androidRetryMinMs then androidRetryMinMs else retryMs
  let base := if base > androidRetryMaxMs then androidRetryMaxMs else base
  let shift := if failedAttempts > 1 then failedAttempts - 1 else 0
  let shift := if shift > androidMaxBackoffShift then androidMaxBackoffShift else shift.toNat
  let delay := base * 2 ^ shift
  let delay := if delay > androidRetryMaxMs then androidRetryMaxMs else delay
  let jitter : Int := random.val - 200
  let delay := delay + (delay * jitter).tdiv 1000
  if delay < androidMinDelayMs then androidMinDelayMs else delay

/-! ## §2. The client. -/

/-- What the client reports with `nativeOnError`, but for its parser. -/
inductive AndroidErrorKind where
  /-- `onFailure`, with the message of the exception. -/
  | requestFailed (message : Option Utf16)
  | httpStatus (code : Int)
  | emptyBody
  | ioError (message : Option Utf16)
  /-- Any other `Throwable`, with its message and its class. -/
  | thrown (message : Option Utf16) (className : Utf16)
  | timedOut
  /-- A restart threw. -/
  | restartFailed (message : Option Utf16)
  deriving DecidableEq, Repr

/-- The text. -/
def AndroidErrorKind.message : AndroidErrorKind → Utf16
  | .requestFailed message => message.getD (units "SSE request failed")
  | .httpStatus code => units s!"SSE request failed with HTTP status {code}"
  | .emptyBody => units "SSE response body was empty"
  | .ioError message => message.getD (units "SSE stream failed")
  | .thrown message className =>
      if message.getD [] = [] then units "SSE stream failed: " ++ className else message.getD []
  | .timedOut => units "SSE timed out waiting for server response"
  | .restartFailed message => message.getD (units "SSE reconnect failed")

/-- A call of `nativeOnError`, without the handle. -/
structure AndroidError where
  kind : AndroidErrorKind
  status : Int
  reconnect : Bool
  retryMs : Int
  deriving DecidableEq, Repr

/-- What the client tells `sse.cpp`, and what it asks of the server. -/
abbrev AndroidEvent := AttemptEvent Utf16 NativeCall AndroidError Int

/-- What decides a branch that is not modelled. -/
inductive AndroidAnswer where
  /-- Nothing is asked. -/
  | none
  /-- `onResponse`, or `onFailure`. -/
  | response (code : Int)
  | failure (message : Option Utf16)
  /-- `response.body()`. -/
  | body (there : Bool)
  /-- The loop of `readStream` has a line, or has cut one off. -/
  | item (item : LineItem)
  | endOfStream
  | ioError (message : Option Utf16)
  | thrown (message : Option Utf16) (className : Utf16)
  deriving DecidableEq, Repr

/-- The locals of a completion. -/
structure AttemptLocals where
  /-- `response.code()`. -/
  code : Int := 0
  /-- What was thrown. -/
  exception : AndroidErrorKind := .requestFailed none
  parser : SseParser := {}
  /-- The native calls that the line under way has still to make. -/
  owed : List NativeCall := []
  deriving DecidableEq, Repr

structure AndroidClient where
  threads : SseClient
  reconnect : Bool
  lastEventId : Utf16
  retryMs : Int
  /-- An `int`, whose sum wraps. -/
  failedAttempts : Int
  locals : Nat → AttemptLocals
  /-- The message of what the `k`-th start threw. -/
  startThrew : Nat → Option Utf16
  /-- The answer of `SSE_EnqueueMessage` to the `n`-th message. -/
  answers : Nat → Bool
  /-- The native calls of the lines so far. -/
  calls : List NativeCall
  /-- The calls of `random.nextInt` so far. -/
  draws : Nat
  trace : List AndroidEvent
  /-- The errors that the watchdogs report, on the thread of the scheduler. -/
  timeouts : List AndroidError

namespace AndroidClient

/-- In `connect`, after `stopped = false`. -/
def create (lastEventId : Utf16) (reconnect : Bool) (retryMs : Int) (answers : Nat → Bool) :
    AndroidClient where
  threads := .connecting
  reconnect := reconnect
  lastEventId := lastEventId
  retryMs := if retryMs ≥ 0 then retryMs else 3000
  failedAttempts := 0
  locals _ := {}
  startThrew _ := none
  answers := answers
  calls := []
  draws := 0
  trace := []
  timeouts := []

def emit (s : AndroidClient) (e : AndroidEvent) : AndroidClient :=
  { s with trace := s.trace ++ [e] }

/-- `nativeOnError`. -/
def report (s : AndroidClient) (kind : AndroidErrorKind) (status : Int) : AndroidClient :=
  s.emit (.error ⟨kind, status, s.reconnect, s.retryMs⟩)

def setLocals (s : AndroidClient) (i : Nat) (l : AttemptLocals) : AndroidClient :=
  { s with locals := Function.update s.locals i l }

/-- The completion of call `i` goes on, and so do the starts and the watchdogs. -/
def go (s : AndroidClient) (i : Nat) (answer : ClientAnswer) : AndroidClient :=
  { s with threads := s.threads.attemptStep s.reconnect i answer }

def goStart (s : AndroidClient) (k : Nat) (answer : ClientAnswer) : AndroidClient :=
  { s with threads := s.threads.starterStep s.reconnect k answer }

/-- A catch clause is entered. -/
def catch_ (s : AndroidClient) (i : Nat) (kind : AndroidErrorKind) : AndroidClient :=
  (s.setLocals i { s.locals i with exception := kind }).go i .throws

/-- What the parser of call `i` sees. -/
def stream (s : AndroidClient) (i : Nat) : SseStream where
  parser := (s.locals i).parser
  reconnect := s.reconnect
  retryMs := s.retryMs
  lastEventId := s.lastEventId
  answers := s.answers
  calls := s.calls

/-- The parser of call `i` takes a line. -/
def takeItem (readUtf8 : Bytes → Utf16) (s : AndroidClient) (i : Nat) (item : LineItem) :
    AndroidClient :=
  let stream := (s.stream i).lineItem readUtf8 item
  { s with
    lastEventId := stream.lastEventId
    retryMs := stream.retryMs
    calls := stream.calls
    locals := Function.update s.locals i
      { s.locals i with
        parser := stream.parser
        owed := stream.calls.drop s.calls.length } }

/-- The next native call of the line, if there is one. -/
def nextCall : List NativeCall → ClientAnswer
  | [] => .ok
  | .onMessage .. :: _ => .message
  | _ :: _ => .line

/-- The synchronized block of `scheduleReconnectOrClose`. -/
def scheduleReconnectOrClose (random : Nat → Fin 401) (s : AndroidClient) : AndroidClient :=
  if s.threads.stopped then s
  else if s.reconnect then
    let s := { s with failedAttempts := toInt32 (s.failedAttempts + 1) }
    { s with draws := s.draws + 1 }.emit
      (.retry (computeRetryDelayMsLocked s.retryMs s.failedAttempts (random s.draws)))
  else s.emit .closed

/-! ## §3. The steps. -/

/-- One step of the completion of call `i`. -/
def attemptStep (readUtf8 : Bytes → Utf16) (random : Nat → Fin 401) (s : AndroidClient) (i : Nat)
    (answer : AndroidAnswer) : AndroidClient :=
  let l := s.locals i
  match (s.threads.attempts i).completion with
  | .enqueued =>
      match answer with
      | .response code => (s.setLocals i { l with code := code }).go i .ok
      | .failure message =>
          (s.setLocals i { l with exception := .requestFailed message }).go i .fails
      | _ => s
  | .failureError => (s.report l.exception 0).go i .ok
  | .statusTest => s.go i (if 200 ≤ l.code ∧ l.code < 300 then .ok else .fails)
  | .statusError => (s.report (.httpStatus l.code) l.code).go i .ok
  | .opening => { s.emit (.opened l.code) with failedAttempts := 0 }.go i .ok
  | .bodyTest =>
      match answer with
      | .body there => (s.setLocals i { l with parser := {} }).go i (if there then .ok else .fails)
      | .thrown message className => s.catch_ i (.thrown message className)
      | _ => s
  | .bodyError => (s.report .emptyBody l.code).go i .ok
  | .streamTest =>
      if s.threads.stopped then s.go i .ok
      else
        match answer with
        | .item item =>
            let s := s.takeItem readUtf8 i item
            s.go i (nextCall (s.locals i).owed)
        | .endOfStream => s.go i .fails
        | .ioError message => s.catch_ i (.ioError message)
        | .thrown message className => s.catch_ i (.thrown message className)
        | _ => s
  | .streamCall _ =>
      match l.owed with
      | c :: owed => ((s.emit (.line c)).setLocals i { l with owed := owed }).go i (nextCall owed)
      | [] => s.go i .ok
  | .streamError => (s.report l.exception l.code).go i .ok
  | .disconnecting => (s.emit .disconnected).go i .ok
  | .deciding => (s.scheduleReconnectOrClose random).go i .ok
  | _ => s.go i .ok

/-- One step of the watchdog of call `i`. -/
def watchdogStep (s : AndroidClient) (i : Nat) : AndroidClient :=
  let s' := { s with threads := s.threads.watchdogStep i }
  match (s.threads.attempts i).watchdog with
  | .marked => { s' with timeouts := s.timeouts ++ [⟨.timedOut, 0, s.reconnect, s.retryMs⟩] }
  | _ => s'

/-- One step of the `k`-th call of `start`. -/
def starterStep (random : Nat → Fin 401) (s : AndroidClient) (k : Nat) (answer : AndroidAnswer) :
    AndroidClient :=
  match s.threads.starters k with
  | .starting =>
      if s.threads.stopped then s.goStart k .ok
      else
        match answer with
        | .thrown message _ =>
            { s with startThrew := Function.update s.startThrew k message }.goStart k .throws
        | _ => ((s.setLocals s.threads.calls {}).emit (.request s.lastEventId)).goStart k .ok
  | .error =>
      (s.emit (.unsent ⟨.restartFailed (s.startThrew k), 0, s.reconnect, s.retryMs⟩)).goStart k .ok
  | .disconnecting => (s.emit .disconnected).goStart k .ok
  | .deciding => (s.scheduleReconnectOrClose random).goStart k .ok
  | _ => s.goStart k .ok

end AndroidClient

/-- A step of one of the threads. -/
inductive AndroidStep where
  | attempt (i : Nat) (answer : AndroidAnswer)
  | watchdog (i : Nat)
  | starter (k : Nat) (answer : AndroidAnswer)
  | disconnect
  deriving DecidableEq, Repr

namespace AndroidClient

/-- The answer is one to what is asked there. -/
def answered (s : AndroidClient) (i : Nat) : AndroidAnswer → Bool
  | .response _ => (s.threads.attempts i).completion = .enqueued
  | .failure _ => (s.threads.attempts i).completion = .enqueued
  | .body _ => (s.threads.attempts i).completion = .bodyTest
  | .item _ => (s.threads.attempts i).completion = .streamTest
  | .endOfStream => (s.threads.attempts i).completion = .streamTest
  | .ioError _ => (s.threads.attempts i).completion = .streamTest
  | .thrown _ _ =>
      (s.threads.attempts i).completion = .streamTest
        || (s.threads.attempts i).completion = .bodyTest
  | .none =>
      match (s.threads.attempts i).completion with
      | .enqueued => false
      | .bodyTest => false
      | .streamTest => s.threads.stopped
      | _ => true

def enabled (s : AndroidClient) : AndroidStep → Bool
  | .attempt i answer => s.threads.enabled (.attempt i .ok) && s.answered i answer
  | .watchdog i => s.threads.enabled (.watchdog i)
  | .starter k _ => s.threads.enabled (.starter k .ok)
  | .disconnect => true

def step (readUtf8 : Bytes → Utf16) (random : Nat → Fin 401) (s : AndroidClient) :
    AndroidStep → AndroidClient
  | .attempt i answer => s.attemptStep readUtf8 random i answer
  | .watchdog i => s.watchdogStep i
  | .starter k answer => s.starterStep random k answer
  | .disconnect => { s with threads := s.threads.disconnect }

end AndroidClient

/-- A client that was told to connect, and everything that runs for it. -/
def androidClient (readUtf8 : Bytes → Utf16) (random : Nat → Fin 401) (lastEventId : Utf16)
    (reconnect : Bool) (retryMs : Int) (answers : Nat → Bool) :
    Machine AndroidClient AndroidStep Empty where
  init := .create lastEventId reconnect retryMs answers
  enabled := AndroidClient.enabled
  step s a := .ok (s.step readUtf8 random a)

/-! ## §4. The threads take the same steps. -/

namespace AndroidClient

variable {s : AndroidClient}

/-- Neither the threads nor `reconnect` change in a decision. -/
theorem scheduleReconnectOrClose_frame (random : Nat → Fin 401) (s : AndroidClient) :
    (s.scheduleReconnectOrClose random).threads = s.threads
      ∧ (s.scheduleReconnectOrClose random).reconnect = s.reconnect := by
  unfold scheduleReconnectOrClose
  split
  · exact ⟨rfl, rfl⟩
  · split <;> exact ⟨rfl, rfl⟩

theorem attemptStep_threads (readUtf8 : Bytes → Utf16) (random : Nat → Fin 401) {i : Nat}
    {answer : AndroidAnswer} (hans : s.answered i answer = true) :
    (∃ a, (s.attemptStep readUtf8 random i answer).threads
        = s.threads.attemptStep s.reconnect i a)
      ∧ (s.attemptStep readUtf8 random i answer).reconnect = s.reconnect := by
  obtain ⟨hthreads, hreconnect⟩ := s.scheduleReconnectOrClose_frame random
  unfold answered at hans
  unfold attemptStep
  cases hpc : (s.threads.attempts i).completion with
  | enqueued =>
      rw [hpc] at hans
      cases answer with
      | response code => exact ⟨⟨.ok, rfl⟩, rfl⟩
      | failure message => exact ⟨⟨.fails, rfl⟩, rfl⟩
      | _ => cases hans
  | bodyTest =>
      rw [hpc] at hans
      cases answer with
      | body there => exact ⟨⟨if there then .ok else .fails, rfl⟩, rfl⟩
      | thrown message className => exact ⟨⟨.throws, rfl⟩, rfl⟩
      | _ => cases hans
  | streamTest =>
      rw [hpc] at hans
      dsimp only
      split
      · exact ⟨⟨.ok, rfl⟩, rfl⟩
      · rename_i hstopped
        cases answer with
        | item item => exact ⟨⟨_, rfl⟩, rfl⟩
        | endOfStream => exact ⟨⟨.fails, rfl⟩, rfl⟩
        | ioError message => exact ⟨⟨.throws, rfl⟩, rfl⟩
        | thrown message className => exact ⟨⟨.throws, rfl⟩, rfl⟩
        | none => exact absurd hans hstopped
        | _ => cases hans
  | streamCall report =>
      dsimp only
      split
      · exact ⟨⟨_, rfl⟩, rfl⟩
      · exact ⟨⟨.ok, rfl⟩, rfl⟩
  | deciding =>
      refine ⟨⟨.ok, ?_⟩, hreconnect⟩
      show (s.scheduleReconnectOrClose random).threads.attemptStep
        (s.scheduleReconnectOrClose random).reconnect i .ok = _
      rw [hthreads, hreconnect]
  | _ => exact ⟨⟨_, rfl⟩, rfl⟩

theorem starterStep_threads (random : Nat → Fin 401) (s : AndroidClient) (k : Nat)
    (answer : AndroidAnswer) :
    (∃ a, (s.starterStep random k answer).threads = s.threads.starterStep s.reconnect k a)
      ∧ (s.starterStep random k answer).reconnect = s.reconnect := by
  obtain ⟨hthreads, hreconnect⟩ := s.scheduleReconnectOrClose_frame random
  unfold starterStep
  cases hpc : s.threads.starters k with
  | starting =>
      dsimp only
      split
      · exact ⟨⟨.ok, rfl⟩, rfl⟩
      · split
        · exact ⟨⟨.throws, rfl⟩, rfl⟩
        · exact ⟨⟨.ok, rfl⟩, rfl⟩
  | deciding =>
      refine ⟨⟨.ok, ?_⟩, hreconnect⟩
      show (s.scheduleReconnectOrClose random).threads.starterStep
        (s.scheduleReconnectOrClose random).reconnect k .ok = _
      rw [hthreads, hreconnect]
  | _ => exact ⟨⟨.ok, rfl⟩, rfl⟩

theorem watchdogStep_threads (s : AndroidClient) (i : Nat) :
    (s.watchdogStep i).threads = s.threads.watchdogStep i
      ∧ (s.watchdogStep i).reconnect = s.reconnect := by
  unfold watchdogStep
  dsimp only
  split <;> exact ⟨rfl, rfl⟩

end AndroidClient

/-- **Each step of the client is one of its threads.** -/
theorem androidClient_step (readUtf8 : Bytes → Utf16) (random : Nat → Fin 401)
    {s : AndroidClient} {a : AndroidStep} (hen : s.enabled a = true) :
    (∃ b, s.threads.enabled b = true
        ∧ (s.step readUtf8 random a).threads = s.threads.step s.reconnect b)
      ∧ (s.step readUtf8 random a).reconnect = s.reconnect := by
  cases a with
  | attempt i answer =>
      obtain ⟨hen, hans⟩ := Bool.and_eq_true_iff.mp hen
      obtain ⟨⟨b, hb⟩, hreconnect⟩ := AndroidClient.attemptStep_threads readUtf8 random hans
      exact ⟨⟨.attempt i b, hen, hb⟩, hreconnect⟩
  | watchdog i =>
      obtain ⟨hthreads, hreconnect⟩ := s.watchdogStep_threads i
      exact ⟨⟨.watchdog i, hen, hthreads⟩, hreconnect⟩
  | starter k answer =>
      obtain ⟨⟨b, hb⟩, hreconnect⟩ := s.starterStep_threads random k answer
      exact ⟨⟨.starter k b, hen, hb⟩, hreconnect⟩
  | disconnect => exact ⟨⟨.disconnect, rfl, rfl⟩, rfl⟩

/-- **A run of the client is a run of its threads.** -/
theorem androidClient_threads {readUtf8 : Bytes → Utf16} {random : Nat → Fin 401}
    {lastEventId : Utf16} {reconnect : Bool} {retryMs : Int} {answers : Nat → Bool}
    {s : AndroidClient}
    (h : (androidClient readUtf8 random lastEventId reconnect retryMs answers).Reachable s) :
    (sseClient reconnect).Reachable s.threads := by
  have hinvariant : (androidClient readUtf8 random lastEventId reconnect retryMs answers).Invariant
      (fun s => (sseClient reconnect).Reachable s.threads ∧ s.reconnect = reconnect) := {
    init := ⟨⟨[], rfl⟩, rfl⟩
    step := fun s a s' ⟨⟨bs, hbs⟩, hreconnect⟩ hen hok => by
      cases hok
      obtain ⟨⟨b, hb, hstep⟩, hsame⟩ := androidClient_step readUtf8 random hen
      rw [hreconnect] at hstep
      refine ⟨⟨bs ++ [b], walk_trans hbs ?_⟩, hsame.trans hreconnect⟩
      rw [walk_cons, sseClient_next.mpr ⟨hb, rfl⟩, hstep]
      rfl }
  exact (hinvariant.reachable h).1

end DefoldSSE
