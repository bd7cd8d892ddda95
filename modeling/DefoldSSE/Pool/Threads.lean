/-
  DefoldSSE.Pool.Threads — the worker of a connection and
  `SSE_Platform_Disconnect`, interleaved.

  `Pool.Worker` runs the worker alone and says what it does to the stream.  Here
  the same functions are taken apart at every access to what they share with the
  main thread: each mutex section, each read or write of `m_CancelFlag`,
  `m_Socket` and `m_SSLSocket`, and each call of the pool or of a socket is a
  step of its own.  What the bytes, the requests and the results of the calls
  are is left open: an answer chosen from outside picks the branch.

  §4 settles who wins the race for `m_CancelFlag`.
-/
import DefoldSSE.Lib.Bytes
import DefoldSSE.Lib.Machine

namespace DefoldSSE

open CLib

/-! ## §1. Where the threads are. -/

/-- `dmSocket::SetNoDelay`, `SetBlocking`, `SetReceiveTimeout`. -/
inductive SetupCall where
  | noDelay
  | blocking
  | receiveTimeout
  deriving DecidableEq, Repr

/-- `SSEDM_SendAll` or `SSEDM_ReadResponse`. -/
inductive PoolLoop where
  | send
  | receive
  deriving DecidableEq, Repr

/-- The worker's next step.  A connection of the pool is the number of the dial
that returned it, and so is each of its sockets; 0 is `none`. -/
inductive WorkerPc where
  /-- `while (!SSEDesktop_ShouldStop(connection))`. -/
  | loopTest
  /-- `SSEDesktop_PerformOnce` is entered: `if (!g_SSEConnectionPool)`. -/
  | performOnce
  | parseUrl
  /-- `m_CancelFlag = 0`. -/
  | clearCancel
  /-- Inside `dmConnectionPool::Dial`, until it returns. -/
  | dial
  | setConnection (c : Nat)
  | getSocket (c : Nat)
  /-- `m_Socket = socket`. -/
  | storeSocket (c : Nat) (socket : Option Nat)
  | getSSLSocket (c : Nat)
  | storeSSLSocket (c : Nat) (socket : Option Nat)
  /-- `m_Socket` is read for a call, then the call is made. -/
  | setupRead (call : SetupCall)
  | setupCall (call : SetupCall) (socket : Option Nat)
  /-- `if (connection->m_SSLSocket)`, the read of the argument, the call. -/
  | setupSSLTest
  | setupSSLRead
  | setupSSLCall (socket : Option Nat)
  | setupStop
  | buildRequest
  /-- The test at the head of the loop. -/
  | ioTest (loop : PoolLoop)
  /-- `SSEDM_SendRaw` or `SSEDM_ReceiveRaw`. -/
  | ioSSLTest (loop : PoolLoop)
  | ioSSLRead (loop : PoolLoop)
  | ioSSLCall (loop : PoolLoop) (socket : Option Nat)
  | ioRead (loop : PoolLoop)
  | ioCall (loop : PoolLoop) (socket : Option Nat)
  /-- `SSEDM_WaitForSocket`: its test, the read, `SelectorSet`, `Select`. -/
  | waitTest (loop : PoolLoop)
  | waitRead (loop : PoolLoop)
  | waitSet (loop : PoolLoop) (socket : Option Nat)
  | waitSelect (loop : PoolLoop) (socket : Option Nat)
  /-- `ShouldStop` after a receive that failed. -/
  | receiveStop
  /-- `SSEDM_CloseActiveConnection`: the take, the close. -/
  | closeTake (afterRead : Bool)
  | closeCall (afterRead : Bool) (c : Nat)
  /-- `ShouldStop` after the response was read. -/
  | attemptStop
  /-- `SSEDesktop_PerformOnce` has returned: `if (ShouldStop) break`. -/
  | returned
  /-- `if (!connection->m_Reconnect) break`. -/
  | reconnect
  /-- The test at the head of the loop of `SSEDesktop_SleepRetry`. -/
  | sleepTest
  /-- `if (!ShouldStop)`, then `SSE_EnqueueClosed`. -/
  | lastStop
  | exited
  deriving DecidableEq, Repr

/-- The next step of `SSE_Platform_Disconnect`. -/
inductive DisconnectPc where
  /-- It was not called, or is about to set the flags. -/
  | setFlags
  | takeConnection
  | closeConnection (c : Nat)
  | join
  | joined
  deriving DecidableEq, Repr

/-- A call of the pool or of a socket. -/
inductive PoolCall where
  | dial (c : Option Nat)
  | getSocket (c : Nat)
  | getSSLSocket (c : Nat)
  /-- Any function of `dmSocket` or `dmSSLSocket` on this socket. -/
  | socket (socket : Option Nat)
  | close (c : Nat)
  deriving DecidableEq, Repr

/-- The shared fields of `SSEDesktopConnection`, the two threads, the calls made
so far, and how many dials have succeeded. -/
structure PoolThreads where
  stop : Bool := false
  cancelFlag : Bool := false
  connection : Option Nat := none
  socket : Option Nat := none
  sslSocket : Option Nat := none
  worker : WorkerPc := .loopTest
  disconnect : DisconnectPc := .setFlags
  trace : List PoolCall := []
  dialled : Nat := 0
  deriving DecidableEq, Repr

/-- What a call or a test that is not modelled gives the worker. -/
inductive PoolAnswer where
  /-- Success, or true; a loop goes on. -/
  | ok
  /-- Success, and nothing is left to do. -/
  | finished
  /-- `RESULT_WOULDBLOCK` or `RESULT_TRY_AGAIN`, or nothing was sent. -/
  | again
  /-- Any other result, or false. -/
  | failed
  deriving DecidableEq, Repr

/-! ## §2. The steps. -/

namespace PoolThreads

/-- The worker goes on to `pc`. -/
def go (s : PoolThreads) (pc : WorkerPc) : PoolThreads := { s with worker := pc }

def call (s : PoolThreads) (c : PoolCall) : PoolThreads := { s with trace := s.trace ++ [c] }

/-- `SSEDM_TakeConnection`, but for what it returns. -/
def take (s : PoolThreads) : PoolThreads :=
  { s with connection := none, socket := none, sslSocket := none }

/-- The setup call after this one, or the test for the SSL socket. -/
def afterSetup : SetupCall → WorkerPc
  | .noDelay => .setupRead .blocking
  | .blocking => .setupRead .receiveTimeout
  | .receiveTimeout => .setupSSLTest

/-- After a send or a receive. -/
def afterIo : PoolLoop → PoolAnswer → WorkerPc
  | .send, .ok => .ioTest .send
  -- nothing remains to be sent
  | .send, .finished => .ioTest .receive
  | .send, .again => .waitTest .send
  | .send, .failed => .closeTake false
  | .receive, .ok => .ioTest .receive
  -- the stream or the body ended, or could not be decoded
  | .receive, .finished => .closeTake true
  | .receive, .again => .waitTest .receive
  | .receive, .failed => .receiveStop

/-- After a loop that was told to stop. -/
def afterStop : PoolLoop → WorkerPc
  | .send => .ioTest .receive
  | .receive => .closeTake true

/-- After a `Select`. -/
def afterSelect : PoolLoop → PoolAnswer → WorkerPc
  | loop, .again => .waitTest loop
  | .send, .failed => .closeTake false
  | .receive, .failed => .closeTake true
  | loop, _ => .ioTest loop

/-- After `SSEDM_CloseActiveConnection`. -/
def afterClose (afterRead : Bool) : WorkerPc := if afterRead then .attemptStop else .returned

/-- One step of `SSEDesktop_Worker`; `pool` is `g_SSEConnectionPool != 0`. -/
def workerStep (pool : Bool) (s : PoolThreads) (answer : PoolAnswer) : PoolThreads :=
  match s.worker with
  | .loopTest => s.go (if s.stop then .lastStop else .performOnce)
  | .performOnce => s.go (if pool then .parseUrl else .returned)
  | .parseUrl => s.go (if answer = .ok then .clearCancel else .returned)
  | .clearCancel => { s with cancelFlag := false }.go .dial
  | .dial =>
      if answer = .ok then
        { s with dialled := s.dialled + 1 }.call (.dial (some s.dialled))
          |>.go (.setConnection s.dialled)
      else (s.call (.dial none)).go .returned
  | .setConnection c => { s with connection := some c }.go (.getSocket c)
  | .getSocket c => (s.call (.getSocket c)).go (.storeSocket c (some c))
  | .storeSocket c socket => { s with socket := socket }.go (.getSSLSocket c)
  | .getSSLSocket c =>
      -- 0 for a connection without SSL
      (s.call (.getSSLSocket c)).go (.storeSSLSocket c (if answer = .ok then some c else none))
  | .storeSSLSocket _ socket => { s with sslSocket := socket }.go (.setupRead .noDelay)
  | .setupRead call => s.go (.setupCall call s.socket)
  | .setupCall call socket => (s.call (.socket socket)).go (afterSetup call)
  | .setupSSLTest => s.go (if s.sslSocket.isSome then .setupSSLRead else .setupStop)
  | .setupSSLRead => s.go (.setupSSLCall s.sslSocket)
  | .setupSSLCall socket => (s.call (.socket socket)).go .setupStop
  | .setupStop => s.go (if s.stop then .closeTake false else .buildRequest)
  | .buildRequest =>
      s.go (match answer with
        | .ok => .ioTest .send
        -- the size of the request is not positive as an `int`
        | .finished => .ioTest .receive
        | _ => .closeTake false)
  | .ioTest loop => s.go (if s.stop then afterStop loop else .ioSSLTest loop)
  | .ioSSLTest loop => s.go (if s.sslSocket.isSome then .ioSSLRead loop else .ioRead loop)
  | .ioSSLRead loop => s.go (.ioSSLCall loop s.sslSocket)
  | .ioSSLCall loop socket => (s.call (.socket socket)).go (afterIo loop answer)
  | .ioRead loop => s.go (.ioCall loop s.socket)
  | .ioCall loop socket => (s.call (.socket socket)).go (afterIo loop answer)
  | .waitTest loop => s.go (if s.stop then .ioTest loop else .waitRead loop)
  | .waitRead loop => s.go (.waitSet loop s.socket)
  | .waitSet loop socket => (s.call (.socket socket)).go (.waitSelect loop socket)
  | .waitSelect loop socket => (s.call (.socket socket)).go (afterSelect loop answer)
  | .receiveStop => s.go (.closeTake true)
  | .closeTake afterRead =>
      match s.connection with
      | some c => s.take.go (if pool then .closeCall afterRead c else afterClose afterRead)
      | none => s.take.go (afterClose afterRead)
  | .closeCall afterRead c => (s.call (.close c)).go (afterClose afterRead)
  | .attemptStop => s.go .returned
  | .returned => s.go (if s.stop then .lastStop else .reconnect)
  | .reconnect => s.go (if answer = .ok then .sleepTest else .lastStop)
  | .sleepTest =>
      -- nothing remains to be slept, or there is a stop
      s.go (if answer = .finished ∨ s.stop then .loopTest else .sleepTest)
  | .lastStop => s.go .exited
  | .exited => s

/-- One step of `SSE_Platform_Disconnect`. -/
def disconnectStep (pool : Bool) (s : PoolThreads) : PoolThreads :=
  match s.disconnect with
  | .setFlags => { s with stop := true, cancelFlag := true, disconnect := .takeConnection }
  | .takeConnection =>
      match s.connection with
      | some c => { s.take with disconnect := if pool then .closeConnection c else .join }
      | none => { s.take with disconnect := .join }
  | .closeConnection c => { s.call (.close c) with disconnect := .join }
  | .join => { s with disconnect := .joined }
  | .joined => s

end PoolThreads

/-- A step of one of the two threads. -/
inductive PoolStep where
  | worker (answer : PoolAnswer)
  | disconnect
  deriving DecidableEq, Repr

namespace PoolThreads

/-- A thread that has ended makes no step; `dmThread::Join` waits. -/
def enabled (s : PoolThreads) : PoolStep → Bool
  | .worker _ => s.worker ≠ .exited
  | .disconnect =>
      match s.disconnect with
      | .join => s.worker = .exited
      | .joined => false
      | _ => true

def step (pool : Bool) (s : PoolThreads) : PoolStep → PoolThreads
  | .worker answer => s.workerStep pool answer
  | .disconnect => s.disconnectStep pool

end PoolThreads

/-- The worker of a connection and its disconnect. -/
def poolThreads (pool : Bool) : Machine PoolThreads PoolStep Empty where
  init := {}
  enabled := PoolThreads.enabled
  step s a := .ok (s.step pool a)

theorem poolThreads_next {pool : Bool} {s s' : PoolThreads} {a : PoolStep} :
    (poolThreads pool).next s a = some s' ↔ s.enabled a = true ∧ s.step pool a = s' := by
  rw [Machine.next_eq_some]
  exact and_congr_right' ⟨Except.ok.inj, congrArg Except.ok⟩

/-! ## §3. What the threads do to the flags. -/

namespace PoolThreads

variable (pool : Bool) (s : PoolThreads)

@[simp] theorem go_worker (pc : WorkerPc) : (s.go pc).worker = pc := rfl
@[simp] theorem go_stop (pc : WorkerPc) : (s.go pc).stop = s.stop := rfl
@[simp] theorem go_cancelFlag (pc : WorkerPc) : (s.go pc).cancelFlag = s.cancelFlag := rfl
@[simp] theorem go_connection (pc : WorkerPc) : (s.go pc).connection = s.connection := rfl
@[simp] theorem go_socket (pc : WorkerPc) : (s.go pc).socket = s.socket := rfl
@[simp] theorem go_sslSocket (pc : WorkerPc) : (s.go pc).sslSocket = s.sslSocket := rfl
@[simp] theorem go_disconnect (pc : WorkerPc) : (s.go pc).disconnect = s.disconnect := rfl
@[simp] theorem go_trace (pc : WorkerPc) : (s.go pc).trace = s.trace := rfl
@[simp] theorem go_dialled (pc : WorkerPc) : (s.go pc).dialled = s.dialled := rfl

@[simp] theorem call_stop (c : PoolCall) : (s.call c).stop = s.stop := rfl
@[simp] theorem call_connection (c : PoolCall) : (s.call c).connection = s.connection := rfl
@[simp] theorem call_socket (c : PoolCall) : (s.call c).socket = s.socket := rfl
@[simp] theorem call_sslSocket (c : PoolCall) : (s.call c).sslSocket = s.sslSocket := rfl
@[simp] theorem call_disconnect (c : PoolCall) : (s.call c).disconnect = s.disconnect := rfl
@[simp] theorem call_trace (c : PoolCall) : (s.call c).trace = s.trace ++ [c] := rfl
@[simp] theorem call_dialled (c : PoolCall) : (s.call c).dialled = s.dialled := rfl

@[simp] theorem take_stop : s.take.stop = s.stop := rfl
@[simp] theorem take_connection : s.take.connection = none := rfl
@[simp] theorem take_socket : s.take.socket = none := rfl
@[simp] theorem take_sslSocket : s.take.sslSocket = none := rfl
@[simp] theorem take_disconnect : s.take.disconnect = s.disconnect := rfl
@[simp] theorem take_trace : s.take.trace = s.trace := rfl
@[simp] theorem take_dialled : s.take.dialled = s.dialled := rfl

/-- A thread's steps are its own. -/
theorem workerStep_disconnect (answer : PoolAnswer) :
    (s.workerStep pool answer).disconnect = s.disconnect := by
  unfold workerStep
  split <;> first | rfl | (split <;> rfl)

theorem disconnectStep_worker : (s.disconnectStep pool).worker = s.worker := by
  unfold disconnectStep
  split <;> first | rfl | (split <;> rfl)

end PoolThreads

/-- Between `SSEDM_SetConnection` and `SSEDM_TakeConnection`. -/
def WorkerPc.connected : WorkerPc → Bool
  | .loopTest => false
  | .performOnce => false
  | .parseUrl => false
  | .clearCancel => false
  | .dial => false
  | .setConnection _ => false
  | .closeCall _ _ => false
  | .attemptStop => false
  | .returned => false
  | .reconnect => false
  | .sleepTest => false
  | .lastStop => false
  | .exited => false
  | _ => true

namespace PoolThreads

@[simp] theorem afterSetup_connected (call : SetupCall) : (afterSetup call).connected = true := by
  cases call <;> rfl

@[simp] theorem afterIo_connected (loop : PoolLoop) (answer : PoolAnswer) :
    (afterIo loop answer).connected = true := by
  cases loop <;> cases answer <;> rfl

@[simp] theorem afterStop_connected (loop : PoolLoop) : (afterStop loop).connected = true := by
  cases loop <;> rfl

@[simp] theorem afterSelect_connected (loop : PoolLoop) (answer : PoolAnswer) :
    (afterSelect loop answer).connected = true := by
  cases loop <;> cases answer <;> rfl

/-- A connected worker stays so until it takes the connection. -/
theorem workerStep_connected (pool : Bool) {s : PoolThreads} (h : s.worker.connected = true)
    (hclose : ∀ afterRead, s.worker ≠ .closeTake afterRead) (answer : PoolAnswer) :
    (s.workerStep pool answer).worker.connected = true := by
  unfold workerStep
  cases hpc : s.worker with
  | closeTake afterRead => exact absurd hpc (hclose afterRead)
  | _ =>
      rw [hpc] at h
      first
        | (cases h; done)
        | exact afterSetup_connected _
        | exact afterIo_connected _ _
        | exact afterSelect_connected _ _
        | rfl
        | (simp only [go_worker]; split <;> first | rfl | exact afterStop_connected _)

variable (pool : Bool) (s : PoolThreads)

/-- The worker enters `Dial` right after it has cleared the cancel flag. -/
theorem clearCancel_of_dial {answer : PoolAnswer}
    (h : (s.workerStep pool answer).worker = .dial) : s.worker = .clearCancel := by
  by_cases hstay : s.worker.connected = true ∧ ∀ afterRead, s.worker ≠ .closeTake afterRead
  · have hconn := workerStep_connected pool hstay.1 hstay.2 answer
    rw [h] at hconn
    cases hconn
  · unfold workerStep at h
    cases hpc : s.worker with
    | clearCancel => rfl
    | closeTake afterRead =>
        rw [hpc] at h
        dsimp only at h
        cases hc : s.connection with
        | none =>
            rw [hc] at h
            cases afterRead <;> cases h
        | some c =>
            rw [hc] at h
            cases pool <;> cases afterRead <;> cases h
    | closeCall afterRead c =>
        rw [hpc] at h
        cases afterRead <;> cases h
    | exited =>
        rw [hpc] at h
        rw [show s.worker = .dial from h] at hpc
        cases hpc
    | _ =>
        rw [hpc] at hstay h
        first
          | exact absurd ⟨rfl, by intro afterRead hclose; cases hclose⟩ hstay
          | cases h
          | (dsimp only at h; split at h <;> cases h)

/-- The disconnect sets both flags at once, and later leaves them alone. -/
theorem disconnectStep_flags :
    ((s.disconnectStep pool).stop = true ∧ (s.disconnectStep pool).cancelFlag = true)
      ∨ ((s.disconnectStep pool).stop = s.stop
        ∧ (s.disconnectStep pool).cancelFlag = s.cancelFlag) := by
  unfold disconnectStep
  split
  case h_1 => exact .inl ⟨rfl, rfl⟩
  case h_2 => split <;> exact .inr ⟨rfl, rfl⟩
  all_goals exact .inr ⟨rfl, rfl⟩

/-! ## §4. The cancel flag. -/

/-- Once the disconnect has set the flags, a worker inside `Dial` is cancelled. -/
def Cancelled (s : PoolThreads) : Prop :=
  s.stop = true → s.worker = .dial → s.cancelFlag = true

/-- The worker does not clear the cancel flag after the disconnect has set it. -/
def ClearsInTime (s : PoolThreads) (a : PoolStep) : Prop :=
  ∀ answer, a = .worker answer → s.worker = .clearCancel → s.stop = false

/-- Clearing it late leaves a dial that nobody cancels, and nothing else does. -/
theorem cancelled_iff_clearsInTime {s s' : PoolThreads} {a : PoolStep} (h : s.Cancelled)
    (hnext : (poolThreads pool).next s a = some s') : s'.Cancelled ↔ s.ClearsInTime a := by
  obtain ⟨-, rfl⟩ := poolThreads_next.mp hnext
  cases a with
  | disconnect =>
      refine iff_of_true ?_ (by intro answer ha; cases ha)
      intro hstop hdial
      have hworker : s.worker = .dial := (disconnectStep_worker pool s).symm.trans hdial
      rcases disconnectStep_flags pool s with ⟨-, hset⟩ | ⟨hsame, hcancel⟩
      · exact hset
      · exact hcancel.trans (h (hsame.symm.trans hstop) hworker)
  | worker answer =>
      by_cases hclear : s.worker = .clearCancel
      · have hstep : s.step pool (.worker answer) = { s with cancelFlag := false }.go .dial := by
          show s.workerStep pool answer = _
          unfold workerStep
          rw [hclear]
        rw [hstep]
        constructor
        · intro hcancelled _ _ _
          apply Bool.eq_false_iff.mpr
          intro hstop
          cases hcancelled hstop rfl
        · intro hin hstop _
          rw [go_stop, hin answer rfl hclear] at hstop
          cases hstop
      · refine iff_of_true ?_ (fun _ _ hpc => absurd hpc hclear)
        intro _ hdial
        exact absurd (clearCancel_of_dial pool s hdial) hclear

end PoolThreads

/-- **WHEN A CANCEL IS NOT LOST.** In a run of the two threads, `m_CancelFlag` is
set whenever the worker is inside `Dial` after `SSE_Platform_Disconnect` set the
flags, exactly when the worker never clears it after they were set. -/
theorem cancel_kept_iff {pool : Bool} {as : List PoolStep} {s : PoolThreads}
    (hrun : (poolThreads pool).run (poolThreads pool).init as = some s) :
    (poolThreads pool).Throughout PoolThreads.Cancelled (poolThreads pool).init as
      ↔ (poolThreads pool).AtEachStep PoolThreads.ClearsInTime (poolThreads pool).init as := by
  have hinit : PoolThreads.Cancelled (poolThreads pool).init := by
    intro hstop
    cases hstop
  constructor
  · intro h
    refine Machine.atEachStep_of_throughout (fun s a s' hs hnext hs' => ?_) hrun h
    exact (PoolThreads.cancelled_iff_clearsInTime pool hs hnext).mp hs'
  · intro h
    apply Machine.throughout_of_atEachStep _ hinit h
    intro s a s' hs hin hnext
    exact (PoolThreads.cancelled_iff_clearsInTime pool hs hnext).mpr hin

/-- The worker is inside `Dial` when the disconnect comes. -/
theorem cancel_kept_inDial :
    (poolThreads true).run (poolThreads true).init
        [.worker .ok, .worker .ok, .worker .ok, .worker .ok, .disconnect]
        = some { stop := true, cancelFlag := true, worker := .dial,
                 disconnect := .takeConnection }
      ∧ ((poolThreads true).Throughout PoolThreads.Cancelled (poolThreads true).init
          [.worker .ok, .worker .ok, .worker .ok, .worker .ok, .disconnect]
        ↔ (poolThreads true).AtEachStep PoolThreads.ClearsInTime (poolThreads true).init
          [.worker .ok, .worker .ok, .worker .ok, .worker .ok, .disconnect]) := by
  have hrun : (poolThreads true).run (poolThreads true).init
      [.worker .ok, .worker .ok, .worker .ok, .worker .ok, .disconnect]
      = some { stop := true, cancelFlag := true, worker := .dial,
               disconnect := .takeConnection } := by decide
  exact ⟨hrun, cancel_kept_iff hrun⟩

/-- The disconnect comes after the worker's test of the stop flag: the worker
clears the cancel flag and dials. -/
theorem cancel_lost :
    ¬ ∀ (pool : Bool) (as : List PoolStep) (s : PoolThreads),
        (poolThreads pool).run (poolThreads pool).init as = some s → s.Cancelled := by
  intro h
  have hrun : (poolThreads true).run (poolThreads true).init
      [.worker .ok, .worker .ok, .worker .ok, .disconnect, .worker .ok]
      = some { stop := true, cancelFlag := false, worker := .dial,
               disconnect := .takeConnection } := by decide
  cases h true _ _ hrun rfl rfl

end DefoldSSE
