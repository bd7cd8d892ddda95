/-
  DefoldSSE.Html5.Attempts — `connect` of `Module.SSEExt`, and what calls it.

  JavaScript runs to completion: a step is what stands between two `await`s, a
  timer, or a call of `SSE_Platform_Disconnect`.  A `fetch` or a `read` whose
  controller is aborted is rejected; `TextDecoder` and the double arithmetic of
  the jitter are left out, the first as chunks that are decoded already, the
  second as a number that lies where the factor between 0.8 and 1.2 puts it.
-/
import Mathlib.Logic.Function.Basic
import DefoldSSE.Desktop.RetryDelay
import DefoldSSE.Html5.Stream
import DefoldSSE.Lib.Attempts

namespace DefoldSSE

open CLib

/-! ## §1. The page. -/

/-- What a client reports with `callError`. -/
inductive Html5ErrorKind where
  /-- There is no `fetch`, no `ReadableStream` or no `AbortController`. -/
  | unsupported
  | httpStatus (status : Int)
  /-- The response has no readable body. -/
  | noBody
  | timedOut
  /-- What was thrown, by its message. -/
  | failed (message : Utf16)
  deriving DecidableEq, Repr

/-- The text. -/
def Html5ErrorKind.message : Html5ErrorKind → Utf16
  | .unsupported =>
      units "fetch streaming (fetch/ReadableStream/AbortController) is not available"
  | .httpStatus status => units s!"SSE request failed with HTTP status {status}"
  | .noBody => units "ReadableStream body is not available"
  | .timedOut => units "SSE timed out waiting for server response"
  | .failed message => if message = [] then units "SSE fetch failed" else message

/-- A call of `callError`, without the handle. -/
structure Html5Error where
  kind : Html5ErrorKind
  status : Int
  reconnecting : Bool
  retryMs : Int
  deriving DecidableEq, Repr

/-- What a client tells `sse.cpp`, and what it asks of the server. -/
abbrev Html5Event := AttemptEvent Utf16 Html5Call Html5Error Int

/-- Where a call of `connect` is. -/
inductive Html5Run where
  /-- `await fetch(..)`. -/
  | fetching
  /-- `await reader.read()`. -/
  | reading
  /-- `finally` has run. -/
  | finished
  deriving DecidableEq, Repr

/-- A client, its calls of `connect` and its timers. -/
structure Html5Page where
  /-- The line functions' fields, and `pending`. -/
  loop : StreamLoop
  stopped : Bool
  /-- The controller, by the number of the call that made it. -/
  controller : Option Nat
  /-- The answers of `SSE_Html5_OnMessage` during each call of `connect`. -/
  answers : Nat → Nat → Bool
  gotResponse : Bool
  firstResponseTimedOut : Bool
  failedAttempts : Nat
  calls : Nat
  runs : Nat → Html5Run
  aborted : Nat → Bool
  /-- The timers that will call `connect`, and those of the watchdogs. -/
  connects : Nat
  watchdogs : Nat → Bool
  /-- The calls of `Math.random` so far. -/
  draws : Nat
  trace : List Html5Event

namespace Html5Page

/-- The client that `SSE_Platform_Connect` makes, before it calls `connect`. -/
def create (client : Html5Client) (answers : Nat → Nat → Bool) : Html5Page where
  loop := { client := client, pending := [], lineCalls := [] }
  stopped := false
  controller := none
  answers := answers
  gotResponse := false
  firstResponseTimedOut := false
  failedAttempts := 0
  calls := 0
  runs _ := .finished
  aborted _ := false
  connects := 1
  watchdogs _ := false
  draws := 0
  trace := []

def emit (s : Html5Page) (e : Html5Event) : Html5Page := { s with trace := s.trace ++ [e] }

/-- `callError`. -/
def callError (s : Html5Page) (kind : Html5ErrorKind) (status : Int) (reconnecting : Bool) :
    Html5Page :=
  s.emit (.error ⟨kind, status, reconnecting, s.loop.client.retryMs⟩)

/-- `computeRetryDelay`; the product with the random factor, rounded down, is
`jitter`. -/
def computeRetryDelay (jitter : Int → Int) (retryMs : Int) (failedAttempts : Nat) : Int :=
  let base := if ¬ retryMs ≥ html5RetryMinMs then html5RetryMinMs else retryMs
  let base := if base > html5RetryMaxMs then html5RetryMaxMs else base
  let shift := if failedAttempts > 1 then failedAttempts - 1 else 0
  let shift := if shift > 8 then 8 else shift
  let delay := base * 2 ^ shift
  let delay := if delay > html5RetryMaxMs then html5RetryMaxMs else delay
  let delay := jitter delay
  if delay < 500 then 500 else delay

/-- `scheduleReconnectOrClose`. -/
def scheduleReconnectOrClose (jitter : Nat → Int → Int) (s : Html5Page) : Html5Page :=
  let s := s.emit .disconnected
  if s.stopped then s
  else if !s.loop.client.reconnect then s.emit .closed
  else
    let s := { s with failedAttempts := s.failedAttempts + 1 }
    let delay := computeRetryDelay (jitter s.draws) s.loop.client.retryMs s.failedAttempts
    { s with connects := s.connects + 1, draws := s.draws + 1 }.emit (.retry delay)

/-- `finally`: `clearTimeout(watchdog)`. -/
def settle (s : Html5Page) (i : Nat) : Html5Page :=
  { s with
    runs := Function.update s.runs i .finished
    watchdogs := Function.update s.watchdogs i false }

/-- `connect`, up to `await fetch(..)`. -/
def connect (supported : Bool) (s : Html5Page) : Html5Page :=
  let s := { s with connects := s.connects - 1 }
  if s.stopped then s
  else if !supported then
    s.emit (.unsupported ⟨.unsupported, 0, false, s.loop.client.retryMs⟩)
  else
    let n := s.calls
    { s with
      loop := .start { s.loop.client with answers := s.answers n }
      controller := some n
      gotResponse := false
      firstResponseTimedOut := false
      calls := n + 1
      runs := Function.update s.runs n .fetching
      watchdogs := Function.update s.watchdogs n true }.emit (.request s.loop.client.lastEventId)

/-- `client.controller.abort()`, if there is one. -/
def abort (s : Html5Page) : Html5Page :=
  match s.controller with
  | some n => { s with aborted := Function.update s.aborted n true }
  | none => s

/-- The watchdog of call `i`. -/
def watchdog (s : Html5Page) (i : Nat) : Html5Page :=
  let s := { s with watchdogs := Function.update s.watchdogs i false }
  if !s.stopped && !s.gotResponse then { s with firstResponseTimedOut := true }.abort else s

/-- The loop in another place, and the calls it has made on the way. -/
def setLoop (s : Html5Page) (loop : StreamLoop) : Html5Page :=
  { s with
    loop := loop
    trace := s.trace
      ++ (loop.client.calls.drop s.loop.client.calls.length).map .line }

/-- Behind the loop. -/
def endStream (jitter : Nat → Int → Int) (s : Html5Page) (i : Nat) (flush : Utf16) : Html5Page :=
  let s := s.setLoop (s.loop.finish flush)
  if !s.stopped then (s.scheduleReconnectOrClose jitter).settle i else s.settle i

/-- `while (!client.stopped)`. -/
def loopTest (jitter : Nat → Int → Int) (s : Html5Page) (i : Nat) (flush : Utf16) : Html5Page :=
  if s.stopped then s.endStream jitter i flush
  else { s with runs := Function.update s.runs i .reading }

/-- Behind `await fetch(..)`; `readable` says that the body has a reader. -/
def response (jitter : Nat → Int → Int) (s : Html5Page) (i : Nat) (status : Int)
    (readable : Bool) : Html5Page :=
  let s := { s with gotResponse := true }
  if ¬ (200 ≤ status ∧ status < 300) then
    ((s.callError (.httpStatus status) status s.loop.client.reconnect).scheduleReconnectOrClose
      jitter).settle i
  else if !readable then
    ((s.callError .noBody status s.loop.client.reconnect).scheduleReconnectOrClose jitter).settle i
  else { s.emit (.opened status) with failedAttempts := 0 }.loopTest jitter i []

/-- Behind `await reader.read()`, with a chunk; `flush` is what `decoder.decode()`
would still have. -/
def readChunk (jitter : Nat → Int → Int) (s : Html5Page) (i : Nat) (chunk flush : Utf16) :
    Html5Page :=
  (s.setLoop (s.loop.readChunk chunk)).loopTest jitter i flush

/-- `catch (error)`. -/
def caught (jitter : Nat → Int → Int) (s : Html5Page) (i : Nat) (message : Utf16) : Html5Page :=
  if s.stopped then s.settle i
  else
    ((s.callError (if s.firstResponseTimedOut then .timedOut else .failed message) 0
      s.loop.client.reconnect).scheduleReconnectOrClose jitter).settle i

end Html5Page

/-! ## §2. The steps. -/

inductive Html5Step where
  /-- A timer calls `connect`. -/
  | connect
  | watchdog (i : Nat)
  | response (i : Nat) (status : Int) (readable : Bool)
  | readChunk (i : Nat) (chunk flush : Utf16)
  /-- `result.done`. -/
  | done (i : Nat) (flush : Utf16)
  /-- The `fetch` or the `read` is rejected. -/
  | rejected (i : Nat) (message : Utf16)
  /-- `SSE_Platform_Disconnect`, or `SSE_Platform_Finalize`. -/
  | disconnect
  deriving DecidableEq, Repr

namespace Html5Page

def step (supported : Bool) (jitter : Nat → Int → Int) (s : Html5Page) : Html5Step → Html5Page
  | .connect => s.connect supported
  | .watchdog i => s.watchdog i
  | .response i status readable => s.response jitter i status readable
  | .readChunk i chunk flush => s.readChunk jitter i chunk flush
  | .done i flush => s.endStream jitter i flush
  | .rejected i message => s.caught jitter i message
  | .disconnect => { s with stopped := true }.abort

def enabled (s : Html5Page) : Html5Step → Bool
  | .connect => 0 < s.connects
  | .watchdog i => s.watchdogs i
  | .response i _ _ => s.runs i = .fetching && !s.aborted i
  | .readChunk i _ _ => s.runs i = .reading && !s.aborted i
  | .done i _ => s.runs i = .reading && !s.aborted i
  | .rejected i _ => s.runs i ≠ .finished
  | .disconnect => !s.stopped

end Html5Page

/-- A page with a client that was told to connect. -/
def html5Page (supported : Bool) (jitter : Nat → Int → Int) (client : Html5Client)
    (answers : Nat → Nat → Bool) : Machine Html5Page Html5Step Empty where
  init := .create client answers
  enabled := Html5Page.enabled
  step s a := .ok (s.step supported jitter a)

end DefoldSSE
