/-
  DefoldSSE.Html5.Client — the client of `Module.SSEExt` and its line functions.

  The functions are those that `sse_html5.cpp` installs: `resetEvent`, `poison`,
  `processLine`, `dispatch`, and the fields that `connect` clears.  Strings are
  UTF-16.  A call into `sse.cpp` gets C strings from `allocString`; Emscripten's
  `stringToUTF8` is a parameter there.  The answers of `SSE_Html5_OnMessage` are
  given from outside, and every call is written down, with the assignments of
  `client.retryMs` between them.
-/
import DefoldSSE.Android.Parser
import DefoldSSE.Lib.CStdlib

namespace DefoldSSE

open CLib

/-! ## §1. JavaScript's numbers. -/

/-- The double nearest to a non-negative integer, ties to even, but for the
largest. -/
def roundToDouble (n : Nat) : Nat :=
  if n < 2 ^ 53 then n
  else
    let unit := 2 ^ (n.log2 - 52)
    let up := decide (unit < 2 * (n % unit)) || (2 * (n % unit) == unit && n / unit % 2 == 1)
    (n / unit + if up then 1 else 0) * unit

/-- What rounds to this is `Infinity`. -/
def doubleOverflow : Nat := 2 ^ 1024

/-- A non-negative integer as a number; `none` is `Infinity`. -/
def toNumber (n : Nat) : Option Nat :=
  if roundToDouble n < doubleOverflow then some (roundToDouble n) else none

/-- `/^[0-9]+$/.test(value)`. -/
def isDigits (value : Utf16) : Bool := !value.isEmpty && value.all (fun c => 48 ≤ c && c ≤ 57)

/-- `parseInt(value, 10)` of ASCII digits. -/
def parseInt (value : Utf16) : Option Nat :=
  toNumber (value.foldl (fun n c => 10 * n + (c.toNat - 48)) 0)

/-! ## §2. The client. -/

/-- A call into `sse.cpp` without the handle, its strings before `allocString`. -/
inductive Html5Call where
  /-- `callMessage`, and what it returned. -/
  | callMessage (eventName data id : Utf16) (enqueued : Bool)
  | callError (error : Utf16) (status : Int) (reconnecting : Bool) (retryMs : Int)
  | callLastEventId (id : Utf16)
  /-- `client.retryMs = parsed`. -/
  | setRetryMs (retryMs : Int)
  deriving DecidableEq, Repr

/-- The fields of a client that its line functions use, and its calls so far. -/
structure Html5Client where
  lastEventId : Utf16
  reconnect : Bool
  retryMs : Int
  data : Utf16
  eventName : Utf16
  eventId : Utf16
  hasId : Bool
  /-- `null` is `none`. -/
  pendingLastEventId : Option Utf16
  pendingAtBlockStart : Option Utf16
  dropObserved : Bool
  eventPoisoned : Bool
  discardLine : Bool
  /-- The answer of `SSE_Html5_OnMessage` to the `n`-th message. -/
  answers : Nat → Bool
  calls : List Html5Call

/-- `maxBuffer`. -/
def maxBuffer : Nat := 1024 * 1024
/-- `retryMinMs`. -/
def html5RetryMinMs : Int := 1000
/-- `retryMaxMs`. -/
def html5RetryMaxMs : Int := 300000

namespace Html5Client

/-- The client that `SSE_Platform_Connect` makes. -/
def create (lastEventId : Utf16) (reconnect : Bool) (retryMs : Int) (answers : Nat → Bool) :
    Html5Client where
  lastEventId := lastEventId
  reconnect := reconnect
  retryMs := retryMs
  data := []
  eventName := []
  eventId := []
  hasId := false
  pendingLastEventId := none
  pendingAtBlockStart := none
  dropObserved := false
  eventPoisoned := false
  discardLine := false
  answers := answers
  calls := []

def call (c : Html5Client) (x : Html5Call) : Html5Client := { c with calls := c.calls ++ [x] }

def isMessage : Html5Call → Bool
  | .callMessage .. => true
  | _ => false

/-- `resetEvent`. -/
def resetEvent (c : Html5Client) : Html5Client :=
  { c with
    data := []
    eventName := []
    eventId := []
    hasId := false
    pendingAtBlockStart := c.pendingLastEventId }

/-- `poison`. -/
def poison (c : Html5Client) (message : String) : Html5Client :=
  let c := c.call (.callError (units message) 0 c.reconnect c.retryMs)
  let c := { c with pendingLastEventId := c.pendingAtBlockStart }
  { c.resetEvent with eventPoisoned := true }

/-- `callMessage`. -/
def callMessage (c : Html5Client) (eventName data id : Utf16) : Bool × Html5Client :=
  let enqueued := c.answers (c.calls.countP isMessage)
  (enqueued, c.call (.callMessage eventName data id enqueued))

/-- `client.lastEventId = client.pendingLastEventId`, then `callLastEventId`. -/
def commitLastEventId (c : Html5Client) (id : Utf16) : Html5Client :=
  { c with lastEventId := id }.call (.callLastEventId id)

/-- `dispatch`. -/
def dispatch (c : Html5Client) : Html5Client :=
  if c.eventPoisoned then { c with eventPoisoned := false }.resetEvent
  else if c.data.length = 0 then
    let c :=
      match c.pendingLastEventId with
      | some id => if c.hasId && !c.dropObserved then c.commitLastEventId id else c
      | none => c
    c.resetEvent
  else
    let data := c.data.dropLast
    let (enqueued, c) := c.callMessage
      (if c.eventName = [] then units "message" else c.eventName) data
      (if c.hasId then c.eventId else [])
    if enqueued then
      let c :=
        match c.pendingLastEventId with
        | some id => if !c.dropObserved then c.commitLastEventId id else c
        | none => c
      c.resetEvent
    else
      { c with pendingLastEventId := c.pendingAtBlockStart, dropObserved := true }.resetEvent

/-- The delay a `retry:` line asks for; `Infinity` is above the maximum. -/
def clampRetry : Option Nat → Int
  | none => html5RetryMaxMs
  | some n =>
      let parsed := if (n : Int) < html5RetryMinMs then html5RetryMinMs else n
      if parsed > html5RetryMaxMs then html5RetryMaxMs else parsed

/-- `processLine`; it cuts the line as the Android parser does. -/
def processLine (c : Html5Client) (line : Utf16) : Html5Client :=
  let line := SseParser.stripCR line
  if line.length = 0 then c.dispatch
  else if c.eventPoisoned then c
  else if line.head? = some 58 then c
  else
    let field := SseParser.fieldOf line
    let value := SseParser.valueOf line
    if field = units "data" then
      if c.data.length + value.length + 1 > maxBuffer then
        c.poison "SSE event data exceeded maximum buffer size"
      else { c with data := c.data ++ (value ++ [10]) }
    else if field = units "event" then { c with eventName := value }
    else if field = units "id" then
      { c with eventId := value, hasId := true, pendingLastEventId := some value }
    else if field = units "retry" && isDigits value then
      { c with retryMs := clampRetry (parseInt value) }.call
        (.setRetryMs (clampRetry (parseInt value)))
    else c

/-- What `connect` clears for a new attempt; the calls are counted from here. -/
def beginAttempt (c : Html5Client) : Html5Client :=
  { c.resetEvent with
    pendingLastEventId := none
    pendingAtBlockStart := none
    dropObserved := false
    eventPoisoned := false
    discardLine := false
    calls := [] }

/-- `allocString`, as C reads it. -/
def allocString (stringToUTF8 : Utf16 → Bytes) (value : Utf16) : CString :=
  .read (stringToUTF8 value)

end Html5Client

end DefoldSSE
