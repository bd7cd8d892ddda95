/-
  DefoldSSE.Ios.Parser — `SseIOSParser` of `sse_ios.mm`, and the calls it makes
  into `sse.cpp`.

  `feedData` collects bytes, `processLineData` strips BOM and CR from them and
  makes an `NSString` of the rest.  The methods of `NSString` are parameters:
  `rangeOfString:` and `hasPrefix:` compare characters, not code units, and the
  decimal digits are those of Unicode.  `Foundation.Documented` says what they do
  on ASCII strings.

  The answers of `SSE_EnqueueMessage` are given from outside, and every call is
  written down, with the assignments of `retryMs` between them.
-/
import DefoldSSE.Core.Event
import DefoldSSE.Lib.CStdlib
import DefoldSSE.Lib.Utf
import DefoldSSE.Parser.Model

namespace DefoldSSE

open CLib

/-! ## §1. Foundation. -/

/-- The methods of `NSString` that the parser uses. -/
structure Foundation where
  /-- `initWithBytes:length:encoding:` with `NSUTF8StringEncoding`; `nil` is `none`. -/
  initWithBytes : Bytes → Option Utf16
  /-- `UTF8String`. -/
  utf8String : Utf16 → Bytes
  /-- The location of `rangeOfString:@":"`; `NSNotFound` is `none`. -/
  rangeOfColon : Utf16 → Option Nat
  /-- `hasPrefix:@" "`. -/
  hasSpace : Utf16 → Bool
  /-- `rangeOfCharacterFromSet:` finds a character outside `decimalDigitCharacterSet`. -/
  hasNonDigit : Utf16 → Bool
  longLongValue : Utf16 → Int

/-- `LLONG_MAX`. -/
def llongMax : Int := 2 ^ 63 - 1

/-- What the methods do with ASCII strings. -/
structure Foundation.Documented (f : Foundation) : Prop where
  initWithBytes : ∀ s, AsciiText s → f.initWithBytes s = some (widen s)
  utf8String : ∀ s, AsciiText s → f.utf8String (widen s) = s
  rangeOfColon : ∀ s, AsciiText s → f.rangeOfColon (widen s) = (widen s).findIdx? (· == 58)
  hasSpace : ∀ s, AsciiText s → f.hasSpace (widen s) = decide (s.head? = some SP)
  hasNonDigit : ∀ s, AsciiText s → f.hasNonDigit (widen s) = !s.all isDigit
  /-- A number that does not fit is `LLONG_MAX`. -/
  longLongValue : ∀ s, AsciiText s → s ≠ [] → s.all isDigit = true →
    f.longLongValue (widen s) = min (decimalValue s : Int) llongMax

/-! ## §2. The parser. -/

/-- `SSE_IOS_RETRY_MIN_MS`. -/
def sseIosRetryMinMs : Int := 1000
/-- `SSE_IOS_RETRY_MAX_MS`. -/
def sseIosRetryMaxMs : Int := 300000
/-- `SSE_IOS_MAX_BUFFER`. -/
def sseIosMaxBuffer : Nat := 1024 * 1024

/-- An error of the parser. -/
inductive IosParserError where
  | lineTooLong
  | dataTooLong
  | invalidUtf8
  deriving DecidableEq, Repr

/-- Its text. -/
def IosParserError.message : IosParserError → String
  | .lineTooLong => "SSE line exceeded maximum buffer size"
  | .dataTooLong => "SSE event data exceeded maximum buffer size"
  | .invalidUtf8 => "SSE stream contained invalid UTF-8"

/-- A call of the parser into `sse.cpp`, without the handle. -/
inductive IosCall where
  /-- `SSE_EnqueueMessage`, and what it returned. -/
  | enqueueMessage (name data id : Utf16) (enqueued : Bool)
  | enqueueError (error : IosParserError) (status : Int) (reconnecting : Bool) (retryMs : Int)
  | setLastEventId (id : Utf16)
  /-- `self.retryMs = (int32_t)parsed`. -/
  | setRetryMs (retryMs : Int)
  deriving DecidableEq, Repr

/-- The properties of `SseIOSParser`, and its calls so far. -/
structure SseIOSParser where
  lineBuffer : Bytes
  dataBuffer : Utf16
  eventName : Utf16
  eventId : Utf16
  /-- `nil` is `none`. -/
  pendingLastEventId : Option Utf16
  pendingAtBlockStart : Option Utf16
  storedLastEventId : Utf16
  hasCommittedLastEventId : Bool
  dropObserved : Bool
  hasId : Bool
  reconnecting : Bool
  firstLine : Bool
  discardingLine : Bool
  eventPoisoned : Bool
  retryMs : Int
  /-- The answer of `SSE_EnqueueMessage` to the `n`-th message. -/
  answers : Nat → Bool
  calls : List IosCall

namespace SseIOSParser

/-- `initWithHandle:retryMs:reconnecting:`. -/
def initWithHandle (retryMs : Int) (reconnecting : Bool) (answers : Nat → Bool) :
    SseIOSParser where
  lineBuffer := []
  dataBuffer := []
  eventName := []
  eventId := []
  pendingLastEventId := none
  pendingAtBlockStart := none
  storedLastEventId := []
  hasCommittedLastEventId := false
  dropObserved := false
  hasId := false
  reconnecting := reconnecting
  firstLine := true
  discardingLine := false
  eventPoisoned := false
  retryMs := retryMs
  answers := answers
  calls := []

def call (p : SseIOSParser) (c : IosCall) : SseIOSParser := { p with calls := p.calls ++ [c] }

def isMessage : IosCall → Bool
  | .enqueueMessage .. => true
  | _ => false

/-- `SSE_EnqueueError` of the parser. -/
def enqueueError (p : SseIOSParser) (error : IosParserError) : SseIOSParser :=
  p.call (.enqueueError error 0 p.reconnecting p.retryMs)

def enqueueMessage (p : SseIOSParser) (name data id : Utf16) : Bool × SseIOSParser :=
  let enqueued := p.answers (p.calls.countP isMessage)
  (enqueued, p.call (.enqueueMessage name data id enqueued))

/-- The stored id, its flag, and `SSE_SetLastEventId`. -/
def commitLastEventId (p : SseIOSParser) (id : Utf16) : SseIOSParser :=
  { p with storedLastEventId := id, hasCommittedLastEventId := true }.call (.setLastEventId id)

/-- `isInteger`. -/
def isInteger (f : Foundation) (value : Utf16) : Bool := !value.isEmpty && !f.hasNonDigit value

/-- `resetEvent`. -/
def resetEvent (p : SseIOSParser) : SseIOSParser :=
  { p with
    dataBuffer := []
    eventName := []
    eventId := []
    hasId := false
    pendingAtBlockStart := p.pendingLastEventId }

/-- `poisonEvent`. -/
def poisonEvent (p : SseIOSParser) (error : IosParserError) : SseIOSParser :=
  let p := p.enqueueError error
  let p := { p with pendingLastEventId := p.pendingAtBlockStart }
  { p.resetEvent with eventPoisoned := true }

/-- `dispatchEvent`. -/
def dispatchEvent (p : SseIOSParser) : SseIOSParser :=
  if p.eventPoisoned then { p with eventPoisoned := false }.resetEvent
  else if p.dataBuffer.length = 0 then
    let p :=
      match p.pendingLastEventId with
      | some id => if p.hasId && !p.dropObserved then p.commitLastEventId id else p
      | none => p
    p.resetEvent
  else
    let p := { p with dataBuffer := p.dataBuffer.dropLast }
    let name := if p.eventName.length = 0 then units "message" else p.eventName
    let idValue := if p.hasId then p.eventId else []
    let (enqueued, p) := p.enqueueMessage name p.dataBuffer idValue
    if enqueued then
      let p :=
        match p.pendingLastEventId with
        | some id => if !p.dropObserved then p.commitLastEventId id else p
        | none => p
      p.resetEvent
    else
      { p with pendingLastEventId := p.pendingAtBlockStart, dropObserved := true }.resetEvent

/-- The delay that a `retry:` line asks for. -/
def parsedRetry (f : Foundation) (value : Utf16) : Int :=
  let parsed := f.longLongValue value
  let parsed := if parsed < sseIosRetryMinMs then sseIosRetryMinMs else parsed
  if parsed > sseIosRetryMaxMs then sseIosRetryMaxMs else parsed

/-- The text before the colon, or the whole line. -/
def fieldOf (f : Foundation) (line : Utf16) : Utf16 :=
  match f.rangeOfColon line with
  | some location => line.take location
  | none => line

/-- The text after the colon minus one leading space, or empty. -/
def valueOf (f : Foundation) (line : Utf16) : Utf16 :=
  match f.rangeOfColon line with
  | some location =>
      let value := line.drop (location + 1)
      if f.hasSpace value then value.drop 1 else value
  | none => []

/-- `processLineData` once it has its `NSString`. -/
def processField (f : Foundation) (p : SseIOSParser) (line : Utf16) : SseIOSParser :=
  if line.length = 0 then p.dispatchEvent
  else if p.eventPoisoned then p
  else if line.head? = some 58 then p
  else
    let field := fieldOf f line
    let value := valueOf f line
    if field = units "data" then
      if p.dataBuffer.length + value.length + 1 > sseIosMaxBuffer then
        p.poisonEvent .dataTooLong
      else { p with dataBuffer := p.dataBuffer ++ value ++ [10] }
    else if field = units "event" then { p with eventName := value }
    else if field = units "id" then
      { p with eventId := value, hasId := true, pendingLastEventId := some value }
    else if field = units "retry" && isInteger f value then
      { p with retryMs := parsedRetry f value }.call (.setRetryMs (parsedRetry f value))
    else p

/-- `processLineData`. -/
def processLineData (f : Foundation) (p : SseIOSParser) : SseIOSParser :=
  let bytes := if p.firstLine then SSEParser.stripBom p.lineBuffer else p.lineBuffer
  let line := f.initWithBytes (SSEParser.stripCR bytes)
  let p := { p with firstLine := false, lineBuffer := [] }
  match line with
  | none => p.enqueueError .invalidUtf8
  | some line => p.processField f line

/-- One iteration of the loop of `feedData`. -/
def feedByte (f : Foundation) (p : SseIOSParser) (c : UInt8) : SseIOSParser :=
  if c = LF then
    if p.discardingLine then { p with discardingLine := false, lineBuffer := [] }
    else p.processLineData f
  else if p.discardingLine then p
  else
    let p := { p with lineBuffer := p.lineBuffer ++ [c] }
    if p.lineBuffer.length > sseIosMaxBuffer then
      { p.poisonEvent .lineTooLong with
        lineBuffer := []
        discardingLine := true }
    else p

/-- `feedData`. -/
def feedData (f : Foundation) (p : SseIOSParser) (data : Bytes) : SseIOSParser :=
  data.foldl (feedByte f) p

/-- The calls of `didReceiveData`, one after the other. -/
def feedAll (f : Foundation) (p : SseIOSParser) (pieces : List Bytes) : SseIOSParser :=
  pieces.foldl (feedData f) p

theorem feedAll_eq (f : Foundation) (p : SseIOSParser) (pieces : List Bytes) :
    p.feedAll f pieces = p.feedData f pieces.flatten := by
  unfold feedAll feedData
  rw [List.foldl_flatten]

theorem feedData_snoc (f : Foundation) (p : SseIOSParser) (data : Bytes) (c : UInt8) :
    p.feedData f (data ++ [c]) = (p.feedData f data).feedByte f c :=
  List.foldl_concat ..

end SseIOSParser

end DefoldSSE
