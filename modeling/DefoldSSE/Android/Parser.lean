/-
  DefoldSSE.Android.Parser — `SseParser` of `SseClient.java`, and the native
  calls it makes.

  The parser is an inner class: it reads and writes `retryMs` and `lastEventId`
  of its client.  A native call hands Java strings to `sse_android.cpp`, which
  reads them with `GetStringUTFChars` before it calls into `sse.cpp`.  The
  answers of `SSE_EnqueueMessage` are given from outside, and every native call
  is written down.

  `BufferedSource.readUtf8` is a parameter.
-/
import DefoldSSE.Core.Event
import DefoldSSE.Lib.Utf

namespace DefoldSSE

open CLib

/-! ## §1. Java's digits and numbers. -/

/-- The zeros of the decimal digits among the code units (general category Nd). -/
def digitZeros : List Nat :=
  [0x0030, 0x0660, 0x06F0, 0x07C0, 0x0966, 0x09E6, 0x0A66, 0x0AE6, 0x0B66, 0x0BE6, 0x0C66,
    0x0CE6, 0x0D66, 0x0DE6, 0x0E50, 0x0ED0, 0x0F20, 0x1040, 0x1090, 0x17E0, 0x1810, 0x1946,
    0x19D0, 0x1A80, 0x1A90, 0x1B50, 0x1BB0, 0x1C40, 0x1C50, 0xA620, 0xA8D0, 0xA900, 0xA9D0,
    0xA9F0, 0xAA50, 0xABF0, 0xFF10]

/-- `Character.digit(c, 10)` of a decimal digit. -/
def characterDigit (c : UInt16) : Option Nat :=
  (digitZeros.find? (fun z => z ≤ c.toNat && c.toNat < z + 10)).map (c.toNat - ·)

/-- `Character.isDigit`. -/
def characterIsDigit (c : UInt16) : Bool := (characterDigit c).isSome

/-- `Long.MAX_VALUE`. -/
def longMaxValue : Int := 2 ^ 63 - 1

/-- `Long.parseLong` of digits; `none` is the `NumberFormatException`. -/
def parseLong (value : Utf16) : Option Int :=
  let parsed := value.foldl (fun n c => 10 * n + (characterDigit c).getD 0) 0
  if (parsed : Int) ≤ longMaxValue then some parsed else none

/-! ## §2. The parser and its client. -/

/-- `RETRY_MIN_MS`. -/
def androidRetryMinMs : Int := 1000
/-- `RETRY_MAX_MS`. -/
def androidRetryMaxMs : Int := 300000
/-- `MAX_LINE_BYTES`. -/
def maxLineBytes : Nat := 1024 * 1024
/-- `MAX_DATA_CHARS`. -/
def maxDataChars : Nat := 1024 * 1024

/-- The fields of `SseParser`. -/
structure SseParser where
  data : Utf16 := []
  eventName : Utf16 := []
  eventId : Utf16 := []
  hasId : Bool := false
  firstLine : Bool := true
  eventPoisoned : Bool := false
  /-- `null` is `none`. -/
  pendingLastEventId : Option Utf16 := none
  pendingAtBlockStart : Option Utf16 := none
  dropObserved : Bool := false
  deriving DecidableEq, Repr

/-- A native call of the parser, without the handle. -/
inductive NativeCall where
  /-- `nativeOnMessage`, and what it returned. -/
  | onMessage (event data id : Utf16) (enqueued : Bool)
  | onError (error : Utf16) (status : Int) (reconnect : Bool) (retryMs : Int)
  | onRetry (retryMs : Int)
  | onLastEventId (id : Utf16)
  deriving DecidableEq, Repr

/-- The parser of a stream, what it sees of its client, and the calls so far. -/
structure SseStream where
  parser : SseParser
  reconnect : Bool
  retryMs : Int
  lastEventId : Utf16
  /-- The answer of `SSE_EnqueueMessage` to the `n`-th message. -/
  answers : Nat → Bool
  calls : List NativeCall

namespace SseParser

/-- `reset`. -/
def reset (p : SseParser) : SseParser :=
  { p with
    data := []
    eventName := []
    eventId := []
    hasId := false
    pendingAtBlockStart := p.pendingLastEventId }

/-- `isInteger`. -/
def isInteger (value : Utf16) : Bool := !value.isEmpty && value.all characterIsDigit

/-- The text before the first `:`, or the whole line. -/
def fieldOf (line : Utf16) : Utf16 := line.takeWhile (· != 58)

/-- The text after the first `:` minus one leading space, or empty. -/
def valueOf (line : Utf16) : Utf16 :=
  let value := (line.dropWhile (· != 58)).drop 1
  if value.head? = some 32 then value.drop 1 else value

/-- `line.substring(1)` when the line starts with U+FEFF. -/
def stripBom (line : Utf16) : Utf16 := if line.head? = some 0xFEFF then line.drop 1 else line

/-- One trailing `\r` is removed. -/
def stripCR (line : Utf16) : Utf16 := if line.getLast? = some 13 then line.dropLast else line

/-- The delay a `retry:` line asks for. -/
def parsedRetry (value : Utf16) : Int :=
  let parsed := (parseLong value).getD longMaxValue
  let parsed := if parsed < androidRetryMinMs then androidRetryMinMs else parsed
  if parsed > androidRetryMaxMs then androidRetryMaxMs else parsed

end SseParser

namespace SseStream

/-- The stream of a new attempt: `readStream` makes a new parser. -/
def start (reconnect : Bool) (retryMs : Int) (lastEventId : Utf16) (answers : Nat → Bool) :
    SseStream where
  parser := {}
  reconnect := reconnect
  retryMs := retryMs
  lastEventId := lastEventId
  answers := answers
  calls := []

def call (s : SseStream) (c : NativeCall) : SseStream := { s with calls := s.calls ++ [c] }

def setParser (s : SseStream) (p : SseParser) : SseStream := { s with parser := p }

def isMessage : NativeCall → Bool
  | .onMessage .. => true
  | _ => false

/-- `nativeOnMessage`. -/
def nativeOnMessage (s : SseStream) (event data id : Utf16) : Bool × SseStream :=
  let enqueued := s.answers (s.calls.countP isMessage)
  (enqueued, s.call (.onMessage event data id enqueued))

/-- `lastEventId = pendingLastEventId`, then `nativeOnLastEventId`. -/
def commitLastEventId (s : SseStream) (id : Utf16) : SseStream :=
  { s with lastEventId := id }.call (.onLastEventId id)

/-- `poison`. -/
def poison (s : SseStream) (message : String) : SseStream :=
  let s := s.call (.onError (units message) 0 s.reconnect s.retryMs)
  let p := { s.parser with pendingLastEventId := s.parser.pendingAtBlockStart }
  s.setParser { p.reset with eventPoisoned := true }

/-- `dispatch`. -/
def dispatch (s : SseStream) : SseStream :=
  let p := s.parser
  if p.eventPoisoned then s.setParser { p with eventPoisoned := false }.reset
  else if p.data.length = 0 then
    let s :=
      match p.pendingLastEventId with
      | some id => if p.hasId && !p.dropObserved then s.commitLastEventId id else s
      | none => s
    s.setParser p.reset
  else
    let p := { p with data := p.data.dropLast }
    let (enqueued, s) := s.nativeOnMessage
      (if p.eventName.length = 0 then units "message" else p.eventName) p.data
      (if p.hasId then p.eventId else [])
    if enqueued then
      let s :=
        match p.pendingLastEventId with
        | some id => if !p.dropObserved then s.commitLastEventId id else s
        | none => s
      s.setParser p.reset
    else
      s.setParser
        { p with pendingLastEventId := p.pendingAtBlockStart, dropObserved := true }.reset

/-- The body of `processLine` once BOM and CR are gone. -/
def processField (s : SseStream) (line : Utf16) : SseStream :=
  let p := s.parser
  if line.length = 0 then s.dispatch
  else if p.eventPoisoned then s
  else if line.head? = some 58 then s
  else
    let field := SseParser.fieldOf line
    let value := SseParser.valueOf line
    if field = units "data" then
      if p.data.length + value.length + 1 > maxDataChars then
        s.poison "SSE event data exceeded maximum buffer size"
      else s.setParser { p with data := p.data ++ value ++ [10] }
    else if field = units "event" then s.setParser { p with eventName := value }
    else if field = units "id" then
      s.setParser { p with eventId := value, hasId := true, pendingLastEventId := some value }
    else if field = units "retry" && SseParser.isInteger value then
      { s with retryMs := SseParser.parsedRetry value }.call
        (.onRetry (SseParser.parsedRetry value))
    else s

/-- `processLine`. -/
def processLine (s : SseStream) (line : Utf16) : SseStream :=
  let line := if s.parser.firstLine then SseParser.stripBom line else line
  (s.setParser { s.parser with firstLine := false }).processField (SseParser.stripCR line)

/-- `readStream` has found a newline: `readUtf8`, `skip(1)`, `processLine`. -/
def readLine (readUtf8 : Bytes → Utf16) (s : SseStream) (line : Bytes) : SseStream :=
  s.processLine (readUtf8 line)

/-! ## §3. What a blank line does. -/

/-- The commit at the end of a block. -/
def commitPending (s : SseStream) (p : SseParser) : SseStream :=
  match p.pendingLastEventId with
  | some id => if p.dropObserved then s else s.commitLastEventId id
  | none => s

/-- The offer of a block's message. -/
def offer (p : SseParser) (enqueued : Bool) : NativeCall :=
  .onMessage (if p.eventName.length = 0 then units "message" else p.eventName) p.data.dropLast
    (if p.hasId then p.eventId else []) enqueued

theorem dispatch_checkpoint (s : SseStream) (hpoisoned : ¬ s.parser.eventPoisoned = true)
    (hdata : s.parser.data.length = 0) :
    s.dispatch
      = (if s.parser.hasId then s.commitPending s.parser else s).setParser s.parser.reset := by
  simp only [dispatch, if_neg hpoisoned, if_pos hdata]
  congr 1
  unfold commitPending
  cases s.parser.pendingLastEventId with
  | none => simp only [ite_self]
  | some id => cases s.parser.hasId <;> cases s.parser.dropObserved <;> rfl

theorem dispatch_message (s : SseStream) (hpoisoned : ¬ s.parser.eventPoisoned = true)
    (hdata : ¬ s.parser.data.length = 0) {enqueued : Bool}
    (henqueued : s.answers (s.calls.countP isMessage) = enqueued) :
    s.dispatch
      = if enqueued then
          ((s.call (offer s.parser enqueued)).commitPending s.parser).setParser s.parser.reset
        else
          (s.call (offer s.parser enqueued)).setParser
            { s.parser with
              pendingLastEventId := s.parser.pendingAtBlockStart
              dropObserved := true }.reset := by
  simp only [dispatch, if_neg hpoisoned, if_neg hdata, nativeOnMessage, henqueued]
  cases enqueued with
  | false => rfl
  | true =>
      show SseStream.setParser _ _ = SseStream.setParser _ _
      congr 1
      unfold commitPending
      cases s.parser.pendingLastEventId with
      | none => rfl
      | some id => cases s.parser.dropObserved <;> rfl

end SseStream

/-! ## §4. The native functions. -/

/-- `GetStringUTFChars`. -/
def getStringUTFChars (string : Utf16) : CString := .read (modifiedUtf8 string)

/-- A string crosses whole. -/
theorem getStringUTFChars_bytes (string : Utf16) :
    (getStringUTFChars string).bytes = modifiedUtf8 string :=
  (CString.read_bytes_eq_self_iff _).mpr (nul_not_mem_modifiedUtf8 string)

/-- The event that a native call passes to the queue. -/
def NativeCall.pushed (handle : Int) : NativeCall → Option SSEEvent
  | .onMessage event data id _ =>
      some (messageEvent handle (some (getStringUTFChars event)) (some (getStringUTFChars data))
        (some (getStringUTFChars id)))
  | .onError error status reconnect retryMs =>
      some (errorEvent handle (some (getStringUTFChars error)) status reconnect retryMs)
  | _ => none

end DefoldSSE
