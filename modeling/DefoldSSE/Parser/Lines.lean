/-
  DefoldSSE.Parser.Lines — what a line does, on every adapter.

  Three parsers were written separately: `SSEParser`, `SseParser` and the
  functions of `Module.SSEExt`.  `LineReader` is what they have in common, a
  machine over classified lines that says what is reported for each line.  Its
  id state is the one the format speaks of: the block's own id, the pending
  last-event-id, and the pending one at the block's start, each of them there or
  not.

  Each adapter has a module that proves its parser to be this machine.
-/
import DefoldSSE.Core.Event
import DefoldSSE.Lib.Transducer
import DefoldSSE.Lib.Utf
import DefoldSSE.Parser.Stream

namespace DefoldSSE

open CLib EventStream

/-! ## §1. The reports. -/

/-- What an adapter reports while it reads the lines of a stream. -/
inductive StreamReport where
  /-- A message is offered to the queue. -/
  | message (event data id : Option CString)
  /-- The last-event-id is committed. -/
  | lastEventId (id : CString)
  /-- The reconnect delay is set. -/
  | retry (retryMs : Int)
  | error (error : Option CString)
  deriving DecidableEq

/-- An event that goes to the queue, as a report. -/
def SSEEvent.report (e : SSEEvent) : Option StreamReport :=
  match e.type with
  | .eventMessage => some (.message e.event e.data e.id)
  | .eventError => some (.error e.error)
  | _ => none

/-! ## §2. The machine. -/

structure LineReader where
  data : Bytes := []
  event : Bytes := []
  /-- The value of the block's last `id:` line. -/
  ownId : Option Bytes := none
  pending : Option Bytes := none
  pendingAtBlockStart : Option Bytes := none
  poisoned : Bool := false
  dropObserved : Bool := false
  /-- The messages offered so far. -/
  messages : Nat := 0
  deriving DecidableEq

namespace LineReader

/-- The block is over. -/
def endBlock (r : LineReader) : LineReader :=
  { r with data := [], event := [], ownId := none, pendingAtBlockStart := r.pending }

/-- The block is lost. -/
def poison (r : LineReader) : LineReader :=
  { { r with pending := r.pendingAtBlockStart }.endBlock with poisoned := true }

/-- The commit that an event or a checkpoint allows. -/
def commit (r : LineReader) : List StreamReport :=
  match r.pending with
  | some id => if r.dropObserved then [] else [.lastEventId (.read id)]
  | none => []

/-- The message of the block; the last LF of the data goes. -/
def message (r : LineReader) : StreamReport :=
  .message (some (.read (if r.event = [] then ascii "message" else r.event)))
    (some (.read r.data.dropLast)) (some (.read (r.ownId.getD [])))

/-- A blank line; `accepted` is the answer to the message, if there is one. -/
def blankLine (accepted : Bool) (r : LineReader) : LineReader × List StreamReport :=
  if r.poisoned then ({ r with poisoned := false }.endBlock, [])
  else if r.data = [] then (r.endBlock, if r.ownId.isSome then r.commit else [])
  else if accepted then ({ r with messages := r.messages + 1 }.endBlock, r.message :: r.commit)
  else
    ({ r with
        pending := r.pendingAtBlockStart
        dropObserved := true
        messages := r.messages + 1 }.endBlock, [r.message])

/-- A line of a block that is not lost. -/
def fieldLine (r : LineReader) : BlockLine → LineReader × List StreamReport
  | .data v =>
      if r.data.length + v.length + 1 > sseParserMaxBuffer then
        (r.poison, [.error (some (.lit dataTooLong))])
      else ({ r with data := r.data ++ v ++ [LF] }, [])
  | .event v => ({ r with event := v }, [])
  | .id v => ({ r with ownId := some v, pending := some v }, [])
  | .retry v => (r, if SSEParser.isRetryValue v then [.retry (SSEParser.clampedRetry v)] else [])
  | .ignored => (r, [])
  | .oversize => (r, [])

/-- One line, without its LF. -/
def readLine (answers : Nat → Bool) (r : LineReader) (text : Bytes) :
    LineReader × List StreamReport :=
  match classify (SSEParser.stripCR text) with
  | none => r.blankLine (answers r.messages)
  | some l => if r.poisoned then (r, []) else r.fieldLine l

/-! ## §3. ASCII stays ASCII. -/

/-- Every string is ASCII. -/
structure Ascii (r : LineReader) : Prop where
  data : AsciiText r.data
  event : AsciiText r.event
  ownId : ∀ v, r.ownId = some v → AsciiText v
  pending : ∀ v, r.pending = some v → AsciiText v
  start : ∀ v, r.pendingAtBlockStart = some v → AsciiText v

variable {r : LineReader}

theorem ascii_init : ({} : LineReader).Ascii where
  data := asciiText_nil
  event := asciiText_nil
  ownId v h := by cases h
  pending v h := by cases h
  start v h := by cases h

theorem ascii_endBlock (hpending : ∀ v, r.pending = some v → AsciiText v) :
    r.endBlock.Ascii where
  data := asciiText_nil
  event := asciiText_nil
  ownId v h := by cases h
  pending := hpending
  start := hpending

theorem Ascii.poison (h : r.Ascii) : r.poison.Ascii where
  data := asciiText_nil
  event := asciiText_nil
  ownId v h := by cases h
  pending := h.start
  start := h.start

end LineReader

end DefoldSSE
