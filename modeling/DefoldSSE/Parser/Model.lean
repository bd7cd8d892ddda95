/-
  DefoldSSE.Parser.Model — the native parser of `sse_parser.cpp`.

  `SSEParser` is the class with its twelve fields, `feed` its byte loop,
  `processLine` and `dispatch` the two functions under it.  A callback receives
  the `void* context` it was registered with and may change what that points
  to, so the context is a type parameter `σ` threaded through every function;
  the message callback also answers whether the event was delivered.

  A null callback pointer is `none`.  A null `callbacks` argument is the record
  with all four null: the source tests `callbacks && callbacks->m_OnX` as one
  condition at each of its uses.
-/
import DefoldSSE.Lib.CStdlib

namespace DefoldSSE

open CLib

/-! ## §1. Events and callbacks. -/

/-- `SSEParsedEvent`, its strings as the parser holds them (the adapter reads
them back through `const char*`). -/
structure SSEParsedEvent where
  event : Bytes
  data : Bytes
  /-- The `id:` value of the event's own block, or empty. -/
  id : Bytes
  /-- The persistent last-event-id, or `none` for a null pointer. -/
  lastEventId : Option Bytes
  deriving DecidableEq, Repr

/-- `SSEParserCallbacks` over a context `σ`. -/
structure SSEParserCallbacks (σ : Type) where
  onEvent : Option (σ → SSEParsedEvent → Bool × σ) := none
  onRetry : Option (σ → Int → σ) := none
  onId : Option (σ → Bytes → σ) := none
  onError : Option (σ → String → σ) := none

namespace SSEParserCallbacks

variable {σ : Type} (callbacks : SSEParserCallbacks σ)

/-- `delivered` stays true when there is no callback to refuse the event. -/
def callOnEvent (ctx : σ) (event : SSEParsedEvent) : Bool × σ :=
  match callbacks.onEvent with
  | some f => f ctx event
  | none => (true, ctx)

def callOnRetry (ctx : σ) (retryMs : Int) : σ :=
  match callbacks.onRetry with
  | some f => f ctx retryMs
  | none => ctx

def callOnId (ctx : σ) (id : Bytes) : σ :=
  match callbacks.onId with
  | some f => f ctx id
  | none => ctx

def callOnError (ctx : σ) (message : String) : σ :=
  match callbacks.onError with
  | some f => f ctx message
  | none => ctx

end SSEParserCallbacks

/-- `SSE_PARSER_MAX_BUFFER`. -/
def sseParserMaxBuffer : Nat := 1024 * 1024

/-- `SSE_PARSER_RETRY_MIN_MS`. -/
def sseParserRetryMinMs : Int := 1000

/-- `SSE_PARSER_RETRY_MAX_MS`. -/
def sseParserRetryMaxMs : Int := 300000

def lineTooLong : String := "SSE line exceeded maximum buffer size"

def dataTooLong : String := "SSE event data exceeded maximum buffer size"

/-! ## §2. The parser's state. -/

structure SSEParser where
  line : Bytes
  data : Bytes
  event : Bytes
  id : Bytes
  idAtBlockStart : Bytes
  hasId : Bool
  hasIdEver : Bool
  hasIdEverAtBlockStart : Bool
  dropObserved : Bool
  firstLine : Bool
  discardingLine : Bool
  eventPoisoned : Bool
  deriving DecidableEq, Repr

namespace SSEParser

/-- `SSEParser::Reset`, which is also what the constructor leaves. -/
def reset : SSEParser where
  line := []
  data := []
  event := []
  id := []
  idAtBlockStart := []
  hasId := false
  hasIdEver := false
  hasIdEverAtBlockStart := false
  dropObserved := false
  firstLine := true
  discardingLine := false
  eventPoisoned := false

/-- `SSEParser::PoisonEvent`. -/
def poisonEvent (p : SSEParser) : SSEParser :=
  { p with
    data := []
    hasId := false
    eventPoisoned := true
    id := p.idAtBlockStart
    hasIdEver := p.hasIdEverAtBlockStart }

/-! ## §3. `Dispatch`. -/

/-- The tail of `SSEParser::Dispatch`, common to its three branches. -/
def closeBlock (p : SSEParser) : SSEParser :=
  { p with
    data := []
    event := []
    hasId := false
    idAtBlockStart := p.id
    hasIdEverAtBlockStart := p.hasIdEver }

/-- The event a block with data is offered as; `data` has lost its last `\n`. -/
def parsedEvent (p : SSEParser) : SSEParsedEvent where
  event := if p.event = [] then ascii "message" else p.event
  data := if p.data.getLast? = some LF then p.data.dropLast else p.data
  id := if p.hasId then p.id else []
  lastEventId := if p.hasIdEver && !p.dropObserved then some p.id else none

/-- `SSEParser::Dispatch`. -/
def dispatch {σ : Type} (p : SSEParser) (callbacks : SSEParserCallbacks σ) (ctx : σ) :
    SSEParser × σ :=
  if p.eventPoisoned then
    (closeBlock { p with eventPoisoned := false }, ctx)
  else if p.data = [] then
    -- an id-only checkpoint
    let ctx := if p.hasId && !p.dropObserved then callbacks.callOnId ctx p.id else ctx
    (closeBlock p, ctx)
  else
    let (delivered, ctx) := callbacks.callOnEvent ctx p.parsedEvent
    if delivered then (closeBlock p, ctx)
    else
      (closeBlock
        { p with
          id := p.idAtBlockStart
          hasIdEver := p.hasIdEverAtBlockStart
          dropObserved := true }, ctx)

/-! ## §4. `ProcessLine`. -/

/-- `line.erase(0, 3)` when the line starts with a UTF-8 BOM. -/
def stripBom (line : Bytes) : Bytes :=
  if line.take 3 = [0xEF, 0xBB, 0xBF] then line.drop 3 else line

/-- One trailing `\r` is removed. -/
def stripCR (line : Bytes) : Bytes :=
  if line.getLast? = some CR then line.dropLast else line

/-- The text before the first `:`, or the whole line. -/
def fieldOf (line : Bytes) : Bytes := line.takeWhile (· != COLON)

/-- The text after the first `:` minus one leading space, or empty. -/
def valueOf (line : Bytes) : Bytes :=
  let value := (line.dropWhile (· != COLON)).drop 1
  if value.head? = some SP then value.drop 1 else value

/-- The loop over `isdigit`: `valid`. -/
def isRetryValue (value : Bytes) : Bool := !value.isEmpty && value.all isDigit

/-- What `m_OnRetry` is called with for a digit string: `strtol`, then the two
clamps. -/
def retryMs (longMax : Nat) (value : Bytes) : Int :=
  let r := strtol longMax value
  let parsed :=
    if r.erange || decide (r.value > sseParserRetryMaxMs) then sseParserRetryMaxMs else r.value
  if parsed < sseParserRetryMinMs then sseParserRetryMinMs else parsed

/-- The body of `SSEParser::ProcessLine` once BOM and CR are gone. -/
def processField {σ : Type} (p : SSEParser) (line : Bytes) (callbacks : SSEParserCallbacks σ)
    (ctx : σ) : SSEParser × σ :=
  if line = [] then p.dispatch callbacks ctx
  else if p.eventPoisoned then (p, ctx)
  else if line.head? = some COLON then (p, ctx)
  else
    let field := fieldOf line
    let value := valueOf line
    if field = ascii "data" then
      if p.data.length + value.length + 1 > sseParserMaxBuffer then
        (p.poisonEvent, callbacks.callOnError ctx dataTooLong)
      else ({ p with data := p.data ++ value ++ [LF] }, ctx)
    else if field = ascii "event" then ({ p with event := value }, ctx)
    else if field = ascii "id" then
      ({ p with id := value, hasId := true, hasIdEver := true }, ctx)
    else if field = ascii "retry" then
      if isRetryValue value then (p, callbacks.callOnRetry ctx (retryMs LONG_MAX value))
      else (p, ctx)
    else (p, ctx)

/-- `SSEParser::ProcessLine`. -/
def processLine {σ : Type} (p : SSEParser) (line : Bytes) (callbacks : SSEParserCallbacks σ)
    (ctx : σ) : SSEParser × σ :=
  let line := if p.firstLine then stripBom line else line
  processField { p with firstLine := false } (stripCR line) callbacks ctx

/-! ## §5. `Feed`. -/

/-- One iteration of the loop of `SSEParser::Feed`. -/
def feedByte {σ : Type} (callbacks : SSEParserCallbacks σ) (s : SSEParser × σ) (c : UInt8) :
    SSEParser × σ :=
  let (p, ctx) := s
  if c = LF then
    if p.discardingLine then ({ p with discardingLine := false, line := [] }, ctx)
    else
      let (q, ctx) := p.processLine p.line callbacks ctx
      ({ q with line := [] }, ctx)
  else if p.discardingLine then (p, ctx)
  else
    let p := { p with line := p.line ++ [c] }
    if p.line.length > sseParserMaxBuffer then
      (poisonEvent { p with line := [], discardingLine := true },
        callbacks.callOnError ctx lineTooLong)
    else (p, ctx)

/-- `SSEParser::Feed`. -/
def feed {σ : Type} (p : SSEParser) (bytes : Bytes) (callbacks : SSEParserCallbacks σ)
    (ctx : σ) : SSEParser × σ :=
  bytes.foldl (feedByte callbacks) (p, ctx)

/-- Successive `Feed` calls on the pieces of a stream. -/
def feedAll {σ : Type} (p : SSEParser) (pieces : List Bytes) (callbacks : SSEParserCallbacks σ)
    (ctx : σ) : SSEParser × σ :=
  pieces.foldl (fun s piece => s.1.feed piece callbacks s.2) (p, ctx)

section Feed

variable {σ : Type} (p : SSEParser) (callbacks : SSEParserCallbacks σ) (ctx : σ)

@[simp] theorem feed_nil : p.feed [] callbacks ctx = (p, ctx) := rfl

theorem feed_append (a b : Bytes) :
    p.feed (a ++ b) callbacks ctx
      = (p.feed a callbacks ctx).1.feed b callbacks (p.feed a callbacks ctx).2 :=
  List.foldl_append

theorem feed_snoc (a : Bytes) (c : UInt8) :
    p.feed (a ++ [c]) callbacks ctx = feedByte callbacks (p.feed a callbacks ctx) c := by
  rw [feed_append]
  rfl

/-- **Segmentation does not matter to the parser**: feeding the pieces is
feeding their concatenation. -/
theorem feedAll_eq (pieces : List Bytes) :
    p.feedAll pieces callbacks ctx = p.feed pieces.flatten callbacks ctx := by
  induction pieces generalizing p ctx with
  | nil => rfl
  | cons piece pieces ih =>
    rw [List.flatten_cons, feed_append, ← ih]
    rfl

end Feed

/-! ## §6. The parser sees its context only through the calls. -/

section Maps

variable {σ τ : Type}

/-- `f` carries the calls of `callbacks` to those of `callbacks'`. -/
structure CallbackMap (callbacks : SSEParserCallbacks σ)
    (callbacks' : SSEParserCallbacks τ) (f : σ → τ) : Prop where
  onEvent : ∀ ctx event, callbacks'.callOnEvent (f ctx) event
    = ((callbacks.callOnEvent ctx event).1, f (callbacks.callOnEvent ctx event).2)
  onRetry : ∀ ctx ms, callbacks'.callOnRetry (f ctx) ms = f (callbacks.callOnRetry ctx ms)
  onId : ∀ ctx id, callbacks'.callOnId (f ctx) id = f (callbacks.callOnId ctx id)
  onError : ∀ ctx message,
    callbacks'.callOnError (f ctx) message = f (callbacks.callOnError ctx message)

variable {callbacks : SSEParserCallbacks σ} {callbacks' : SSEParserCallbacks τ} {f : σ → τ}
  (h : CallbackMap callbacks callbacks' f)

include h

theorem dispatch_map (p : SSEParser) (ctx : σ) :
    p.dispatch callbacks' (f ctx)
      = ((p.dispatch callbacks ctx).1, f (p.dispatch callbacks ctx).2) := by
  unfold dispatch
  rw [h.onEvent, h.onId]
  generalize callbacks.callOnEvent ctx p.parsedEvent = res
  obtain ⟨delivered, ctx'⟩ := res
  cases p.eventPoisoned <;> cases delivered <;> cases p.hasId && !p.dropObserved <;>
    by_cases hd : p.data = [] <;> simp [hd]

theorem processField_map (p : SSEParser) (line : Bytes) (ctx : σ) :
    p.processField line callbacks' (f ctx)
      = ((p.processField line callbacks ctx).1, f (p.processField line callbacks ctx).2) := by
  simp only [processField, dispatch_map h, h.onError, h.onRetry]
  split
  · rfl
  · repeat' split
    all_goals rfl

theorem processLine_map (p : SSEParser) (line : Bytes) (ctx : σ) :
    p.processLine line callbacks' (f ctx)
      = ((p.processLine line callbacks ctx).1, f (p.processLine line callbacks ctx).2) :=
  processField_map h _ _ ctx

theorem feedByte_map (s : SSEParser × σ) (c : UInt8) :
    feedByte callbacks' (s.1, f s.2) c
      = ((feedByte callbacks s c).1, f (feedByte callbacks s c).2) := by
  obtain ⟨p, ctx⟩ := s
  simp only [feedByte, processLine_map h, h.onError]
  repeat' split
  all_goals rfl

/-- **Feeding commutes with a map of the context.** -/
theorem feed_map (bytes : Bytes) (p : SSEParser) (ctx : σ) :
    p.feed bytes callbacks' (f ctx)
      = ((p.feed bytes callbacks ctx).1, f (p.feed bytes callbacks ctx).2) := by
  induction bytes generalizing p ctx with
  | nil => rfl
  | cons c bytes ih =>
    have hstep := feedByte_map h (p, ctx) c
    simp only [feed, List.foldl_cons] at ih hstep ⊢
    rw [hstep]
    exact ih _ _

end Maps

section Preserves

variable {σ : Type}

/-- Every call keeps `P`. -/
structure Preserves (callbacks : SSEParserCallbacks σ) (P : σ → Prop) : Prop where
  onEvent : ∀ ctx event, P ctx → P (callbacks.callOnEvent ctx event).2
  onRetry : ∀ ctx ms, P ctx → P (callbacks.callOnRetry ctx ms)
  onId : ∀ ctx id, P ctx → P (callbacks.callOnId ctx id)
  onError : ∀ ctx message, P ctx → P (callbacks.callOnError ctx message)

variable {callbacks : SSEParserCallbacks σ} {P : σ → Prop} (h : Preserves callbacks P)

include h

theorem dispatch_preserves (p : SSEParser) {ctx : σ} (hP : P ctx) :
    P (p.dispatch callbacks ctx).2 := by
  have hev := h.onEvent ctx p.parsedEvent hP
  unfold dispatch
  generalize callbacks.callOnEvent ctx p.parsedEvent = res at hev
  obtain ⟨delivered, ctx'⟩ := res
  split
  · exact hP
  · split
    · show P (if p.hasId && !p.dropObserved then callbacks.callOnId ctx p.id else ctx)
      split
      · exact h.onId ctx p.id hP
      · exact hP
    · cases delivered with
      | true => exact hev
      | false => exact hev

theorem processField_preserves (p : SSEParser) (line : Bytes) {ctx : σ} (hP : P ctx) :
    P (p.processField line callbacks ctx).2 := by
  simp only [processField]
  split
  · exact dispatch_preserves h p hP
  · repeat' split
    all_goals first
      | exact hP
      | exact h.onError ctx _ hP
      | exact h.onRetry ctx _ hP

/-- **What every call keeps, feeding keeps.** -/
theorem feed_preserves (bytes : Bytes) (p : SSEParser) {ctx : σ} (hP : P ctx) :
    P (p.feed bytes callbacks ctx).2 := by
  induction bytes using List.reverseRecOn with
  | nil => exact hP
  | append_singleton bytes c ih =>
    rw [feed_snoc]
    generalize p.feed bytes callbacks ctx = s at ih
    obtain ⟨q, ctx'⟩ := s
    unfold feedByte
    simp only
    split
    · split
      · exact ih
      · exact processField_preserves h _ _ ih
    · repeat' split
      all_goals first
        | exact ih
        | exact h.onError ctx' _ ih

end Preserves

/-! ## §7. The retry value. -/

/-- The reconnect delay a digit string asks for, in numbers. -/
def clampedRetry (value : Bytes) : Int :=
  max sseParserRetryMinMs (min sseParserRetryMaxMs (decimalValue value))

theorem isRetryValue_iff (value : Bytes) :
    isRetryValue value = true ↔ value ≠ [] ∧ ∀ c ∈ value, isDigit c = true := by
  simp [isRetryValue]

/-- A digit string gives its clamped value, however long it is and whether
`long` has 32 or 64 bits. -/
theorem retryMs_eq {longMax : Nat} (hlong : 300000 ≤ longMax) {value : Bytes}
    (h : isRetryValue value = true) : retryMs longMax value = clampedRetry value := by
  obtain ⟨hne, hdig⟩ := (isRetryValue_iff value).mp h
  unfold retryMs clampedRetry sseParserRetryMaxMs sseParserRetryMinMs
  rw [strtol_digits longMax hne hdig]
  by_cases hbig : longMax < decimalValue value
  · simp only [hbig, if_true, Bool.true_or]
    omega
  · simp only [hbig, if_false, Bool.false_or, decide_eq_true_eq]
    split <;> split <;> omega

end SSEParser

end DefoldSSE
