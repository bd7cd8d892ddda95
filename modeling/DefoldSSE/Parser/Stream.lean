/-
  DefoldSSE.Parser.Stream — what a byte stream SAYS, independently of the parser.

  The stream is cut twice by the same function: bytes into lines at LF, lines
  into blocks at a blank line.

    bytes ──cut LF──▶ raw lines ──cap, BOM, CR──▶ lines ──cut blank──▶ blocks

  A line over the cap is not read at all; all that is left of it is
  `BlockLine.oversize`, and the block it stands in is POISONED, as is a block
  whose data values together exceed the cap.  Nothing in this file runs the
  parser; `Parser/Simulation.lean` proves that the parser computes exactly this.
-/
import Mathlib.Data.List.ReduceOption
import DefoldSSE.Parser.Model

namespace DefoldSSE

open CLib

namespace EventStream

/-! ## §1. Lines. -/

/-- A line as the cap leaves it. -/
inductive LineItem where
  | line (text : Bytes)
  | oversize
  deriving DecidableEq, Repr

def LineItem.isOversize : LineItem → Bool
  | .line _ => false
  | .oversize => true

/-- A line of more than `sseParserMaxBuffer` bytes is dropped. -/
def capped (text : Bytes) : LineItem :=
  if text.length > sseParserMaxBuffer then .oversize else .line text

/-- The lines of the stream, in order.  An unterminated last line counts only
once it is over the cap: that is noticed before its LF arrives. -/
def lineItems (bytes : Bytes) : List LineItem :=
  (cut LF bytes).1.map capped
    ++ (if (cut LF bytes).2.length > sseParserMaxBuffer then [.oversize] else [])

/-- One non-blank line of a block. -/
inductive BlockLine where
  | oversize
  | data (value : Bytes)
  | event (value : Bytes)
  | id (value : Bytes)
  | retry (value : Bytes)
  /-- A comment or an unknown field. -/
  | ignored
  deriving DecidableEq, Repr

/-- The meaning of a line without BOM and CR; `none` is the blank line. -/
def classify (text : Bytes) : Option BlockLine :=
  if text = [] then none
  else if text.head? = some COLON then some .ignored
  else if SSEParser.fieldOf text = ascii "data" then some (.data (SSEParser.valueOf text))
  else if SSEParser.fieldOf text = ascii "event" then some (.event (SSEParser.valueOf text))
  else if SSEParser.fieldOf text = ascii "id" then some (.id (SSEParser.valueOf text))
  else if SSEParser.fieldOf text = ascii "retry" then some (.retry (SSEParser.valueOf text))
  else some .ignored

/-- Only the cap makes a line oversized. -/
theorem classify_ne_oversize (text : Bytes) : classify text ≠ some .oversize := by
  unfold classify
  repeat' split
  all_goals simp

theorem classify_eq_none_iff (text : Bytes) : classify text = none ↔ text = [] := by
  unfold classify
  constructor
  · intro h
    by_contra hne
    rw [if_neg hne] at h
    repeat' split at h
    all_goals simp at h
  · intro h
    rw [if_pos h]

/-- A line that is not blank, by its first byte and its field. -/
theorem classify_cases {text : Bytes} (hne : text ≠ []) :
    (text.head? = some COLON ∧ classify text = some .ignored) ∨
    (text.head? ≠ some COLON ∧
      ((SSEParser.fieldOf text = ascii "data" ∧
          classify text = some (.data (SSEParser.valueOf text))) ∨
        (SSEParser.fieldOf text = ascii "event" ∧
          classify text = some (.event (SSEParser.valueOf text))) ∨
        (SSEParser.fieldOf text = ascii "id" ∧
          classify text = some (.id (SSEParser.valueOf text))) ∨
        (SSEParser.fieldOf text = ascii "retry" ∧
          classify text = some (.retry (SSEParser.valueOf text))) ∨
        ((SSEParser.fieldOf text ≠ ascii "data" ∧ SSEParser.fieldOf text ≠ ascii "event" ∧
            SSEParser.fieldOf text ≠ ascii "id" ∧ SSEParser.fieldOf text ≠ ascii "retry") ∧
          classify text = some .ignored))) := by
  unfold classify
  rw [if_neg hne]
  by_cases hcolon : text.head? = some COLON
  · exact .inl ⟨hcolon, if_pos hcolon⟩
  · refine .inr ⟨hcolon, ?_⟩
    rw [if_neg hcolon]
    by_cases hdata : SSEParser.fieldOf text = ascii "data"
    · exact .inl ⟨hdata, if_pos hdata⟩
    · rw [if_neg hdata]
      by_cases hevent : SSEParser.fieldOf text = ascii "event"
      · exact .inr (.inl ⟨hevent, if_pos hevent⟩)
      · rw [if_neg hevent]
        by_cases hid : SSEParser.fieldOf text = ascii "id"
        · exact .inr (.inr (.inl ⟨hid, if_pos hid⟩))
        · rw [if_neg hid]
          by_cases hretry : SSEParser.fieldOf text = ascii "retry"
          · exact .inr (.inr (.inr (.inl ⟨hretry, if_pos hretry⟩)))
          · exact .inr (.inr (.inr (.inr ⟨⟨hdata, hevent, hid, hretry⟩, if_neg hretry⟩)))

/-- `field`, `field:value` or `field: value`; the one space is not part of the
value. -/
inductive FieldLine : Bytes → Bytes → Bytes → Prop where
  | bare {field : Bytes} (hfield : COLON ∉ field) : FieldLine field field []
  | colon {field value : Bytes} (hfield : COLON ∉ field) (hvalue : value.head? ≠ some SP) :
      FieldLine (field ++ COLON :: value) field value
  | space {field : Bytes} (value : Bytes) (hfield : COLON ∉ field) :
      FieldLine (field ++ COLON :: SP :: value) field value

/-- **The field and the value of a line** are the parser's. -/
theorem fieldLine_iff {text field value : Bytes} :
    FieldLine text field value
      ↔ SSEParser.fieldOf text = field ∧ SSEParser.valueOf text = value := by
  unfold SSEParser.fieldOf SSEParser.valueOf
  constructor
  · intro h
    cases h with
    | bare hfield =>
        rw [dropWhile_bne_of_not_mem hfield]
        exact ⟨List.takeWhile_eq_self_iff.mpr (bne_of_not_mem hfield), rfl⟩
    | colon hfield hvalue =>
        rw [takeWhile_bne hfield, dropWhile_bne hfield]
        exact ⟨rfl, if_neg hvalue⟩
    | space value hfield =>
        rw [takeWhile_bne hfield, dropWhile_bne hfield]
        exact ⟨rfl, rfl⟩
  · rintro ⟨rfl, rfl⟩
    have hsplit := List.takeWhile_append_dropWhile (p := fun c => c != COLON) (l := text)
    have hhead := List.head?_dropWhile_not (fun c => c != COLON) text
    have hfield : COLON ∉ text.takeWhile (fun c => c != COLON) := by
      intro hmem
      have hne := List.mem_takeWhile_imp hmem
      simp at hne
    cases hrest : text.dropWhile (fun c => c != COLON) with
    | nil =>
        rw [hrest, List.append_nil] at hsplit
        rw [hsplit] at hfield ⊢
        exact .bare hfield
    | cons c value =>
        rw [hrest] at hsplit hhead
        have hc : c = COLON := by simpa using hhead
        subst hc
        -- a second space would be part of the value
        by_cases hspace : value.head? = some SP
        · obtain ⟨value, rfl⟩ := List.head?_eq_some_iff.mp hspace
          nth_rewrite 1 [← hsplit]
          exact .space value hfield
        · nth_rewrite 1 [← hsplit]
          simp only [List.drop_succ_cons, List.drop_zero, if_neg hspace]
          exact .colon hfield hspace

/-- What a field of the format does with its value. -/
def fieldMeaning (field value : Bytes) : BlockLine :=
  if field = ascii "data" then .data value
  else if field = ascii "event" then .event value
  else if field = ascii "id" then .id value
  else if field = ascii "retry" then .retry value
  else .ignored

/-- **A line that is not blank** means what its field means; a comment has the
empty field. -/
theorem classify_iff {text : Bytes} {l : BlockLine} :
    classify text = some l
      ↔ text ≠ [] ∧ ∃ field value, FieldLine text field value ∧ fieldMeaning field value = l := by
  have hmeaning : text ≠ [] → classify text
      = some (fieldMeaning (SSEParser.fieldOf text) (SSEParser.valueOf text)) := by
    intro hne
    unfold fieldMeaning
    rcases classify_cases hne with ⟨hcolon, hl⟩ | ⟨-, ⟨hf, hl⟩ | ⟨hf, hl⟩ | ⟨hf, hl⟩ | ⟨hf, hl⟩
      | ⟨⟨hdata, hevent, hid, hretry⟩, hl⟩⟩
    -- a comment's field is empty, which is no field of the format
    · have hf : SSEParser.fieldOf text = [] := by
        obtain ⟨rest, rfl⟩ := List.head?_eq_some_iff.mp hcolon
        rfl
      rw [hl, hf]
      rfl
    · rw [hl, if_pos hf]
    · rw [hl, hf]
      rfl
    · rw [hl, hf]
      rfl
    · rw [hl, hf]
      rfl
    · rw [hl, if_neg hdata, if_neg hevent, if_neg hid, if_neg hretry]
  constructor
  · intro h
    have hne : text ≠ [] := by
      rintro rfl
      cases h
    rw [hmeaning hne] at h
    exact ⟨hne, _, _, fieldLine_iff.mpr ⟨rfl, rfl⟩, Option.some.inj h⟩
  · rintro ⟨hne, field, value, hline, rfl⟩
    obtain ⟨rfl, rfl⟩ := fieldLine_iff.mp hline
    exact hmeaning hne

/-- A field's value is what stands after the colon. -/
theorem value_of_classify {text v : Bytes} {l : BlockLine} (h : classify text = some l)
    (hl : l = .data v ∨ l = .event v ∨ l = .id v ∨ l = .retry v) : v = SSEParser.valueOf text := by
  unfold classify at h
  repeat' split at h
  all_goals cases h
  all_goals rcases hl with hl | hl | hl | hl
  all_goals cases hl
  all_goals rfl

/-- The bytes of a field's value are bytes of its line. -/
theorem mem_of_mem_valueOf {text : Bytes} {c : UInt8} (h : c ∈ SSEParser.valueOf text) :
    c ∈ text := by
  unfold SSEParser.valueOf at h
  have hvalue : c ∈ (text.dropWhile (· != COLON)).drop 1 := by
    simp only at h
    split at h
    · exact List.mem_of_mem_drop h
    · exact h
  exact (List.dropWhile_sublist _).subset (List.mem_of_mem_drop hvalue)

/-- One CR at the end goes, and nothing else. -/
theorem stripCR_eq_iff {text rest : Bytes} :
    SSEParser.stripCR text = rest
      ↔ text = rest ++ [CR] ∨ (text = rest ∧ text.getLast? ≠ some CR) := by
  unfold SSEParser.stripCR
  split
  · next hlast =>
      obtain ⟨front, rfl⟩ := List.getLast?_eq_some_iff.mp hlast
      simp [eq_comm]
  · next hlast =>
      constructor
      · rintro rfl
        exact .inr ⟨rfl, hlast⟩
      · rintro (rfl | ⟨rfl, -⟩)
        · simp at hlast
        · rfl

theorem mem_of_mem_stripCR {text : Bytes} {c : UInt8} (h : c ∈ SSEParser.stripCR text) :
    c ∈ text := by
  unfold SSEParser.stripCR at h
  split at h
  · exact (List.dropLast_sublist _).subset h
  · exact h

theorem mem_of_mem_stripBom {text : Bytes} {c : UInt8} (h : c ∈ SSEParser.stripBom text) :
    c ∈ text := by
  unfold SSEParser.stripBom at h
  split at h
  · exact List.mem_of_mem_drop h
  · exact h

/-- A line in its place: the first line that is read loses a BOM. -/
def readItem (first : Bool) : LineItem → Option BlockLine
  | .line text =>
      classify (SSEParser.stripCR (if first then SSEParser.stripBom text else text))
  | .oversize => some .oversize

/-- The lines of a stream, read in order. -/
def readItems : Bool → List LineItem → List (Option BlockLine)
  | _, [] => []
  | first, item :: items => readItem first item :: readItems (first && item.isOversize) items

theorem readItems_snoc (first : Bool) (items : List LineItem) (item : LineItem) :
    readItems first (items ++ [item])
      = readItems first items ++ [readItem (first && items.all LineItem.isOversize) item] := by
  induction items generalizing first with
  | nil => simp [readItems]
  | cons x xs ih => simp [readItems, ih, Bool.and_assoc]

/-! ## §2. Blocks. -/

abbrev Block := List BlockLine

/-- The lines of the stream with its blank lines as `none`. -/
def streamLines (bytes : Bytes) : List (Option BlockLine) := readItems true (lineItems bytes)

/-- The blocks and the pending lines of a list of lines. -/
def blocksOf (lines : List (Option BlockLine)) : List Block × Block :=
  ((cut none lines).1.map List.reduceOption, (cut none lines).2.reduceOption)

theorem blocksOf_snoc_blank (lines : List (Option BlockLine)) :
    blocksOf (lines ++ [none]) = ((blocksOf lines).1 ++ [(blocksOf lines).2], []) := by
  simp [blocksOf, cut_snoc_self]

theorem blocksOf_snoc_line (lines : List (Option BlockLine)) (l : BlockLine) :
    blocksOf (lines ++ [some l]) = ((blocksOf lines).1, (blocksOf lines).2 ++ [l]) := by
  simp [blocksOf, cut_snoc_ne, List.reduceOption_append]

/-- The blocks that a blank line has ended. -/
def blocks (bytes : Bytes) : List Block := (blocksOf (streamLines bytes)).1

/-- The lines after the last blank line. -/
def pendingBlock (bytes : Bytes) : Block := (blocksOf (streamLines bytes)).2

namespace Block

/-- The values of the block's `data:` lines. -/
def dataValues (b : Block) : List Bytes :=
  b.filterMap (fun | .data v => some v | _ => none)

/-- The values of the block's `id:` lines. -/
def idValues (b : Block) : List Bytes :=
  b.filterMap (fun | .id v => some v | _ => none)

/-- The values of the block's `event:` lines. -/
def eventValues (b : Block) : List Bytes :=
  b.filterMap (fun | .event v => some v | _ => none)

/-- The block's own id: its last `id:` line. -/
def ownId (b : Block) : Option Bytes := (idValues b).getLast?

/-- What the block's data values need in the buffer, one LF each. -/
def dataSize (b : Block) : Nat := ((dataValues b).map (fun v => v.length + 1)).sum

/-- Some line of the block, or its data together, exceeded a cap. -/
def poisoned (b : Block) : Bool :=
  decide (BlockLine.oversize ∈ b) || decide (dataSize b > sseParserMaxBuffer)

/-- The block carries data. -/
def carriesData (b : Block) : Bool := !(dataValues b).isEmpty

/-- Its last `event:` value, or `message` if that is absent or empty. -/
def eventName (b : Block) : Bytes :=
  let name := (eventValues b).getLast?.getD []
  if name = [] then ascii "message" else name

/-- Its data values joined by LF. -/
def joinedData (b : Block) : Bytes := List.intercalate [LF] (dataValues b)

/-- The data values as the parser buffers them, each ended by LF. -/
def buffered (b : Block) : Bytes := (dataValues b).flatMap (fun v => v ++ [LF])

end Block

open Block

section BlockLemmas

variable (b : Block) (l : BlockLine)

theorem dataValues_snoc :
    dataValues (b ++ [l]) = dataValues b ++ (match l with | .data v => [v] | _ => []) := by
  cases l <;> simp [dataValues, List.filterMap_append]

theorem idValues_snoc :
    idValues (b ++ [l]) = idValues b ++ (match l with | .id v => [v] | _ => []) := by
  cases l <;> simp [idValues, List.filterMap_append]

theorem eventValues_snoc :
    eventValues (b ++ [l]) = eventValues b ++ (match l with | .event v => [v] | _ => []) := by
  cases l <;> simp [eventValues, List.filterMap_append]

/-- The buffer fills by exactly `dataSize`. -/
theorem buffered_length : (buffered b).length = dataSize b := by
  simp [buffered, dataSize, List.length_flatMap]

theorem dataSize_snoc :
    dataSize (b ++ [l])
      = dataSize b + (match l with | .data v => v.length + 1 | _ => 0) := by
  unfold dataSize
  rw [dataValues_snoc]
  cases l <;> simp

/-- Once lost, a block stays lost. -/
theorem poisoned_snoc :
    poisoned (b ++ [l])
      = (poisoned b || (match l with
          | .oversize => true
          | .data v => decide (dataSize b + v.length + 1 > sseParserMaxBuffer)
          | _ => false)) := by
  unfold poisoned
  rw [dataSize_snoc]
  cases l with
  | data v =>
      rw [Bool.eq_iff_iff]
      simp only [List.mem_append, List.mem_singleton, reduceCtorEq, or_false, Bool.or_eq_true,
        decide_eq_true_eq, or_assoc]
      refine or_congr_right ?_
      omega
  | _ => simp

@[simp] theorem poisoned_nil : poisoned [] = false := by
  simp [poisoned, dataSize, dataValues]

/-- A block carries data exactly when its buffer is non-empty. -/
theorem buffered_eq_nil_iff : buffered b = [] ↔ dataValues b = [] := by
  unfold buffered
  cases dataValues b with
  | nil => simp
  | cons v vs => simp

end BlockLemmas

/-- Ending each value with LF and dropping the last LF is joining by LF. -/
theorem flatMap_dropLast (vs : List Bytes) :
    (vs.flatMap (fun v => v ++ [LF])).dropLast = List.intercalate [LF] vs := by
  induction vs with
  | nil => rfl
  | cons v vs ih =>
    cases vs with
    | nil => simp
    | cons w ws =>
      have hne : (w :: ws).flatMap (fun v => v ++ [LF]) ≠ [] := by simp
      rw [List.flatMap_cons, List.dropLast_append_of_ne_nil hne, ih]
      simp [List.intercalate_cons_cons]

theorem buffered_dropLast (b : Block) : (buffered b).dropLast = joinedData b :=
  flatMap_dropLast (dataValues b)

/-- A non-empty buffer ends in LF. -/
theorem buffered_getLast? (b : Block) (h : buffered b ≠ []) :
    (buffered b).getLast? = some LF := by
  have hv : dataValues b ≠ [] := fun hv => h ((buffered_eq_nil_iff b).mpr hv)
  rw [buffered, ← List.dropLast_concat_getLast hv, List.flatMap_append]
  simp

/-! ## §3. What the blocks of a stream call for. -/

/-- What is remembered from one block to the next: the last `id:` value of the
blocks that were not lost, and whether an event was refused. -/
structure Resume where
  lastId : Option Bytes
  dropObserved : Bool
  deriving DecidableEq, Repr

/-- The start of a stream attempt. -/
def Resume.init : Resume := ⟨none, false⟩

/-- The id in force at the end of block `b`. -/
def Resume.idAfter (r : Resume) (b : Block) : Option Bytes := (ownId b).or r.lastId

/-- The event a block with data is offered as. -/
def message (r : Resume) (b : Block) : SSEParsedEvent where
  event := eventName b
  data := joinedData b
  id := (ownId b).getD []
  lastEventId := if r.dropObserved then none else r.idAfter b

section Calls

variable {σ : Type} (callbacks : SSEParserCallbacks σ)

/-- The call a line makes as soon as it is read, `before` being the lines of
its block that precede it. -/
def lineCall (before : Block) (ctx : σ) : BlockLine → σ
  | .oversize => callbacks.callOnError ctx lineTooLong
  | .data v =>
      if !poisoned before && decide (dataSize before + v.length + 1 > sseParserMaxBuffer)
      then callbacks.callOnError ctx dataTooLong else ctx
  | .retry v =>
      if !poisoned before && SSEParser.isRetryValue v
      then callbacks.callOnRetry ctx (SSEParser.clampedRetry v) else ctx
  | _ => ctx

/-- The calls the lines of a block make, in order. -/
def lineCalls (b : Block) (ctx : σ) : σ :=
  (b.foldl (fun s l => (s.1 ++ [l], lineCall callbacks s.1 s.2 l)) (([] : Block), ctx)).2

/-- The call the end of a block makes, and what is remembered after it. -/
def endBlock (r : Resume) (b : Block) (ctx : σ) : Resume × σ :=
  if poisoned b then (r, ctx)
  else if dataValues b = [] then
    ({ r with lastId := r.idAfter b },
      match ownId b with
      | some v => if r.dropObserved then ctx else callbacks.callOnId ctx v
      | none => ctx)
  else
    let (delivered, ctx) := callbacks.callOnEvent ctx (message r b)
    if delivered then ({ r with lastId := r.idAfter b }, ctx)
    else ({ r with dropObserved := true }, ctx)

/-- A whole block: its lines, then its end. -/
def runBlock (s : Resume × σ) (b : Block) : Resume × σ :=
  endBlock callbacks s.1 b (lineCalls callbacks b s.2)

/-- Block after block. -/
def runBlocks (bs : List Block) (s : Resume × σ) : Resume × σ :=
  bs.foldl (runBlock callbacks) s

@[simp] theorem lineCalls_nil (ctx : σ) : lineCalls callbacks [] ctx = ctx := rfl

theorem lineCalls_snoc (b : Block) (l : BlockLine) (ctx : σ) :
    lineCalls callbacks (b ++ [l]) ctx
      = lineCall callbacks b (lineCalls callbacks b ctx) l := by
  have hprefix : ∀ (b : Block) (s : Block × σ),
      (b.foldl (fun s l => (s.1 ++ [l], lineCall callbacks s.1 s.2 l)) s).1 = s.1 ++ b := by
    intro b
    induction b with
    | nil => simp
    | cons l b ih => intro s; rw [List.foldl_cons, ih]; simp
  unfold lineCalls
  rw [List.foldl_append, List.foldl_cons, List.foldl_nil, hprefix]
  rfl

theorem runBlocks_snoc (bs : List Block) (b : Block) (s : Resume × σ) :
    runBlocks callbacks (bs ++ [b]) s = runBlock callbacks (runBlocks callbacks bs s) b := by
  simp [runBlocks]

end Calls

end EventStream

end DefoldSSE
