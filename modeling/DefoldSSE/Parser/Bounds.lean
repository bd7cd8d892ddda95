/-
  DefoldSSE.Parser.Bounds — what the parser holds, and what it offers, are bounded
  by its cap without a message being cut short.

  Two results over every stream, segmentation and pattern of answers:

    • `Bounded` is kept by every byte, so no string of the parser ever exceeds
      `SSE_PARSER_MAX_BUFFER` between two bytes, and the size that a `data:` line
      is tested with is far below the range of `size_t`;
    • the messages offered are those of the blocks that lost no line to a cap,
      each with ALL its `data:` values.
-/
import DefoldSSE.Parser.Recovery

namespace DefoldSSE

open CLib EventStream EventStream.Block

namespace SSEParser

/-! ## §1. The strings of the parser. -/

/-- Every string is within the cap. -/
structure Bounded (p : SSEParser) : Prop where
  line : p.line.length ≤ sseParserMaxBuffer
  data : p.data.length ≤ sseParserMaxBuffer
  event : p.event.length ≤ sseParserMaxBuffer
  id : p.id.length ≤ sseParserMaxBuffer
  idAtBlockStart : p.idAtBlockStart.length ≤ sseParserMaxBuffer

theorem bounded_reset : Bounded reset where
  line := Nat.zero_le _
  data := Nat.zero_le _
  event := Nat.zero_le _
  id := Nat.zero_le _
  idAtBlockStart := Nat.zero_le _

theorem valueOf_length_le (text : Bytes) : (valueOf text).length ≤ text.length := by
  have hrest : ((text.dropWhile (· != COLON)).drop 1).length ≤ text.length := by
    have hdrop := (List.dropWhile_sublist (p := (· != COLON)) (l := text)).length_le
    rw [List.length_drop]
    omega
  unfold valueOf
  simp only
  split
  · rw [List.length_drop]
    omega
  · exact hrest

theorem stripCR_length_le (text : Bytes) : (stripCR text).length ≤ text.length := by
  unfold stripCR
  split
  · rw [List.length_dropLast]
    omega
  · exact Nat.le_refl _

theorem stripBom_length_le (text : Bytes) : (stripBom text).length ≤ text.length := by
  unfold stripBom
  split
  · rw [List.length_drop]
    omega
  · exact Nat.le_refl _

/-- The buffered line as `ProcessLine` will look at it. -/
def readsLine (p : SSEParser) : Bytes := stripCR (if p.firstLine then stripBom p.line else p.line)

theorem readsLine_length_le (p : SSEParser) : p.readsLine.length ≤ p.line.length := by
  unfold readsLine
  split
  · exact Nat.le_trans (stripCR_length_le _) (stripBom_length_le _)
  · exact stripCR_length_le _

/-- `m_Data.size() + value.size() + 1`, were the buffered line a `data:` line. -/
def sizeSum (p : SSEParser) : Nat := p.data.length + (valueOf p.readsLine).length + 1

namespace Bounded

variable {p : SSEParser} (h : Bounded p)
include h

theorem closeBlock : Bounded p.closeBlock where
  line := h.line
  data := Nat.zero_le _
  event := Nat.zero_le _
  id := h.id
  idAtBlockStart := h.id

theorem poisonEvent : Bounded p.poisonEvent where
  line := h.line
  data := Nat.zero_le _
  event := h.event
  id := h.idAtBlockStart
  idAtBlockStart := h.idAtBlockStart

/-- Another line buffer within the cap. -/
theorem withBuffer {line : Bytes} (hline : line.length ≤ sseParserMaxBuffer) (discarding : Bool) :
    Bounded (p.withBuffer line discarding) :=
  { h with line := hline }

theorem dispatch {σ : Type} (callbacks : SSEParserCallbacks σ) (ctx : σ) :
    Bounded (p.dispatch callbacks ctx).1 := by
  cases hp : p.eventPoisoned with
  | true =>
      rw [dispatch_poisoned callbacks p ctx hp]
      exact closeBlock { h with }
  | false =>
      by_cases hd : p.data = []
      · rw [dispatch_checkpoint callbacks p ctx hp hd]
        exact h.closeBlock
      · cases hev : (callbacks.callOnEvent ctx p.parsedEvent).1 with
        | true =>
            rw [dispatch_delivered callbacks p ctx hp hd hev]
            exact h.closeBlock
        | false =>
            rw [dispatch_refused callbacks p ctx hp hd hev]
            exact closeBlock { h with id := h.idAtBlockStart }

/-- A line within the cap leaves strings within the cap: a field takes its value
from the line, and data that would exceed the cap is not appended. -/
theorem processField {σ : Type} (callbacks : SSEParserCallbacks σ) (ctx : σ) {text : Bytes}
    (htext : text.length ≤ sseParserMaxBuffer) :
    Bounded (p.processField text callbacks ctx).1 := by
  have hvalue := Nat.le_trans (valueOf_length_le text) htext
  unfold SSEParser.processField
  split
  · exact h.dispatch callbacks ctx
  split
  · exact h
  split
  · exact h
  simp only
  split
  · split
    · exact h.poisonEvent
    · next hfits =>
        refine { h with data := ?_ }
        simp only [List.length_append, List.length_singleton]
        omega
  split
  · exact { h with event := hvalue }
  split
  · exact { h with id := hvalue }
  split
  · split
    · exact h
    · exact h
  · exact h

/-- **Every byte** keeps the strings within the cap. -/
theorem feedByte {σ : Type} (callbacks : SSEParserCallbacks σ) (ctx : σ) (c : UInt8) :
    Bounded (feedByte callbacks (p, ctx) c).1 := by
  unfold SSEParser.feedByte
  simp only
  split
  · split
    · exact h.withBuffer (Nat.zero_le _) false
    · -- the line that was buffered is processed
      have hread := Nat.le_trans p.readsLine_length_le h.line
      have hfirst : Bounded { p with firstLine := false } := { h with }
      have hprocessed := hfirst.processField callbacks ctx hread
      exact hprocessed.withBuffer (Nat.zero_le _) _
  split
  · exact h
  split
  · have hcleared : Bounded { p with line := [], discardingLine := true } :=
      h.withBuffer (Nat.zero_le _) true
    exact hcleared.poisonEvent
  · next hshort => exact h.withBuffer (Nat.not_lt.mp hshort) p.discardingLine

/-- The size sum is below the range of a 32-bit `size_t`. -/
theorem sizeSum_lt : p.sizeSum < 2 ^ 32 := by
  have hvalue := Nat.le_trans (valueOf_length_le p.readsLine) p.readsLine_length_le
  have hline := h.line
  have hdata := h.data
  unfold sizeSum
  unfold sseParserMaxBuffer at hline hdata
  omega

end Bounded

end SSEParser

/-- In every reachable state the strings are within the cap. -/
theorem Reached.bounded {p : SSEParser} {seen : Bytes} (h : Reached p seen) : p.Bounded := by
  induction h with
  | reset => exact SSEParser.bounded_reset
  | byte _ callbacks ctx c ih => exact ih.feedByte callbacks ctx c

/-! ## §2. The messages. -/

/-- The data of the messages among some calls. -/
def offeredData (calls : List ParserCall) : List Bytes :=
  calls.filterMap (fun | .event event => some event.data | _ => none)

theorem offeredData_append (a b : List ParserCall) :
    offeredData (a ++ b) = offeredData a ++ offeredData b :=
  List.filterMap_append

/-- A block that is offered: it has data, and no line of it was lost to a cap. -/
def EventStream.Block.offered (b : Block) : Bool := !poisoned b && carriesData b

section Offered

variable (answers : List ParserCall → Bool)

theorem lineCalls_offeredData (b : Block) (log : List ParserCall) :
    offeredData (lineCalls (answering answers) b log) = offeredData log := by
  obtain ⟨calls, hcalls, hline, -⟩ := lineCalls_answering answers b log
  have hnone : offeredData calls = [] := by
    apply List.filterMap_eq_nil_iff.mpr
    intro call hcall
    have hof := hline call hcall
    cases call with
    | event e => cases hof
    | _ => rfl
  rw [hcalls, offeredData_append, hnone, List.append_nil]

theorem endBlock_offeredData (r : Resume) (b : Block) (log : List ParserCall) :
    offeredData (endBlock (answering answers) r b log).2
      = offeredData log ++ (if offered b then [joinedData b] else []) := by
  unfold endBlock offered carriesData
  cases hb : poisoned b with
  | true => simp
  | false =>
      rw [if_neg (by simp)]
      by_cases hd : dataValues b = []
      · rw [if_pos hd, hd]
        cases ownId b with
        | none => simp
        | some v => cases r.dropObserved <;>
            simp [answering, SSEParserCallbacks.callOnId, offeredData]
      · rw [if_neg hd]
        have hcarries : (dataValues b).isEmpty = false := by simp [hd]
        rw [hcarries]
        have hoffer : offeredData (log ++ [.event (message r b)])
            = offeredData log ++ [joinedData b] := offeredData_append log _
        -- accepted or refused, the message was offered
        cases hans : answers (log ++ [.event (message r b)]) <;>
          simp [answering, SSEParserCallbacks.callOnEvent, hans, hoffer]

/-- **Block after block**, the offered ones are offered whole. -/
theorem runBlocks_offeredData (bs : List Block) (s : Resume × List ParserCall) :
    offeredData (runBlocks (answering answers) bs s).2
      = offeredData s.2 ++ (bs.filter offered).map joinedData := by
  induction bs using List.reverseRecOn with
  | nil => simp [runBlocks]
  | append_singleton bs b ih =>
    rw [runBlocks_snoc, runBlock, endBlock_offeredData, lineCalls_offeredData, ih,
      List.filter_append, List.map_append, List.append_assoc]
    cases hb : offered b <;> simp [hb]

end Offered

/-- **Bounded buffers, and no truncated payload.**  Between two bytes no string
of the parser exceeds the cap, and the size sum does not wrap.  The messages
offered are those of the blocks with data in which no line was discarded and
none was skipped because of the data cap, and each has all its values. -/
theorem boundedBuffers_wholeMessages :
    (∀ p seen, Reached p seen → p.Bounded ∧ p.sizeSum < 2 ^ 32)
      ∧ ∀ (pieces : List Bytes) (answers : List ParserCall → Bool),
        offeredData (SSEParser.reset.feedAll pieces (answering answers) []).2
            = ((blocks pieces.flatten).filter offered).map joinedData
          ∧ ∀ b ∈ (blocks pieces.flatten).filter offered,
            BlockLine.oversize ∉ b ∧ dataSize b ≤ sseParserMaxBuffer := by
  refine ⟨fun p seen h => ⟨h.bounded, h.bounded.sizeSum_lt⟩, fun pieces answers => ⟨?_, ?_⟩⟩
  · rw [SSEParser.feedAll_eq, SSEParser.feed_stream, lineCalls_offeredData, runBlocks_offeredData]
    rfl
  · intro b hb
    have hoffered := (List.mem_filter.mp hb).2
    unfold offered poisoned at hoffered
    simp only [Bool.and_eq_true, Bool.not_eq_true', Bool.or_eq_false_iff, decide_eq_false_iff_not,
      not_lt, gt_iff_lt] at hoffered
    exact hoffered.1

end DefoldSSE
