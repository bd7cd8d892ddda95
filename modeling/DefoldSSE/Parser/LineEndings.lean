/-
  DefoldSSE.Parser.LineEndings — LF, CRLF and a lone CR.

  `ProcessLine` drops one CR in front of the LF at which `Feed` cut, so each line
  of a stream may end in LF or in CRLF and reads the same (`streamLines_text`).
  Nothing in the parser looks for a CR by itself: lines that end in a lone CR are
  one unfinished line (`streamCalls_of_no_LF`).
-/
import DefoldSSE.Parser.Recovery

namespace DefoldSSE

open CLib EventStream EventStream.Block

/-! ## §1. Lines and their ends. -/

inductive LineEnd where
  | lf
  | crlf
  deriving DecidableEq, Repr

/-- What stands between the line and its LF. -/
def LineEnd.beforeLF : LineEnd → Bytes
  | .lf => []
  | .crlf => [CR]

/-- Lines, each with its own end. -/
def text (lines : List (Bytes × LineEnd)) : Bytes :=
  lines.flatMap (fun l => l.1 ++ l.2.beforeLF ++ [LF])

/-- A line of text. -/
def SingleLine (line : Bytes) : Prop := CR ∉ line ∧ LF ∉ line

/-- The text is cut at the ends of its lines. -/
theorem cut_text {lines : List (Bytes × LineEnd)} (h : ∀ l ∈ lines, SingleLine l.1) :
    cut LF (text lines) = (lines.map (fun l => l.1 ++ l.2.beforeLF), []) := by
  refine cut_eq_iff.mpr ⟨?_, ?_, List.not_mem_nil⟩
  · rw [List.append_nil, List.flatMap_map]
    rfl
  · intro item hitem hmem
    obtain ⟨l, hl, rfl⟩ := List.mem_map.mp hitem
    rcases List.mem_append.mp hmem with hmem | hmem
    · exact (h l hl).2 hmem
    · revert hmem
      cases l.2 <;> decide

/-! ## §2. What is read of them. -/

theorem stripCR_lineEnd {line : Bytes} (h : CR ∉ line) (e : LineEnd) :
    SSEParser.stripCR (line ++ e.beforeLF) = line := by
  cases e with
  | lf =>
      rw [LineEnd.beforeLF, List.append_nil]
      exact stripCR_eq_iff.mpr (.inr ⟨rfl, fun hlast => h (List.mem_of_getLast? hlast)⟩)
  | crlf => exact stripCR_eq_iff.mpr (.inl rfl)

/-- The bytes of a BOM are not taken from the line's end. -/
theorem stripBom_lineEnd (line : Bytes) (e : LineEnd) :
    SSEParser.stripBom (line ++ e.beforeLF) = SSEParser.stripBom line ++ e.beforeLF := by
  cases e with
  | lf => simp [LineEnd.beforeLF]
  | crlf =>
      -- the CR is none of the three bytes, so it cannot complete them either
      have hCR : CR ≠ 0xBF := by decide
      unfold SSEParser.stripBom
      match line with
      | [] => rfl
      | [a] => simp [LineEnd.beforeLF]
      | [a, b] => simp [LineEnd.beforeLF, hCR]
      | a :: b :: c :: rest =>
          simp only [List.cons_append, List.take_succ_cons, List.take_zero, List.drop_succ_cons,
            List.drop_zero]
          split <;> rfl

theorem mem_stripBom {line : Bytes} (h : CR ∉ line) : CR ∉ SSEParser.stripBom line :=
  fun hmem => h (mem_of_mem_stripBom hmem)

/-- The lines as they are read: the first one without a BOM. -/
def withoutBom : List Bytes → List Bytes
  | [] => []
  | first :: rest => SSEParser.stripBom first :: rest

theorem readItems_text {lines : List (Bytes × LineEnd)} (h : ∀ l ∈ lines, SingleLine l.1) :
    readItems true (lines.map (fun l => LineItem.line (l.1 ++ l.2.beforeLF)))
      = (withoutBom (lines.map Prod.fst)).map classify := by
  have hrest : ∀ lines : List (Bytes × LineEnd), (∀ l ∈ lines, SingleLine l.1) →
      (lines.map (fun l => l.1 ++ l.2.beforeLF)).map SSEParser.stripCR = lines.map Prod.fst := by
    intro lines h
    rw [List.map_map]
    apply List.map_congr_left
    intro l hl
    exact stripCR_lineEnd (h l hl).1 l.2
  have hlines : lines.map (fun l => LineItem.line (l.1 ++ l.2.beforeLF))
      = (lines.map (fun l => l.1 ++ l.2.beforeLF)).map LineItem.line := by
    rw [List.map_map]
    rfl
  rw [hlines, Reference.readItems_lines]
  cases lines with
  | nil => rfl
  | cons l lines =>
      have hfirst : SSEParser.stripCR (SSEParser.stripBom (l.1 ++ l.2.beforeLF))
          = SSEParser.stripBom l.1 := by
        rw [stripBom_lineEnd, stripCR_lineEnd (mem_stripBom (h l List.mem_cons_self).1)]
      simp only [List.map_cons, if_true, withoutBom, hfirst,
        hrest lines (fun l' hl' => h l' (List.mem_cons_of_mem l hl'))]

/-- **What is read of a text** within the cap does not depend on the ends of its
lines. -/
theorem streamLines_text {lines : List (Bytes × LineEnd)} (h : ∀ l ∈ lines, SingleLine l.1)
    (hcap : ∀ l ∈ lines, (l.1 ++ l.2.beforeLF).length ≤ sseParserMaxBuffer) :
    streamLines (text lines) = (withoutBom (lines.map Prod.fst)).map classify := by
  have hitems : lineItems (text lines)
      = lines.map (fun l => LineItem.line (l.1 ++ l.2.beforeLF)) := by
    rw [lineItems, cut_text h, List.map_map]
    simp only [List.length_nil, Nat.not_lt_zero, gt_iff_lt, if_false, List.append_nil]
    apply List.map_congr_left
    intro l hl
    show capped (l.1 ++ l.2.beforeLF) = _
    rw [capped, if_neg (Nat.not_lt.mpr (hcap l hl))]
  rw [streamLines, hitems, readItems_text h]

/-! ## §3. The three ends. -/

/-- The lines, each ended by a lone CR. -/
def loneCRText (lines : List Bytes) : Bytes := lines.flatMap (fun line => line ++ [CR])

/-- The calls of a fresh parser on a stream. -/
def streamCalls (answers : List ParserCall → Bool) (bytes : Bytes) : List ParserCall :=
  (SSEParser.reset.feed bytes (answering answers) []).2

/-- A stream without LF is one unfinished line. -/
theorem streamCalls_of_no_LF (answers : List ParserCall → Bool) {bytes : Bytes}
    (h : LF ∉ bytes) :
    streamCalls answers bytes
      = if bytes.length > sseParserMaxBuffer then [.error lineTooLong] else [] := by
  have hitems : lineItems bytes
      = if bytes.length > sseParserMaxBuffer then [.oversize] else [] := by
    rw [lineItems, cut_of_not_mem h]
    rfl
  unfold streamCalls
  rw [SSEParser.feed_stream, pendingBlock, blocks, streamLines, hitems]
  split <;> rfl

/-- **LF and CRLF are the same to the parser**, with any queue answers: the calls
are the same, in the same order.  A lone CR ends no line: it is part of one that
does not end, and all there can be is an error about its length. -/
theorem lineEndings (answers : List ParserCall → Bool) {lines : List Bytes}
    (hlines : ∀ line ∈ lines, SingleLine line)
    (hcap : ∀ line ∈ lines, line.length + 1 ≤ sseParserMaxBuffer) :
    streamCalls answers (text (lines.map (·, .crlf)))
        = streamCalls answers (text (lines.map (·, .lf)))
      ∧ ∀ call ∈ streamCalls answers (loneCRText lines), call = .error lineTooLong := by
  have hsingle : ∀ e : LineEnd, ∀ l ∈ lines.map (·, e), SingleLine l.1 := by
    intro e l hl
    obtain ⟨line, hline, rfl⟩ := List.mem_map.mp hl
    exact hlines line hline
  have hfits : ∀ e : LineEnd, ∀ l ∈ lines.map (·, e),
      (l.1 ++ l.2.beforeLF).length ≤ sseParserMaxBuffer := by
    intro e l hl
    obtain ⟨line, hline, rfl⟩ := List.mem_map.mp hl
    have hline := hcap line hline
    rw [List.length_append]
    cases e with
    | lf =>
        show line.length + 0 ≤ sseParserMaxBuffer
        omega
    | crlf =>
        show line.length + 1 ≤ sseParserMaxBuffer
        omega
  have hread : ∀ e : LineEnd, streamLines (text (lines.map (·, e)))
      = (withoutBom lines).map classify := by
    intro e
    rw [streamLines_text (hsingle e) (hfits e), List.map_map]
    show (withoutBom (lines.map id)).map classify = _
    rw [List.map_id]
  refine ⟨?_, ?_⟩
  · unfold streamCalls
    rw [SSEParser.feed_stream, SSEParser.feed_stream, pendingBlock, blocks, pendingBlock, blocks,
      hread, hread]
  · -- `Feed` cuts at LF only, so this is the start of one line
    have hnoLF : LF ∉ loneCRText lines := by
      intro hmem
      obtain ⟨line, hline, hmem⟩ := List.mem_flatMap.mp hmem
      rcases List.mem_append.mp hmem with hmem | hmem
      · exact (hlines line hline).2 hmem
      · revert hmem
        decide
    rw [streamCalls_of_no_LF answers hnoLF]
    intro call hcall
    split at hcall
    · exact List.mem_singleton.mp hcall
    · cases hcall

/-- One message, whose lines end in CRLF. -/
theorem lineEndings_message :
    streamCalls (fun _ => true) (text ([ascii "data: x", []].map (·, .crlf)))
        = streamCalls (fun _ => true) (text ([ascii "data: x", []].map (·, .lf)))
      ∧ ∀ call ∈ streamCalls (fun _ => true) (loneCRText [ascii "data: x", []]),
        call = .error lineTooLong :=
  lineEndings (fun _ => true) (by unfold SingleLine; decide) (by decide)

/-- With lone CRs the same lines are no message. -/
theorem loneCR_loses_message :
    streamCalls (fun _ => true) (text ([ascii "data: x", []].map (·, .lf)))
        = [.event ⟨ascii "message", ascii "x", [], none⟩]
      ∧ streamCalls (fun _ => true) (loneCRText [ascii "data: x", []]) = [] := by
  decide

end DefoldSSE
