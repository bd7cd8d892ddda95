/-
  DefoldSSE.Android.LineCap — which lines the desktop and Android drop.

  `SSEParser::Feed` counts the bytes it pushes and drops a line of more than
  `SSE_PARSER_MAX_BUFFER`; `readStream` looks for the newline among the first
  `MAX_LINE_BYTES` bytes, where the newline of a line of just that many is not.
  `lineCap_iff`: the two caps, which are the same number, drop the same lines of
  a stream exactly if no line has that length.
-/
import DefoldSSE.Android.ReadStream
import DefoldSSE.Parser.Recovery

namespace DefoldSSE

open CLib EventStream Okio

/-! ## §1. What `Feed` hands on. -/

namespace SSEParser

/-- The line that an iteration of `Feed` hands to `ProcessLine`, or poisons. -/
def feedLine (p : SSEParser) (c : UInt8) : Option LineItem :=
  if c = LF then if p.discardingLine then none else some (.line p.line)
  else if p.discardingLine then none
  else if (p.line ++ [c]).length > sseParserMaxBuffer then some .oversize
  else none

section Trace

variable {σ : Type} (callbacks : SSEParserCallbacks σ)

/-- The lines of a call of `Feed`, in their order. -/
def feedTrace (s : SSEParser × σ) : Bytes → List LineItem
  | [] => []
  | c :: bytes => (feedLine s.1 c).toList ++ feedTrace (feedByte callbacks s c) bytes

/-- An iteration does what its line does, and nothing without one. -/
theorem feedByte_feedLine (p : SSEParser) (ctx : σ) (c : UInt8) :
    (feedByte callbacks (p, ctx) c).2
      = match feedLine p c with
        | some item => (feedItem callbacks (p, ctx) item).2
        | none => ctx := by
  unfold feedByte feedLine
  dsimp only
  by_cases hc : c = LF
  · rw [if_pos hc, if_pos hc]
    cases p.discardingLine with
    | true => rfl
    | false => rfl
  · rw [if_neg hc, if_neg hc]
    cases p.discardingLine with
    | true => rfl
    | false =>
        by_cases hlong : (p.line ++ [c]).length > sseParserMaxBuffer
        · simp only [Bool.false_eq_true, if_false, if_pos hlong]
          rfl
        · simp only [Bool.false_eq_true, if_false, if_neg hlong]

theorem feedTrace_snoc (s : SSEParser × σ) (bytes : Bytes) (c : UInt8) :
    feedTrace callbacks s (bytes ++ [c])
      = feedTrace callbacks s bytes ++ (feedLine (s.1.feed bytes callbacks s.2).1 c).toList := by
  induction bytes generalizing s with
  | nil => exact List.append_nil _
  | cons x bytes ih =>
      rw [List.cons_append, feedTrace, feedTrace, ih, List.append_assoc]
      rfl

/-- With the unfinished line in its buffer, the parser hands on the lines that
the next byte completes. -/
theorem feedLine_withBuffer (p : SSEParser) (bytes : Bytes) (c : UInt8) :
    (feedLine (p.withBuffer (lineBuffer bytes) (discarding bytes)) c).toList
      = newItems bytes c := by
  unfold feedLine newItems
  show (if c = LF then if discarding bytes then none else some (.line (lineBuffer bytes))
    else if discarding bytes then none
    else if (lineBuffer bytes ++ [c]).length > sseParserMaxBuffer then some LineItem.oversize
    else none).toList = _
  cases hd : discarding bytes with
  | true => split <;> simp
  | false =>
      have hline : lineBuffer bytes = (cut LF bytes).2 := by simp [lineBuffer, hd]
      rw [hline]
      by_cases hc : c = LF
      · simp [hc]
      · have hlong : discarding (bytes ++ [c]) = true
            ↔ ((cut LF bytes).2 ++ [c]).length > sseParserMaxBuffer := by
          unfold discarding
          rw [cut_snoc_ne LF bytes hc, decide_eq_true_iff]
        simp only [if_neg hc, Bool.false_eq_true, if_false, true_and, hlong]
        split
        · rfl
        · rfl

/-- **The lines that `Feed` hands on** are the lines of the stream. -/
theorem feedTrace_eq (p : SSEParser) (ctx : σ) (bytes : Bytes) :
    feedTrace callbacks (p.withBuffer [] false, ctx) bytes = lineItems bytes := by
  induction bytes using List.reverseRecOn with
  | nil => rfl
  | append_singleton bytes c ih =>
      rw [feedTrace_snoc, ih, lineItems_snoc, feed_lines, feedLine_withBuffer]

end Trace

end SSEParser

/-! ## §2. The two caps. -/

/-- The two drop a line alike, unless it is as long as the cap. -/
theorem capped_eq_androidCapped_iff (line : Bytes) :
    androidCapped line = capped line ↔ line.length ≠ sseParserMaxBuffer := by
  have hsame : maxLineBytes = sseParserMaxBuffer := rfl
  unfold androidCapped capped
  rw [hsame]
  by_cases hshort : line.length < sseParserMaxBuffer
  · rw [if_pos hshort, if_neg (by omega)]
    exact iff_of_true rfl (by omega)
  · rw [if_neg hshort]
    by_cases hlong : line.length > sseParserMaxBuffer
    · rw [if_pos hlong]
      exact iff_of_true rfl (by omega)
    · rw [if_neg hlong]
      exact iff_of_false LineItem.noConfusion (by omega)

/-- A stream that ends in a newline, or is empty, has no last line without one. -/
theorem cut_ended {bytes : Bytes} (h : bytes = [] ∨ bytes.getLast? = some LF) :
    (cut LF bytes).2 = [] := by
  rcases h with rfl | h
  · rfl
  · obtain ⟨before, rfl⟩ := List.getLast?_eq_some_iff.mp h
    rw [cut_snoc_self]

/-- **THE LINE CAP IS THE SAME, AND WHEN.** On a stream whose lines all end,
`readStream` processes and poisons the same lines as `Feed`, in the same order,
exactly if none has as many bytes as the cap; whatever the source buffers. -/
theorem lineCap_iff {bytes : Bytes} (hended : bytes = [] ∨ bytes.getLast? = some LF)
    {σ : Type} (callbacks : SSEParserCallbacks σ) (ctx : σ) (readUtf8 : Bytes → Utf16)
    (stream : SseStream) {s : BufferedSource UInt8} (hs : s.remaining = bytes) :
    (∃ loop t, readStream readUtf8 ⟨stream, []⟩ s = some (loop, t)
        ∧ loop.items = SSEParser.feedTrace callbacks (.reset, ctx) bytes)
      ↔ ∀ line ∈ (cut LF bytes).1, line.length ≠ sseParserMaxBuffer := by
  obtain ⟨t, hread, -, -⟩ := readStream_eq readUtf8 ⟨stream, []⟩ s
  rw [hs] at hread
  have hempty := cut_ended hended
  have hdesktop : SSEParser.feedTrace callbacks (.reset, ctx) bytes
      = (cut LF bytes).1.map capped := by
    show SSEParser.feedTrace callbacks (SSEParser.reset.withBuffer [] false, ctx) bytes = _
    rw [SSEParser.feedTrace_eq, lineItems, hempty]
    exact List.append_nil _
  have handroid : androidItems bytes = (cut LF bytes).1.map androidCapped := by
    rw [androidItems, hempty]
    exact List.append_nil _
  have hsame : androidItems bytes = SSEParser.feedTrace callbacks (.reset, ctx) bytes
      ↔ ∀ line ∈ (cut LF bytes).1, line.length ≠ sseParserMaxBuffer := by
    rw [hdesktop, handroid, List.map_inj_left]
    exact forall₂_congr (fun line _ => capped_eq_androidCapped_iff line)
  rw [← hsame, hread]
  constructor
  · intro h
    obtain ⟨loop, t', hloop, hitems⟩ := h
    obtain ⟨rfl, -⟩ := Prod.mk.inj (Option.some.inj hloop)
    exact hitems
  · intro h
    exact ⟨_, t, rfl, h⟩

/-- A short line, from a source that buffers one byte. -/
theorem lineCap_iff_short :
    ∃ loop t, readStream widen ⟨.start true 3000 [] fun _ => true, []⟩
          ⟨ascii "data: a" ++ [LF], 1, fun _ => 0, by decide⟩ = some (loop, t)
        ∧ loop.items
          = SSEParser.feedTrace (answering fun _ => true) (.reset, []) (ascii "data: a" ++ [LF]) :=
  (lineCap_iff (.inr (by decide)) _ _ _ _ rfl).mpr (by decide)

/-- A stream of one line. -/
theorem cut_one {line : Bytes} (h : LF ∉ line) : cut LF (line ++ [LF]) = ([line], []) :=
  cut_append_cons h []

/-- A line of as many bytes as the cap: the desktop processes it, Android drops
it. -/
theorem lineCap_exact :
    SSEParser.feedTrace (answering fun _ => true) (.reset, [])
        (List.replicate sseParserMaxBuffer 97 ++ [LF])
        = [.line (List.replicate sseParserMaxBuffer 97)]
      ∧ ¬ ∀ bytes : Bytes, bytes.getLast? = some LF → AsciiText bytes →
          ∀ s : BufferedSource UInt8, s.remaining = bytes →
          ∃ loop t, readStream widen ⟨.start true 3000 [] fun _ => true, []⟩ s = some (loop, t)
            ∧ loop.items = SSEParser.feedTrace (answering fun _ => true) (.reset, []) bytes := by
  have hlength : (List.replicate sseParserMaxBuffer (97 : UInt8)).length = sseParserMaxBuffer :=
    List.length_replicate
  have hascii : AsciiText (List.replicate sseParserMaxBuffer 97 ++ [LF]) := by
    intro c hc
    rcases List.mem_append.mp hc with hc | hc
    · rw [List.eq_of_mem_replicate hc]
      decide
    · rw [List.mem_singleton.mp hc]
      decide
  have hline : LF ∉ List.replicate sseParserMaxBuffer (97 : UInt8) := by
    intro hmem
    exact absurd (List.eq_of_mem_replicate hmem) (by decide)
  generalize List.replicate sseParserMaxBuffer (97 : UInt8) = line at hlength hascii hline ⊢
  have hcut := cut_one hline
  refine ⟨?_, fun hall => ?_⟩
  · show SSEParser.feedTrace _ (SSEParser.reset.withBuffer [] false, []) (line ++ [LF]) = _
    rw [SSEParser.feedTrace_eq, lineItems, hcut]
    show [capped line] = _
    unfold capped
    rw [if_neg (by omega)]
  · have hlast : (line ++ [LF]).getLast? = some LF := List.getLast?_concat
    have hsame := hall (line ++ [LF]) hlast hascii
      ⟨line ++ [LF], 0, fun _ => 0, Nat.zero_le _⟩ rfl
    have hnone := (lineCap_iff (.inr hlast) _ _ _ _ rfl).mp hsame
    rw [hcut] at hnone
    exact hnone line (List.mem_singleton_self line) hlength

end DefoldSSE
