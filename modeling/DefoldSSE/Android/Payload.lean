/-
  DefoldSSE.Android.Payload — which texts survive the Android adapter.

  A `data:` line is decoded to UTF-16, handed through the parser, and encoded
  again by JNI: as modified UTF-8, which writes a character beyond the basic
  plane as its two surrogates.
-/
import DefoldSSE.Android.Parser

namespace DefoldSSE

open CLib

/-! ## §1. A data line. -/

/-- A `data:` line as a server writes it, with a value that holds no NUL and no
line end.  Without a blank after the colon the value does not start with one. -/
structure DataLine where
  blank : Bool
  value : List Char
  cr : Bool
  nul : '\x00' ∉ value
  noCR : '\r' ∉ value
  noLF : '\n' ∉ value
  lead : blank = false → value.head? ≠ some ' '

/-- The CR of a line end. -/
def crEnd (cr : Bool) : List Char := if cr then ['\r'] else []

/-- The text up to the LF. -/
def DataLine.text (l : DataLine) : List Char :=
  "data:".toList ++ (if l.blank then [' '] else []) ++ l.value ++ crEnd l.cr

theorem stripCR_crEnd {text : List Char} (h : '\r' ∉ text) (cr : Bool) :
    SseParser.stripCR (utf16 (text ++ crEnd cr)) = utf16 text := by
  unfold SseParser.stripCR
  cases cr with
  | true =>
      have hsplit : utf16 (text ++ crEnd true) = utf16 text ++ [13] := utf16_append _ _
      rw [hsplit, List.getLast?_concat, if_pos rfl, List.dropLast_concat]
  | false =>
      show (if (utf16 (text ++ [])).getLast? = some 13 then _ else utf16 (text ++ [])) = _
      rw [List.append_nil, if_neg]
      intro hlast
      exact h (mem_of_mem_utf16 (c := '\r') (by decide) (List.mem_of_getLast? hlast))

theorem fieldOf_data (value : Utf16) : SseParser.fieldOf (units "data:" ++ value) = units "data" :=
  rfl

/-- The value of the line is the value that was sent. -/
theorem valueOf_data (l : DataLine) :
    SseParser.valueOf
      (units "data:" ++ utf16 ((if l.blank then [' '] else []) ++ l.value)) = utf16 l.value := by
  show (if (utf16 ((if l.blank then [' '] else []) ++ l.value)).head? = some 32 then
    (utf16 ((if l.blank then [' '] else []) ++ l.value)).drop 1
    else utf16 ((if l.blank then [' '] else []) ++ l.value)) = utf16 l.value
  cases hblank : l.blank with
  | true => rfl
  | false =>
      rw [if_neg Bool.false_ne_true, List.nil_append, if_neg]
      intro hhead
      exact l.lead hblank (utf16_head? (c := ' ') (by decide) hhead)

/-- What `nativeOnMessage` passes to `SSE_EnqueueMessage` as data. -/
def pushedData (handle : Int) (calls : List NativeCall) : List CString :=
  calls.filterMap (fun c => (c.pushed handle).bind SSEEvent.data)

namespace SseStream

variable {s : SseStream}

/-- The parser takes the value of a `data:` line that fits. -/
theorem processLine_data (hpoisoned : s.parser.eventPoisoned = false) (l : DataLine)
    (hcap : s.parser.data.length + (utf16 l.value).length + 1 ≤ maxDataChars) :
    s.processLine (utf16 l.text)
      = s.setParser
          { s.parser with firstLine := false, data := s.parser.data ++ utf16 l.value ++ [10] } := by
  have htext : l.text = ("data:".toList ++ ((if l.blank then [' '] else []) ++ l.value))
      ++ crEnd l.cr := by
    unfold DataLine.text
    rw [List.append_assoc "data:".toList]
  have hcr : '\r' ∉ "data:".toList ++ ((if l.blank then [' '] else []) ++ l.value) := by
    intro hmem
    rcases List.mem_append.mp hmem with hmem | hmem
    · exact absurd hmem (by decide)
    · rcases List.mem_append.mp hmem with hmem | hmem
      · split at hmem
        · exact absurd hmem (by decide)
        · cases hmem
      · exact l.noCR hmem
  have hbom : SseParser.stripBom (utf16 l.text) = utf16 l.text := rfl
  have hstrip : SseParser.stripCR (utf16 l.text)
      = units "data:" ++ utf16 ((if l.blank then [' '] else []) ++ l.value) := by
    rw [htext, stripCR_crEnd hcr]
    exact utf16_append _ _
  have hlength : ¬ (units "data:" ++ utf16 ((if l.blank then [' '] else []) ++ l.value)).length = 0 := by
    intro h
    cases h
  have hhead : (units "data:" ++ utf16 ((if l.blank then [' '] else []) ++ l.value)).head?
      ≠ some 58 := by
    show some (100 : UInt16) ≠ some 58
    decide
  show (s.setParser { s.parser with firstLine := false }).processField
    (SseParser.stripCR (if s.parser.firstLine then SseParser.stripBom (utf16 l.text)
      else utf16 l.text)) = _
  rw [hbom, ite_self, hstrip]
  simp only [processField, if_neg hlength, if_neg hhead, setParser, hpoisoned, fieldOf_data,
    valueOf_data, if_true, Bool.false_eq_true, if_false, if_neg (Nat.not_lt.mpr hcap)]

/-- A blank line offers the data it ends, less the last LF. -/
theorem pushedData_blank (handle : Int) (hpoisoned : s.parser.eventPoisoned = false)
    (hdata : s.parser.data ≠ []) (cr : Bool) :
    pushedData handle (s.processLine (utf16 (crEnd cr))).calls
      = pushedData handle s.calls ++ [getStringUTFChars s.parser.data.dropLast] := by
  have hbom : SseParser.stripBom (utf16 (crEnd cr)) = utf16 (crEnd cr) := by
    cases cr <;> rfl
  have hstrip : SseParser.stripCR (utf16 (crEnd cr)) = [] :=
    @stripCR_crEnd [] List.not_mem_nil cr
  have hlength : ¬ s.parser.data.length = 0 := fun h => hdata (List.length_eq_zero_iff.mp h)
  have hcommit (s : SseStream) (p : SseParser) :
      pushedData handle (s.commitPending p).calls = pushedData handle s.calls := by
    have hquiet (id : Utf16) :
        pushedData handle (s.calls ++ [.onLastEventId id]) = pushedData handle s.calls := by
      unfold pushedData
      rw [List.filterMap_append]
      exact List.append_nil _
    unfold commitPending
    split
    · split
      · rfl
      · exact hquiet _
    · rfl
  have hoffer (s : SseStream) (p : SseParser) (enqueued : Bool) :
      pushedData handle (s.call (offer p enqueued)).calls
        = pushedData handle s.calls ++ [getStringUTFChars p.data.dropLast] := by
    show pushedData handle (s.calls ++ [offer p enqueued]) = _
    unfold pushedData
    rw [List.filterMap_append]
    rfl
  show pushedData handle ((s.setParser { s.parser with firstLine := false }).processField
    (SseParser.stripCR (if s.parser.firstLine then SseParser.stripBom (utf16 (crEnd cr))
      else utf16 (crEnd cr)))).calls = _
  rw [hbom, ite_self, hstrip]
  show pushedData handle (s.setParser { s.parser with firstLine := false }).dispatch.calls = _
  -- the message is offered first, whatever the answer is
  rw [dispatch_message (s.setParser { s.parser with firstLine := false })
    (Bool.eq_false_iff.mp hpoisoned) hlength rfl]
  split
  · exact (hcommit ..).trans (hoffer ..)
  · exact hoffer ..

end SseStream

/-! ## §2. The payload. -/

variable {readUtf8 : Bytes → Utf16} (hread : ∀ text, readUtf8 (utf8 text) = utf16 text)

include hread

/-- A data line and a blank line pass the value, as JNI encodes it. -/
theorem pushedData_dataLine (handle : Int) {s : SseStream}
    (hpoisoned : s.parser.eventPoisoned = false) (hdata : s.parser.data = []) {line : DataLine}
    (hcap : (utf8 line.text).length < maxLineBytes) (cr : Bool) :
    pushedData handle
        ((s.readLine readUtf8 (utf8 line.text)).readLine readUtf8 (utf8 (crEnd cr))).calls
      = pushedData handle s.calls ++ [getStringUTFChars (utf16 line.value)] := by
  have hfits : s.parser.data.length + (utf16 line.value).length + 1 ≤ maxDataChars := by
    have hvalue := utf16_length_le line.value
    have htext : (utf8 line.text).length = 5 + (utf8 (if line.blank then [' '] else [])).length
        + (utf8 line.value).length + (utf8 (crEnd line.cr)).length := by
      unfold DataLine.text
      rw [utf8_append, utf8_append, utf8_append, List.length_append, List.length_append,
        List.length_append]
      rfl
    rw [hdata]
    show 0 + (utf16 line.value).length + 1 ≤ 1024 * 1024
    unfold maxLineBytes at hcap
    omega
  have hdataLine : s.readLine readUtf8 (utf8 line.text)
      = s.setParser { s.parser with firstLine := false, data := utf16 line.value ++ [10] } := by
    unfold SseStream.readLine
    rw [hread, SseStream.processLine_data hpoisoned line hfits, hdata]
    rfl
  rw [hdataLine]
  unfold SseStream.readLine
  rw [hread, SseStream.pushedData_blank handle (by exact hpoisoned) (by simp [SseStream.setParser])]
  show _ ++ [getStringUTFChars (utf16 line.value ++ [10]).dropLast] = _
  rw [List.dropLast_concat]
  rfl

/-- **A data line's value reaches the queue as its UTF-8 bytes exactly when it
has no character beyond the basic plane.** -/
theorem payload_preserved_iff (handle : Int) (s : SseStream)
    (hpoisoned : s.parser.eventPoisoned = false) (hdata : s.parser.data = []) (line : DataLine)
    (hcap : (utf8 line.text).length < maxLineBytes) (cr : Bool) :
    (pushedData handle
        ((s.readLine readUtf8 (utf8 line.text)).readLine readUtf8 (utf8 (crEnd cr))).calls).map
        CString.bytes
      = (pushedData handle s.calls).map CString.bytes ++ [utf8 line.value]
    ↔ ∀ c ∈ line.value, c.toNat < 0x10000 := by
  rw [pushedData_dataLine hread handle hpoisoned hdata hcap, List.map_append,
    List.append_cancel_left_eq]
  show [(getStringUTFChars (utf16 line.value)).bytes] = [utf8 line.value] ↔ _
  rw [List.cons.injEq, and_iff_left rfl, getStringUTFChars_bytes, modifiedUtf8_utf16_eq_iff]
  constructor
  · exact fun h c hc => (h c hc).2
  · intro h c hc
    refine ⟨fun hzero => line.nul ?_, h c hc⟩
    have hnul : c = '\x00' := by rw [← Char.ofNat_toNat c, hzero]
    rw [← hnul]
    exact hc

omit hread

/-- `data: é€` arrives as it was sent. -/
theorem payload_preserved_twoChars :
    (pushedData 1
        (((SseStream.start true 3000 [] (fun _ => true)).readLine
            (fun bytes => utf16 (utf8Chars bytes)) (utf8 "data: é€".toList)).readLine
          (fun bytes => utf16 (utf8Chars bytes)) (utf8 [])).calls).map CString.bytes
      = [[0xC3, 0xA9, 0xE2, 0x82, 0xAC]] :=
  (payload_preserved_iff (fun text => by rw [utf8Chars_utf8]) 1 _ rfl rfl
      { blank := true, value := ['é', '€'], cr := false, nul := by decide, noCR := by decide,
        noLF := by decide, lead := by decide } (by decide) false).mpr (by simp)

/-- `data: 😀` arrives as two surrogates of three bytes each. -/
theorem payload_changed :
    (pushedData 1
        (((SseStream.start true 3000 [] (fun _ => true)).readLine
            (fun bytes => utf16 (utf8Chars bytes)) (utf8 "data: 😀".toList)).readLine
          (fun bytes => utf16 (utf8Chars bytes)) (utf8 [])).calls).map CString.bytes
      = [[0xED, 0xA0, 0xBD, 0xED, 0xB8, 0x80]] ∧
    [[0xED, 0xA0, 0xBD, 0xED, 0xB8, 0x80]] ≠ [utf8 ['😀']] := by
  refine ⟨?_, by decide⟩
  have hpushed := @pushedData_dataLine (fun bytes => utf16 (utf8Chars bytes))
    (fun text => by rw [utf8Chars_utf8]) 1 (.start true 3000 [] (fun _ => true)) rfl rfl
    { blank := true, value := ['😀'], cr := false, nul := by decide, noCR := by decide,
      noLF := by decide, lead := by decide } (by decide) false
  refine (congrArg (List.map CString.bytes) hpushed).trans ?_
  decide

end DefoldSSE
