/-
  DefoldSSE.Android.Lines — on ASCII lines `SseParser` is a `LineReader`.

  §1 carries the string functions over from bytes to code units.  §2 relates the
  fields of a parser that keeps its ids in nullable strings to the reader's; the
  HTML5 client has the same fields and uses the same lemmas.
-/
import DefoldSSE.Android.Parser
import DefoldSSE.Parser.Lines

namespace DefoldSSE

open CLib EventStream

/-! ## §1. Bytes as code units. -/

theorem toUInt16_bne (c d : UInt8) : (c.toUInt16 != d.toUInt16) = (c != d) := by
  by_cases h : c = d
  · rw [h, bne_self_eq_false, bne_self_eq_false]
  · rw [bne_iff_ne.mpr h, bne_iff_ne]
    exact fun hc => h (toUInt16_injective hc)

namespace SseParser

theorem fieldOf_widen (text : Bytes) :
    fieldOf (widen text) = widen (SSEParser.fieldOf text) := by
  unfold fieldOf widen SSEParser.fieldOf
  rw [List.takeWhile_map]
  congr 2
  funext c
  exact toUInt16_bne c COLON

theorem head?_widen (text : Bytes) (c : UInt8) :
    (widen text).head? = some c.toUInt16 ↔ text.head? = some c := by
  unfold widen
  rw [List.head?_map, Option.map_eq_some_iff]
  constructor
  · rintro ⟨d, hd, heq⟩
    rw [hd, toUInt16_injective heq]
  · exact fun h => ⟨c, h, rfl⟩

theorem getLast?_widen (text : Bytes) (c : UInt8) :
    (widen text).getLast? = some c.toUInt16 ↔ text.getLast? = some c := by
  unfold widen
  rw [List.getLast?_map, Option.map_eq_some_iff]
  constructor
  · rintro ⟨d, hd, heq⟩
    rw [hd, toUInt16_injective heq]
  · exact fun h => ⟨c, h, rfl⟩

theorem valueOf_widen (text : Bytes) :
    valueOf (widen text) = widen (SSEParser.valueOf text) := by
  have hdrop : ((widen text).dropWhile (· != 58)).drop 1
      = widen ((text.dropWhile (· != COLON)).drop 1) := by
    unfold widen
    rw [List.dropWhile_map, List.map_drop]
    congr 3
    funext c
    exact toUInt16_bne c COLON
  have hlead (value : Bytes) : (widen value).head? = some 32 ↔ value.head? = some SP :=
    head?_widen value SP
  unfold valueOf SSEParser.valueOf
  simp only [hdrop]
  by_cases hsp : ((text.dropWhile (· != COLON)).drop 1).head? = some SP
  · rw [if_pos hsp, if_pos ((hlead _).mpr hsp)]
    exact List.map_drop.symm
  · rw [if_neg hsp, if_neg (fun h => hsp ((hlead _).mp h))]

theorem stripCR_widen (text : Bytes) :
    stripCR (widen text) = widen (SSEParser.stripCR text) := by
  have hlast : (widen text).getLast? = some 13 ↔ text.getLast? = some CR :=
    getLast?_widen text CR
  unfold stripCR SSEParser.stripCR
  by_cases hcr : text.getLast? = some CR
  · rw [if_pos hcr, if_pos (hlast.mpr hcr)]
    exact List.map_dropLast.symm
  · rw [if_neg hcr, if_neg (fun h => hcr (hlast.mp h))]

/-- No byte is a BOM. -/
theorem stripBom_widen (text : Bytes) : stripBom (widen text) = widen text := by
  unfold stripBom
  rw [if_neg]
  unfold widen
  rw [List.head?_map, Option.map_eq_some_iff]
  rintro ⟨c, -, hc⟩
  have hc := congrArg UInt16.toNat hc
  have hlt := c.toNat_lt
  rw [UInt8.toNat_toUInt16] at hc
  have hc : c.toNat = 0xFEFF := hc
  omega

/-- Among the ASCII characters only `0` to `9` are digits. -/
theorem characterDigit_ascii {c : UInt8} (hc : c.toNat < 0x80) :
    characterDigit c.toUInt16 = if isDigit c then some (digitVal c) else none := by
  have hunit : c.toUInt16.toNat = c.toNat := UInt8.toNat_toUInt16 c
  -- the other runs of digits lie beyond ASCII
  have hothers : (digitZeros.tail.find? (fun z => z ≤ c.toNat && c.toNat < z + 10)) = none := by
    rw [List.find?_eq_none]
    intro z hz hin
    have hbig : ∀ z ∈ digitZeros.tail, 0x80 ≤ z := by decide
    have hz := hbig z hz
    simp only [Bool.and_eq_true, decide_eq_true_eq] at hin
    omega
  have hdigit : (0x30 ≤ c.toNat && c.toNat < 0x30 + 10) = isDigit c := by
    unfold isDigit
    rw [Bool.eq_iff_iff]
    simp only [Bool.and_eq_true, decide_eq_true_eq, UInt8.le_iff_toNat_le, UInt8.reduceToNat]
    omega
  unfold characterDigit
  rw [hunit]
  show ((0x30 :: digitZeros.tail).find? _).map _ = _
  rw [List.find?_cons, hdigit, hothers]
  cases isDigit c <;> rfl

theorem isInteger_widen {value : Bytes} (h : AsciiText value) :
    isInteger (widen value) = SSEParser.isRetryValue value := by
  have hall : (widen value).all characterIsDigit = value.all isDigit := by
    have hdigit {c : UInt8} (hc : c ∈ value) : characterIsDigit c.toUInt16 = isDigit c := by
      unfold characterIsDigit
      rw [characterDigit_ascii (h c hc).2]
      cases isDigit c <;> rfl
    unfold widen
    rw [List.all_map, Bool.eq_iff_iff, List.all_eq_true, List.all_eq_true]
    exact forall₂_congr (fun c hc => by rw [Function.comp_apply, hdigit hc])
  unfold isInteger SSEParser.isRetryValue
  rw [hall]
  unfold widen
  rw [List.isEmpty_map]

theorem parsedRetry_widen {value : Bytes} (h : SSEParser.isRetryValue value = true)
    (hascii : AsciiText value) : parsedRetry (widen value) = SSEParser.clampedRetry value := by
  obtain ⟨-, hdigits⟩ := (SSEParser.isRetryValue_iff value).mp h
  have hvalue : (widen value).foldl (fun n c => 10 * n + (characterDigit c).getD 0) 0
      = decimalValue value := by
    unfold widen decimalValue
    rw [List.foldl_map]
    apply List.foldl_ext
    intro n c hc
    rw [characterDigit_ascii (hascii c hc).2, hdigits c hc]
    rfl
  -- a number beyond `Long.MAX_VALUE` is clamped either way
  unfold parsedRetry parseLong SSEParser.clampedRetry androidRetryMinMs androidRetryMaxMs
    sseParserRetryMinMs sseParserRetryMaxMs longMaxValue
  simp only [hvalue]
  split <;> simp only [Option.getD_some, Option.getD_none] <;> repeat' split
  all_goals omega

end SseParser

/-! ## §2. Nullable ids. -/

/-- The parser's fields are the reader's, each byte a code unit. -/
structure Shows (p : SseParser) (r : LineReader) : Prop where
  data : p.data = widen r.data
  eventName : p.eventName = widen r.event
  hasId : p.hasId = r.ownId.isSome
  eventId : ∀ v, r.ownId = some v → p.eventId = widen v
  pending : p.pendingLastEventId = r.pending.map widen
  start : p.pendingAtBlockStart = r.pendingAtBlockStart.map widen
  poisoned : p.eventPoisoned = r.poisoned
  dropObserved : p.dropObserved = r.dropObserved
  isAscii : r.Ascii

section

variable {p : SseParser} {r : LineReader}

/-- A new parser. -/
theorem shows_start (firstLine : Bool) : Shows { firstLine := firstLine } {} where
  data := rfl
  eventName := rfl
  hasId := rfl
  eventId v h := by cases h
  pending := rfl
  start := rfl
  poisoned := rfl
  dropObserved := rfl
  isAscii := LineReader.ascii_init

theorem Shows.reset (hpending : p.pendingLastEventId = r.pending.map widen)
    (hpoisoned : p.eventPoisoned = r.poisoned) (hdrop : p.dropObserved = r.dropObserved)
    (hascii : ∀ v, r.pending = some v → AsciiText v) : Shows p.reset r.endBlock where
  data := rfl
  eventName := rfl
  hasId := rfl
  eventId v h := by cases h
  pending := hpending
  start := hpending
  poisoned := hpoisoned
  dropObserved := hdrop
  isAscii := LineReader.ascii_endBlock hascii

theorem Shows.poison (h : Shows p r) :
    Shows
      { { p with pendingLastEventId := p.pendingAtBlockStart }.reset with eventPoisoned := true }
      r.poison where
  data := rfl
  eventName := rfl
  hasId := rfl
  eventId v h := by cases h
  pending := h.start
  start := h.start
  poisoned := rfl
  dropObserved := h.dropObserved
  isAscii := h.isAscii.poison

theorem Shows.takeData (h : Shows p r) {v : Bytes} (hv : AsciiText v) :
    Shows { p with data := p.data ++ widen v ++ [10] } { r with data := r.data ++ v ++ [LF] } where
  data := by
    show p.data ++ widen v ++ [10] = (r.data ++ v ++ [LF]).map UInt8.toUInt16
    rw [List.map_append, List.map_append, h.data]
    rfl
  eventName := h.eventName
  hasId := h.hasId
  eventId := h.eventId
  pending := h.pending
  start := h.start
  poisoned := h.poisoned
  dropObserved := h.dropObserved
  isAscii :=
    { h.isAscii with
      data := (h.isAscii.data.append hv).append (by decide) }

theorem Shows.takeEvent (h : Shows p r) {v : Bytes} (hv : AsciiText v) :
    Shows { p with eventName := widen v } { r with event := v } :=
  { h with
    eventName := rfl
    isAscii := { h.isAscii with event := hv } }

theorem Shows.takeId (h : Shows p r) {v : Bytes} (hv : AsciiText v) :
    Shows { p with eventId := widen v, hasId := true, pendingLastEventId := some (widen v) }
      { r with ownId := some v, pending := some v } :=
  { h with
    hasId := rfl
    eventId := fun w hw => by cases hw; rfl
    pending := rfl
    isAscii :=
      { h.isAscii with
        ownId := fun w hw => by cases hw; exact hv
        pending := fun w hw => by cases hw; exact hv } }

end

/-! ## §3. The parser's calls. -/

/-- A native call, as a report, where `encode` makes C strings. -/
def NativeCall.reportAs (encode : Utf16 → CString) : NativeCall → Option StreamReport
  | .onMessage event data id _ =>
      some (.message (some (encode event)) (some (encode data)) (some (encode id)))
  | .onError error _ _ _ => some (.error (some (encode error)))
  | .onRetry retryMs => some (.retry retryMs)
  | .onLastEventId id => some (.lastEventId (encode id))

namespace SseStream

/-- What the parser has reported. -/
def reports (encode : Utf16 → CString) (s : SseStream) : List StreamReport :=
  s.calls.filterMap (NativeCall.reportAs encode)

/-- What a line of a block does, once it is classified. -/
def takeLine (s : SseStream) : BlockLine → SseStream
  | .data v =>
      if s.parser.data.length + v.length + 1 > maxDataChars then
        s.poison "SSE event data exceeded maximum buffer size"
      else s.setParser { s.parser with data := s.parser.data ++ widen v ++ [10] }
  | .event v => s.setParser { s.parser with eventName := widen v }
  | .id v =>
      s.setParser
        { s.parser with eventId := widen v, hasId := true, pendingLastEventId := some (widen v) }
  | .retry v =>
      if SSEParser.isRetryValue v then
        { s with retryMs := SSEParser.clampedRetry v }.call (.onRetry (SSEParser.clampedRetry v))
      else s
  | .ignored => s
  | .oversize => s

theorem units_eq_iff {field : Bytes} {name : String} (hname : units name = widen (ascii name)) :
    widen field = units name ↔ field = ascii name := by
  rw [hname]
  exact ⟨fun h => widen_injective h, fun h => by rw [h]⟩

theorem processField_widen (s : SseStream) {text : Bytes} (htext : AsciiText text) :
    s.processField (widen text)
      = match classify text with
        | none => s.dispatch
        | some l => if s.parser.eventPoisoned then s else s.takeLine l := by
  by_cases hblank : text = []
  · rw [hblank]
    rfl
  · have hlength : ¬ (widen text).length = 0 := by
      unfold widen
      rw [List.length_map]
      exact fun h => hblank (List.length_eq_zero_iff.mp h)
    have hhead : (widen text).head? = some 58 ↔ text.head? = some COLON :=
      SseParser.head?_widen text COLON
    -- to compare the units of a field name is to compare its bytes
    have hdata := @units_eq_iff (SSEParser.fieldOf text) "data" (by decide)
    have hevent := @units_eq_iff (SSEParser.fieldOf text) "event" (by decide)
    have hid := @units_eq_iff (SSEParser.fieldOf text) "id" (by decide)
    have hretry := @units_eq_iff (SSEParser.fieldOf text) "retry" (by decide)
    have hvalue : AsciiText (SSEParser.valueOf text) :=
      htext.of_subset (fun c hc => mem_of_mem_valueOf hc)
    unfold processField
    rw [if_neg hlength]
    by_cases hpoisoned : s.parser.eventPoisoned = true
    · rw [if_pos hpoisoned]
      cases hl : classify text with
      | none => exact absurd ((classify_eq_none_iff text).mp hl) hblank
      | some l => exact (if_pos hpoisoned).symm
    · -- one case per field name, as `classify` has them
      have hline {l : BlockLine} (hl : classify text = some l) :
          (match classify text with
            | none => s.dispatch
            | some l => if s.parser.eventPoisoned then s else s.takeLine l) = s.takeLine l := by
        rw [hl]
        exact if_neg hpoisoned
      rw [if_neg hpoisoned]
      simp only [hhead, SseParser.fieldOf_widen, SseParser.valueOf_widen, hdata, hevent, hid,
        hretry, SseParser.isInteger_widen hvalue]
      rcases classify_cases hblank with ⟨hcolon, hl⟩ | ⟨hcolon, hl⟩
      · rw [hline hl, if_pos hcolon]
        rfl
      · rw [if_neg hcolon]
        rcases hl with ⟨hfield, hl⟩ | ⟨hfield, hl⟩ | ⟨hfield, hl⟩ | ⟨hfield, hl⟩ | ⟨hfield, hl⟩
        · rw [hline hl, if_pos hfield]
          unfold takeLine widen
          rw [List.length_map]
        · rw [hline hl, hfield]
          rfl
        · rw [hline hl, hfield]
          rfl
        · rw [hline hl, hfield]
          show (if SSEParser.isRetryValue (SSEParser.valueOf text) then _ else s) = _
          unfold takeLine
          by_cases hvalid : SSEParser.isRetryValue (SSEParser.valueOf text) = true
          · simp only [if_pos hvalid, SseParser.parsedRetry_widen hvalid hvalue]
          · simp only [if_neg hvalid]
        · obtain ⟨hdata, hevent, hid, hretry⟩ := hfield
          rw [hline hl]
          simp only [hdata, hevent, hid, hretry, if_false, decide_false, Bool.false_and,
            Bool.false_eq_true]
          rfl

theorem reports_call (encode : Utf16 → CString) (s : SseStream) (c : NativeCall) :
    (s.call c).reports encode = s.reports encode ++ (c.reportAs encode).toList := by
  unfold reports call
  rw [List.filterMap_append]
  cases h : c.reportAs encode with
  | none => simp [h]
  | some r => simp [h]

end SseStream

/-- The stream stands where the reader stands. -/
structure StreamShows (answers : Nat → Bool) (s : SseStream) (r : LineReader) : Prop where
  parser : Shows s.parser r
  messages : r.messages = s.calls.countP SseStream.isMessage
  answers : s.answers = answers

section

variable {answers : Nat → Bool} {s : SseStream} {r : LineReader} {encode : Utf16 → CString}
  (hencode : ∀ v, AsciiText v → encode (widen v) = .read v)

include hencode

/-- An id that is there is committed by both. -/
theorem StreamShows.commitPending (h : StreamShows answers s r) {p : SseParser}
    (hparser : Shows p r) :
    (s.commitPending p).reports encode = s.reports encode ++ r.commit ∧
      StreamShows answers (s.commitPending p) r := by
  have hpending := hparser.pending
  unfold SseStream.commitPending LineReader.commit
  rw [hparser.dropObserved]
  cases hid : r.pending with
  | none =>
      rw [hid] at hpending
      rw [hpending]
      exact ⟨(List.append_nil _).symm, h⟩
  | some id =>
      rw [hid] at hpending
      rw [hpending]
      by_cases hdrop : r.dropObserved = true
      · simp only [Option.map_some, if_pos hdrop]
        exact ⟨(List.append_nil _).symm, h⟩
      · simp only [Option.map_some, if_neg hdrop]
        refine ⟨?_, h.parser, ?_, h.answers⟩
        · show (s.call (.onLastEventId (widen id))).reports encode = _
          rw [SseStream.reports_call]
          show s.reports encode ++ [.lastEventId (encode (widen id))] = _
          rw [hencode _ (hparser.isAscii.pending id hid)]
        · show r.messages = (s.calls ++ [NativeCall.onLastEventId (widen id)]).countP _
          rw [List.countP_append]
          exact h.messages

/-- The message that the parser offers is the reader's. -/
theorem Shows.offer {p : SseParser} (h : Shows p r) (enqueued : Bool) :
    (SseStream.offer p enqueued).reportAs encode = some r.message := by
  have hname : (if p.eventName.length = 0 then units "message" else p.eventName)
      = widen (if r.event = [] then ascii "message" else r.event) := by
    rw [h.eventName]
    by_cases hevent : r.event = []
    · rw [hevent, if_pos rfl]
      rfl
    · have hlength : ¬ (widen r.event).length = 0 := by
        unfold widen
        rw [List.length_map]
        exact fun h => hevent (List.length_eq_zero_iff.mp h)
      rw [if_neg hevent, if_neg hlength]
  have hid : (if p.hasId then p.eventId else []) = widen (r.ownId.getD []) := by
    rw [h.hasId]
    cases hown : r.ownId with
    | none => rfl
    | some v => exact h.eventId v hown
  have hdata : p.data.dropLast = widen r.data.dropLast := by
    rw [h.data]
    exact List.map_dropLast.symm
  have hnameAscii : AsciiText (if r.event = [] then ascii "message" else r.event) := by
    split
    · decide
    · exact h.isAscii.event
  have hidAscii : AsciiText (r.ownId.getD []) := by
    cases hown : r.ownId with
    | none => exact asciiText_nil
    | some v => exact h.isAscii.ownId v hown
  unfold SseStream.offer
  rw [hname, hid, hdata]
  show some (StreamReport.message (some (encode _)) (some (encode _)) (some (encode _))) = _
  rw [hencode _ hnameAscii, hencode _ hidAscii,
    hencode _ (h.isAscii.data.of_subset (List.dropLast_subset _))]
  rfl

/-- **A blank line** does the same to both. -/
theorem StreamShows.dispatch (h : StreamShows answers s r) :
    s.dispatch.reports encode
        = s.reports encode ++ (r.blankLine (answers r.messages)).2
      ∧ StreamShows answers s.dispatch (r.blankLine (answers r.messages)).1 := by
  have hnil : s.reports encode = s.reports encode ++ [] := (List.append_nil _).symm
  have hparser := h.parser
  have hreset := Shows.reset hparser.pending hparser.poisoned hparser.dropObserved
    hparser.isAscii.pending
  unfold LineReader.blankLine
  by_cases hpoisoned : s.parser.eventPoisoned = true
  · rw [if_pos (hparser.poisoned.symm.trans hpoisoned)]
    simp only [SseStream.dispatch, if_pos hpoisoned]
    exact ⟨hnil,
      { parser := .reset hparser.pending rfl hparser.dropObserved hparser.isAscii.pending
        messages := h.messages
        answers := h.answers }⟩
  have hlive : ¬ r.poisoned = true := by
    rw [← hparser.poisoned]
    exact hpoisoned
  have hdata : s.parser.data.length = 0 ↔ r.data = [] := by
    rw [hparser.data]
    unfold widen
    rw [List.length_map, List.length_eq_zero_iff]
  rw [if_neg hlive]
  by_cases hempty : r.data = []
  · rw [if_pos hempty, SseStream.dispatch_checkpoint s hpoisoned (hdata.mpr hempty),
      hparser.hasId]
    cases r.ownId.isSome with
    | false => exact ⟨hnil, { parser := hreset, messages := h.messages, answers := h.answers }⟩
    | true =>
        obtain ⟨hreports, hshows⟩ := h.commitPending hencode hparser
        exact ⟨hreports,
          { parser := hreset, messages := hshows.messages, answers := hshows.answers }⟩
  · -- both count the messages, so both get the same answer
    have hanswer : s.answers (s.calls.countP SseStream.isMessage) = answers r.messages := by
      rw [h.answers, h.messages]
    have hoffered (enqueued : Bool) :
        (s.call (SseStream.offer s.parser enqueued)).reports encode
          = s.reports encode ++ [r.message] := by
      rw [SseStream.reports_call, hparser.offer hencode enqueued]
      rfl
    have hcount (enqueued : Bool) : r.messages + 1
        = (s.call (SseStream.offer s.parser enqueued)).calls.countP SseStream.isMessage := by
      show _ = (s.calls ++ [SseStream.offer s.parser enqueued]).countP _
      rw [List.countP_append, ← h.messages]
      rfl
    rw [if_neg hempty, SseStream.dispatch_message s hpoisoned (fun h => hempty (hdata.mp h)) hanswer]
    cases answers r.messages with
    -- refused: the id is rolled back to the block's start
    | false =>
        exact ⟨hoffered false,
          { parser := .reset hparser.start hparser.poisoned rfl hparser.isAscii.start
            messages := hcount false
            answers := h.answers }⟩
    | true =>
        have hnext : StreamShows answers (s.call (SseStream.offer s.parser true))
            { r with messages := r.messages + 1 } :=
          { parser := { hparser with isAscii := { hparser.isAscii with } }
            messages := hcount true
            answers := h.answers }
        obtain ⟨hreports, hshows⟩ := hnext.commitPending hencode hnext.parser
        rw [hoffered, List.append_assoc] at hreports
        exact ⟨hreports,
          { parser := .reset hnext.parser.pending hnext.parser.poisoned hnext.parser.dropObserved
              hnext.parser.isAscii.pending
            messages := hshows.messages
            answers := hshows.answers }⟩

/-- **A line of a block** does the same to both. -/
theorem StreamShows.takeLine (h : StreamShows answers s r) {l : BlockLine}
    (hl : ∀ v, l = .data v ∨ l = .event v ∨ l = .id v ∨ l = .retry v → AsciiText v) :
    (s.takeLine l).reports encode = s.reports encode ++ (r.fieldLine l).2
      ∧ StreamShows answers (s.takeLine l) (r.fieldLine l).1 := by
  have hnil : s.reports encode = s.reports encode ++ [] := (List.append_nil _).symm
  have hparser := h.parser
  cases l with
  | data v =>
      have hv := hl v (.inl rfl)
      have hlength : s.parser.data.length = r.data.length := by
        rw [hparser.data]
        exact List.length_map ..
      have herror : AsciiText (ascii dataTooLong) := by
        decide
      unfold SseStream.takeLine LineReader.fieldLine
      simp only [hlength]
      by_cases hbig : r.data.length + v.length + 1 > sseParserMaxBuffer
      · rw [if_pos hbig, if_pos (show _ > maxDataChars from hbig)]
        refine ⟨?_, hparser.poison, ?_, h.answers⟩
        · show (s.call (.onError (units dataTooLong) 0 s.reconnect s.retryMs)).reports encode = _
          rw [SseStream.reports_call]
          show s.reports encode ++ [.error (some (encode (widen (ascii dataTooLong))))]
            = _
          rw [hencode _ herror]
          rfl
        · show r.messages = (s.calls ++ [NativeCall.onError _ _ _ _]).countP _
          rw [List.countP_append]
          exact h.messages
      · rw [if_neg hbig, if_neg (show ¬ _ > maxDataChars from hbig)]
        exact ⟨hnil, hparser.takeData hv, h.messages, h.answers⟩
  | event v => exact ⟨hnil, hparser.takeEvent (hl v (.inr (.inl rfl))), h.messages, h.answers⟩
  | id v => exact ⟨hnil, hparser.takeId (hl v (.inr (.inr (.inl rfl)))), h.messages, h.answers⟩
  | retry v =>
      unfold SseStream.takeLine LineReader.fieldLine
      by_cases hvalid : SSEParser.isRetryValue v = true
      · simp only [if_pos hvalid]
        refine ⟨SseStream.reports_call encode _ (.onRetry (SSEParser.clampedRetry v)), hparser, ?_,
          h.answers⟩
        show r.messages = (s.calls ++ [NativeCall.onRetry _]).countP _
        rw [List.countP_append]
        exact h.messages
      · simp only [if_neg hvalid]
        exact ⟨hnil, h⟩
  | ignored => exact ⟨hnil, h⟩
  | oversize => exact ⟨hnil, h⟩

/-- **`processLine` is the reader.** -/
theorem StreamShows.step (h : StreamShows answers s r) {line : Bytes} (hline : AsciiText line) :
    (s.processLine (widen line)).reports encode
        = s.reports encode ++ (r.readLine answers line).2
      ∧ StreamShows answers (s.processLine (widen line)) (r.readLine answers line).1 := by
  have hread : StreamShows answers (s.setParser { s.parser with firstLine := false }) r :=
    { parser := { h.parser with }
      messages := h.messages
      answers := h.answers }
  have htext : AsciiText (SSEParser.stripCR line) :=
    hline.of_subset (fun c hc => mem_of_mem_stripCR hc)
  unfold SseStream.processLine LineReader.readLine
  simp only [SseParser.stripBom_widen, ite_self, SseParser.stripCR_widen,
    SseStream.processField_widen _ htext]
  cases hl : classify (SSEParser.stripCR line) with
  | none => exact hread.dispatch hencode
  | some l =>
      show (if s.parser.eventPoisoned then _ else _ : SseStream).reports encode
          = s.reports encode ++ (if r.poisoned then _ else _ : LineReader × List StreamReport).2
        ∧ StreamShows answers (if s.parser.eventPoisoned then _ else _ : SseStream)
            (if r.poisoned then _ else _ : LineReader × List StreamReport).1
      by_cases hpoisoned : s.parser.eventPoisoned = true
      · rw [if_pos hpoisoned, if_pos (h.parser.poisoned.symm.trans hpoisoned)]
        exact ⟨(List.append_nil _).symm, hread⟩
      · have hlive : ¬ r.poisoned = true := by
          rw [← h.parser.poisoned]
          exact hpoisoned
        rw [if_neg hpoisoned, if_neg hlive]
        refine hread.takeLine hencode (fun v hv => ?_)
        rw [value_of_classify hl hv]
        exact htext.of_subset (fun c hc => mem_of_mem_valueOf hc)

omit hencode

/-! ## §4. The Android adapter. -/

/-- A native call, as what `sse_android.cpp` makes of it. -/
def NativeCall.report (handle : Int) : NativeCall → Option StreamReport
  | .onLastEventId id => some (.lastEventId (getStringUTFChars id))
  | .onRetry retryMs => some (.retry retryMs)
  | c => (c.pushed handle).bind SSEEvent.report

theorem NativeCall.report_eq (handle : Int) :
    NativeCall.report handle = NativeCall.reportAs getStringUTFChars := by
  funext c
  cases c <;> rfl

/-- **The Android adapter reports what the reader does.** -/
theorem android_outputs (handle : Int) (reconnect : Bool) (retryMs : Int) (lastEventId : Utf16)
    (answers : Nat → Bool) {lines : List Bytes} (hlines : ∀ line ∈ lines, AsciiText line) :
    outputs (grown (fun s line => SseStream.processLine s (widen line))
          (fun s => s.calls.filterMap (NativeCall.report handle)))
        (.start reconnect retryMs lastEventId answers) lines
      = outputs (LineReader.readLine answers) {} lines := by
  have hencode : ∀ v, AsciiText v → getStringUTFChars (widen v) = .read v := by
    intro v hv
    unfold getStringUTFChars
    rw [modifiedUtf8_widen hv]
  rw [NativeCall.report_eq]
  apply outputs_grown_eq (R := StreamShows answers) (P := AsciiText) _ _ hlines
  · intro s r line hline hshows
    exact hshows.step hencode hline
  · exact { parser := shows_start true, messages := rfl, answers := rfl }

end

end DefoldSSE
