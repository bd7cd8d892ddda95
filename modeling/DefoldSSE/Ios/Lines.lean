/-
  DefoldSSE.Ios.Lines — on ASCII streams `SseIOSParser` is the native parser.

  §1 carries the methods of `NSString` over to bytes, §2 reads the iOS parser as
  an Android stream, which is known to be a `LineReader` on ASCII lines.  Unlike
  Android's `readStream`, `feedData` collects its bytes as `SSEParser::Feed` does:
  it strips the same BOM and drops the same lines.  So the two parsers agree on
  whole streams, and on what the next attempt starts from (`ios_agrees`).
-/
import DefoldSSE.Android.Lines
import DefoldSSE.Desktop.Lines
import DefoldSSE.Ios.Parser
import DefoldSSE.Lib.Attempts

namespace DefoldSSE

open CLib EventStream

/-! ## §1. ASCII strings. -/

namespace SseIOSParser

section

variable {f : Foundation} (hf : f.Documented)

include hf

theorem fieldOf_ascii {text : Bytes} (htext : AsciiText text) :
    fieldOf f (widen text) = SseParser.fieldOf (widen text) := by
  unfold fieldOf SseParser.fieldOf
  rw [hf.rangeOfColon text htext, List.takeWhile_eq_take_findIdx_not]
  have hnot : (fun c : UInt16 => !(c != 58)) = (· == 58) := by
    funext c
    exact Bool.not_not _
  rw [hnot]
  cases hfind : (widen text).findIdx? (· == 58) with
  | none =>
      rw [List.findIdx_eq_length_of_false]
      · exact (List.take_length).symm
      · exact List.findIdx?_eq_none_iff.mp hfind
  | some location =>
      rw [List.findIdx?_eq_some_iff_findIdx_eq] at hfind
      rw [hfind.2]

theorem valueOf_ascii {text : Bytes} (htext : AsciiText text) :
    valueOf f (widen text) = SseParser.valueOf (widen text) := by
  have hdrop : (widen text).dropWhile (· != 58)
      = (widen text).drop ((widen text).findIdx (· == 58)) := by
    rw [List.dropWhile_eq_drop_findIdx_not]
    congr 2
    funext c
    exact Bool.not_not _
  unfold valueOf SseParser.valueOf
  rw [hf.rangeOfColon text htext, hdrop]
  cases hfind : (widen text).findIdx? (· == 58) with
  | none =>
      have hnone : (widen text).drop ((widen text).findIdx (· == 58)) = [] := by
        rw [List.findIdx_eq_length_of_false]
        · exact List.drop_length
        · exact List.findIdx?_eq_none_iff.mp hfind
      rw [hnone]
      rfl
  | some location =>
      rw [List.findIdx?_eq_some_iff_findIdx_eq] at hfind
      have hvalue : (widen text).drop (location + 1) = widen (text.drop (location + 1)) :=
        List.map_drop.symm
      have hascii : AsciiText (text.drop (location + 1)) :=
        htext.of_subset (List.drop_subset _ _)
      have hlead : (widen (text.drop (location + 1))).head? = some 32
          ↔ (text.drop (location + 1)).head? = some SP := SseParser.head?_widen _ SP
      rw [hfind.2, List.drop_drop]
      simp only [hvalue, hf.hasSpace _ hascii, hlead, decide_eq_true_eq]

theorem isInteger_ascii {value : Bytes} (hvalue : AsciiText value) :
    isInteger f (widen value) = SseParser.isInteger (widen value) := by
  rw [SseParser.isInteger_widen hvalue]
  unfold isInteger SSEParser.isRetryValue
  rw [hf.hasNonDigit value hvalue, Bool.not_not]
  unfold widen
  rw [List.isEmpty_map]

theorem parsedRetry_ascii {value : Bytes} (hvalue : AsciiText value)
    (hretry : SSEParser.isRetryValue value = true) :
    parsedRetry f (widen value) = SseParser.parsedRetry (widen value) := by
  obtain ⟨hne, hdigits⟩ := (SSEParser.isRetryValue_iff value).mp hretry
  rw [SseParser.parsedRetry_widen hretry hvalue]
  unfold parsedRetry SSEParser.clampedRetry sseIosRetryMinMs sseIosRetryMaxMs sseParserRetryMinMs
    sseParserRetryMaxMs
  rw [hf.longLongValue value hvalue hne (List.all_eq_true.mpr hdigits)]
  unfold llongMax
  simp only
  repeat' split
  all_goals omega

end

end SseIOSParser

/-! ## §2. The parser as an Android stream. -/

/-- A call of the parser, as the native call of Android with the same strings. -/
def IosCall.native : IosCall → NativeCall
  | .enqueueMessage name data id enqueued => .onMessage name data id enqueued
  | .enqueueError error status reconnecting retryMs =>
      .onError (units error.message) status reconnecting retryMs
  | .setLastEventId id => .onLastEventId id
  | .setRetryMs retryMs => .onRetry retryMs

namespace SseIOSParser

/-- The fields of `SseParser`. -/
def parser (p : SseIOSParser) : SseParser where
  data := p.dataBuffer
  eventName := p.eventName
  eventId := p.eventId
  hasId := p.hasId
  firstLine := p.firstLine
  eventPoisoned := p.eventPoisoned
  pendingLastEventId := p.pendingLastEventId
  pendingAtBlockStart := p.pendingAtBlockStart
  dropObserved := p.dropObserved

def stream (p : SseIOSParser) : SseStream where
  parser := p.parser
  reconnect := p.reconnecting
  retryMs := p.retryMs
  lastEventId := p.storedLastEventId
  answers := p.answers
  calls := p.calls.map IosCall.native

theorem stream_call (p : SseIOSParser) (c : IosCall) :
    (p.call c).stream = p.stream.call c.native := by
  show SseStream.mk p.parser _ _ _ _ ((p.calls ++ [c]).map IosCall.native) = _
  rw [List.map_append]
  rfl

theorem countP_native (calls : List IosCall) :
    (calls.map IosCall.native).countP SseStream.isMessage = calls.countP isMessage := by
  rw [List.countP_map]
  congr 1
  funext x
  cases x <;> rfl

theorem stream_poisonEvent (p : SseIOSParser) (error : IosParserError) :
    (p.poisonEvent error).stream = p.stream.poison error.message := by
  have hcall := stream_call p (.enqueueError error 0 p.reconnecting p.retryMs)
  show SseStream.setParser (p.call _).stream _ = _
  rw [hcall]
  rfl

/-- The commit at the end of a block. -/
def commitPending (p : SseIOSParser) : SseIOSParser :=
  match p.pendingLastEventId with
  | some id => if p.dropObserved then p else p.commitLastEventId id
  | none => p

theorem stream_commitPending (p : SseIOSParser) :
    p.commitPending.stream = p.stream.commitPending p.parser := by
  have hpending : p.parser.pendingLastEventId = p.pendingLastEventId := rfl
  have hdrop : p.parser.dropObserved = p.dropObserved := rfl
  unfold commitPending SseStream.commitPending
  rw [hpending, hdrop]
  cases p.pendingLastEventId with
  | none => rfl
  | some id =>
      cases p.dropObserved with
      | true => rfl
      | false =>
          exact stream_call
            { p with storedLastEventId := id, hasCommittedLastEventId := true } (.setLastEventId id)

theorem parser_commitPending (p : SseIOSParser) : p.commitPending.parser = p.parser := by
  unfold commitPending
  split
  · split <;> rfl
  · rfl

/-- The parser once it has offered the block's message. -/
def offered (p : SseIOSParser) (enqueued : Bool) : SseIOSParser :=
  { p with dataBuffer := p.dataBuffer.dropLast }.call
    (.enqueueMessage (if p.eventName.length = 0 then units "message" else p.eventName)
      p.dataBuffer.dropLast (if p.hasId then p.eventId else []) enqueued)

theorem dispatchEvent_checkpoint (p : SseIOSParser) (hpoisoned : ¬ p.eventPoisoned = true)
    (hdata : p.dataBuffer.length = 0) :
    p.dispatchEvent = (if p.hasId then p.commitPending else p).resetEvent := by
  simp only [dispatchEvent, if_neg hpoisoned, if_pos hdata]
  congr 1
  unfold commitPending
  cases p.pendingLastEventId with
  | none => simp only [ite_self]
  | some id => cases p.hasId <;> cases p.dropObserved <;> rfl

theorem dispatchEvent_message (p : SseIOSParser) (hpoisoned : ¬ p.eventPoisoned = true)
    (hdata : ¬ p.dataBuffer.length = 0) {enqueued : Bool}
    (henqueued : p.answers (p.calls.countP isMessage) = enqueued) :
    p.dispatchEvent
      = if enqueued then (p.offered enqueued).commitPending.resetEvent
        else
          { p.offered enqueued with
            pendingLastEventId := p.pendingAtBlockStart
            dropObserved := true }.resetEvent := by
  simp only [dispatchEvent, if_neg hpoisoned, if_neg hdata, enqueueMessage, henqueued]
  cases enqueued with
  | false => rfl
  | true =>
      show resetEvent
          (match (p.offered true).pendingLastEventId with
            | some id =>
                if !(p.offered true).dropObserved then (p.offered true).commitLastEventId id
                else p.offered true
            | none => p.offered true)
        = resetEvent _
      congr 1
      unfold commitPending
      cases (p.offered true).pendingLastEventId with
      | none => rfl
      | some id => cases (p.offered true).dropObserved <;> rfl

/-- `dispatchEvent` is the Android parser's `dispatch`. -/
theorem stream_dispatchEvent (p : SseIOSParser) : p.dispatchEvent.stream = p.stream.dispatch := by
  by_cases hpoisoned : p.eventPoisoned = true
  · simp only [dispatchEvent, SseStream.dispatch, if_pos hpoisoned,
      if_pos (show p.stream.parser.eventPoisoned = true from hpoisoned)]
    rfl
  have hreset (q : SseIOSParser) :
      q.commitPending.resetEvent.stream
        = (q.stream.commitPending q.parser).setParser q.parser.reset := by
    rw [← stream_commitPending, ← parser_commitPending]
    rfl
  by_cases hdata : p.dataBuffer.length = 0
  · rw [SseStream.dispatch_checkpoint p.stream hpoisoned hdata,
      dispatchEvent_checkpoint p hpoisoned hdata]
    show _ = (if p.hasId then p.stream.commitPending p.parser else p.stream).setParser
      p.parser.reset
    cases p.hasId with
    | false => rfl
    | true => exact hreset p
  · obtain ⟨enqueued, henqueued⟩ : ∃ enqueued, p.answers (p.calls.countP isMessage) = enqueued :=
      ⟨_, rfl⟩
    have hstream : p.stream.answers (p.stream.calls.countP SseStream.isMessage) = enqueued := by
      rw [← henqueued, ← countP_native]
      rfl
    have hoffered : (p.offered enqueued).stream
        = (p.stream.call (SseStream.offer p.parser enqueued)).setParser
            { p.parser with data := p.parser.data.dropLast } :=
      stream_call { p with dataBuffer := p.dataBuffer.dropLast } _
    rw [SseStream.dispatch_message p.stream hpoisoned hdata hstream,
      dispatchEvent_message p hpoisoned hdata henqueued]
    cases enqueued with
    | false =>
        show SseStream.setParser (p.offered false).stream
          { p.parser with
            pendingLastEventId := p.parser.pendingAtBlockStart
            dropObserved := true }.reset = _
        rw [hoffered]
        rfl
    | true =>
        have hcommit := hreset (p.offered true)
        rw [hoffered] at hcommit
        refine hcommit.trans ?_
        unfold SseStream.commitPending
        show SseStream.setParser (match p.pendingLastEventId with
          | some id => _
          | none => _) _ = SseStream.setParser (match p.pendingLastEventId with
          | some id => _
          | none => _) _
        cases p.pendingLastEventId with
        | none => rfl
        | some id =>
            show SseStream.setParser (if p.dropObserved then _ else _) _
              = SseStream.setParser (if p.dropObserved then _ else _) _
            cases p.dropObserved <;> rfl

/-- `processLineData` of an ASCII string is the Android parser's `processField`. -/
theorem stream_processField {f : Foundation} (hf : f.Documented) (p : SseIOSParser)
    {text : Bytes} (htext : AsciiText text) :
    (p.processField f (widen text)).stream = p.stream.processField (widen text) := by
  have hvalue : AsciiText (SSEParser.valueOf text) :=
    htext.of_subset (fun c hc => mem_of_mem_valueOf hc)
  unfold processField SseStream.processField
  simp only [fieldOf_ascii hf htext, valueOf_ascii hf htext]
  by_cases hblank : (widen text).length = 0
  · rw [if_pos hblank, if_pos hblank]
    exact stream_dispatchEvent p
  rw [if_neg hblank, if_neg hblank]
  by_cases hpoisoned : p.eventPoisoned = true
  · rw [if_pos hpoisoned, if_pos (show p.stream.parser.eventPoisoned = true from hpoisoned)]
  rw [if_neg hpoisoned, if_neg (show ¬ p.stream.parser.eventPoisoned = true from hpoisoned)]
  by_cases hcomment : (widen text).head? = some 58
  · rw [if_pos hcomment, if_pos hcomment]
  rw [if_neg hcomment, if_neg hcomment]
  by_cases hdata : SseParser.fieldOf (widen text) = units "data"
  · rw [if_pos hdata, if_pos hdata]
    by_cases hbig : p.dataBuffer.length + (SseParser.valueOf (widen text)).length + 1
        > sseIosMaxBuffer
    · rw [if_pos hbig, if_pos (show p.stream.parser.data.length + _ + 1 > maxDataChars from hbig)]
      exact stream_poisonEvent p _
    · rw [if_neg hbig, if_neg (show ¬ p.stream.parser.data.length + _ + 1 > maxDataChars from hbig)]
      rfl
  rw [if_neg hdata, if_neg hdata]
  by_cases hevent : SseParser.fieldOf (widen text) = units "event"
  · rw [if_pos hevent, if_pos hevent]
    rfl
  rw [if_neg hevent, if_neg hevent]
  by_cases hid : SseParser.fieldOf (widen text) = units "id"
  · rw [if_pos hid, if_pos hid]
    rfl
  rw [if_neg hid, if_neg hid, SseParser.valueOf_widen, isInteger_ascii hf hvalue]
  cases hretry : decide (SseParser.fieldOf (widen text) = units "retry")
      && SseParser.isInteger (widen (SSEParser.valueOf text)) with
  | false => rfl
  | true =>
      -- only now is the value known to be digits
      have hdigits := (Bool.and_eq_true_iff.mp hretry).2
      rw [SseParser.isInteger_widen hvalue] at hdigits
      rw [parsedRetry_ascii hf hvalue hdigits]
      exact stream_call { p with retryMs := _ } (.setRetryMs _)

/-- A line in the buffer, once its BOM is gone, goes the Android parser's way. -/
theorem stream_processLineData {f : Foundation} (hf : f.Documented) (p : SseIOSParser)
    {line : Bytes} (hline : AsciiText line)
    (hbom : (if p.firstLine then SSEParser.stripBom p.lineBuffer else p.lineBuffer) = line) :
    (p.processLineData f).stream = p.stream.processLine (widen line) := by
  have htext : AsciiText (SSEParser.stripCR line) :=
    hline.of_subset (fun c hc => mem_of_mem_stripCR hc)
  unfold processLineData SseStream.processLine
  simp only [hbom, hf.initWithBytes _ htext, SseParser.stripBom_widen, ite_self,
    SseParser.stripCR_widen]
  exact stream_processField hf _ htext

/-! ## §3. What collects the lines. -/

/-- The state of `feedData` between two bytes. -/
def collecting (p : SseIOSParser) : Bytes × Bool × Bool :=
  (p.lineBuffer, p.firstLine, p.discardingLine)

theorem dispatchEvent_collecting (p : SseIOSParser) :
    p.dispatchEvent.collecting = p.collecting := by
  unfold dispatchEvent
  split
  · rfl
  · split
    · show collecting (match p.pendingLastEventId with
        | some id => if p.hasId && !p.dropObserved then p.commitLastEventId id else p
        | none => p) = _
      split
      · split <;> rfl
      · rfl
    · dsimp only [enqueueMessage]
      split
      · show collecting (match p.pendingLastEventId with
          | some id => if !p.dropObserved then _ else _
          | none => _) = _
        split
        · split <;> rfl
        · rfl
      · rfl

theorem processField_collecting (f : Foundation) (p : SseIOSParser) (line : Utf16) :
    (p.processField f line).collecting = p.collecting := by
  simp only [processField]
  split
  · exact p.dispatchEvent_collecting
  · repeat' split
    all_goals rfl

theorem processLineData_collecting (f : Foundation) (p : SseIOSParser) :
    (p.processLineData f).collecting = ([], false, p.discardingLine) := by
  unfold processLineData
  dsimp only
  split
  · rfl
  · exact processField_collecting f _ _

end SseIOSParser

namespace SSEParser

variable {σ : Type} (callbacks : SSEParserCallbacks σ)

/-- Of the state of `Feed`, `Dispatch` and `ProcessLine` touch `m_FirstLine`
only. -/
theorem dispatch_flags (p : SSEParser) (ctx : σ) :
    (p.dispatch callbacks ctx).1.firstLine = p.firstLine
      ∧ (p.dispatch callbacks ctx).1.discardingLine = p.discardingLine := by
  unfold dispatch
  split
  · exact ⟨rfl, rfl⟩
  · split
    · exact ⟨rfl, rfl⟩
    · generalize callbacks.callOnEvent ctx p.parsedEvent = answer
      obtain ⟨delivered, ctx'⟩ := answer
      cases delivered <;> exact ⟨rfl, rfl⟩

theorem processField_flags (p : SSEParser) (text : Bytes) (ctx : σ) :
    (p.processField text callbacks ctx).1.firstLine = p.firstLine
      ∧ (p.processField text callbacks ctx).1.discardingLine = p.discardingLine := by
  simp only [processField]
  split
  · exact dispatch_flags callbacks p ctx
  · repeat' split
    all_goals exact ⟨rfl, rfl⟩

end SSEParser

/-! ## §4. The two parsers, byte by byte. -/

/-- The encoder of the strings that leave the iOS parser. -/
def Foundation.encode (f : Foundation) (string : Utf16) : CString := .read (f.utf8String string)

/-- A call into `sse.cpp`, as a report. -/
def IosCall.report (f : Foundation) : IosCall → Option StreamReport
  | .enqueueMessage name data id _ =>
      some (.message (some (f.encode name)) (some (f.encode data)) (some (f.encode id)))
  | .enqueueError error _ _ _ => some (.error (some (.lit error.message)))
  | .setLastEventId id => some (.lastEventId (f.encode id))
  | .setRetryMs retryMs => some (.retry retryMs)

/-- What the parser has reported. -/
def SseIOSParser.reports (f : Foundation) (p : SseIOSParser) : List StreamReport :=
  p.calls.filterMap (IosCall.report f)

/-- The bytes of a BOM. -/
def bom : Bytes := [0xEF, 0xBB, 0xBF]

/-- A line in the buffer: ASCII, on the first line maybe after a BOM. -/
def LineText (firstLine : Bool) (line text : Bytes) : Prop :=
  AsciiText text ∧ (line = text ∨ firstLine = true ∧ line = bom ++ text)

theorem stripBom_ascii {text : Bytes} (htext : AsciiText text) :
    SSEParser.stripBom text = text := by
  unfold SSEParser.stripBom
  rw [if_neg]
  intro htake
  have hmem : (0xEF : UInt8) ∈ text := by
    apply List.mem_of_mem_take (i := 3)
    rw [htake]
    exact List.mem_cons_self
  exact absurd (htext _ hmem).2 (by decide)

/-- Without its BOM it is the text. -/
theorem LineText.stripBom {firstLine : Bool} {line text : Bytes}
    (h : LineText firstLine line text) :
    (if firstLine then SSEParser.stripBom line else line) = text := by
  obtain ⟨htext, hline | ⟨hfirst, hline⟩⟩ := h
  · rw [hline, stripBom_ascii htext, ite_self]
  · rw [hfirst, hline]
    rfl

theorem LineText.push {firstLine : Bool} {line text : Bytes} (h : LineText firstLine line text)
    {c : UInt8} (hc : AsciiText [c]) : LineText firstLine (line ++ [c]) (text ++ [c]) := by
  obtain ⟨htext, hline⟩ := h
  refine ⟨htext.append hc, ?_⟩
  rcases hline with hline | ⟨hfirst, hline⟩
  · exact .inl (by rw [hline])
  · exact .inr ⟨hfirst, by rw [hline, List.append_assoc]⟩

/-- The poisoned block of the reader is the native parser's. -/
theorem Reads.poison {answers : Nat → Bool} {p : SSEParser} {a : Adapter} {r : LineReader}
    (h : Reads answers p a r) (message : String) :
    Reads answers p.poisonEvent (a.onParserError message) r.poison :=
  Reads.does
    { data := rfl
      event := fun hp => (Bool.false_ne_true hp.symm).elim
      ownId := rfl
      pending := h.start
      start := h.start
      ever := fun hp => (Bool.false_ne_true hp).elim
      poisoned := rfl
      dropObserved := h.dropObserved
      lastLF := fun hp => absurd rfl hp
      messages := h.messages
      answers := h.answers } (Adapter.onParserError_does a message) rfl

theorem StreamShows.poison {answers : Nat → Bool} {s : SseStream} {r : LineReader}
    (h : StreamShows answers s r) (message : String) :
    StreamShows answers (s.poison message) r.poison where
  parser := h.parser.poison
  messages := by
    show r.messages = (s.calls ++ [NativeCall.onError _ _ _ _]).countP _
    rw [List.countP_append]
    exact h.messages
  answers := h.answers

/-- The two parsers stand in the same place of one stream. -/
structure Abreast (f : Foundation) (answers : Nat → Bool) (s : SSEParser × Adapter)
    (p : SseIOSParser) : Prop where
  reader : ∃ r, Reads answers s.1 s.2 r ∧ StreamShows answers p.stream r
  collecting : p.collecting = (s.1.line, s.1.firstLine, s.1.discardingLine)
  text : ∃ text, LineText s.1.firstLine s.1.line text
  reports : p.reports f = s.2.reports

section

variable {f : Foundation} {answers : Nat → Bool} {s : SSEParser × Adapter} {p : SseIOSParser}

theorem Abreast.buffers (h : Abreast f answers s p) :
    p.lineBuffer = s.1.line ∧ p.firstLine = s.1.firstLine
      ∧ p.discardingLine = s.1.discardingLine := by
  have hcollecting := h.collecting
  unfold SseIOSParser.collecting at hcollecting
  simpa using hcollecting

/-- The line grows beyond the cap. -/
theorem Abreast.poison (h : Abreast f answers s p) :
    Abreast f answers
      (SSEParser.poisonEvent { s.1 with line := [], discardingLine := true },
        s.2.onParserError lineTooLong)
      { p.poisonEvent .lineTooLong with lineBuffer := [], discardingLine := true } := by
  obtain ⟨r, hreads, hshows⟩ := h.reader
  have hstream : SseIOSParser.stream
      { p.poisonEvent .lineTooLong with lineBuffer := [], discardingLine := true }
      = p.stream.poison lineTooLong := p.stream_poisonEvent .lineTooLong
  refine ⟨⟨r.poison, { hreads.poison lineTooLong with }, ?_⟩, ?_, ⟨[], asciiText_nil, .inl rfl⟩, ?_⟩
  · rw [hstream]
    exact hshows.poison lineTooLong
  · show ([], p.firstLine, true) = ([], s.1.firstLine, true)
    rw [h.buffers.2.1]
  · show (p.calls ++ [_]).filterMap _ = _
    rw [List.filterMap_append, Adapter.reports_onParserError, ← h.reports]
    rfl

variable (hf : f.Documented)

include hf

theorem Foundation.Documented.encode {v : Bytes} (hv : AsciiText v) :
    f.encode (widen v) = .read v := by
  unfold Foundation.encode
  rw [hf.utf8String v hv]

/-- The texts of the parser's errors are ASCII. -/
theorem SseIOSParser.reports_stream (p : SseIOSParser) :
    p.stream.reports f.encode = p.reports f := by
  have herror (error : IosParserError) : f.encode (units error.message) = .lit error.message := by
    have hunits : units error.message = widen (ascii error.message) := by
      cases error <;> decide
    have hascii : AsciiText (ascii error.message) := by
      cases error <;> decide
    rw [hunits, hf.encode hascii]
    rfl
  show (p.calls.map IosCall.native).filterMap _ = _
  rw [List.filterMap_map]
  unfold SseIOSParser.reports
  congr 1
  funext c
  cases c with
  | enqueueError error status reconnecting retryMs =>
      show some (StreamReport.error (some (f.encode (units error.message)))) = _
      rw [herror]
      rfl
  | _ => rfl

/-- The end of a line. -/
theorem Abreast.endLine (h : Abreast f answers s p) (hlive : s.1.discardingLine = false) :
    Abreast f answers (SSEParser.feedByte Adapter.callbacks s LF) (p.feedByte f LF) := by
  obtain ⟨r, hreads, hshows⟩ := h.reader
  obtain ⟨text, htext⟩ := h.text
  obtain ⟨hbuffer, hfirst, hdiscard⟩ := h.buffers
  have hbom := htext.stripBom
  have hios : p.feedByte f LF = p.processLineData f := by
    unfold SseIOSParser.feedByte
    rw [if_pos rfl, hdiscard, hlive]
    rfl
  have hstream : (p.processLineData f).stream = p.stream.processLine (widen text) := by
    apply SseIOSParser.stream_processLineData hf p htext.1
    rw [hbuffer, hfirst, hbom]
  -- the native parser strips the same BOM
  have hline : s.1.processLine s.1.line Adapter.callbacks s.2 = Adapter.lineStep s text := by
    unfold Adapter.lineStep SSEParser.processLine
    rw [hbom, stripBom_ascii htext.1, ite_self]
  have hnative : SSEParser.feedByte Adapter.callbacks s LF
      = ({ (Adapter.lineStep s text).1 with line := [] }, (Adapter.lineStep s text).2) := by
    unfold SSEParser.feedByte
    rw [← hline]
    simp only [if_true, hlive, Bool.false_eq_true, if_false]
  obtain ⟨hreports, hreads⟩ := hreads.step htext.1
  obtain ⟨hreports', hshows⟩ := hshows.step (fun v hv => hf.encode hv) htext.1
  have hflags := SSEParser.processField_flags Adapter.callbacks { s.1 with firstLine := false }
    (SSEParser.stripCR (if s.1.firstLine then SSEParser.stripBom text else text)) s.2
  rw [hios, hnative]
  refine ⟨⟨_, { hreads with }, ?_⟩, ?_, ⟨[], asciiText_nil, .inl rfl⟩, ?_⟩
  · rw [hstream]
    exact hshows
  · rw [SseIOSParser.processLineData_collecting, hdiscard]
    show _ = ([], (Adapter.lineStep s text).1.firstLine, (Adapter.lineStep s text).1.discardingLine)
    unfold Adapter.lineStep SSEParser.processLine
    rw [hflags.1, hflags.2]
  · rw [← SseIOSParser.reports_stream hf, hstream, hreports',
      SseIOSParser.reports_stream hf, h.reports]
    exact hreports.symm

/-- **One byte** does the same to both. -/
theorem Abreast.feedByte (h : Abreast f answers s p) {c : UInt8} (hc : AsciiText [c]) :
    Abreast f answers (SSEParser.feedByte Adapter.callbacks s c) (p.feedByte f c) := by
  obtain ⟨r, hreads, hshows⟩ := h.reader
  obtain ⟨text, htext⟩ := h.text
  obtain ⟨hbuffer, hfirst, hdiscard⟩ := h.buffers
  cases hlive : s.1.discardingLine with
  | true =>
      by_cases hlf : c = LF
      · -- the rest of an oversized line is over
        have hnative : SSEParser.feedByte Adapter.callbacks s c
            = ({ s.1 with discardingLine := false, line := [] }, s.2) := by
          unfold SSEParser.feedByte
          simp only [if_pos hlf, hlive, if_true]
        have hios : p.feedByte f c = { p with discardingLine := false, lineBuffer := [] } := by
          unfold SseIOSParser.feedByte
          rw [if_pos hlf, hdiscard, hlive]
          rfl
        rw [hnative, hios]
        exact ⟨⟨r, { hreads with }, hshows⟩, by rw [← hfirst]; rfl, ⟨[], asciiText_nil, .inl rfl⟩,
          h.reports⟩
      · have hnative : SSEParser.feedByte Adapter.callbacks s c = s := by
          unfold SSEParser.feedByte
          simp only [if_neg hlf, hlive, if_true]
        have hios : p.feedByte f c = p := by
          unfold SseIOSParser.feedByte
          rw [if_neg hlf, hdiscard, hlive]
          rfl
        rw [hnative, hios]
        exact h
  | false =>
      by_cases hlf : c = LF
      · rw [hlf]
        exact h.endLine hf hlive
      · have hnative : SSEParser.feedByte Adapter.callbacks s c
            = if (s.1.line ++ [c]).length > sseParserMaxBuffer then
                (SSEParser.poisonEvent { s.1 with line := [], discardingLine := true },
                  s.2.onParserError lineTooLong)
              else ({ s.1 with line := s.1.line ++ [c] }, s.2) := by
          unfold SSEParser.feedByte
          simp only [if_neg hlf, hlive, Bool.false_eq_true, if_false]
          rfl
        have hios : p.feedByte f c
            = if (s.1.line ++ [c]).length > sseParserMaxBuffer then
                { p.poisonEvent .lineTooLong with lineBuffer := [], discardingLine := true }
              else { p with lineBuffer := s.1.line ++ [c] } := by
          unfold SseIOSParser.feedByte
          rw [if_neg hlf, hdiscard, hlive, ← hbuffer]
          rfl
        rw [hnative, hios]
        -- both caps are on the bytes of the line, whatever they stand for
        by_cases hlong : (s.1.line ++ [c]).length > sseParserMaxBuffer
        · rw [if_pos hlong, if_pos hlong]
          exact h.poison
        · rw [if_neg hlong, if_neg hlong]
          refine ⟨⟨r, { hreads with }, hshows⟩, ?_, ⟨text ++ [c], htext.push hc⟩, h.reports⟩
          show (_, p.firstLine, p.discardingLine) = _
          rw [hfirst, hdiscard]

/-- A run of bytes does the same to both. -/
theorem Abreast.feed (h : Abreast f answers s p) {bytes : Bytes} (hbytes : AsciiText bytes) :
    Abreast f answers (bytes.foldl (SSEParser.feedByte Adapter.callbacks) s)
      (p.feedData f bytes) := by
  induction bytes generalizing s p with
  | nil => exact h
  | cons c bytes ih =>
      have hc : AsciiText [c] := hbytes.of_subset (by simp)
      have hrest : AsciiText bytes := hbytes.of_subset (List.subset_cons_self c bytes)
      exact ih (h.feedByte hf hc) hrest

end

/-! ## §5. What the next attempt starts from. -/

/-- The id that a report commits. -/
def StreamReport.committed : StreamReport → Option CString
  | .lastEventId id => some id
  | _ => none

/-- The delay that a report asks for. -/
def StreamReport.asked : StreamReport → Option Int
  | .retry retryMs => some retryMs
  | _ => none

namespace Adapter

/-- The connection holds the last id and the last delay of the reports, or those
it had before. -/
structure Recorded (conn : SSEDesktopConnection) (a : Adapter) : Prop where
  id : a.conn.lastEventId = (lastSome StreamReport.committed a.reports).or conn.lastEventId
  retry : a.conn.retryMs = lastOf StreamReport.asked conn.retryMs a.reports

variable {conn : SSEDesktopConnection} {a b : Adapter} {r : StreamReport}

theorem Recorded.report (h : a.Recorded conn) (hreports : b.reports = a.reports ++ [r])
    (hid : b.conn.lastEventId = r.committed.or a.conn.lastEventId)
    (hretry : b.conn.retryMs = r.asked.getD a.conn.retryMs) : b.Recorded conn where
  id := by
    rw [hreports, lastSome_concat, hid, h.id, Option.or_assoc]
  retry := by
    rw [hreports, lastOf_concat, hretry, h.retry]

theorem reports_pushed (a : Adapter) (event : SSEParsedEvent) (ok : Bool) :
    (a.pushed event ok).reports = a.reports
      ++ [.message (some (.read event.event)) (some (.read event.data))
        (some (.read event.id))] := by
  unfold pushed
  rw [reports_log, reports_log]
  show (a.reports ++ []) ++ _ = _
  rw [List.append_nil]
  rfl

theorem callbacks_recorded (conn : SSEDesktopConnection) :
    SSEParser.Preserves callbacks (Recorded conn) where
  onEvent a event h := by
    show Recorded conn (a.onParserEvent event).2
    rw [onParserEvent_eq]
    dsimp only
    have hpushed : Recorded conn
        (a.pushed event (a.queue.message (messagePushes a.trace).length)) :=
      h.report (reports_pushed a event _) rfl rfl
    -- an accepted message is the first report, its id the second
    cases (if a.queue.message (messagePushes a.trace).length then event.lastEventId
      else none) with
    | none => exact hpushed
    | some id => exact hpushed.report (reports_commitLastEventId _ (.read id)) rfl rfl
  onRetry a ms h := Recorded.report h (reports_onParserRetry a ms) rfl rfl
  onId a id h := Recorded.report h (reports_onParserId a id) rfl rfl
  onError a message h := Recorded.report h (reports_onParserError a message) rfl rfl

end Adapter

/-- The id that a call commits. -/
def IosCall.committed : IosCall → Option Utf16
  | .setLastEventId id => some id
  | _ => none

/-- The delay that a call sets. -/
def IosCall.asked : IosCall → Option Int
  | .setRetryMs retryMs => some retryMs
  | _ => none

namespace SseIOSParser

/-- The id that the parser has committed. -/
def committedId (p : SseIOSParser) : Option Utf16 :=
  if p.hasCommittedLastEventId then some p.storedLastEventId else none

/-- The parser holds the last id and the last delay of its calls, the first of
which are these. -/
structure Recorded (before : List IosCall) (retryMs : Int) (p : SseIOSParser) : Prop where
  id : p.committedId = lastSome IosCall.committed p.calls
  retry : p.retryMs = lastOf IosCall.asked retryMs p.calls
  calls : before <+: p.calls

variable {before : List IosCall} {retryMs : Int} {p : SseIOSParser}

theorem Recorded.call (h : p.Recorded before retryMs) {q : SseIOSParser} {c : IosCall}
    (hcalls : q.calls = p.calls ++ [c]) (hid : q.committedId = c.committed.or p.committedId)
    (hretry : q.retryMs = c.asked.getD p.retryMs) : q.Recorded before retryMs where
  id := by
    rw [hcalls, lastSome_concat, hid, h.id]
  retry := by
    rw [hcalls, lastOf_concat, hretry, h.retry]
  calls := by
    rw [hcalls]
    exact h.calls.trans (List.prefix_append _ _)

theorem Recorded.enqueueError (h : p.Recorded before retryMs) (error : IosParserError) :
    (p.enqueueError error).Recorded before retryMs := h.call rfl rfl rfl

theorem Recorded.enqueueMessage (h : p.Recorded before retryMs) (name data id : Utf16)
    (enqueued : Bool) :
    (p.call (.enqueueMessage name data id enqueued)).Recorded before retryMs := h.call rfl rfl rfl

theorem Recorded.commit (h : p.Recorded before retryMs) (id : Utf16) :
    (p.commitLastEventId id).Recorded before retryMs := h.call rfl rfl rfl

theorem Recorded.setRetry (h : p.Recorded before retryMs) (ms : Int) :
    ({ p with retryMs := ms }.call (.setRetryMs ms)).Recorded before retryMs := h.call rfl rfl rfl

theorem Recorded.dispatchEvent (h : p.Recorded before retryMs) :
    p.dispatchEvent.Recorded before retryMs := by
  unfold SseIOSParser.dispatchEvent
  split
  · exact ⟨h.id, h.retry, h.calls⟩
  · split
    · show Recorded before retryMs (resetEvent (match p.pendingLastEventId with
        | some id => if p.hasId && !p.dropObserved then p.commitLastEventId id else p
        | none => p))
      split
      · split
        · exact ⟨(h.commit _).id, (h.commit _).retry, (h.commit _).calls⟩
        · exact ⟨h.id, h.retry, h.calls⟩
      · exact ⟨h.id, h.retry, h.calls⟩
    · have hmessage (name data id : Utf16) (enqueued : Bool) :=
        Recorded.enqueueMessage (p := { p with dataBuffer := p.dataBuffer.dropLast })
          ⟨h.id, h.retry, h.calls⟩ name data id enqueued
      dsimp only [SseIOSParser.enqueueMessage]
      split
      · show Recorded before retryMs (resetEvent (match p.pendingLastEventId with
          | some id => if !p.dropObserved then _ else _
          | none => _))
        split
        · split
          · exact ⟨((hmessage _ _ _ _).commit _).id, ((hmessage _ _ _ _).commit _).retry,
            ((hmessage _ _ _ _).commit _).calls⟩
          · exact ⟨(hmessage _ _ _ _).id, (hmessage _ _ _ _).retry, (hmessage _ _ _ _).calls⟩
        · exact ⟨(hmessage _ _ _ _).id, (hmessage _ _ _ _).retry, (hmessage _ _ _ _).calls⟩
      · exact ⟨(hmessage _ _ _ _).id, (hmessage _ _ _ _).retry, (hmessage _ _ _ _).calls⟩

theorem Recorded.processField (h : p.Recorded before retryMs) (f : Foundation) (line : Utf16) :
    (p.processField f line).Recorded before retryMs := by
  simp only [SseIOSParser.processField]
  split
  · exact h.dispatchEvent
  · repeat' split
    all_goals first
      | exact h.setRetry _
      | exact ⟨(h.enqueueError .dataTooLong).id, (h.enqueueError .dataTooLong).retry,
          (h.enqueueError .dataTooLong).calls⟩
      | exact ⟨h.id, h.retry, h.calls⟩

theorem Recorded.feedByte (h : p.Recorded before retryMs) (f : Foundation) (c : UInt8) :
    (p.feedByte f c).Recorded before retryMs := by
  unfold SseIOSParser.feedByte processLineData
  dsimp only
  split
  · split
    · exact ⟨h.id, h.retry, h.calls⟩
    · have hline : Recorded before retryMs { p with firstLine := false, lineBuffer := [] } :=
        ⟨h.id, h.retry, h.calls⟩
      split
      · exact hline.enqueueError _
      · exact hline.processField f _
  · have hpushed : Recorded before retryMs { p with lineBuffer := p.lineBuffer ++ [c] } :=
      ⟨h.id, h.retry, h.calls⟩
    have hpoisoned := hpushed.enqueueError .lineTooLong
    split
    · exact h
    · split
      · exact ⟨hpoisoned.id, hpoisoned.retry, hpoisoned.calls⟩
      · exact hpushed

theorem Recorded.feedData (h : p.Recorded before retryMs) (f : Foundation) (data : Bytes) :
    (p.feedData f data).Recorded before retryMs := by
  -- from the right, so that what was fed before has been recorded
  induction data using List.reverseRecOn with
  | nil => exact h
  | append_singleton data c ih =>
      rw [feedData_snoc]
      exact ih.feedByte f c

theorem recorded_init (retryMs : Int) (reconnecting : Bool) (answers : Nat → Bool) :
    (initWithHandle retryMs reconnecting answers).Recorded [] retryMs := ⟨rfl, rfl, ⟨[], rfl⟩⟩

/-- The id of the next request; `didCompleteWithError` keeps the one it has if
the parser committed none. -/
def resumeId (f : Foundation) (p : SseIOSParser) (lastEventId : Option CString) :
    Option CString :=
  if p.hasCommittedLastEventId then some (f.encode p.storedLastEventId) else lastEventId

/-- In terms of the reports. -/
theorem Recorded.reports (h : p.Recorded before retryMs) (f : Foundation)
    (lastEventId : Option CString) :
    p.resumeId f lastEventId = (lastSome StreamReport.committed (p.reports f)).or lastEventId
      ∧ p.retryMs = lastOf StreamReport.asked retryMs (p.reports f) := by
  have hid : lastSome StreamReport.committed (p.reports f) = p.committedId.map f.encode := by
    rw [h.id]
    apply lastSome_filterMap
    intro c
    cases c <;> rfl
  have hretry : lastSome StreamReport.asked (p.reports f)
      = (lastSome IosCall.asked p.calls).map (fun ms => ms) := by
    apply lastSome_filterMap
    intro c
    cases c <;> rfl
  constructor
  · rw [hid]
    unfold resumeId committedId
    cases p.hasCommittedLastEventId <;> rfl
  · rw [h.retry]
    unfold lastOf
    rw [hretry, Option.map_id']

end SseIOSParser

/-! ## §6. Whole streams. -/

theorem Adapter.feed_reports (a : Adapter) (bytes : Bytes) :
    (a.feed bytes).reports = (a.conn.parser.feed bytes callbacks a).2.reports := rfl

/-- The two parsers at the start of a stream, or behind its BOM. -/
theorem abreast_start (f : Foundation) (conn : SSEDesktopConnection) (queue : QueueAnswers)
    {line : Bytes} (hline : line = [] ∨ line = bom) :
    Abreast f queue.message (SSEParser.reset.feed line Adapter.callbacks (.start conn queue))
      ((SseIOSParser.initWithHandle conn.retryMs conn.reconnect queue.message).feedData f
        line) := by
  have hshows : StreamShows queue.message
      (SseIOSParser.initWithHandle conn.retryMs conn.reconnect queue.message).stream {} :=
    { parser := shows_start true, messages := rfl, answers := rfl }
  have hreads := reads_start conn queue
  rcases hline with rfl | rfl
  · exact ⟨⟨{}, hreads, hshows⟩, rfl, ⟨[], asciiText_nil, .inl rfl⟩, rfl⟩
  · exact ⟨⟨{}, { hreads with }, hshows⟩, rfl, ⟨[], asciiText_nil, .inr ⟨rfl, rfl⟩⟩, rfl⟩

/-- **The iOS parser is the native parser** on ASCII streams without NUL bytes, with or
without a BOM, in whatever pieces they arrive: the same messages, ids, delays and
errors in the same order, oversized lines and data included, and the same id and
delay for the next attempt. -/
theorem ios_agrees {f : Foundation} (hf : f.Documented) (conn : SSEDesktopConnection)
    (queue : QueueAnswers) {text : Bytes} (htext : AsciiText text) {pieces : List Bytes}
    (hpieces : pieces.flatten = text ∨ pieces.flatten = bom ++ text) :
    let p := (SseIOSParser.initWithHandle conn.retryMs conn.reconnect queue.message).feedAll f pieces
    let a := (Adapter.start conn queue).feedAll pieces
    p.reports f = a.reports ∧ p.resumeId f conn.lastEventId = a.conn.lastEventId
      ∧ p.retryMs = a.conn.retryMs := by
  intro p a
  obtain ⟨line, hline, hsplit⟩ :
      ∃ line, (line = [] ∨ line = bom) ∧ pieces.flatten = line ++ text := by
    rcases hpieces with hpieces | hpieces
    · exact ⟨[], .inl rfl, hpieces⟩
    · exact ⟨bom, .inr rfl, hpieces⟩
  have hp : p = ((SseIOSParser.initWithHandle conn.retryMs conn.reconnect queue.message).feedData f
      line).feedData f text := by
    show SseIOSParser.feedAll f _ pieces = _
    rw [SseIOSParser.feedAll_eq, hsplit]
    exact List.foldl_append
  have ha : a = (Adapter.start conn queue).feed pieces.flatten := Adapter.feedAll_eq _ _
  -- the two go abreast from behind the BOM on, which says nothing
  have hreports : p.reports f = a.reports := by
    have habreast := ((abreast_start f conn queue hline).feed hf htext).reports
    rw [hp, habreast, ha, Adapter.feed_reports, hsplit]
    show _ = (SSEParser.reset.feed (line ++ text) Adapter.callbacks (.start conn queue)).2.reports
    rw [SSEParser.feed_append]
    rfl
  have hios : p.Recorded [] conn.retryMs := by
    rw [hp]
    exact ((SseIOSParser.recorded_init _ _ _).feedData f line).feedData f text
  have hnative : a.Recorded conn := by
    rw [ha]
    have hstart : (Adapter.start conn queue).Recorded conn := ⟨rfl, rfl⟩
    have hfed := SSEParser.feed_preserves (Adapter.callbacks_recorded conn) pieces.flatten .reset
      hstart
    exact ⟨hfed.id, hfed.retry⟩
  obtain ⟨hid, hretry⟩ := hios.reports f conn.lastEventId
  rw [hreports] at hid hretry
  exact ⟨hreports, hid.trans hnative.id.symm, hretry.trans hnative.retry.symm⟩

/-- Strict UTF-8, and the characters of ASCII. -/
def Foundation.strict : Foundation where
  initWithBytes s := (s.toByteArray.utf8Decode?).map (fun chars => utf16 chars.toList)
  utf8String string := utf8 (utf16Chars string)
  rangeOfColon string := string.findIdx? (· == 58)
  hasSpace string := decide (string.head? = some 32)
  hasNonDigit string := !string.all (fun c => 48 ≤ c && c ≤ 57)
  longLongValue string :=
    min ((string.foldl (fun n c => 10 * n + (c.toNat - 48)) 0 : Nat) : Int) llongMax

theorem Foundation.strict_documented : Foundation.strict.Documented where
  initWithBytes s hs := by
    have hdecode : s.toByteArray.utf8Decode? = some (asciiChars s).toArray := by
      rw [← List.utf8Decode?_utf8Encode]
      congr 1
      show _ = (utf8 (asciiChars s)).toByteArray
      rw [utf8_asciiChars hs]
    show Option.map _ _ = _
    rw [hdecode, ← utf16_asciiChars hs]
    rfl
  utf8String s hs := by
    show utf8 (utf16Chars (widen s)) = s
    rw [← utf16_asciiChars hs, utf16Chars_utf16, utf8_asciiChars hs]
  rangeOfColon _ _ := rfl
  hasSpace s _ := decide_eq_decide.mpr (SseParser.head?_widen s SP)
  hasNonDigit s _ := by
    show (!(widen s).all _) = _
    unfold widen
    rw [List.all_map]
    rfl
  longLongValue s _ _ _ := by
    show min (((widen s).foldl _ 0 : Nat) : Int) llongMax = _
    unfold widen decimalValue digitVal
    rw [List.foldl_map]
    simp only [UInt8.toNat_toUInt16]

/-- A BOM, a line that is cut in two, and a delay below the minimum. -/
theorem ios_agrees_bom :
    let pieces := [bom ++ ascii "id: 7\nda", ascii "ta: a\n\nretry: 10\n"]
    let p := (SseIOSParser.initWithHandle 3000 true fun _ => true).feedAll .strict pieces
    let a := (Adapter.start { reconnect := true } ⟨fun _ => true, fun _ => true⟩).feedAll pieces
    p.reports .strict = a.reports ∧ p.resumeId .strict none = a.conn.lastEventId
      ∧ p.retryMs = a.conn.retryMs := by
  intro pieces p a
  have htext : AsciiText (ascii "id: 7\ndata: a\n\nretry: 10\n") := by decide
  exact ios_agrees Foundation.strict_documented { reconnect := true }
    ⟨fun _ => true, fun _ => true⟩ htext (.inr (by decide))

end DefoldSSE
