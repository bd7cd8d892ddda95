/-
  DefoldSSE.Html5.Lines — on ASCII lines the HTML5 client is the Android parser.

  The two keep the same fields and make the same calls.  They differ in their
  digits and numbers, which ASCII does not show, and in the encoder of their
  strings.
-/
import DefoldSSE.Android.Lines
import DefoldSSE.Html5.Client

namespace DefoldSSE

open CLib EventStream

/-! ## §1. Digits and numbers. -/

/-- From `2^53` on, rounding does not go below `2^52`. -/
theorem roundToDouble_big {n : Nat} (hn : 2 ^ 53 ≤ n) : 2 ^ 52 ≤ roundToDouble n := by
  have hlog : 53 ≤ n.log2 := (Nat.le_log2 (by omega)).mpr hn
  have hunits : 2 ^ 52 ≤ n / 2 ^ (n.log2 - 52) := by
    rw [Nat.le_div_iff_mul_le (Nat.two_pow_pos _), ← Nat.pow_add]
    have hexp : 52 + (n.log2 - 52) = n.log2 := by omega
    rw [hexp]
    exact Nat.log2_self_le (by omega)
  unfold roundToDouble
  rw [if_neg (Nat.not_lt.mpr hn)]
  exact Nat.le_trans (Nat.le_trans hunits (Nat.le_add_right _ _))
    (Nat.le_mul_of_pos_right _ (Nat.two_pow_pos _))

theorem toNumber_small {n : Nat} (hn : n < 2 ^ 53) : toNumber n = some n := by
  have hround : roundToDouble n = n := if_pos hn
  have hoverflow : 2 ^ 53 ≤ doubleOverflow := by
    unfold doubleOverflow
    apply Nat.pow_le_pow_right <;> omega
  have hfits : n < doubleOverflow := Nat.lt_of_lt_of_le hn hoverflow
  unfold toNumber
  rw [hround, if_pos hfits]

/-- The clamp hides the rounding. -/
theorem clampRetry_toNumber (n : Nat) :
    Html5Client.clampRetry (toNumber n) = max sseParserRetryMinMs (min sseParserRetryMaxMs n) := by
  unfold sseParserRetryMinMs sseParserRetryMaxMs
  by_cases hsmall : n < 2 ^ 53
  · rw [toNumber_small hsmall]
    show (if (if (n : Int) < 1000 then 1000 else (n : Int)) > 300000 then (300000 : Int)
      else if (n : Int) < 1000 then 1000 else n) = _
    split <;> split at * <;> omega
  · -- what is rounded is far above the maximum
    have hbig := roundToDouble_big (Nat.not_lt.mp hsmall)
    have hmax : max (1000 : Int) (min 300000 (n : Int)) = 300000 := by omega
    rw [hmax]
    unfold toNumber
    split
    · show (if (if (roundToDouble n : Int) < 1000 then 1000 else (roundToDouble n : Int)) > 300000
        then (300000 : Int) else if (roundToDouble n : Int) < 1000 then 1000 else roundToDouble n)
        = 300000
      rw [if_neg (show ¬ (roundToDouble n : Int) < 1000 by omega), if_pos (by omega)]
    · rfl

theorem isDigits_widen (value : Bytes) :
    isDigits (widen value) = SSEParser.isRetryValue value := by
  unfold isDigits SSEParser.isRetryValue widen
  rw [List.all_map, List.isEmpty_map]
  rfl

theorem parseInt_widen (value : Bytes) :
    Html5Client.clampRetry (parseInt (widen value)) = SSEParser.clampedRetry value := by
  have hvalue : (widen value).foldl (fun n c => 10 * n + (c.toNat - 48)) 0 = decimalValue value := by
    unfold widen decimalValue digitVal
    rw [List.foldl_map]
    simp only [UInt8.toNat_toUInt16]
  unfold parseInt SSEParser.clampedRetry
  rw [hvalue, clampRetry_toNumber]

/-! ## §2. The client as an Android stream. -/

/-- A call of the client, as the native call with the same strings. -/
def Html5Call.native : Html5Call → NativeCall
  | .callMessage eventName data id enqueued => .onMessage eventName data id enqueued
  | .callError error status reconnecting retryMs => .onError error status reconnecting retryMs
  | .callLastEventId id => .onLastEventId id
  | .setRetryMs retryMs => .onRetry retryMs

namespace Html5Client

/-- The fields of `SseParser`; `TextDecoder` has stripped the BOM. -/
def parser (c : Html5Client) : SseParser where
  data := c.data
  eventName := c.eventName
  eventId := c.eventId
  hasId := c.hasId
  firstLine := false
  eventPoisoned := c.eventPoisoned
  pendingLastEventId := c.pendingLastEventId
  pendingAtBlockStart := c.pendingAtBlockStart
  dropObserved := c.dropObserved

def stream (c : Html5Client) : SseStream where
  parser := c.parser
  reconnect := c.reconnect
  retryMs := c.retryMs
  lastEventId := c.lastEventId
  answers := c.answers
  calls := c.calls.map Html5Call.native

theorem stream_call (c : Html5Client) (x : Html5Call) :
    (c.call x).stream = c.stream.call x.native := by
  show SseStream.mk c.parser _ _ _ _ ((c.calls ++ [x]).map Html5Call.native) = _
  rw [List.map_append]
  rfl

theorem stream_resetEvent (c : Html5Client) :
    c.resetEvent.stream = c.stream.setParser c.parser.reset := rfl

theorem stream_commitLastEventId (c : Html5Client) (id : Utf16) :
    (c.commitLastEventId id).stream = c.stream.commitLastEventId id :=
  stream_call { c with lastEventId := id } (.callLastEventId id)

theorem stream_reset_commit (c : Html5Client) (id : Utf16) :
    (c.commitLastEventId id).resetEvent.stream
      = (c.stream.commitLastEventId id).setParser c.parser.reset := by
  rw [stream_resetEvent, stream_commitLastEventId]
  rfl

theorem countP_native (calls : List Html5Call) :
    (calls.map Html5Call.native).countP SseStream.isMessage = calls.countP isMessage := by
  rw [List.countP_map]
  congr 1
  funext x
  cases x <;> rfl

theorem stream_poison (c : Html5Client) (message : String) :
    (c.poison message).stream = c.stream.poison message := by
  have hcall := stream_call c (.callError (units message) 0 c.reconnect c.retryMs)
  show SseStream.setParser (c.call (.callError (units message) 0 c.reconnect c.retryMs)).stream _ = _
  rw [hcall]
  rfl

/-- The commit at the end of a block. -/
def commitPending (c : Html5Client) : Html5Client :=
  match c.pendingLastEventId with
  | some id => if c.dropObserved then c else c.commitLastEventId id
  | none => c

theorem stream_reset_commitPending (c : Html5Client) :
    c.commitPending.resetEvent.stream
      = (c.stream.commitPending c.parser).setParser c.parser.reset := by
  have hpending : c.parser.pendingLastEventId = c.pendingLastEventId := rfl
  have hdrop : c.parser.dropObserved = c.dropObserved := rfl
  unfold commitPending SseStream.commitPending
  rw [hpending, hdrop]
  cases c.pendingLastEventId with
  | none => rfl
  | some id =>
      cases c.dropObserved with
      | true => rfl
      | false => exact stream_reset_commit c id

theorem dispatch_checkpoint (c : Html5Client) (hpoisoned : ¬ c.eventPoisoned = true)
    (hdata : c.data.length = 0) :
    c.dispatch = (if c.hasId then c.commitPending else c).resetEvent := by
  simp only [dispatch, if_neg hpoisoned, if_pos hdata]
  congr 1
  unfold commitPending
  cases c.pendingLastEventId with
  | none => simp only [ite_self]
  | some id => cases c.hasId <;> cases c.dropObserved <;> rfl

/-- The client once it has offered the block's message. -/
def offered (c : Html5Client) (enqueued : Bool) : Html5Client :=
  c.call (.callMessage (if c.eventName = [] then units "message" else c.eventName)
    c.data.dropLast (if c.hasId then c.eventId else []) enqueued)

theorem stream_offered (c : Html5Client) (enqueued : Bool) :
    (c.offered enqueued).stream = c.stream.call (SseStream.offer c.parser enqueued) := by
  have hname : (c.eventName = []) = (c.parser.eventName.length = 0) :=
    propext List.length_eq_zero_iff.symm
  unfold offered
  rw [stream_call]
  simp only [hname]
  rfl

theorem dispatch_message (c : Html5Client) (hpoisoned : ¬ c.eventPoisoned = true)
    (hdata : ¬ c.data.length = 0) {enqueued : Bool}
    (henqueued : c.answers (c.calls.countP isMessage) = enqueued) :
    c.dispatch
      = if enqueued then (c.offered enqueued).commitPending.resetEvent
        else
          { c.offered enqueued with
            pendingLastEventId := c.pendingAtBlockStart
            dropObserved := true }.resetEvent := by
  have hoffered : c.call (.callMessage (if c.eventName = [] then units "message" else c.eventName)
      c.data.dropLast (if c.hasId then c.eventId else []) enqueued) = c.offered enqueued := rfl
  simp only [dispatch, if_neg hpoisoned, if_neg hdata, callMessage, henqueued, hoffered]
  cases enqueued with
  | false => rfl
  | true =>
      show Html5Client.resetEvent _ = Html5Client.resetEvent _
      congr 1
      unfold commitPending
      cases (c.offered true).pendingLastEventId with
      | none => rfl
      | some id => cases (c.offered true).dropObserved <;> rfl

/-- `dispatch` is the Android parser's. -/
theorem stream_dispatch (c : Html5Client) : c.dispatch.stream = c.stream.dispatch := by
  by_cases hpoisoned : c.eventPoisoned = true
  · simp only [dispatch, SseStream.dispatch, if_pos hpoisoned,
      if_pos (show c.stream.parser.eventPoisoned = true from hpoisoned)]
    rfl
  by_cases hdata : c.data.length = 0
  · rw [SseStream.dispatch_checkpoint c.stream hpoisoned hdata,
      dispatch_checkpoint c hpoisoned hdata]
    show _ = (if c.hasId then c.stream.commitPending c.parser else c.stream).setParser
      c.parser.reset
    cases c.hasId with
    | false => rfl
    | true => exact stream_reset_commitPending c
  · obtain ⟨enqueued, henqueued⟩ : ∃ enqueued, c.answers (c.calls.countP isMessage) = enqueued :=
      ⟨_, rfl⟩
    have hstream : c.stream.answers (c.stream.calls.countP SseStream.isMessage) = enqueued := by
      rw [← henqueued, ← countP_native]
      rfl
    have hoffered := stream_offered c enqueued
    rw [SseStream.dispatch_message c.stream hpoisoned hdata hstream,
      dispatch_message c hpoisoned hdata henqueued]
    cases enqueued with
    | false =>
        show SseStream.setParser (c.offered false).stream
          { c.parser with
            pendingLastEventId := c.parser.pendingAtBlockStart
            dropObserved := true }.reset = _
        rw [hoffered]
        rfl
    | true =>
        have hcommit := stream_reset_commitPending (c.offered true)
        rw [hoffered] at hcommit
        exact hcommit

/-- **On ASCII lines `processLine` is the Android parser's.** -/
theorem stream_processLine (c : Html5Client) {line : Bytes} (hline : AsciiText line) :
    (c.processLine (widen line)).stream = c.stream.processLine (widen line) := by
  -- the two cut the line alike; only the number of a `retry:` is read differently
  obtain ⟨value, hascii, hvalue⟩ : ∃ value, AsciiText value ∧
      SseParser.valueOf (SseParser.stripCR (widen line)) = widen value := by
    refine ⟨SSEParser.valueOf (SSEParser.stripCR line), ?_, ?_⟩
    · exact hline.of_subset (fun c hc => mem_of_mem_stripCR (mem_of_mem_valueOf hc))
    · rw [SseParser.stripCR_widen, SseParser.valueOf_widen]
  show (c.processLine (widen line)).stream
    = c.stream.processField (SseParser.stripCR (widen line))
  unfold processLine SseStream.processField
  simp only [hvalue, isDigits_widen, parseInt_widen, SseParser.isInteger_widen hascii]
  generalize SseParser.stripCR (widen line) = text
  by_cases hblank : text.length = 0
  · rw [if_pos hblank, if_pos hblank]
    exact stream_dispatch c
  rw [if_neg hblank, if_neg hblank]
  by_cases hpoisoned : c.eventPoisoned = true
  · rw [if_pos hpoisoned, if_pos (show c.stream.parser.eventPoisoned = true from hpoisoned)]
  rw [if_neg hpoisoned, if_neg (show ¬ c.stream.parser.eventPoisoned = true from hpoisoned)]
  by_cases hcomment : text.head? = some 58
  · rw [if_pos hcomment, if_pos hcomment]
  rw [if_neg hcomment, if_neg hcomment]
  by_cases hdata : SseParser.fieldOf text = units "data"
  · rw [if_pos hdata, if_pos hdata]
    by_cases hbig : c.data.length + (widen value).length + 1 > maxBuffer
    · rw [if_pos hbig, if_pos (show c.stream.parser.data.length + _ + 1 > maxDataChars from hbig)]
      exact stream_poison c _
    · rw [if_neg hbig, if_neg (show ¬ c.stream.parser.data.length + _ + 1 > maxDataChars from hbig),
        ← List.append_assoc]
      rfl
  rw [if_neg hdata, if_neg hdata]
  by_cases hevent : SseParser.fieldOf text = units "event"
  · rw [if_pos hevent, if_pos hevent]
    rfl
  rw [if_neg hevent, if_neg hevent]
  by_cases hid : SseParser.fieldOf text = units "id"
  · rw [if_pos hid, if_pos hid]
    rfl
  rw [if_neg hid, if_neg hid]
  cases hretry : decide (SseParser.fieldOf text = units "retry") && SSEParser.isRetryValue value with
  | false => rfl
  | true =>
      have hparsed : SseParser.parsedRetry (widen value) = SSEParser.clampedRetry value :=
        SseParser.parsedRetry_widen (Bool.and_eq_true_iff.mp hretry).2 hascii
      rw [hparsed]
      exact stream_call { c with retryMs := SSEParser.clampedRetry value } (.setRetryMs _)

end Html5Client

/-! ## §3. The HTML5 adapter. -/

/-- A call into `sse.cpp`, as a report. -/
def Html5Call.report (stringToUTF8 : Utf16 → Bytes) : Html5Call → Option StreamReport
  | .callMessage eventName data id _ =>
      some (.message (some (Html5Client.allocString stringToUTF8 eventName))
        (some (Html5Client.allocString stringToUTF8 data))
        (some (Html5Client.allocString stringToUTF8 id)))
  | .callError error _ _ _ => some (.error (some (Html5Client.allocString stringToUTF8 error)))
  | .callLastEventId id => some (.lastEventId (Html5Client.allocString stringToUTF8 id))
  | .setRetryMs retryMs => some (.retry retryMs)

theorem reports_stream (stringToUTF8 : Utf16 → Bytes) (c : Html5Client) :
    c.stream.reports (Html5Client.allocString stringToUTF8)
      = c.calls.filterMap (Html5Call.report stringToUTF8) := by
  show (c.calls.map Html5Call.native).filterMap _ = _
  rw [List.filterMap_map]
  congr 1
  funext x
  cases x <;> rfl

/-- **The HTML5 adapter reports what the reader does.** -/
theorem html5_outputs {stringToUTF8 : Utf16 → Bytes}
    (hutf8 : ∀ text : List Char, stringToUTF8 (utf16 text) = utf8 text) (c : Html5Client)
    {lines : List Bytes} (hlines : ∀ line ∈ lines, AsciiText line) :
    outputs (grown (fun c line => Html5Client.processLine c (widen line))
          (fun c => c.calls.filterMap (Html5Call.report stringToUTF8)))
        c.beginAttempt lines
      = outputs (LineReader.readLine c.answers) {} lines := by
  have hencode : ∀ v, AsciiText v →
      Html5Client.allocString stringToUTF8 (widen v) = .read v := by
    intro v hv
    unfold Html5Client.allocString
    rw [← utf16_asciiChars hv, hutf8, utf8_asciiChars hv]
  apply outputs_grown_eq (P := AsciiText) (R := fun d r => StreamShows c.answers d.stream r)
    _ _ hlines
  · intro d r line hline hshows
    rw [← reports_stream, ← reports_stream, Html5Client.stream_processLine d hline]
    exact hshows.step hencode hline
  · exact { parser := shows_start false, messages := rfl, answers := rfl }

end DefoldSSE
