/-
  DefoldSSE.Desktop.Lines — `SSEParser` with the desktop callbacks is a
  `LineReader`.

  The parser keeps its id state as one string and two flags, and leaves the
  event name of a poisoned block in place until the block ends.
-/
import DefoldSSE.Desktop.Attempt
import DefoldSSE.Parser.Lines

namespace DefoldSSE

open CLib EventStream

/-- A call that leaves the adapter, as a report. -/
def Effect.report : Effect → Option StreamReport
  | .push e _ => e.report
  | .setLastEventId _ id => some (.lastEventId id)
  | .call (.retry retryMs) => some (.retry retryMs)
  | _ => none

namespace SSEParser

variable {σ : Type}

/-- What a line of a block does, once it is classified. -/
def takeLine (p : SSEParser) (l : BlockLine) (callbacks : SSEParserCallbacks σ) (ctx : σ) :
    SSEParser × σ :=
  match l with
  | .data v =>
      if p.data.length + v.length + 1 > sseParserMaxBuffer then
        (p.poisonEvent, callbacks.callOnError ctx dataTooLong)
      else ({ p with data := p.data ++ v ++ [LF] }, ctx)
  | .event v => ({ p with event := v }, ctx)
  | .id v => ({ p with id := v, hasId := true, hasIdEver := true }, ctx)
  | .retry v =>
      if isRetryValue v then (p, callbacks.callOnRetry ctx (retryMs LONG_MAX v)) else (p, ctx)
  | .ignored => (p, ctx)
  | .oversize => (p, ctx)

theorem processField_eq_takeLine (p : SSEParser) (text : Bytes)
    (callbacks : SSEParserCallbacks σ) (ctx : σ) :
    p.processField text callbacks ctx
      = match classify text with
        | none => p.dispatch callbacks ctx
        | some l => if p.eventPoisoned then (p, ctx) else p.takeLine l callbacks ctx := by
  by_cases hblank : text = []
  · rw [hblank]
    rfl
  · unfold processField
    rw [if_neg hblank]
    by_cases hpoisoned : p.eventPoisoned = true
    · rw [if_pos hpoisoned]
      cases hl : classify text with
      | none => exact absurd ((classify_eq_none_iff text).mp hl) hblank
      | some l => exact (if_pos hpoisoned).symm
    · have hline {l : BlockLine} (hl : classify text = some l) :
          (match classify text with
            | none => p.dispatch callbacks ctx
            | some l => if p.eventPoisoned then (p, ctx) else p.takeLine l callbacks ctx)
            = p.takeLine l callbacks ctx := by
        rw [hl]
        exact if_neg hpoisoned
      rw [if_neg hpoisoned]
      rcases classify_cases hblank with ⟨hcolon, hl⟩ | ⟨hcolon, hl⟩
      · rw [hline hl, if_pos hcolon]
        rfl
      · rw [if_neg hcolon]
        rcases hl with ⟨hfield, hl⟩ | ⟨hfield, hl⟩ | ⟨hfield, hl⟩ | ⟨hfield, hl⟩ | ⟨hfield, hl⟩
        · rw [hline hl, hfield]
          rfl
        · rw [hline hl, hfield]
          rfl
        · rw [hline hl, hfield]
          rfl
        · rw [hline hl, hfield]
          rfl
        · obtain ⟨hdata, hevent, hid, hretry⟩ := hfield
          rw [hline hl]
          simp only [hdata, hevent, hid, hretry, if_false]
          rfl

end SSEParser

namespace Adapter

/-- What the adapter has reported. -/
def reports (a : Adapter) : List StreamReport := a.trace.filterMap Effect.report

/-- A line handed to `ProcessLine` with the adapter's callbacks. -/
def lineStep (s : SSEParser × Adapter) (line : Bytes) : SSEParser × Adapter :=
  s.1.processLine line callbacks s.2

/-! ## §1. The callbacks report. -/

theorem reports_log (a : Adapter) (e : Effect) :
    (a.log e).reports = a.reports ++ e.report.toList := by
  unfold reports
  rw [log_trace, List.filterMap_append]
  cases h : e.report with
  | none => simp [h]
  | some r => simp [h]

theorem reports_commitLastEventId (a : Adapter) (id : CString) :
    (a.commitLastEventId id).reports = a.reports ++ [.lastEventId id] := by
  unfold commitLastEventId
  rw [reports_log, reports_log]
  show (a.reports ++ []) ++ [.lastEventId id] = _
  rw [List.append_nil]

theorem reports_onParserRetry (a : Adapter) (retryMs : Int) :
    (a.onParserRetry retryMs).reports = a.reports ++ [.retry retryMs] :=
  reports_log a (.call (.retry retryMs))

theorem reports_onParserId (a : Adapter) (id : Bytes) :
    (a.onParserId id).reports = a.reports ++ [.lastEventId (.read id)] := by
  unfold onParserId
  rw [reports_commitLastEventId, reports_log]
  show (a.reports ++ []) ++ _ = _
  rw [List.append_nil]

theorem reports_onParserError (a : Adapter) (message : String) :
    (a.onParserError message).reports = a.reports ++ [.error (some (.lit message))] := by
  unfold onParserError enqueueError queuePush
  rw [reports_log, reports_log]
  show (a.reports ++ []) ++ _ = _
  rw [List.append_nil]
  rfl

/-- The message, and the id it commits if it was accepted. -/
theorem reports_onParserEvent (a : Adapter) (event : SSEParsedEvent) :
    let ok := a.queue.message (messagePushes a.trace).length
    (a.onParserEvent event).2.reports = a.reports
      ++ .message (some (.read event.event)) (some (.read event.data)) (some (.read event.id))
        :: (match if ok then event.lastEventId else none with
            | some id => [.lastEventId (.read id)]
            | none => []) := by
  intro ok
  have hpushed : (a.pushed event ok).reports = a.reports
      ++ [.message (some (.read event.event)) (some (.read event.data))
        (some (.read event.id))] := by
    unfold pushed
    rw [reports_log, reports_log]
    show (a.reports ++ []) ++ _ = _
    rw [List.append_nil]
    rfl
  rw [onParserEvent_eq]
  show ((a.pushed event ok).commitOffered (if ok then event.lastEventId else none)).reports = _
  cases (if ok then event.lastEventId else none) with
  | none => exact hpushed
  | some id =>
      show ((a.pushed event ok).commitLastEventId (.read id)).reports = _
      rw [reports_commitLastEventId, hpushed, List.append_assoc]
      rfl

end Adapter

/-! ## §2. The parser's fields. -/

/-- The parser and its adapter stand where the reader stands. -/
structure Reads (answers : Nat → Bool) (p : SSEParser) (a : Adapter) (r : LineReader) : Prop where
  data : r.data = p.data
  -- `PoisonEvent` leaves the name in place until the block ends
  event : p.eventPoisoned = false → r.event = p.event
  ownId : r.ownId = if p.hasId then some p.id else none
  pending : r.pending = if p.hasIdEver then some p.id else none
  start : r.pendingAtBlockStart = if p.hasIdEverAtBlockStart then some p.idAtBlockStart else none
  ever : p.hasId = true → p.hasIdEver = true
  poisoned : r.poisoned = p.eventPoisoned
  dropObserved : r.dropObserved = p.dropObserved
  lastLF : p.data ≠ [] → p.data.getLast? = some LF
  messages : r.messages = (Adapter.messagePushes a.trace).length
  answers : a.queue.message = answers

section

variable {answers : Nat → Bool} {p : SSEParser} {a : Adapter} {r : LineReader}

/-- A call that offers no message leaves the parser where it is. -/
theorem Reads.does {a' : Adapter} {os : List BlockOutcome} (h : Reads answers p a r)
    (hdoes : Adapter.Does a a' os) (hno : os.filterMap BlockOutcome.offered = []) :
    Reads answers p a' r :=
  { h with
    messages := by
      rw [hdoes.count, hno]
      exact h.messages
    answers := by
      rw [hdoes.queue]
      exact h.answers }

/-- A block ends for both. -/
theorem Reads.closeBlock (hpending : r.pending = if p.hasIdEver then some p.id else none)
    (hpoisoned : p.eventPoisoned = false) (hpoisoned' : r.poisoned = false)
    (hdrop : r.dropObserved = p.dropObserved)
    (hmessages : r.messages = (Adapter.messagePushes a.trace).length)
    (hanswers : a.queue.message = answers) : Reads answers p.closeBlock a r.endBlock where
  data := rfl
  event _ := rfl
  ownId := rfl
  pending := hpending
  start := hpending
  ever h := (Bool.false_ne_true h).elim
  poisoned := hpoisoned'.trans hpoisoned.symm
  dropObserved := hdrop
  lastLF h := absurd rfl h
  messages := hmessages
  answers := hanswers

/-- The message that the parser offers is the reader's. -/
theorem Reads.parsedEvent (h : Reads answers p a r) (hpoisoned : p.eventPoisoned = false)
    (hdata : p.data ≠ []) :
    StreamReport.message (some (.read p.parsedEvent.event)) (some (.read p.parsedEvent.data))
      (some (.read p.parsedEvent.id)) = r.message := by
  have hid : (if p.hasId then p.id else []) = r.ownId.getD [] := by
    rw [h.ownId]
    split <;> rfl
  unfold SSEParser.parsedEvent LineReader.message
  rw [h.event hpoisoned, h.data, if_pos (h.lastLF hdata), hid]

/-- The id that the parser hands over with an event is what the reader commits. -/
theorem Reads.lastEventId (h : Reads answers p a r) :
    (match p.parsedEvent.lastEventId with
      | some id => [StreamReport.lastEventId (.read id)]
      | none => []) = r.commit := by
  unfold SSEParser.parsedEvent LineReader.commit
  rw [h.pending, h.dropObserved]
  cases p.hasIdEver <;> cases p.dropObserved <;> rfl

/-- **A blank line** does the same to both. -/
theorem Reads.dispatch (h : Reads answers p a r) :
    (p.dispatch Adapter.callbacks a).2.reports
        = a.reports ++ (r.blankLine (answers r.messages)).2
      ∧ Reads answers (p.dispatch Adapter.callbacks a).1 (p.dispatch Adapter.callbacks a).2
          (r.blankLine (answers r.messages)).1 := by
  unfold LineReader.blankLine
  by_cases hpoisoned : p.eventPoisoned = true
  · rw [SSEParser.dispatch_poisoned _ _ _ hpoisoned, if_pos (h.poisoned.trans hpoisoned)]
    exact ⟨(List.append_nil _).symm,
      .closeBlock h.pending rfl rfl h.dropObserved h.messages h.answers⟩
  have hpoisoned : p.eventPoisoned = false := Bool.eq_false_iff.mpr hpoisoned
  have hlive : r.poisoned = false := h.poisoned.trans hpoisoned
  rw [if_neg (Bool.eq_false_iff.mp hlive)]
  by_cases hdata : p.data = []
  · rw [SSEParser.dispatch_checkpoint _ _ _ hpoisoned hdata, if_pos (h.data.trans hdata)]
    have hblock (a' : Adapter) (hdoes : Reads answers p a' r) :
        Reads answers p.closeBlock a' r.endBlock :=
      .closeBlock h.pending hpoisoned hlive h.dropObserved hdoes.messages hdoes.answers
    cases hid : p.hasId with
    | false =>
        rw [h.ownId, hid]
        exact ⟨(List.append_nil _).symm, hblock a h⟩
    | true =>
        have hcommit : r.commit = if p.dropObserved then [] else [.lastEventId (.read p.id)] := by
          unfold LineReader.commit
          rw [h.pending, h.ever hid, h.dropObserved]
          rfl
        rw [h.ownId, hid, hcommit]
        cases hdrop : p.dropObserved with
        | true => exact ⟨(List.append_nil _).symm, hblock a h⟩
        | false =>
            exact ⟨Adapter.reports_onParserId a p.id,
              hblock _ (h.does (Adapter.onParserId_does a p.id) rfl)⟩
  · have hdata' : ¬ r.data = [] := by
      rw [h.data]
      exact hdata
    rw [if_neg hdata']
    have hok : a.queue.message (Adapter.messagePushes a.trace).length = answers r.messages := by
      rw [h.answers, h.messages]
    obtain ⟨hanswer, hdoes⟩ := Adapter.onParserEvent_does a p.parsedEvent
    have hreports := Adapter.reports_onParserEvent a p.parsedEvent
    have hmessages : r.messages + 1
        = (Adapter.messagePushes (a.onParserEvent p.parsedEvent).2.trace).length :=
      (congrArg (· + 1) h.messages).trans hdoes.count.symm
    have hanswers := (congrArg QueueAnswers.message hdoes.queue).trans h.answers
    simp only [hok, h.parsedEvent hpoisoned hdata] at hanswer hreports
    cases hans : answers r.messages with
    -- delivered: the parser hands its id over with the event
    | true =>
        rw [hans] at hanswer hreports
        rw [SSEParser.dispatch_delivered Adapter.callbacks p a hpoisoned hdata hanswer, if_pos rfl]
        rw [if_pos rfl, h.lastEventId] at hreports
        exact ⟨hreports,
          .closeBlock h.pending hpoisoned hlive h.dropObserved hmessages hanswers⟩
    -- refused: string and flag go back to their copies of the block's start
    | false =>
        rw [hans] at hanswer hreports
        rw [SSEParser.dispatch_refused Adapter.callbacks p a hpoisoned hdata hanswer,
          if_neg Bool.false_ne_true]
        exact ⟨hreports, .closeBlock h.start hpoisoned hlive rfl hmessages hanswers⟩

/-- **A line of a block** does the same to both. -/
theorem Reads.takeLine (h : Reads answers p a r) (hpoisoned : p.eventPoisoned = false)
    (l : BlockLine) :
    (p.takeLine l Adapter.callbacks a).2.reports = a.reports ++ (r.fieldLine l).2
      ∧ Reads answers (p.takeLine l Adapter.callbacks a).1 (p.takeLine l Adapter.callbacks a).2
          (r.fieldLine l).1 := by
  have hlive : r.poisoned = false := h.poisoned.trans hpoisoned
  cases l with
  | data v =>
      show (if _ then _ else _ : SSEParser × Adapter).2.reports
          = a.reports ++ (if _ then _ else _ : LineReader × List StreamReport).2
        ∧ Reads answers (if _ then _ else _ : SSEParser × Adapter).1
            (if _ then _ else _ : SSEParser × Adapter).2
            (if _ then _ else _ : LineReader × List StreamReport).1
      rw [h.data]
      split
      · refine ⟨Adapter.reports_onParserError a dataTooLong, ?_⟩
        -- the parser keeps the event name of the lost block; nothing reads it
        exact Reads.does
          { data := rfl
            event := fun hp => (Bool.false_ne_true hp.symm).elim
            ownId := rfl
            pending := h.start
            start := h.start
            ever := fun hp => (Bool.false_ne_true hp).elim
            poisoned := rfl
            dropObserved := h.dropObserved
            lastLF := fun hp => absurd rfl hp
            messages := h.messages
            answers := h.answers } (Adapter.onParserError_does a dataTooLong) rfl
      · exact ⟨(List.append_nil _).symm,
          { h with
            data := rfl
            lastLF := fun _ => List.getLast?_concat .. }⟩
  | event v => exact ⟨(List.append_nil _).symm, { h with event := fun _ => rfl }⟩
  | id v =>
      exact ⟨(List.append_nil _).symm,
        { h with ownId := rfl, pending := rfl, ever := fun _ => rfl }⟩
  | retry v =>
      show (if _ then _ else _ : SSEParser × Adapter).2.reports
          = a.reports ++ (if _ then _ else _)
        ∧ Reads answers (if _ then _ else _ : SSEParser × Adapter).1
            (if _ then _ else _ : SSEParser × Adapter).2 r
      split
      · rename_i hvalid
        rw [SSEParser.retryMs_eq (by decide) hvalid]
        exact ⟨Adapter.reports_onParserRetry a _,
          h.does (Adapter.onParserRetry_does a _) rfl⟩
      · exact ⟨(List.append_nil _).symm, h⟩
  | ignored => exact ⟨(List.append_nil _).symm, h⟩
  | oversize => exact ⟨(List.append_nil _).symm, h⟩

/-- **`ProcessLine` is the reader.** -/
theorem Reads.step (h : Reads answers p a r) {line : Bytes} (hline : AsciiText line) :
    (Adapter.lineStep (p, a) line).2.reports = a.reports ++ (r.readLine answers line).2
      ∧ Reads answers (Adapter.lineStep (p, a) line).1 (Adapter.lineStep (p, a) line).2
          (r.readLine answers line).1 := by
  -- no ASCII line starts with a BOM
  have hbom : SSEParser.stripBom line = line := by
    unfold SSEParser.stripBom
    rw [if_neg]
    intro htake
    have hmem : (0xEF : UInt8) ∈ line := by
      apply List.mem_of_mem_take (i := 3)
      rw [htake]
      exact List.mem_cons_self
    exact absurd (hline _ hmem).2 (by decide)
  have hread : Reads answers { p with firstLine := false } a r := { h with }
  unfold Adapter.lineStep SSEParser.processLine LineReader.readLine
  rw [hbom, ite_self, SSEParser.processField_eq_takeLine]
  cases classify (SSEParser.stripCR line) with
  | none => exact hread.dispatch
  | some l =>
      show (if p.eventPoisoned then _ else _ : SSEParser × Adapter).2.reports
          = a.reports ++ (if r.poisoned then _ else _ : LineReader × List StreamReport).2
        ∧ Reads answers (if p.eventPoisoned then _ else _ : SSEParser × Adapter).1
            (if p.eventPoisoned then _ else _ : SSEParser × Adapter).2
            (if r.poisoned then _ else _ : LineReader × List StreamReport).1
      by_cases hpoisoned : p.eventPoisoned = true
      · rw [if_pos hpoisoned, if_pos (h.poisoned.trans hpoisoned)]
        exact ⟨(List.append_nil _).symm, hread⟩
      · have hlive : ¬ r.poisoned = true := by
          rw [h.poisoned]
          exact hpoisoned
        rw [if_neg hpoisoned, if_neg hlive]
        exact hread.takeLine (Bool.eq_false_iff.mpr hpoisoned) l

end

theorem reads_start (conn : SSEDesktopConnection) (queue : QueueAnswers) :
    Reads queue.message .reset (.start conn queue) {} where
  data := rfl
  event _ := rfl
  ownId := rfl
  pending := rfl
  start := rfl
  ever h := (Bool.false_ne_true h).elim
  poisoned := rfl
  dropObserved := rfl
  lastLF h := absurd rfl h
  messages := rfl
  answers := rfl

/-- **The desktop adapter reports what the reader does.** -/
theorem desktop_outputs (conn : SSEDesktopConnection) (queue : QueueAnswers) {lines : List Bytes}
    (hlines : ∀ line ∈ lines, AsciiText line) :
    outputs (grown Adapter.lineStep (fun s => s.2.reports)) (.reset, .start conn queue) lines
      = outputs (LineReader.readLine queue.message) {} lines := by
  apply outputs_grown_eq (R := fun (s : SSEParser × Adapter) r => Reads queue.message s.1 s.2 r)
    (P := AsciiText) _ (reads_start conn queue) hlines
  intro s r line hline hreads
  exact hreads.step hline

end DefoldSSE
