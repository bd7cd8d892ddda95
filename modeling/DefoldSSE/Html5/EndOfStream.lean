/-
  DefoldSSE.Html5.EndOfStream — the line that a stream leaves unfinished.

  When a stream ends, the loop of this adapter hands what is left pending to
  `processLine`; the parsers of the other adapters drop it.  The remainder is taken
  for a line that the server never ended: a lone CR for the blank line of a CRLF
  stream, the first digits of a `retry:` value for the whole of it.

  `restShows` is the exact condition under which this is seen from outside.
-/
import DefoldSSE.Html5.Stream

namespace DefoldSSE

open CLib

namespace Html5Client

/-! ## §1. What a stream leaves behind. -/

/-- A message that the queue took: event name, data and id. -/
def deliveredCall : Html5Call → Option (Utf16 × Utf16 × Utf16)
  | .callMessage eventName data id true => some (eventName, data, id)
  | _ => none

/-- The messages delivered, the last-event-id committed, and the delay for the
next reconnect. -/
structure Outcome where
  delivered : List (Utf16 × Utf16 × Utf16)
  lastEventId : Utf16
  retryMs : Int
  deriving DecidableEq

/-- Equal in each field. -/
theorem Outcome.eq_iff {a b : Outcome} :
    a = b ↔ a.delivered = b.delivered ∧ a.lastEventId = b.lastEventId ∧ a.retryMs = b.retryMs := by
  cases a
  cases b
  simp only [Outcome.mk.injEq]

def outcome (c : Html5Client) : Outcome where
  delivered := c.calls.filterMap deliveredCall
  lastEventId := c.lastEventId
  retryMs := c.retryMs

theorem outcome_setDiscardLine (c : Html5Client) (b : Bool) :
    (c.setDiscardLine b).outcome = c.outcome := rfl

theorem outcome_resetEvent (c : Html5Client) : c.resetEvent.outcome = c.outcome := rfl

theorem outcome_call (c : Html5Client) (x : Html5Call) :
    (c.call x).outcome
      = { c.outcome with delivered := c.outcome.delivered ++ (deliveredCall x).toList } := by
  have hone : [x].filterMap deliveredCall = (deliveredCall x).toList := by
    cases h : deliveredCall x with
    | none => simp [h]
    | some m => simp [h]
  unfold outcome call
  simp only [List.filterMap_append, hone]

/-- A call that is not a message, or one that was refused. -/
theorem outcome_call_none (c : Html5Client) {x : Html5Call} (hx : deliveredCall x = none) :
    (c.call x).outcome = c.outcome := by
  rw [outcome_call, hx, Option.toList_none, List.append_nil]

theorem outcome_poison (c : Html5Client) (message : String) :
    (c.poison message).outcome = c.outcome := by
  have hcall := outcome_call_none c
    (x := .callError (units message) 0 c.reconnect c.retryMs) rfl
  rw [← hcall]
  rfl

/-! ## §2. A remainder that is seen. -/

/-- A blank line here delivers a message or commits another id. -/
def blankShows (c : Html5Client) : Prop :=
  if c.data.length = 0 then
    c.hasId = true ∧ c.dropObserved = false
      ∧ ∃ id, c.pendingLastEventId = some id ∧ id ≠ c.lastEventId
  else c.answers (c.calls.countP isMessage) = true

/-- A `retry:` line that asks for another delay. -/
def retryShows (c : Html5Client) (line : Utf16) : Prop :=
  SseParser.fieldOf line = units "retry" ∧ isDigits (SseParser.valueOf line) = true
    ∧ clampRetry (parseInt (SseParser.valueOf line)) ≠ c.retryMs

/-- The remainder `rest`, taken for a line, is seen. -/
def restShows (c : Html5Client) (rest : Utf16) : Prop :=
  rest ≠ [] ∧ rest.length ≤ maxBuffer ∧ c.eventPoisoned = false
    ∧ if (SseParser.stripCR rest).length = 0 then c.blankShows
      else c.retryShows (SseParser.stripCR rest)

/-! ## §3. What a line does to the outcome. -/

theorem outcome_commitPending (c : Html5Client) :
    c.commitPending.outcome
      = { c.outcome with lastEventId := c.commitPending.lastEventId } := by
  unfold commitPending
  cases c.pendingLastEventId with
  | none => rfl
  | some id =>
      cases c.dropObserved with
      | true => rfl
      | false => exact outcome_call_none { c with lastEventId := id } rfl

theorem commitPending_lastEventId_iff (c : Html5Client) :
    c.commitPending.lastEventId = c.lastEventId
      ↔ ¬ (c.dropObserved = false ∧ ∃ id, c.pendingLastEventId = some id ∧ id ≠ c.lastEventId) := by
  unfold commitPending
  cases c.pendingLastEventId with
  | none => simp
  | some id =>
      cases c.dropObserved with
      | true => simp
      | false =>
          show id = c.lastEventId ↔ _
          simp

theorem outcome_dispatch_poisoned {c : Html5Client} (hpoisoned : c.eventPoisoned = true) :
    c.dispatch.outcome = c.outcome := by
  unfold dispatch
  rw [if_pos hpoisoned]
  rfl

/-- **A blank line.** -/
theorem outcome_dispatch_iff {c : Html5Client} (hpoisoned : c.eventPoisoned = false) :
    c.dispatch.outcome = c.outcome ↔ ¬ c.blankShows := by
  have hopen : ¬ c.eventPoisoned = true := by
    rw [hpoisoned]
    exact Bool.false_ne_true
  unfold blankShows
  by_cases hdata : c.data.length = 0
  · rw [dispatch_checkpoint c hopen hdata, outcome_resetEvent, if_pos hdata]
    cases hid : c.hasId with
    | false => simp
    | true =>
        rw [if_pos rfl, outcome_commitPending]
        have hiff := commitPending_lastEventId_iff c
        have houtcome : { c.outcome with lastEventId := c.commitPending.lastEventId } = c.outcome
            ↔ c.commitPending.lastEventId = c.lastEventId := by
          rw [Outcome.eq_iff]
          exact ⟨fun h => h.2.1, fun h => ⟨rfl, h, rfl⟩⟩
        rw [houtcome, hiff]
        simp only [true_and]
  · rw [if_neg hdata]
    cases henqueued : c.answers (c.calls.countP isMessage) with
    | true =>
        rw [dispatch_message c hopen hdata henqueued, if_pos rfl, outcome_resetEvent,
          outcome_commitPending]
        -- one message more
        constructor
        · intro h
          have hlength := congrArg (fun o => o.delivered.length) h
          simp only [offered, outcome_call, deliveredCall, Option.toList_some, List.length_append,
            List.length_singleton] at hlength
          omega
        · intro h
          exact absurd rfl h
    | false =>
        rw [dispatch_message c hopen hdata henqueued, if_neg Bool.false_ne_true,
          outcome_resetEvent]
        have hrefused : (c.offered false).outcome = c.outcome := outcome_call_none c rfl
        constructor
        · intro _ h
          exact Bool.false_ne_true h
        · intro _
          exact hrefused

/-- **A line that is not blank.** -/
theorem outcome_processField_iff {c : Html5Client} (hpoisoned : c.eventPoisoned = false)
    {line : Utf16} (hline : ¬ (SseParser.stripCR line).length = 0) :
    (c.processLine line).outcome = c.outcome ↔ ¬ c.retryShows (SseParser.stripCR line) := by
  have hopen : ¬ c.eventPoisoned = true := by
    rw [hpoisoned]
    exact Bool.false_ne_true
  unfold processLine
  simp only
  rw [if_neg hline, if_neg hopen]
  generalize SseParser.stripCR line = line
  unfold retryShows
  -- the other fields are not `retry`, and leave the outcome as it is
  have hother : SseParser.fieldOf line ≠ units "retry" → ∀ c' : Html5Client,
      c'.outcome = c.outcome → (c'.outcome = c.outcome ↔ ¬ (SseParser.fieldOf line = units "retry"
        ∧ isDigits (SseParser.valueOf line) = true
        ∧ clampRetry (parseInt (SseParser.valueOf line)) ≠ c.retryMs)) :=
    fun hfield c' hsame => ⟨fun _ h => hfield h.1, fun _ => hsame⟩
  by_cases hcomment : line.head? = some 58
  · have hempty : SseParser.fieldOf line ≠ units "retry" := by
      obtain ⟨rest, rfl⟩ : ∃ rest, line = 58 :: rest := List.head?_eq_some_iff.mp hcomment
      show [] ≠ units "retry"
      decide
    rw [if_pos hcomment]
    exact hother hempty c rfl
  rw [if_neg hcomment]
  by_cases hdata : SseParser.fieldOf line = units "data"
  · rw [if_pos hdata]
    rw [hdata] at hother ⊢
    split
    · exact hother (by decide) _ (outcome_poison c _)
    · exact hother (by decide) _ rfl
  rw [if_neg hdata]
  by_cases hevent : SseParser.fieldOf line = units "event"
  · rw [if_pos hevent]
    rw [hevent] at hother ⊢
    exact hother (by decide) _ rfl
  rw [if_neg hevent]
  by_cases hid : SseParser.fieldOf line = units "id"
  · rw [if_pos hid]
    rw [hid] at hother ⊢
    exact hother (by decide) _ rfl
  rw [if_neg hid]
  generalize clampRetry (parseInt (SseParser.valueOf line)) = retryMs
  by_cases hretry : SseParser.fieldOf line = units "retry"
  · cases hdigits : isDigits (SseParser.valueOf line) with
    | true =>
        rw [if_pos (by simp [hretry])]
        have hcall : ({ c with retryMs := retryMs }.call (.setRetryMs retryMs)).outcome
            = { c.outcome with retryMs := retryMs } :=
          outcome_call_none { c with retryMs := retryMs } rfl
        rw [hcall, Outcome.eq_iff]
        constructor
        · intro h hshows
          exact hshows.2.2 h.2.2
        · intro h
          exact ⟨rfl, rfl, Classical.not_not.mp (fun hne => h ⟨hretry, rfl, hne⟩)⟩
    | false =>
        rw [if_neg (by simp)]
        exact ⟨fun _ h => Bool.false_ne_true h.2.1, fun _ => rfl⟩
  · rw [if_neg (by simp [hretry])]
    exact ⟨fun _ h => hretry h.1, fun _ => rfl⟩

/-- The calls of the end-of-stream step. -/
theorem outcome_rest_iff (c : Html5Client) (rest : Utf16) :
    ((if rest = [] then [] else [LineCall.ofLine rest]).foldl lineCall c).outcome = c.outcome
      ↔ ¬ c.restShows rest := by
  unfold restShows
  by_cases hnil : rest = []
  · rw [if_pos hnil]
    exact ⟨fun _ h => h.1 hnil, fun _ => rfl⟩
  rw [if_neg hnil, List.foldl_cons, List.foldl_nil]
  by_cases hlong : rest.length > maxBuffer
  · rw [LineCall.ofLine, if_pos hlong]
    exact ⟨fun _ h => absurd hlong (Nat.not_lt.mpr h.2.1), fun _ => outcome_poison c lineTooLong⟩
  rw [LineCall.ofLine, if_neg hlong]
  show (c.processLine rest).outcome = c.outcome ↔ _
  cases hpoisoned : c.eventPoisoned with
  | true =>
      have hsame : (c.processLine rest).outcome = c.outcome := by
        unfold processLine
        simp only
        split
        · exact outcome_dispatch_poisoned hpoisoned
        · rfl
      exact ⟨fun _ h => Bool.false_ne_true h.2.2.1.symm, fun _ => hsame⟩
  | false =>
      by_cases hblank : (SseParser.stripCR rest).length = 0
      · have hline : c.processLine rest = c.dispatch := if_pos hblank
        rw [hline, outcome_dispatch_iff hpoisoned, if_pos hblank]
        exact not_congr ⟨fun h => ⟨hnil, Nat.le_of_not_lt hlong, rfl, h⟩, fun h => h.2.2.2⟩
      · rw [outcome_processField_iff hpoisoned hblank, if_neg hblank]
        exact not_congr ⟨fun h => ⟨hnil, Nat.le_of_not_lt hlong, rfl, h⟩, fun h => h.2.2.2⟩

/-! ## §4. The unfinished line. -/

/-- The client when the lines that a line feed ends have been read. -/
def beforeEnd (c : Html5Client) (text : Utf16) : Html5Client :=
  (terminatedCalls text).foldl lineCall c.beginAttempt

end Html5Client

open Html5Client

theorem outcome_runStream (c : Html5Client) (d : DecodedStream) :
    (runStream c d).client.outcome = ((textCalls d.text).foldl lineCall c.beginAttempt).outcome := by
  rw [runStream_client, outcome_setDiscardLine]

/-- **When an unfinished line is not seen.**  The outcome is that of the text up
to its last line feed exactly if the remainder, taken for a line, would not show. -/
theorem unfinishedLine_ignored_iff (c : Html5Client) (d d' : DecodedStream)
    (htext : d'.text = d.text.rdropWhile (· != 10)) :
    (runStream c d).client.outcome = (runStream c d').client.outcome
      ↔ ¬ (c.beforeEnd d.text).restShows (remainder d.text) := by
  have hterminated : textCalls d'.text = terminatedCalls d.text := by
    unfold textCalls terminatedCalls remainder
    rw [htext, cut_rdropWhile, if_pos rfl, List.append_nil]
  rw [outcome_runStream, outcome_runStream, hterminated, textCalls, List.foldl_append]
  exact outcome_rest_iff (c.beforeEnd d.text) (remainder d.text)

/-- A `data:` line cut short. -/
theorem unfinishedLine_ignored_iff_data :
    (runStream (create [] true 3000 (fun _ => true))
        ⟨[units "data: x\n", units "dat"], [], List.not_mem_nil⟩).client.outcome
      = (runStream (create [] true 3000 (fun _ => true))
        ⟨[units "data: x\n"], [], List.not_mem_nil⟩).client.outcome
    ↔ ¬ ((create [] true 3000 (fun _ => true)).beforeEnd (units "data: x\ndat")).restShows
      (units "dat") :=
  unfinishedLine_ignored_iff _ _ _ (by decide)

/-- The stream ends between the CR and the LF of a blank line: the event is
delivered. -/
theorem unfinishedLine_delivers :
    (runStream (create [] true 3000 (fun _ => true))
        ⟨[units "data: x\r\n\r"], [], List.not_mem_nil⟩).client.outcome
      ≠ (runStream (create [] true 3000 (fun _ => true))
        ⟨[(units "data: x\r\n\r").rdropWhile (· != 10)], [], List.not_mem_nil⟩).client.outcome := by
  decide

end DefoldSSE
