/-
  DefoldSSE.Parser.Recovery — what a lost block leaves behind.

  `Reached p seen` says that a parser stands in state `p` after the bytes
  `seen`, its `Feed` calls and their callbacks being whatever they were.
  `reached_rel` carries the relation of `Parser/Simulation.lean` to all of these
  states.  Between two blocks that relation fixes the whole state
  (`Rel.unique`), so what a block does to the parser is what `endBlock` does to
  the little that is remembered.
-/
import DefoldSSE.Parser.Reference

namespace DefoldSSE

open CLib EventStream EventStream.Block

/-! ## §1. Reachable states. -/

/-- The state of a parser that was `Reset` and fed these bytes since.  Every byte
may come with callbacks of its own. -/
inductive Reached : SSEParser → Bytes → Prop where
  | reset : Reached .reset []
  | byte {p : SSEParser} {seen : Bytes} (h : Reached p seen) {σ : Type}
      (callbacks : SSEParserCallbacks σ) (ctx : σ) (c : UInt8) :
      Reached (SSEParser.feedByte callbacks (p, ctx) c).1 (seen ++ [c])

/-- A `Feed` call, one byte at a time. -/
theorem Reached.feed {p : SSEParser} {seen : Bytes} (h : Reached p seen) {σ : Type}
    (callbacks : SSEParserCallbacks σ) (ctx : σ) (bytes : Bytes) :
    Reached (p.feed bytes callbacks ctx).1 (seen ++ bytes) := by
  induction bytes using List.reverseRecOn with
  | nil =>
    rw [List.append_nil]
    exact h
  | append_singleton bytes c ih =>
    rw [SSEParser.feed_snoc, ← List.append_assoc]
    exact .byte ih callbacks _ c

/-- One byte more or less, and the lines of the unfinished block. -/
theorem pendingBlock_snoc (seen : Bytes) (c : UInt8) :
    pendingBlock (seen ++ [c])
      = (blocksOf (streamLines seen
          ++ readItems ((lineItems seen).all LineItem.isOversize) (newItems seen c))).2 := by
  unfold pendingBlock streamLines
  rw [lineItems_snoc]
  obtain hnone | ⟨item, hone⟩ := newItems_cases seen c
  · rw [hnone, readItems, List.append_nil, List.append_nil]
  · rw [hone, readItems_snoc, Bool.true_and]
    rfl

/-- **In every reachable state** the fields say what the stream says. -/
theorem reached_rel {p : SSEParser} {seen : Bytes} (h : Reached p seen) :
    ∃ (q : SSEParser) (r : Resume), q.Rel ((lineItems seen).all LineItem.isOversize) r (pendingBlock seen)
      ∧ p = q.withBuffer (lineBuffer seen) (discarding seen) := by
  induction h with
  | reset => exact ⟨.reset, .init, SSEParser.rel_reset, rfl⟩
  | @byte p seen _ σ callbacks ctx c ih =>
    obtain ⟨q, r, hrel, rfl⟩ := ih
    rw [SSEParser.feedByte_newItems, pendingBlock_snoc, lineItems_snoc, List.all_append]
    -- a byte completes one line or none
    obtain hnone | ⟨item, hone⟩ := newItems_cases seen c
    · refine ⟨q, r, ?_, by rw [hnone]; rfl⟩
      rw [hnone, readItems, List.append_nil, List.all_nil, Bool.and_true]
      exact hrel
    · obtain ⟨hstep, -⟩ := hrel.feedItem callbacks item ctx
      rw [hone, readItems, readItems, List.all_cons, List.all_nil, Bool.and_true]
      cases hread : readItem ((lineItems seen).all LineItem.isOversize) item with
      | none =>
          rw [hread] at hstep
          rw [blocksOf_snoc_blank]
          exact ⟨_, _, hstep, rfl⟩
      | some l =>
          rw [hread] at hstep
          rw [blocksOf_snoc_line]
          exact ⟨_, _, hstep, rfl⟩

/-! ## §2. Between two blocks. -/

/-- The last byte was the LF of a blank line. -/
structure EndsBlankLine (seen : Bytes) : Prop where
  lineEnd : (cut LF seen).2 = []
  blank : (streamLines seen).getLast? = some none

/-- A blank line is not too long, and there is one. -/
theorem EndsBlankLine.lineItems_all {seen : Bytes} (h : EndsBlankLine seen) :
    (lineItems seen).all LineItem.isOversize = false := by
  have hblank := h.blank
  unfold streamLines at hblank
  induction hitems : lineItems seen using List.reverseRecOn with
  | nil =>
    rw [hitems] at hblank
    cases hblank
  | append_singleton items item _ =>
    rw [hitems, readItems_snoc, List.getLast?_concat, Option.some.injEq] at hblank
    cases item with
    | oversize => cases hblank
    | line text => simp [LineItem.isOversize]

theorem EndsBlankLine.pendingBlock_eq {seen : Bytes} (h : EndsBlankLine seen) :
    pendingBlock seen = [] := by
  obtain ⟨lines, hlines⟩ := List.getLast?_eq_some_iff.mp h.blank
  rw [pendingBlock, hlines, blocksOf_snoc_blank]

namespace SSEParser

/-- What the relation says of a parser between two blocks. -/
theorem Rel.eq_of_nil {p : SSEParser} {first : Bool} {r : Resume} (h : Rel p first r []) :
    p = { p with
      data := []
      event := []
      id := r.lastId.getD []
      idAtBlockStart := r.lastId.getD []
      hasId := false
      hasIdEver := r.lastId.isSome
      hasIdEverAtBlockStart := r.lastId.isSome
      dropObserved := r.dropObserved
      firstLine := first
      eventPoisoned := false } := by
  have hp : poisoned [] = false := poisoned_nil
  have hdata : p.data = [] := h.data hp
  have hevent : p.event = [] := h.event hp
  have hid : p.id = r.lastId.getD [] := h.id hp
  have hhas : p.hasId = false := h.hasId hp
  have hever : p.hasIdEver = r.lastId.isSome := h.ever hp
  have hpoisoned : p.eventPoisoned = false := h.poisoned_eq.trans hp
  cases p
  simp only [SSEParser.mk.injEq, true_and]
  exact ⟨hdata, hevent, hid, h.idStart, hhas, hever, h.everStart, h.drop, h.firstLine, hpoisoned⟩

/-- **Between two blocks** what is remembered fixes the state. -/
theorem Rel.unique {p q : SSEParser} {first : Bool} {r : Resume} (hp : Rel p first r [])
    (hq : Rel q first r []) (line : Bytes) (discarding : Bool) :
    p.withBuffer line discarding = q.withBuffer line discarding := by
  rw [hp.eq_of_nil, hq.eq_of_nil]
  rfl

/-- The state after a refused message. -/
theorem Rel.observeDrop {p : SSEParser} {first : Bool} {r : Resume} (h : Rel p first r []) :
    Rel { p with dropObserved := true } first { r with dropObserved := true } [] :=
  { h with drop := rfl }

end SSEParser

/-- **Every reachable state between two blocks** has an empty buffer and holds
nothing but what is remembered. -/
theorem Reached.atBoundary {p : SSEParser} {seen : Bytes} (h : Reached p seen)
    (hboundary : EndsBlankLine seen) : ∃ r, p.Rel false r [] ∧ p = p.withBuffer [] false := by
  obtain ⟨q, r, hrel, rfl⟩ := reached_rel h
  have hdisc : discarding seen = false := by simp [discarding, hboundary.lineEnd]
  have hbuf : lineBuffer seen = [] := by simp [lineBuffer, hdisc, hboundary.lineEnd]
  rw [hboundary.lineItems_all, hboundary.pendingBlock_eq] at hrel
  rw [hdisc, hbuf]
  exact ⟨r, { hrel with }, rfl⟩

/-! ## §3. One further block. -/

/-- Bytes that are lines without a blank one, and then a blank line. -/
structure OneBlock (bytes : Bytes) : Prop where
  lineEnd : (cut LF bytes).2 = []
  lines : ∃ lines last, (cut LF bytes).1 = lines ++ [last] ∧ SSEParser.stripCR last = []
    ∧ ∀ line ∈ lines, SSEParser.stripCR line ≠ []

/-- The lines of such bytes, read by a parser that is past its first line. -/
def blockOf (bytes : Bytes) : Block := (readItems false (lineItems bytes)).reduceOption

theorem readItems_false (items : List LineItem) :
    readItems false items = items.map (readItem false) := by
  induction items with
  | nil => rfl
  | cons item items ih => rw [readItems, List.map_cons, Bool.false_and, ih]

/-- A line that is empty but for a CR is within the cap. -/
theorem length_of_stripCR_eq_nil {line : Bytes} (h : SSEParser.stripCR line = []) :
    line.length ≤ 1 := by
  unfold SSEParser.stripCR at h
  split at h
  · have hlength := congrArg List.length h
    rw [List.length_dropLast, List.length_nil] at hlength
    omega
  · rw [h]
    exact Nat.zero_le 1

/-- A line that is not blank is not read as blank. -/
theorem readItem_capped_ne_none {line : Bytes} (h : SSEParser.stripCR line ≠ []) :
    readItem false (capped line) ≠ none := by
  unfold capped
  split
  · rw [readItem]
    simp
  · intro hread
    exact h ((classify_eq_none_iff _).mp hread)

/-- **The bytes are one block.** -/
theorem OneBlock.blocksOf_eq {bytes : Bytes} (h : OneBlock bytes) :
    blocksOf (readItems false (lineItems bytes)) = ([blockOf bytes], []) := by
  obtain ⟨lines, last, hcut, hlast, hlines⟩ := h.lines
  have hshort : ¬ last.length > sseParserMaxBuffer := by
    have hle := length_of_stripCR_eq_nil hlast
    unfold sseParserMaxBuffer
    omega
  have hitems : lineItems bytes = lines.map capped ++ [.line last] := by
    rw [lineItems, hcut, h.lineEnd, List.map_append, List.map_singleton, capped, if_neg hshort]
    simp
  have hblank : readItem false (.line last) = none := by
    show classify (SSEParser.stripCR last) = none
    rw [hlast]
    rfl
  have hnot : none ∉ (lines.map capped).map (readItem false) := by
    intro hmem
    obtain ⟨item, hitem, hread⟩ := List.mem_map.mp hmem
    obtain ⟨line, hline, rfl⟩ := List.mem_map.mp hitem
    exact readItem_capped_ne_none (hlines line hline) hread
  unfold blockOf
  rw [readItems_false, hitems, List.map_append, List.map_singleton, hblank, blocksOf_snoc_blank]
  unfold blocksOf
  rw [cut_of_not_mem hnot]
  simp [List.reduceOption_append, List.reduceOption_singleton]

/-! ## §4. The calls of a block. -/

/-- Callbacks that write down their calls; whether a message is accepted may
depend on all the calls there were, this one included. -/
def answering (answers : List ParserCall → Bool) : SSEParserCallbacks (List ParserCall) where
  onEvent := some (fun log event => (answers (log ++ [.event event]), log ++ [.event event]))
  onRetry := some (fun log retryMs => log ++ [.retry retryMs])
  onId := some (fun log id => log ++ [.id id])
  onError := some (fun log message => log ++ [.error message])

/-- A call that a line makes by itself. -/
def ParserCall.ofLine : ParserCall → Bool
  | .retry _ => true
  | .error _ => true
  | _ => false

section Answering

variable (answers : List ParserCall → Bool)

/-- A line reports a delay or an error, or nothing; the line that loses the
block reports an error. -/
theorem lineCall_answering (b : Block) (l : BlockLine) (log : List ParserCall) :
    ∃ calls, lineCall (answering answers) b log l = log ++ calls
      ∧ (∀ call ∈ calls, call.ofLine = true)
      ∧ (poisoned b = false → poisoned (b ++ [l]) = true → ∃ message, .error message ∈ calls) := by
  cases l with
  | oversize => exact ⟨[.error lineTooLong], rfl, by simp [ParserCall.ofLine], by simp⟩
  | data v =>
      by_cases hfull : !poisoned b && decide (dataSize b + v.length + 1 > sseParserMaxBuffer)
      · refine ⟨[.error dataTooLong], ?_, by simp [ParserCall.ofLine], by simp⟩
        rw [lineCall, if_pos hfull]
        rfl
      · refine ⟨[], ?_, by simp, fun hb hlost => ?_⟩
        · rw [lineCall, if_neg hfull, List.append_nil]
        · simp only [poisoned_snoc, hb, Bool.false_or] at hlost
          rw [hb, hlost] at hfull
          exact absurd rfl hfull
  | retry v =>
      by_cases hvalid : !poisoned b && SSEParser.isRetryValue v
      · refine ⟨[.retry (SSEParser.clampedRetry v)], ?_, by simp [ParserCall.ofLine], ?_⟩
        · rw [lineCall, if_pos hvalid]
          rfl
        · intro hb hlost
          simp [poisoned_snoc, hb] at hlost
      · refine ⟨[], ?_, by simp, ?_⟩
        · rw [lineCall, if_neg hvalid, List.append_nil]
        · intro hb hlost
          simp [poisoned_snoc, hb] at hlost
  | _ =>
      refine ⟨[], (List.append_nil log).symm, by simp, ?_⟩
      intro hb hlost
      simp [poisoned_snoc, hb] at hlost

/-- **The lines of a block** report delays and errors only, and those of a lost
block an error. -/
theorem lineCalls_answering (b : Block) (log : List ParserCall) :
    ∃ calls, lineCalls (answering answers) b log = log ++ calls
      ∧ (∀ call ∈ calls, call.ofLine = true)
      ∧ (poisoned b = true → ∃ message, .error message ∈ calls) := by
  induction b using List.reverseRecOn with
  | nil => exact ⟨[], by simp, by simp, by simp⟩
  | append_singleton b l ih =>
    obtain ⟨calls, hcalls, hline, herror⟩ := ih
    obtain ⟨calls', hcalls', hline', herror'⟩ := lineCall_answering answers b l (log ++ calls)
    refine ⟨calls ++ calls', ?_, ?_, ?_⟩
    · rw [lineCalls_snoc, hcalls, hcalls', List.append_assoc]
    · intro call hcall
      rcases List.mem_append.mp hcall with hcall | hcall
      · exact hline call hcall
      · exact hline' call hcall
    · intro hlost
      cases hb : poisoned b with
      | true =>
          obtain ⟨message, hmem⟩ := herror hb
          exact ⟨message, List.mem_append_left _ hmem⟩
      | false =>
          obtain ⟨message, hmem⟩ := herror' hb hlost
          exact ⟨message, List.mem_append_right _ hmem⟩

/-- The end of a lost block makes no call and changes nothing. -/
theorem endBlock_lost (r : Resume) {b : Block} (hlost : poisoned b = true)
    (log : List ParserCall) : endBlock (answering answers) r b log = (r, log) := by
  rw [endBlock, if_pos hlost]

/-- The end of any other block makes one call at most; a message that is refused
is remembered as a drop, and nothing else is. -/
theorem endBlock_answering (r : Resume) {b : Block} (hb : poisoned b = false)
    (log : List ParserCall) :
    (∃ end_, (endBlock (answering answers) r b log).2 = log ++ end_ ∧ ∀ e, .event e ∉ end_)
    ∨ ((endBlock (answering answers) r b log).2 = log ++ [.event (message r b)]
      ∧ (answers (log ++ [.event (message r b)]) = false →
        (endBlock (answering answers) r b log).1 = { r with dropObserved := true })) := by
  unfold endBlock
  rw [if_neg (by simp [hb])]
  by_cases hd : dataValues b = []
  · rw [if_pos hd]
    left
    cases ownId b with
    | none => exact ⟨[], by simp, by simp⟩
    | some v =>
        cases r.dropObserved with
        | true => exact ⟨[], by simp, by simp⟩
        | false => exact ⟨[.id v], rfl, by simp⟩
  · rw [if_neg hd]
    right
    cases hans : answers (log ++ [.event (message r b)]) with
    | true => simp [answering, SSEParserCallbacks.callOnEvent, hans]
    | false => simp [answering, SSEParserCallbacks.callOnEvent, hans]

end Answering

/-- The one message among some calls stands where it stands. -/
theorem snoc_event_inj {calls before after : List ParserCall} {event event' : SSEParsedEvent}
    (hno : ∀ event, .event event ∉ calls)
    (h : calls ++ [.event event'] = before ++ .event event :: after) :
    calls = before ∧ event' = event := by
  rcases List.eq_nil_or_concat after with rfl | ⟨after', last, rfl⟩
  · obtain ⟨hcalls, hevent⟩ := List.append_inj' h rfl
    cases hevent
    exact ⟨hcalls, rfl⟩
  · -- otherwise it stands among the calls before
    have hsplit : calls ++ [.event event'] = (before ++ .event event :: after') ++ [last] := by
      rw [h]
      simp
    obtain ⟨hcalls, -⟩ := List.append_inj' hsplit rfl
    exact absurd (by rw [hcalls]; simp) (hno event)

/-! ## §5. A lost block. -/

/-- From state `p` to state `q` by calls that lose a block without a trace. -/
structure NoTrace (p q : SSEParser) (calls : List ParserCall) : Prop where
  state : q = p
  error : ∃ message, .error message ∈ calls
  noMessage : ∀ event, .event event ∉ calls
  noId : ∀ id, .id id ∉ calls

/-- **A lost block leaves no trace**: after a block that exceeded a cap the
parser is in the state it was in before, it has reported an error, and neither a
message nor an id; after a block whose message was refused it is in that state
but for `m_DropObserved`. -/
theorem lostBlock_leavesNoTrace {p : SSEParser} {seen : Bytes} (hp : Reached p seen)
    (hboundary : EndsBlankLine seen) (answers : List ParserCall → Bool) (log : List ParserCall)
    {pieces : List Bytes} (hblock : OneBlock pieces.flatten) :
    ∃ calls, (p.feedAll pieces (answering answers) log).2 = log ++ calls
      ∧ (poisoned (blockOf pieces.flatten) = true →
        NoTrace p (p.feedAll pieces (answering answers) log).1 calls)
      ∧ (∀ before event after, calls = before ++ .event event :: after →
        answers (log ++ before ++ [.event event]) = false →
          (p.feedAll pieces (answering answers) log).1 = { p with dropObserved := true }) := by
  obtain ⟨r, hrel, hbuffer⟩ := hp.atBoundary hboundary
  -- the block is read from the buffer that the last blank line left empty
  have hdisc : discarding pieces.flatten = false := by simp [discarding, hblock.lineEnd]
  have hbuf : lineBuffer pieces.flatten = [] := by simp [lineBuffer, hdisc, hblock.lineEnd]
  have hfeed := SSEParser.feed_lines (answering answers) p pieces.flatten log
  rw [← hbuffer, hbuf, hdisc] at hfeed
  obtain ⟨hrel', hcalls⟩ := hrel.feedItems (answering answers) (lineItems pieces.flatten) log
  rw [hblock.blocksOf_eq] at hrel' hcalls
  obtain ⟨calls, hlines, hofLine, herror⟩ :=
    lineCalls_answering answers (blockOf pieces.flatten) log
  have hrun : runBlocks (answering answers) [blockOf pieces.flatten] (r, log)
      = endBlock (answering answers) r (blockOf pieces.flatten) (log ++ calls) := by
    rw [← hlines]
    rfl
  have hnoEvent : ∀ event, .event event ∉ calls := fun event hmem => by
    have hof := hofLine _ hmem
    cases hof
  rw [hrun] at hrel' hcalls
  rw [lineCalls_nil] at hcalls
  rw [SSEParser.feedAll_eq, hfeed]
  cases hb : poisoned (blockOf pieces.flatten) with
  | true =>
      rw [endBlock_lost answers r hb] at hrel' hcalls
      refine ⟨calls, hcalls, fun _ => ?_, fun before event after hsplit => ?_⟩
      · exact
          { state := (hrel'.unique hrel [] false).trans hbuffer.symm
            error := herror hb
            noMessage := hnoEvent
            noId := fun id hmem => by
              have hof := hofLine _ hmem
              cases hof }
      · exact absurd (by rw [hsplit]; simp) (hnoEvent event)
  | false =>
      rcases endBlock_answering answers r hb (log ++ calls) with
        ⟨last, hlast, hnone⟩ | ⟨hlast, hrefused⟩
      · rw [hlast, List.append_assoc] at hcalls
        refine ⟨calls ++ last, hcalls, (by simp), fun before event after hsplit => ?_⟩
        have hmem : .event event ∈ calls ++ last := by rw [hsplit]; simp
        rcases List.mem_append.mp hmem with hmem | hmem
        · exact absurd hmem (hnoEvent event)
        · exact absurd hmem (hnone event)
      · rw [hlast, List.append_assoc] at hcalls
        refine ⟨calls ++ [.event (message r (blockOf pieces.flatten))], hcalls, (by simp),
          fun before event after hsplit hanswer => ?_⟩
        obtain ⟨rfl, rfl⟩ := snoc_event_inj hnoEvent hsplit
        rw [hrefused hanswer] at hrel'
        refine (hrel'.unique hrel.observeDrop [] false).trans ?_
        rw [hbuffer]
        rfl

/-- After the id 1, a block of a line that is too long and of an `id:` line. -/
theorem lostBlock_leavesNoTrace_longLine :
    let p := (SSEParser.reset.feed (ascii "id: 1\n\n") recorder []).1
    let block := List.replicate (sseParserMaxBuffer + 1) 97 ++ LF :: ascii "id: 2\n\n"
    ∃ calls, (p.feedAll [block] (answering (fun _ => true)) []).2 = [] ++ calls
      ∧ NoTrace p (p.feedAll [block] (answering (fun _ => true)) []).1 calls := by
  intro p block
  have hcut : cut LF [block].flatten
      = ([List.replicate (sseParserMaxBuffer + 1) 97, ascii "id: 2", []], []) := by
    have hline : LF ∉ List.replicate (sseParserMaxBuffer + 1) (97 : UInt8) :=
      fun h => absurd (List.eq_of_mem_replicate h) (by decide)
    rw [List.flatten_singleton, cut_append_cons hline]
    rfl
  have hblock : OneBlock [block].flatten :=
    { lineEnd := by rw [hcut]
      lines := by
        rw [hcut]
        refine ⟨[List.replicate (sseParserMaxBuffer + 1) 97, ascii "id: 2"], [], rfl, rfl, ?_⟩
        intro line hline hblank
        have hshort := length_of_stripCR_eq_nil hblank
        rcases List.mem_pair.mp hline with rfl | rfl
        · rw [List.length_replicate, sseParserMaxBuffer] at hshort
          omega
        · revert hshort
          decide }
  have hlost : poisoned (blockOf [block].flatten) = true := by
    unfold blockOf lineItems
    rw [hcut, List.map_cons, capped, if_pos (by rw [List.length_replicate]; omega)]
    rfl
  obtain ⟨calls, hcalls, hleft, -⟩ := lostBlock_leavesNoTrace
    (Reached.reset.feed recorder [] (ascii "id: 1\n\n")) ⟨by decide, by decide⟩ (fun _ => true) []
    hblock
  exact ⟨calls, hcalls, hleft hlost⟩

end DefoldSSE
