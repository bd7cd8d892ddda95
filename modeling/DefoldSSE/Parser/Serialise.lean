/-
  DefoldSSE.Parser.Serialise — events written as a stream, and read back.

  A server writes an event as an `event:` line, an `id:` line if it has an id, a
  `data:` line for each segment of its data, and a blank line.  It may add comments
  and fields of its own anywhere, and end each line in LF or CRLF.

  `parse_serialise`: within the caps the parser gives the events back.  The lines
  it ignores are taken out first (`blockCalls_plain`); what is left of a block
  determines the event it was written for (`blocksOf_meaning`).
-/
import DefoldSSE.Parser.LineEndings

namespace DefoldSSE

open CLib EventStream EventStream.Block

/-! ## §1. What a server writes. -/

/-- An event as a server has it; its strings fit their places in a stream. -/
structure ServerEvent where
  name : CString
  id : Option CString
  data : CString
  name_line : SingleLine name.bytes
  id_line : ∀ v, id = some v → SingleLine v.bytes
  data_noCR : CR ∉ data.bytes

/-- The line of a field. -/
def fieldLine (field : String) (value : Bytes) : Bytes := ascii field ++ ascii ": " ++ value

namespace ServerEvent

/-- The LF-separated segments of the data. -/
def segments (e : ServerEvent) : List Bytes := e.data.bytes.splitOn LF

/-- The lines of an event. -/
def lines (e : ServerEvent) : List Bytes :=
  [fieldLine "event" e.name.bytes] ++ e.id.toList.map (fun v => fieldLine "id" v.bytes)
    ++ e.segments.map (fieldLine "data") ++ [[]]

end ServerEvent

/-- A comment, or a field that the format does not know. -/
structure Ignorable (line : Bytes) : Prop where
  single : SingleLine line
  ignored : line.head? = some COLON
    ∨ (line ≠ [] ∧ line.take 3 ≠ [0xEF, 0xBB, 0xBF]
      ∧ SSEParser.fieldOf line ∉ [ascii "data", ascii "event", ascii "id", ascii "retry"])

/-- `lines'` are the lines `lines` with others inserted that are ignored. -/
inductive WithInsertions : List Bytes → List Bytes → Prop where
  | nil : WithInsertions [] []
  | line (line : Bytes) {lines lines' : List Bytes} (h : WithInsertions lines lines') :
      WithInsertions (line :: lines) (line :: lines')
  | insert {line : Bytes} (hline : Ignorable line) {lines lines' : List Bytes}
      (h : WithInsertions lines lines') : WithInsertions lines (line :: lines')

/-- Nothing has to be inserted. -/
theorem WithInsertions.refl (lines : List Bytes) : WithInsertions lines lines := by
  induction lines with
  | nil => exact .nil
  | cons line lines ih => exact .line line ih

/-- What the callbacks are to see of the events, `lastId` being the latest id
before them. -/
def delivered (lastId : Option Bytes) : List ServerEvent → List SSEParsedEvent
  | [] => []
  | e :: events =>
      let own := e.id.map CString.bytes
      { event := if e.name.bytes = [] then ascii "message" else e.name.bytes
        data := e.data.bytes
        id := own.getD []
        lastEventId := own.or lastId } :: delivered (own.or lastId) events

/-! ## §2. How the lines read. -/

/-- The line of a field is read by the field's name. -/
theorem classify_fieldLine {field : String} (hfield : COLON ∉ ascii field) (value : Bytes) :
    classify (fieldLine field value) = some (fieldMeaning (ascii field) value) := by
  have hline : fieldLine field value = ascii field ++ COLON :: SP :: value := by
    simp [fieldLine, ascii]
  rw [hline]
  exact classify_iff.mpr ⟨by simp, _, _, .space value hfield, rfl⟩

theorem classify_event (value : Bytes) :
    classify (fieldLine "event" value) = some (.event value) :=
  classify_fieldLine (by decide) value

theorem classify_id (value : Bytes) : classify (fieldLine "id" value) = some (.id value) :=
  classify_fieldLine (by decide) value

theorem classify_data (value : Bytes) : classify (fieldLine "data" value) = some (.data value) :=
  classify_fieldLine (by decide) value

theorem Ignorable.classify_eq {line : Bytes} (h : Ignorable line) :
    classify line = some .ignored := by
  unfold classify
  rcases h.ignored with hcomment | ⟨hne, -, hfield⟩
  · have hne : line ≠ [] := by
      rintro rfl
      cases hcomment
    rw [if_neg hne, if_pos hcomment]
  · simp only [List.mem_cons, List.not_mem_nil, or_false, not_or] at hfield
    rw [if_neg hne]
    split
    · rfl
    · rw [if_neg hfield.1, if_neg hfield.2.1, if_neg hfield.2.2.1, if_neg hfield.2.2.2]

/-- It does not begin like a BOM. -/
theorem Ignorable.noBom {line : Bytes} (h : Ignorable line) :
    line.take 3 ≠ [0xEF, 0xBB, 0xBF] := by
  rcases h.ignored with hcomment | ⟨-, hbom, -⟩
  · intro hbom
    have hhead : (line.take 3).head? = some COLON := by
      cases line with
      | nil => cases hcomment
      | cons c rest => exact hcomment
    rw [hbom] at hhead
    revert hhead
    decide
  · exact hbom

namespace ServerEvent

/-- The lines of an event as the parser reads them, without the blank one. -/
def block (e : ServerEvent) : Block :=
  [.event e.name.bytes] ++ e.id.toList.map (fun v => .id v.bytes) ++ e.segments.map .data

theorem map_classify_lines (e : ServerEvent) :
    e.lines.map classify = e.block.map some ++ [none] := by
  have hids : (e.id.toList.map (fun v => fieldLine "id" v.bytes)).map classify
      = (e.id.toList.map (fun v => BlockLine.id v.bytes)).map some := by
    rw [List.map_map, List.map_map]
    exact List.map_congr_left (fun v _ => classify_id v.bytes)
  have hdata : (e.segments.map (fieldLine "data")).map classify
      = (e.segments.map BlockLine.data).map some := by
    rw [List.map_map, List.map_map]
    exact List.map_congr_left (fun v _ => classify_data v)
  unfold lines block
  rw [List.map_append, List.map_append, List.map_append, hids, hdata, List.map_append,
    List.map_append, List.map_singleton, classify_event]
  rfl

end ServerEvent

theorem singleLine_fieldLine {field : String} (hfield : SingleLine (ascii field)) {value : Bytes}
    (hvalue : SingleLine value) : SingleLine (fieldLine field value) := by
  have hcolon : CR ∉ ascii ": " ∧ LF ∉ ascii ": " := by decide
  obtain ⟨hcr, hlf⟩ := hfield
  obtain ⟨hcr', hlf'⟩ := hvalue
  simp only [SingleLine, fieldLine, List.mem_append, not_or]
  exact ⟨⟨⟨hcr, hcolon.1⟩, hcr'⟩, ⟨⟨hlf, hcolon.2⟩, hlf'⟩⟩

/-- The lines of an event are lines. -/
theorem ServerEvent.singleLine (e : ServerEvent) : ∀ line ∈ e.lines, SingleLine line := by
  have hfield : ∀ field ∈ ["event", "id", "data"], SingleLine (ascii field) := by
    unfold SingleLine
    decide
  intro line hline
  simp only [lines, List.mem_append, List.mem_singleton, List.mem_map] at hline
  rcases hline with ((rfl | ⟨v, hv, rfl⟩) | ⟨seg, hseg, rfl⟩) | rfl
  · exact singleLine_fieldLine (hfield "event" (by simp)) e.name_line
  · exact singleLine_fieldLine (hfield "id" (by simp)) (e.id_line v (Option.mem_toList.mp hv))
  · apply singleLine_fieldLine (hfield "data" (by simp))
    refine ⟨fun hmem => ?_, fun hmem => ?_⟩
    · exact e.data_noCR (mem_of_mem_splitOn hseg hmem).1
    · exact (mem_of_mem_splitOn hseg hmem).2 rfl
  · exact ⟨List.not_mem_nil, List.not_mem_nil⟩

/-! ## §3. Insertions leave nothing. -/

/-- A block without the lines that are ignored. -/
def plainLines (b : Block) : Block := b.filter (fun l => decide (l ≠ .ignored))

/-- Cutting into blocks, and taking the ignored lines out, in either order. -/
theorem blocksOf_filter (lines : List (Option BlockLine)) :
    blocksOf (lines.filter (fun l => decide (l ≠ some .ignored)))
      = ((blocksOf lines).1.map plainLines, plainLines (blocksOf lines).2) := by
  induction lines using List.reverseRecOn with
  | nil => rfl
  | append_singleton lines x ih =>
    rw [List.filter_append]
    cases x with
    | none =>
        rw [blocksOf_snoc_blank]
        show blocksOf (lines.filter _ ++ [none]) = _
        rw [blocksOf_snoc_blank, ih, List.map_append]
        rfl
    | some l =>
        rw [blocksOf_snoc_line]
        by_cases hl : l = .ignored
        · subst hl
          show blocksOf (lines.filter _ ++ []) = _
          rw [List.append_nil, ih]
          simp [plainLines]
        · have hkeep : [some l].filter (fun l => decide (l ≠ some .ignored)) = [some l] := by
            simp [hl]
          rw [hkeep, blocksOf_snoc_line, ih]
          simp [plainLines, hl]

/-- What the values of a block are is not changed by its ignored lines. -/
theorem filterMap_plainLines {α : Type} (f : BlockLine → Option α) (hf : f .ignored = none)
    (b : Block) : (plainLines b).filterMap f = b.filterMap f := by
  induction b with
  | nil => rfl
  | cons l b ih =>
    unfold plainLines at ih ⊢
    by_cases hl : l = .ignored
    · subst hl
      rw [List.filter_cons_of_neg (by simp), List.filterMap_cons_none hf]
      exact ih
    · rw [List.filter_cons_of_pos (by simp [hl]), List.filterMap_cons, List.filterMap_cons, ih]

section PlainLines

variable (b : Block)

theorem dataValues_plain : dataValues (plainLines b) = dataValues b :=
  filterMap_plainLines _ rfl b

theorem ownId_plain : ownId (plainLines b) = ownId b :=
  congrArg List.getLast? (filterMap_plainLines _ rfl b)

theorem eventName_plain : eventName (plainLines b) = eventName b := by
  have hvalues : eventValues (plainLines b) = eventValues b := filterMap_plainLines _ rfl b
  unfold eventName
  rw [hvalues]

theorem retryCalls_plain : Reference.retryCalls (plainLines b) = Reference.retryCalls b :=
  filterMap_plainLines _ rfl b

theorem poisoned_plain : poisoned (plainLines b) = poisoned b := by
  have hover : BlockLine.oversize ∈ plainLines b ↔ BlockLine.oversize ∈ b := by
    simp [plainLines]
  unfold poisoned dataSize
  rw [dataValues_plain]
  simp only [hover]

end PlainLines

/-- **The calls of blocks** are those of their lines that are not ignored. -/
theorem blockCalls_plain (lastId : Option Bytes) (bs : List Block) :
    Reference.blockCalls lastId (bs.map plainLines) = Reference.blockCalls lastId bs := by
  induction bs generalizing lastId with
  | nil => rfl
  | cons b bs ih =>
    have hend : ∀ lastId, Reference.endCall lastId (plainLines b) = Reference.endCall lastId b := by
      intro lastId
      unfold Reference.endCall joinedData
      rw [dataValues_plain, ownId_plain, eventName_plain]
    simp only [List.map_cons, Reference.blockCalls, retryCalls_plain, ownId_plain, hend, ih]

/-- Taking out what is ignored takes out what was inserted. -/
theorem WithInsertions.filter_classify {lines lines' : List Bytes}
    (h : WithInsertions lines lines') :
    (lines'.map classify).filter (fun l => decide (l ≠ some .ignored))
      = (lines.map classify).filter (fun l => decide (l ≠ some .ignored)) := by
  induction h with
  | nil => rfl
  | line line _ ih => rw [List.map_cons, List.map_cons, List.filter_cons, List.filter_cons, ih]
  | insert hline _ ih =>
    rw [List.map_cons, hline.classify_eq, List.filter_cons_of_neg (by simp), ih]

theorem WithInsertions.singleLine {lines lines' : List Bytes} (h : WithInsertions lines lines')
    (hlines : ∀ line ∈ lines, SingleLine line) : ∀ line ∈ lines', SingleLine line := by
  induction h with
  | nil => exact hlines
  | line line _ ih =>
    intro l hl
    rcases List.mem_cons.mp hl with rfl | hl
    · exact hlines l List.mem_cons_self
    · exact ih (fun l' hl' => hlines l' (List.mem_cons_of_mem _ hl')) l hl
  | insert hline _ ih =>
    intro l hl
    rcases List.mem_cons.mp hl with rfl | hl
    · exact hline.single
    · exact ih hlines l hl

/-! ## §4. The events come back. -/

/-- The first line of a stream of events does not begin like a BOM. -/
theorem WithInsertions.withoutBom_eq {events : List ServerEvent} {lines' : List Bytes}
    (h : WithInsertions (events.flatMap ServerEvent.lines) lines') :
    withoutBom lines' = lines' := by
  have hbom : ∀ line : Bytes, line.take 3 ≠ [0xEF, 0xBB, 0xBF] → SSEParser.stripBom line = line :=
    fun line hline => if_neg hline
  generalize hlines : events.flatMap ServerEvent.lines = lines at h
  cases h with
  | nil => rfl
  | line line _ =>
      cases events with
      | nil => cases hlines
      | cons e events =>
          have hfirst : line = fieldLine "event" e.name.bytes := (List.cons.inj hlines).1.symm
          have hne : line.take 3 ≠ [0xEF, 0xBB, 0xBF] := by
            rw [hfirst]
            intro htake
            exact absurd (congrArg List.head? htake) (by simp [fieldLine, ascii])
          rw [withoutBom, hbom line hne]
  | insert hline _ => rw [withoutBom, hbom _ hline.noBom]

/-- The blocks of the events' lines. -/
theorem blocksOf_meaning (events : List ServerEvent) :
    blocksOf (events.flatMap (fun e => e.block.map some ++ [none]))
      = (events.map ServerEvent.block, []) := by
  induction events with
  | nil => rfl
  | cons e events ih =>
    have hnone : none ∉ e.block.map some := by simp
    have hsplit : (e :: events).flatMap (fun e => e.block.map some ++ [none])
        = e.block.map some ++ none :: events.flatMap (fun e => e.block.map some ++ [none]) := by
      simp
    have hblock : (e.block.map some).reduceOption = e.block := by
      rw [List.reduceOption, List.filterMap_map]
      exact List.filterMap_some
    unfold blocksOf at ih ⊢
    rw [hsplit, cut_append_cons hnone, List.map_cons, hblock]
    rw [Prod.mk.injEq] at ih
    rw [ih.1, ih.2]
    rfl

namespace ServerEvent

variable (e : ServerEvent)

theorem dataValues_block : dataValues e.block = e.segments := by
  unfold block dataValues
  simp [List.filterMap_append, List.filterMap_map]

theorem ownId_block : ownId e.block = e.id.map CString.bytes := by
  unfold block ownId idValues
  cases e.id <;> simp [List.filterMap_map]

theorem eventName_block :
    eventName e.block = if e.name.bytes = [] then ascii "message" else e.name.bytes := by
  have hvalues : eventValues e.block = [e.name.bytes] := by
    unfold block eventValues
    simp [List.filterMap_append, List.filterMap_map]
  unfold eventName
  rw [hvalues]
  rfl

theorem retryCalls_block : Reference.retryCalls e.block = [] := by
  unfold block Reference.retryCalls
  simp [List.filterMap_append, List.filterMap_map]

theorem not_ignored : ∀ l ∈ e.block.map some ++ [none], l ≠ some .ignored := by
  intro l hl
  rcases List.mem_append.mp hl with hl | hl
  · obtain ⟨line, hline, rfl⟩ := List.mem_map.mp hl
    rintro hignored
    rw [Option.some.inj hignored] at hline
    simp [block] at hline
  · rw [List.mem_singleton.mp hl]
    simp

theorem not_poisoned_block (hcap : e.data.bytes.length + 1 ≤ sseParserMaxBuffer) :
    poisoned e.block = false := by
  apply Reference.not_poisoned
  · simp [block]
  · unfold dataSize
    rw [dataValues_block, segments, sum_length_splitOn]
    exact hcap

end ServerEvent

/-- The calls of the events' blocks. -/
theorem blockCalls_events (lastId : Option Bytes) (events : List ServerEvent) :
    Reference.blockCalls lastId (events.map ServerEvent.block)
      = (delivered lastId events).map .event := by
  induction events generalizing lastId with
  | nil => rfl
  | cons e events ih =>
    have hdata : dataValues e.block ≠ [] := by
      rw [e.dataValues_block]
      exact List.splitOn_ne_nil LF e.data.bytes
    have hjoined : joinedData e.block = e.data.bytes := by
      rw [joinedData, e.dataValues_block, ServerEvent.segments, List.intercalate_splitOn]
    rw [List.map_cons, Reference.blockCalls, ih, e.retryCalls_block, e.ownId_block,
      Reference.endCall, if_neg hdata, hjoined, e.ownId_block, e.eventName_block]
    rfl

/-- **PARSING UNDOES SERIALISATION.**  Events are written in order, with ignorable
lines inserted anywhere and each line ended by LF or CRLF; all lines and data are
within the caps.  Fed in any segmentation, a fresh parser whose messages are
accepted gives exactly these events, each with the latest id written so far. -/
theorem parse_serialise {events : List ServerEvent} {lines : List (Bytes × LineEnd)}
    (hlines : WithInsertions (events.flatMap ServerEvent.lines) (lines.map Prod.fst))
    (hcap : ∀ l ∈ lines, (l.1 ++ l.2.beforeLF).length ≤ sseParserMaxBuffer)
    (hdata : ∀ e ∈ events, e.data.bytes.length + 1 ≤ sseParserMaxBuffer) {pieces : List Bytes}
    (hpieces : pieces.flatten = text lines) :
    (SSEParser.reset.feedAll pieces recorder []).2 = (delivered none events).map .event := by
  have hsingle : ∀ l ∈ lines, SingleLine l.1 := by
    intro l hl
    refine hlines.singleLine ?_ l.1 (List.mem_map_of_mem hl)
    intro line hline
    obtain ⟨e, -, hline⟩ := List.mem_flatMap.mp hline
    exact e.singleLine line hline
  -- the blocks of the stream are the events' but for what is ignored
  have hread : streamLines (text lines) = (lines.map Prod.fst).map classify := by
    rw [streamLines_text hsingle hcap, hlines.withoutBom_eq]
  have hmeaning : (events.flatMap ServerEvent.lines).map classify
      = events.flatMap (fun e => e.block.map some ++ [none]) := by
    rw [List.map_flatMap]
    exact List.flatMap_congr (fun e _ => e.map_classify_lines)
  have hplain : ((blocks (text lines)).map plainLines, plainLines (pendingBlock (text lines)))
      = (events.map ServerEvent.block, []) := by
    rw [blocks, pendingBlock, hread, ← blocksOf_filter, hlines.filter_classify, hmeaning,
      List.filter_eq_self.mpr, blocksOf_meaning]
    intro l hl
    obtain ⟨e, -, hl⟩ := List.mem_flatMap.mp hl
    exact decide_eq_true (e.not_ignored l hl)
  rw [Prod.mk.injEq] at hplain
  obtain ⟨hblocks, hpending⟩ := hplain
  have hwhole : ∀ b ∈ blocks (text lines), poisoned b = false := by
    intro b hb
    have hmem : plainLines b ∈ events.map ServerEvent.block := by
      rw [← hblocks]
      exact List.mem_map_of_mem hb
    obtain ⟨e, he, hblock⟩ := List.mem_map.mp hmem
    rw [← poisoned_plain, ← hblock]
    exact e.not_poisoned_block (hdata e he)
  have hwholePending : poisoned (pendingBlock (text lines)) = false := by
    rw [← poisoned_plain, hpending]
    exact poisoned_nil
  rw [SSEParser.feedAll_eq, hpieces, SSEParser.feed_stream, Resume.init,
    Reference.lineCalls_recorder _ hwholePending, Reference.runBlocks_recorder _ hwhole,
    ← blockCalls_plain, hblocks, blockCalls_events, ← retryCalls_plain, hpending]
  simp [Reference.retryCalls]

/-- Two events with CRLF lines, the first with a comment and data that look like
fields, the second without an id and with a field of the server's own. -/
theorem parse_serialise_two :
    let lines := [(fieldLine "event" [], LineEnd.crlf), (ascii ": id: 9", .lf),
      (fieldLine "id" (ascii " 7"), .crlf), (fieldLine "data" (ascii "a"), .lf),
      (fieldLine "data" (ascii "id: 8"), .crlf), ([], .crlf),
      (fieldLine "event" (ascii "tick"), .lf), (fieldLine "data" [], .lf),
      (ascii "topic", .lf), ([], .lf)]
    (SSEParser.reset.feedAll [text lines] recorder []).2
      = [.event ⟨ascii "message", ascii "a\nid: 8", ascii " 7", some (ascii " 7")⟩,
          .event ⟨ascii "tick", [], [], some (ascii " 7")⟩] := by
  intro lines
  have hcomment : Ignorable (ascii ": id: 9") :=
    { single := by
        unfold SingleLine
        decide
      ignored := .inl rfl }
  have hunknown : Ignorable (ascii "topic") :=
    { single := by
        unfold SingleLine
        decide
      ignored := .inr (by decide) }
  let first : ServerEvent :=
    { name := .lit ""
      id := some (.lit " 7")
      data := .lit "a\nid: 8"
      name_line := by
        unfold SingleLine
        decide
      id_line := by
        intro v hv
        cases hv
        unfold SingleLine
        decide
      data_noCR := by decide }
  let second : ServerEvent :=
    { name := .lit "tick"
      id := none
      data := .lit ""
      name_line := by
        unfold SingleLine
        decide
      id_line := by
        intro v hv
        cases hv
      data_noCR := by decide }
  have hwritten : [first, second].flatMap ServerEvent.lines
      = [fieldLine "event" [], fieldLine "id" (ascii " 7"), fieldLine "data" (ascii "a"),
        fieldLine "data" (ascii "id: 8"), [], fieldLine "event" (ascii "tick"),
        fieldLine "data" [], []] := by decide
  have hlines : WithInsertions ([first, second].flatMap ServerEvent.lines)
      (lines.map Prod.fst) := by
    rw [hwritten]
    exact .line _ (.insert hcomment (.line _ (.line _ (.line _ (.line _ (.line _ (.line _
      (.insert hunknown (.line _ .nil)))))))))
  have hpieces : [text lines].flatten = text lines := List.flatten_singleton
  rw [parse_serialise hlines (by decide) (by decide) hpieces]
  decide

end DefoldSSE
