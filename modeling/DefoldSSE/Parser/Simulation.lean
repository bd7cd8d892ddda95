/-
  DefoldSSE.Parser.Simulation — the parser computes what the stream says.

  Two layers, each an induction over the stream from its right end:

    §1  FRAMING: `feed` over bytes is `feedItem` over `EventStream.lineItems`, with
        the unterminated line (or the mark that it is being discarded) left in
        the buffer;
    §2  BLOCKS: between two blank lines the parser's fields are functions of
        the lines read so far (`Rel`), and at a blank line it does exactly what
        `endBlock` does to the finished block.

  The result, `feed_stream`, holds for ALL callbacks: the calls a run makes are
  those of `runBlocks` over the blocks of the stream, followed by `lineCalls`
  over the lines of the unfinished block.
-/
import DefoldSSE.Parser.Stream

namespace DefoldSSE

open CLib EventStream EventStream.Block

variable {σ : Type} (callbacks : SSEParserCallbacks σ)

namespace SSEParser

/-! ## §1. From bytes to lines. -/

/-- The parser with another line buffer. -/
def withBuffer (p : SSEParser) (line : Bytes) (discarding : Bool) : SSEParser :=
  { p with line := line, discardingLine := discarding }

section Dispatch

variable (p : SSEParser) (ctx : σ)

theorem dispatch_poisoned (hp : p.eventPoisoned = true) :
    p.dispatch callbacks ctx = (closeBlock { p with eventPoisoned := false }, ctx) := by
  simp [dispatch, hp]

theorem dispatch_checkpoint (hp : p.eventPoisoned = false) (hd : p.data = []) :
    p.dispatch callbacks ctx
      = (p.closeBlock,
          if p.hasId && !p.dropObserved then callbacks.callOnId ctx p.id else ctx) := by
  simp [dispatch, hp, hd]

theorem dispatch_delivered (hp : p.eventPoisoned = false) (hd : p.data ≠ [])
    (hev : (callbacks.callOnEvent ctx p.parsedEvent).1 = true) :
    p.dispatch callbacks ctx = (p.closeBlock, (callbacks.callOnEvent ctx p.parsedEvent).2) := by
  simp [dispatch, hp, hd, hev]

theorem dispatch_refused (hp : p.eventPoisoned = false) (hd : p.data ≠ [])
    (hev : (callbacks.callOnEvent ctx p.parsedEvent).1 = false) :
    p.dispatch callbacks ctx
      = (closeBlock
          { p with
            id := p.idAtBlockStart
            hasIdEver := p.hasIdEverAtBlockStart
            dropObserved := true }, (callbacks.callOnEvent ctx p.parsedEvent).2) := by
  simp [dispatch, hp, hd, hev]

theorem dispatch_withBuffer (l : Bytes) (d : Bool) :
    (p.withBuffer l d).dispatch callbacks ctx
      = ((p.dispatch callbacks ctx).1.withBuffer l d, (p.dispatch callbacks ctx).2) := by
  cases hp : p.eventPoisoned with
  | true =>
      rw [dispatch_poisoned callbacks (p.withBuffer l d) ctx hp, dispatch_poisoned callbacks p ctx hp]
      rfl
  | false =>
      by_cases hd : p.data = []
      · rw [dispatch_checkpoint callbacks (p.withBuffer l d) ctx hp hd,
          dispatch_checkpoint callbacks p ctx hp hd]
        rfl
      · cases hev : (callbacks.callOnEvent ctx p.parsedEvent).1 with
        | true =>
            rw [dispatch_delivered callbacks (p.withBuffer l d) ctx hp hd hev,
              dispatch_delivered callbacks p ctx hp hd hev]
            rfl
        | false =>
            rw [dispatch_refused callbacks (p.withBuffer l d) ctx hp hd hev,
              dispatch_refused callbacks p ctx hp hd hev]
            rfl

end Dispatch

theorem processField_withBuffer (p : SSEParser) (l text : Bytes) (d : Bool) (ctx : σ) :
    (p.withBuffer l d).processField text callbacks ctx
      = ((p.processField text callbacks ctx).1.withBuffer l d,
          (p.processField text callbacks ctx).2) := by
  have hpo : (p.withBuffer l d).eventPoisoned = p.eventPoisoned := rfl
  have hda : (p.withBuffer l d).data = p.data := rfl
  simp only [processField, dispatch_withBuffer, hpo, hda]
  repeat' split
  all_goals rfl

/-- A line is processed without a look at the line buffer. -/
theorem processLine_withBuffer (p : SSEParser) (l text : Bytes) (d : Bool) (ctx : σ) :
    (p.withBuffer l d).processLine text callbacks ctx
      = ((p.processLine text callbacks ctx).1.withBuffer l d,
          (p.processLine text callbacks ctx).2) :=
  processField_withBuffer callbacks { p with firstLine := false } l _ d ctx

/-- What one line does to the parser. -/
def feedItem (s : SSEParser × σ) : LineItem → SSEParser × σ
  | .line text => s.1.processLine text callbacks s.2
  | .oversize => (s.1.poisonEvent, callbacks.callOnError s.2 lineTooLong)

/-- The lines of a stream, one after the other. -/
def feedItems (p : SSEParser) (items : List LineItem) (ctx : σ) : SSEParser × σ :=
  items.foldl (feedItem callbacks) (p, ctx)

theorem feedItems_append (p : SSEParser) (items items' : List LineItem) (ctx : σ) :
    feedItems callbacks p (items ++ items') ctx
      = feedItems callbacks (feedItems callbacks p items ctx).1 items'
          (feedItems callbacks p items ctx).2 :=
  List.foldl_append

theorem feedItems_snoc (p : SSEParser) (items : List LineItem) (item : LineItem) (ctx : σ) :
    feedItems callbacks p (items ++ [item]) ctx
      = feedItem callbacks (feedItems callbacks p items ctx) item := by
  simp [feedItems]

end SSEParser

namespace EventStream

/-- The unterminated line is over the cap: its rest is being dropped. -/
def discarding (bytes : Bytes) : Bool := decide ((cut LF bytes).2.length > sseParserMaxBuffer)

/-- What the parser has buffered of the unterminated line. -/
def lineBuffer (bytes : Bytes) : Bytes := if discarding bytes then [] else (cut LF bytes).2

/-- At an LF the buffered line is read, and a dropped one is forgotten. -/
theorem lineItems_snoc_LF (bytes : Bytes) :
    lineItems (bytes ++ [LF])
      = if discarding bytes then lineItems bytes
        else lineItems bytes ++ [.line (cut LF bytes).2] := by
  unfold lineItems discarding
  rw [cut_snoc_self]
  by_cases h : (cut LF bytes).2.length > sseParserMaxBuffer
  · simp [capped, h]
  · simp only [gt_iff_lt, not_lt] at h
    simp [capped, Nat.not_lt.mpr h]

/-- Any other byte adds a line only by pushing the unterminated one over the
cap. -/
theorem lineItems_snoc_ne (bytes : Bytes) {c : UInt8} (hc : c ≠ LF) :
    lineItems (bytes ++ [c])
      = if discarding bytes = false ∧ discarding (bytes ++ [c]) = true
        then lineItems bytes ++ [.oversize] else lineItems bytes := by
  unfold lineItems discarding
  rw [cut_snoc_ne LF bytes hc]
  simp only [List.length_append, List.length_singleton, decide_eq_false_iff_not,
    decide_eq_true_eq]
  by_cases h : (cut LF bytes).2.length > sseParserMaxBuffer
  · have h' : (cut LF bytes).2.length + 1 > sseParserMaxBuffer := by omega
    simp [h, h']
  · by_cases h' : (cut LF bytes).2.length + 1 > sseParserMaxBuffer
    · simp [h, h']
    · simp [h, h']

/-- The lines that one more byte completes. -/
def newItems (bytes : Bytes) (c : UInt8) : List LineItem :=
  if c = LF then if discarding bytes then [] else [.line (cut LF bytes).2]
  else if discarding bytes = false ∧ discarding (bytes ++ [c]) = true then [.oversize]
  else []

/-- They are one at most. -/
theorem newItems_cases (bytes : Bytes) (c : UInt8) :
    newItems bytes c = [] ∨ ∃ item, newItems bytes c = [item] := by
  unfold newItems
  repeat' split
  all_goals simp

theorem lineItems_snoc (bytes : Bytes) (c : UInt8) :
    lineItems (bytes ++ [c]) = lineItems bytes ++ newItems bytes c := by
  unfold newItems
  by_cases hc : c = LF
  · rw [if_pos hc, hc, lineItems_snoc_LF]
    split
    · simp
    · rfl
  · rw [if_neg hc, lineItems_snoc_ne bytes hc]
    split
    · rfl
    · simp

end EventStream

namespace SSEParser

section FeedByte

variable (p : SSEParser) (l : Bytes) (ctx : σ)

theorem feedByte_LF_discarding :
    feedByte callbacks (p.withBuffer l true, ctx) LF = (p.withBuffer [] false, ctx) := by
  simp [feedByte, withBuffer]

theorem feedByte_LF_line :
    feedByte callbacks (p.withBuffer l false, ctx) LF
      = ((p.processLine l callbacks ctx).1.withBuffer [] false,
          (p.processLine l callbacks ctx).2) := by
  have hline : (p.withBuffer l false).line = l := rfl
  have hdisc : (p.withBuffer l false).discardingLine = false := rfl
  simp only [feedByte, if_true, hdisc, Bool.false_eq_true, if_false, hline]
  rw [processLine_withBuffer]
  rfl

variable {c : UInt8} (hc : c ≠ LF)
include hc

theorem feedByte_dropped :
    feedByte callbacks (p.withBuffer l true, ctx) c = (p.withBuffer l true, ctx) := by
  simp [feedByte, withBuffer, hc]

theorem feedByte_overflow (hlong : (l ++ [c]).length > sseParserMaxBuffer) :
    feedByte callbacks (p.withBuffer l false, ctx) c
      = (p.poisonEvent.withBuffer [] true, callbacks.callOnError ctx lineTooLong) := by
  simp only [feedByte, withBuffer, hc, if_false, Bool.false_eq_true, hlong, if_true]
  rfl

theorem feedByte_push (hshort : ¬ (l ++ [c]).length > sseParserMaxBuffer) :
    feedByte callbacks (p.withBuffer l false, ctx) c = (p.withBuffer (l ++ [c]) false, ctx) := by
  simp only [feedByte, withBuffer, hc, if_false, Bool.false_eq_true, hshort]

end FeedByte

/-- **One byte** feeds the lines it completes and leaves the rest of the
unterminated line in the buffer. -/
theorem feedByte_newItems (p : SSEParser) (bytes : Bytes) (c : UInt8) (ctx : σ) :
    feedByte callbacks (p.withBuffer (lineBuffer bytes) (discarding bytes), ctx) c
      = ((feedItems callbacks p (newItems bytes c) ctx).1.withBuffer
            (lineBuffer (bytes ++ [c])) (discarding (bytes ++ [c])),
          (feedItems callbacks p (newItems bytes c) ctx).2) := by
  unfold newItems
  by_cases hc : c = LF
  · subst hc
    have hdisc : discarding (bytes ++ [LF]) = false := by simp [discarding, cut_snoc_self]
    have hbuf : lineBuffer (bytes ++ [LF]) = [] := by simp [lineBuffer, cut_snoc_self]
    rw [hdisc, hbuf, if_pos rfl]
    cases hd : discarding bytes with
    | true => rw [feedByte_LF_discarding]; rfl
    | false =>
        have hl : lineBuffer bytes = (cut LF bytes).2 := by simp [lineBuffer, hd]
        rw [feedByte_LF_line, hl, if_neg Bool.false_ne_true]
        rfl
  · rw [if_neg hc]
    have hcut : (cut LF (bytes ++ [c])).2 = (cut LF bytes).2 ++ [c] := by
      rw [cut_snoc_ne LF bytes hc]
    cases hd : discarding bytes with
    | true =>
        have hd' : discarding (bytes ++ [c]) = true := by
          simp only [discarding, decide_eq_true_eq, hcut, List.length_append] at hd ⊢
          omega
        have hl : lineBuffer (bytes ++ [c]) = lineBuffer bytes := by simp [lineBuffer, hd, hd']
        rw [feedByte_dropped callbacks _ _ _ hc, hd', hl]
        rfl
    | false =>
        have hl : lineBuffer bytes = (cut LF bytes).2 := by simp [lineBuffer, hd]
        cases hd' : discarding (bytes ++ [c]) with
        | true =>
            have hlong : ((cut LF bytes).2 ++ [c]).length > sseParserMaxBuffer := by
              simpa [discarding, hcut] using hd'
            have hl' : lineBuffer (bytes ++ [c]) = [] := by simp [lineBuffer, hd']
            rw [hl, feedByte_overflow callbacks _ _ _ hc hlong, hl', if_pos ⟨rfl, rfl⟩]
            rfl
        | false =>
            have hshort : ¬ ((cut LF bytes).2 ++ [c]).length > sseParserMaxBuffer := by
              simpa [discarding, hcut] using hd'
            have hl' : lineBuffer (bytes ++ [c]) = (cut LF bytes).2 ++ [c] := by
              simp [lineBuffer, hd', hcut]
            rw [hl, feedByte_push callbacks _ _ _ hc hshort, hl', if_neg (by simp)]
            rfl

/-- Feeding bytes between two lines is feeding the lines they make up; what
remains in the buffer is the unterminated line. -/
theorem feed_lines (p : SSEParser) (bytes : Bytes) (ctx : σ) :
    (p.withBuffer [] false).feed bytes callbacks ctx
      = ((feedItems callbacks p (lineItems bytes) ctx).1.withBuffer (lineBuffer bytes)
            (discarding bytes),
          (feedItems callbacks p (lineItems bytes) ctx).2) := by
  induction bytes using List.reverseRecOn with
  | nil => rfl
  | append_singleton bytes c ih =>
    rw [feed_snoc, ih, feedByte_newItems, lineItems_snoc, feedItems_append]

/-- **FRAMING.** Feeding bytes to a fresh parser is feeding the lines they make
up. -/
theorem feed_eq_feedItems (bytes : Bytes) (ctx : σ) :
    reset.feed bytes callbacks ctx
      = ((feedItems callbacks reset (lineItems bytes) ctx).1.withBuffer (lineBuffer bytes)
            (discarding bytes),
          (feedItems callbacks reset (lineItems bytes) ctx).2) :=
  feed_lines callbacks reset bytes ctx

/-! ## §2. From lines to blocks. -/

/-- How the parser's fields tell what is remembered from the finished blocks
(`r`) and the lines `cur` read since; `first` while no line has been read. -/
structure Rel (p : SSEParser) (first : Bool) (r : Resume) (cur : Block) : Prop where
  firstLine : p.firstLine = first
  drop : p.dropObserved = r.dropObserved
  poisoned_eq : p.eventPoisoned = poisoned cur
  idStart : p.idAtBlockStart = r.lastId.getD []
  everStart : p.hasIdEverAtBlockStart = r.lastId.isSome
  data : poisoned cur = false → p.data = buffered cur
  event : poisoned cur = false → p.event = (eventValues cur).getLast?.getD []
  hasId : poisoned cur = false → p.hasId = (ownId cur).isSome
  id : poisoned cur = false → p.id = (r.idAfter cur).getD []
  ever : poisoned cur = false → p.hasIdEver = (r.idAfter cur).isSome
  rolledBack : poisoned cur = true →
    p.id = p.idAtBlockStart ∧ p.hasIdEver = p.hasIdEverAtBlockStart

theorem rel_reset : Rel reset true Resume.init [] where
  firstLine := rfl
  drop := rfl
  poisoned_eq := by simp [reset]
  idStart := rfl
  everStart := rfl
  data _ := rfl
  event _ := rfl
  hasId _ := rfl
  id _ := rfl
  ever _ := rfl
  rolledBack h := by simp at h

/-- `closeBlock` starts the next block with what `p` holds as its id. -/
theorem rel_closeBlock {p : SSEParser} {r : Resume}
    (hf : p.firstLine = false) (hd : p.dropObserved = r.dropObserved)
    (hp : p.eventPoisoned = false) (hi : p.id = r.lastId.getD [])
    (he : p.hasIdEver = r.lastId.isSome) : Rel p.closeBlock false r [] where
  firstLine := hf
  drop := hd
  poisoned_eq := by simpa [closeBlock] using hp
  idStart := hi
  everStart := he
  data _ := rfl
  event _ := rfl
  hasId _ := rfl
  id _ := hi
  ever _ := he
  rolledBack h := by simp at h

/-- The parser offers the block's message. -/
theorem Rel.parsedEvent_eq {p : SSEParser} {first : Bool} {r : Resume} {cur : Block}
    (h : Rel p first r cur) (hp : poisoned cur = false) (hd : dataValues cur ≠ []) :
    p.parsedEvent = message r cur := by
  have hb : buffered cur ≠ [] := fun hb => hd ((buffered_eq_nil_iff cur).mp hb)
  have hid : (if p.hasId then p.id else []) = (ownId cur).getD [] := by
    rw [h.hasId hp, h.id hp]
    cases ho : ownId cur with
    | none => simp
    | some v => simp [Resume.idAfter, ho]
  have hlast : (if p.hasIdEver && !p.dropObserved then some p.id else none)
      = if r.dropObserved then none else r.idAfter cur := by
    rw [h.ever hp, h.id hp, h.drop]
    cases r.dropObserved <;> cases r.idAfter cur <;> rfl
  simp only [parsedEvent, message, SSEParsedEvent.mk.injEq, hid, hlast, and_true]
  refine ⟨?_, ?_⟩
  · rw [h.event hp]
    rfl
  · rw [h.data hp, buffered_getLast? cur hb, if_pos rfl, buffered_dropLast]

/-- **A blank line ends the block** as `endBlock` does. -/
theorem Rel.dispatch {p : SSEParser} {r : Resume} {cur : Block} (h : Rel p false r cur)
    (ctx : σ) :
    Rel (p.dispatch callbacks ctx).1 false (endBlock callbacks r cur ctx).1 []
      ∧ (p.dispatch callbacks ctx).2 = (endBlock callbacks r cur ctx).2 := by
  cases hp : poisoned cur with
  | true =>
      rw [dispatch_poisoned callbacks p ctx (h.poisoned_eq.trans hp), endBlock, if_pos hp]
      obtain ⟨hid, hever⟩ := h.rolledBack hp
      exact ⟨rel_closeBlock h.firstLine h.drop rfl (hid.trans h.idStart)
        (hever.trans h.everStart), rfl⟩
  | false =>
      have hpp : p.eventPoisoned = false := h.poisoned_eq.trans hp
      have hidAfter := h.id hp
      have heverAfter := h.ever hp
      rw [endBlock, if_neg (by simp [hp])]
      by_cases hd : dataValues cur = []
      · have hpd : p.data = [] := (h.data hp).trans ((buffered_eq_nil_iff cur).mpr hd)
        rw [dispatch_checkpoint callbacks p ctx hpp hpd, if_pos hd]
        refine ⟨rel_closeBlock h.firstLine h.drop hpp hidAfter heverAfter, ?_⟩
        rw [h.hasId hp, h.drop, hidAfter]
        cases ho : ownId cur with
        | none => simp
        | some v => cases r.dropObserved <;> simp [Resume.idAfter, ho]
      · have hpd : p.data ≠ [] := by
          rw [h.data hp]
          exact fun hb => hd ((buffered_eq_nil_iff cur).mp hb)
        have hev := h.parsedEvent_eq hp hd
        rw [if_neg hd]
        cases hans : (callbacks.callOnEvent ctx (message r cur)).1 with
        | true =>
            rw [dispatch_delivered callbacks p ctx hpp hpd (by rw [hev, hans]), hev]
            simp only [hans, if_true]
            exact ⟨rel_closeBlock h.firstLine h.drop hpp hidAfter heverAfter, trivial⟩
        | false =>
            rw [dispatch_refused callbacks p ctx hpp hpd (by rw [hev, hans]), hev]
            simp only [hans, Bool.false_eq_true, if_false]
            exact ⟨rel_closeBlock h.firstLine rfl hpp h.idStart h.everStart, trivial⟩

/-- `PoisonEvent` on account of a line that loses the block. -/
theorem Rel.poisonEvent {p : SSEParser} {first : Bool} {r : Resume} {cur : Block}
    (h : Rel p first r cur) (l : BlockLine) (hlost : poisoned (cur ++ [l]) = true) :
    Rel p.poisonEvent first r (cur ++ [l]) where
  firstLine := h.firstLine
  drop := h.drop
  poisoned_eq := hlost.symm
  idStart := h.idStart
  everStart := h.everStart
  data hp := by simp [hlost] at hp
  event hp := by simp [hlost] at hp
  hasId hp := by simp [hlost] at hp
  id hp := by simp [hlost] at hp
  ever hp := by simp [hlost] at hp
  rolledBack _ := ⟨rfl, rfl⟩

/-- In a poisoned block a further line leaves no mark. -/
theorem Rel.skip {p : SSEParser} {first : Bool} {r : Resume} {cur : Block}
    (h : Rel p first r cur) (hp : poisoned cur = true) (l : BlockLine) :
    Rel p first r (cur ++ [l]) := by
  have hlost : poisoned (cur ++ [l]) = true := by rw [poisoned_snoc, hp, Bool.true_or]
  exact
    { firstLine := h.firstLine
      drop := h.drop
      poisoned_eq := h.poisoned_eq.trans (hp.trans hlost.symm)
      idStart := h.idStart
      everStart := h.everStart
      data := fun hc => by simp [hlost] at hc
      event := fun hc => by simp [hlost] at hc
      hasId := fun hc => by simp [hlost] at hc
      id := fun hc => by simp [hlost] at hc
      ever := fun hc => by simp [hlost] at hc
      rolledBack := fun _ => h.rolledBack hp }

/-- A line that is neither `data:`, `event:` nor `id:` leaves no mark. -/
theorem Rel.neutral {p : SSEParser} {first : Bool} {r : Resume} {cur : Block}
    (h : Rel p first r cur) {l : BlockLine} (hl : l = .ignored ∨ ∃ v, l = .retry v) :
    Rel p first r (cur ++ [l]) := by
  have hpo : poisoned (cur ++ [l]) = poisoned cur := by
    rw [poisoned_snoc]
    rcases hl with rfl | ⟨v, rfl⟩ <;> simp
  have hda : dataValues (cur ++ [l]) = dataValues cur := by
    rw [dataValues_snoc]
    rcases hl with rfl | ⟨v, rfl⟩ <;> simp
  have hev : eventValues (cur ++ [l]) = eventValues cur := by
    rw [eventValues_snoc]
    rcases hl with rfl | ⟨v, rfl⟩ <;> simp
  have hid : ownId (cur ++ [l]) = ownId cur := by
    rw [ownId, idValues_snoc]
    rcases hl with rfl | ⟨v, rfl⟩ <;> simp [ownId]
  refine ⟨h.firstLine, h.drop, hpo ▸ h.poisoned_eq, h.idStart, h.everStart, ?_, ?_, ?_, ?_, ?_,
    ?_⟩ <;> rw [hpo]
  · rw [buffered, hda]
    exact h.data
  · rw [hev]
    exact h.event
  · rw [hid]
    exact h.hasId
  · rw [Resume.idAfter, hid]
    exact h.id
  · rw [Resume.idAfter, hid]
    exact h.ever
  · exact h.rolledBack

/-- A `data:` line that fits. -/
theorem Rel.dataLine {p : SSEParser} {first : Bool} {r : Resume} {cur : Block}
    (h : Rel p first r cur) {v : Bytes} (hp : poisoned (cur ++ [.data v]) = false) :
    Rel { p with data := p.data ++ v ++ [LF] } first r (cur ++ [.data v]) := by
  have hcur : poisoned cur = false := by
    rw [poisoned_snoc, Bool.or_eq_false_iff] at hp
    exact hp.1
  have hid : ownId (cur ++ [.data v]) = ownId cur := by simp [ownId, idValues_snoc]
  refine ⟨h.firstLine, h.drop, (h.poisoned_eq.trans hcur).trans hp.symm, h.idStart, h.everStart,
    fun _ => ?_, fun _ => ?_, fun _ => ?_, fun _ => ?_, fun _ => ?_, fun hc => ?_⟩
  · simp [h.data hcur, buffered, dataValues_snoc]
  · simpa [eventValues_snoc] using h.event hcur
  · rw [hid]
    exact h.hasId hcur
  · rw [Resume.idAfter, hid]
    exact h.id hcur
  · rw [Resume.idAfter, hid]
    exact h.ever hcur
  · simp [hp] at hc

/-- An `event:` line. -/
theorem Rel.eventLine {p : SSEParser} {first : Bool} {r : Resume} {cur : Block}
    (h : Rel p first r cur) (hcur : poisoned cur = false) (v : Bytes) :
    Rel { p with event := v } first r (cur ++ [.event v]) := by
  have hp : poisoned (cur ++ [.event v]) = false := by simp [poisoned_snoc, hcur]
  have hid : ownId (cur ++ [.event v]) = ownId cur := by simp [ownId, idValues_snoc]
  refine ⟨h.firstLine, h.drop, (h.poisoned_eq.trans hcur).trans hp.symm, h.idStart, h.everStart,
    fun _ => ?_, fun _ => ?_, fun _ => ?_, fun _ => ?_, fun _ => ?_, fun hc => ?_⟩
  · simpa [buffered, dataValues_snoc] using h.data hcur
  · simp [eventValues_snoc]
  · rw [hid]
    exact h.hasId hcur
  · rw [Resume.idAfter, hid]
    exact h.id hcur
  · rw [Resume.idAfter, hid]
    exact h.ever hcur
  · simp [hp] at hc

/-- An `id:` line. -/
theorem Rel.idLine {p : SSEParser} {first : Bool} {r : Resume} {cur : Block}
    (h : Rel p first r cur) (hcur : poisoned cur = false) (v : Bytes) :
    Rel { p with id := v, hasId := true, hasIdEver := true } first r (cur ++ [.id v]) := by
  have hp : poisoned (cur ++ [.id v]) = false := by simp [poisoned_snoc, hcur]
  have hid : ownId (cur ++ [.id v]) = some v := by simp [ownId, idValues_snoc]
  refine ⟨h.firstLine, h.drop, (h.poisoned_eq.trans hcur).trans hp.symm, h.idStart, h.everStart,
    fun _ => ?_, fun _ => ?_, fun _ => ?_, fun _ => ?_, fun _ => ?_, fun hc => ?_⟩
  · simpa [buffered, dataValues_snoc] using h.data hcur
  · simpa [eventValues_snoc] using h.event hcur
  · simp [hid]
  · simp [Resume.idAfter, hid]
  · simp [Resume.idAfter, hid]
  · simp [hp] at hc

/-- **A non-blank line** adds itself to the block and makes its own call. -/
theorem Rel.fieldLine {p : SSEParser} {r : Resume} {cur : Block} (h : Rel p false r cur)
    (ctx : σ) {text : Bytes} {l : BlockLine} (hl : classify text = some l) :
    Rel (p.processField text callbacks ctx).1 false r (cur ++ [l])
      ∧ (p.processField text callbacks ctx).2 = lineCall callbacks cur ctx l := by
  have hne : text ≠ [] := by
    rintro rfl
    simp [classify] at hl
  have hov : l ≠ .oversize := fun h => classify_ne_oversize text (h ▸ hl)
  rw [classify, if_neg hne] at hl
  rw [processField, if_neg hne]
  cases hp : poisoned cur with
  | true =>
      -- every call a line makes is off in a poisoned block, `oversize` apart
      rw [if_pos (h.poisoned_eq.trans hp)]
      refine ⟨h.skip hp l, ?_⟩
      cases l <;> simp [lineCall, hp] at hov ⊢
  | false =>
      rw [if_neg (by simp [h.poisoned_eq, hp])]
      by_cases hcomment : text.head? = some COLON
      · rw [if_pos hcomment] at hl ⊢
        cases hl
        exact ⟨h.neutral (.inl rfl), rfl⟩
      rw [if_neg hcomment] at hl ⊢
      by_cases hdata : fieldOf text = ascii "data"
      · rw [if_pos hdata] at hl ⊢
        cases hl
        have hsize : p.data.length = dataSize cur := by rw [h.data hp, buffered_length]
        rw [hsize]
        by_cases hbig : dataSize cur + (valueOf text).length + 1 > sseParserMaxBuffer
        · rw [if_pos hbig]
          refine ⟨h.poisonEvent _ ?_, ?_⟩
          · simp [poisoned_snoc, hbig]
          · simp [lineCall, hp, hbig]
        · rw [if_neg hbig]
          refine ⟨h.dataLine ?_, ?_⟩
          · simp only [poisoned_snoc, hp, Bool.false_or, decide_eq_false_iff_not]
            exact hbig
          · simp only [lineCall, hbig, decide_false, Bool.and_false, Bool.false_eq_true, if_false]
      rw [if_neg hdata] at hl ⊢
      by_cases hevent : fieldOf text = ascii "event"
      · rw [if_pos hevent] at hl ⊢
        cases hl
        exact ⟨h.eventLine hp _, rfl⟩
      rw [if_neg hevent] at hl ⊢
      by_cases hid : fieldOf text = ascii "id"
      · rw [if_pos hid] at hl ⊢
        cases hl
        exact ⟨h.idLine hp _, rfl⟩
      rw [if_neg hid] at hl ⊢
      by_cases hretry : fieldOf text = ascii "retry"
      · rw [if_pos hretry] at hl ⊢
        cases hl
        cases hvalid : isRetryValue (valueOf text) with
        | true =>
            refine ⟨h.neutral (.inr ⟨_, rfl⟩), ?_⟩
            simp [lineCall, hp, hvalid, retryMs_eq (by decide : 300000 ≤ LONG_MAX) hvalid]
        | false =>
            refine ⟨h.neutral (.inr ⟨_, rfl⟩), ?_⟩
            simp [lineCall, hvalid]
      · rw [if_neg hretry] at hl ⊢
        cases hl
        exact ⟨h.neutral (.inl rfl), rfl⟩

/-- Reading the first line clears `m_FirstLine`. -/
theorem Rel.readFirst {p : SSEParser} {first : Bool} {r : Resume} {cur : Block}
    (h : Rel p first r cur) : Rel { p with firstLine := false } false r cur :=
  { h with firstLine := rfl }

/-- What a line does to what is remembered, to the lines of the block, and by
its calls. -/
def readBlockLine (r : Resume) (cur : Block) (ctx : σ) : Option BlockLine → (Resume × Block) × σ
  | none => (((endBlock callbacks r cur ctx).1, []), (endBlock callbacks r cur ctx).2)
  | some l => ((r, cur ++ [l]), lineCall callbacks cur ctx l)

/-- **One line**, blank, oversized or a field, does as `readBlockLine` says. -/
theorem Rel.feedItem {p : SSEParser} {first : Bool} {r : Resume} {cur : Block}
    (h : Rel p first r cur) (item : LineItem) (ctx : σ) :
    let s := readBlockLine callbacks r cur ctx (readItem first item)
    Rel (SSEParser.feedItem callbacks (p, ctx) item).1 (first && item.isOversize) s.1.1 s.1.2
      ∧ (SSEParser.feedItem callbacks (p, ctx) item).2 = s.2 := by
  cases item with
  | oversize =>
      have hlost : poisoned (cur ++ [.oversize]) = true := by simp [poisoned_snoc]
      rw [LineItem.isOversize, Bool.and_true]
      exact ⟨h.poisonEvent .oversize hlost, rfl⟩
  | line text =>
      rw [LineItem.isOversize, Bool.and_false, readItem]
      simp only [SSEParser.feedItem, processLine, h.firstLine]
      generalize stripCR (if first = true then stripBom text else text) = text'
      cases hy : classify text' with
      | none =>
          have hblank : text' = [] := (classify_eq_none_iff text').mp hy
          rw [processField, if_pos hblank]
          exact h.readFirst.dispatch callbacks ctx
      | some l => exact h.readFirst.fieldLine callbacks ctx hy

/-- **BLOCKS.** After any lines read from the start of a block the parser holds
what they say, and has made the calls of the blocks they finish and of the lines
since. -/
theorem Rel.feedItems {p : SSEParser} {first : Bool} {r : Resume} (h : Rel p first r [])
    (items : List LineItem) (ctx : σ) :
    let blocks := blocksOf (readItems first items)
    let s := runBlocks callbacks blocks.1 (r, ctx)
    Rel (SSEParser.feedItems callbacks p items ctx).1 (first && items.all LineItem.isOversize)
        s.1 blocks.2
      ∧ (SSEParser.feedItems callbacks p items ctx).2 = lineCalls callbacks blocks.2 s.2 := by
  induction items using List.reverseRecOn with
  | nil =>
    rw [List.all_nil, Bool.and_true]
    exact ⟨h, rfl⟩
  | append_singleton items item ih =>
    obtain ⟨hrel, hctx⟩ := ih
    have hall : (first && (items ++ [item]).all LineItem.isOversize)
        = (first && items.all LineItem.isOversize && item.isOversize) := by
      simp [Bool.and_assoc]
    rw [feedItems_snoc, readItems_snoc, hall]
    generalize SSEParser.feedItems callbacks p items ctx = q at hrel hctx ⊢
    obtain ⟨q, c⟩ := q
    have hstep := hrel.feedItem callbacks item c
    cases hread : readItem (first && items.all LineItem.isOversize) item with
    | none =>
        rw [hread] at hstep
        rw [blocksOf_snoc_blank]
        dsimp only
        rw [runBlocks_snoc, runBlock, ← hctx]
        exact hstep
    | some l =>
        rw [hread] at hstep
        rw [blocksOf_snoc_line]
        dsimp only
        rw [lineCalls_snoc, ← hctx]
        exact hstep

/-- The same from `Reset`. -/
theorem feedItems_rel (items : List LineItem) (ctx : σ) :
    let blocks := blocksOf (readItems true items)
    let s := runBlocks callbacks blocks.1 (Resume.init, ctx)
    Rel (SSEParser.feedItems callbacks reset items ctx).1 (items.all LineItem.isOversize) s.1 blocks.2
      ∧ (SSEParser.feedItems callbacks reset items ctx).2 = lineCalls callbacks blocks.2 s.2 :=
  rel_reset.feedItems callbacks items ctx

/-! ## §3. The parser on a stream. -/

/-- **THE SIMULATION.** Whatever the callbacks do, the calls a fresh parser
makes on a stream are those of its blocks, in order, and of the lines read
since the last blank line. -/
theorem feed_stream (bytes : Bytes) (ctx : σ) :
    (reset.feed bytes callbacks ctx).2
      = lineCalls callbacks (pendingBlock bytes)
          (runBlocks callbacks (blocks bytes) (Resume.init, ctx)).2 := by
  rw [feed_eq_feedItems]
  exact (feedItems_rel callbacks (lineItems bytes) ctx).2

end SSEParser

end DefoldSSE
