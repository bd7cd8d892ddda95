/-
  DefoldSSE.Parser.Reference — the parser against a reference of the format.

  `Reference.calls` says in one pass over a finished stream which callbacks an
  event stream calls for: cut at LF, strip, cut at blank lines, then one call
  per block and one per valid `retry:` line.  It has no buffers, flags, caps or
  state machine.

  `feedAll_eq_reference`: on a stream within the caps the parser, fed in any
  segmentation with a message callback that accepts, makes exactly those calls.
-/
import DefoldSSE.Parser.Simulation

namespace DefoldSSE

open CLib EventStream EventStream.Block

/-- One call of a parser callback, its strings as byte strings. -/
inductive ParserCall where
  | event (event : SSEParsedEvent)
  | retry (retryMs : Int)
  | id (id : Bytes)
  | error (message : String)
  deriving DecidableEq, Repr

/-- Callbacks that write down their calls and accept every message. -/
def recorder : SSEParserCallbacks (List ParserCall) where
  onEvent := some (fun log event => (true, log ++ [.event event]))
  onRetry := some (fun log retryMs => log ++ [.retry retryMs])
  onId := some (fun log id => log ++ [.id id])
  onError := some (fun log message => log ++ [.error message])

namespace Reference

/-! ## §1. The reference. -/

/-- The terminated lines, the first without a BOM, all without one trailing
CR. -/
def lines (bytes : Bytes) : List Bytes :=
  match (cut LF bytes).1 with
  | [] => []
  | first :: rest =>
      SSEParser.stripCR (SSEParser.stripBom first) :: rest.map SSEParser.stripCR

/-- The blocks ended by an empty line, and the lines after the last of them. -/
def streamBlocks (bytes : Bytes) : List Block × Block :=
  blocksOf ((lines bytes).map classify)

/-- One call for each `retry:` line whose value is a non-empty digit string. -/
def retryCalls (b : Block) : List ParserCall :=
  b.filterMap (fun
    | .retry v =>
        if SSEParser.isRetryValue v then some (.retry (SSEParser.clampedRetry v)) else none
    | _ => none)

/-- **A digit string** is a number with zeros in front, and asks for it. -/
theorem retryCalls_decimal (k n : Nat) :
    retryCalls [.retry (List.replicate k 48 ++ decimal n)]
      = [.retry (max sseParserRetryMinMs (min sseParserRetryMaxMs n))] := by
  have hne : decimal n ≠ [] := by
    simp [decimal]
  have hdigits : SSEParser.isRetryValue (List.replicate k 48 ++ decimal n) = true := by
    refine (SSEParser.isRetryValue_iff _).mpr ⟨by simp [hne], fun c hc => ?_⟩
    rcases List.mem_append.mp hc with hc | hc
    · rw [List.eq_of_mem_replicate hc]
      rfl
    · exact isDigit_of_mem_decimal hc
  simp only [retryCalls, List.filterMap_cons, List.filterMap_nil, hdigits, if_true,
    SSEParser.clampedRetry, decimalValue_zeros, decimalValue_decimal]

/-- The call at the end of a block, `lastId` being the latest id of the stream
up to there: one message if it has data, one id if it only has an id. -/
def endCall (lastId : Option Bytes) (b : Block) : List ParserCall :=
  if dataValues b = [] then (ownId b).toList.map .id
  else
    [.event
      { event := eventName b
        data := joinedData b
        id := (ownId b).getD []
        lastEventId := lastId }]

/-- The calls of successive blocks. -/
def blockCalls : Option Bytes → List Block → List ParserCall
  | _, [] => []
  | lastId, b :: bs =>
      retryCalls b ++ endCall ((ownId b).or lastId) b ++ blockCalls ((ownId b).or lastId) bs

/-- **The reference**: what an event stream calls for. -/
def calls (bytes : Bytes) : List ParserCall :=
  blockCalls none (streamBlocks bytes).1 ++ retryCalls (streamBlocks bytes).2

/-- Every line, terminated or not, and every block's data fit the caps. -/
structure WithinCaps (bytes : Bytes) : Prop where
  line : ∀ l ∈ (cut LF bytes).1, l.length ≤ sseParserMaxBuffer
  tail : (cut LF bytes).2.length ≤ sseParserMaxBuffer
  block : ∀ b ∈ (streamBlocks bytes).1, dataSize b ≤ sseParserMaxBuffer
  pending : dataSize (streamBlocks bytes).2 ≤ sseParserMaxBuffer

/-! ## §2. Within the caps the stream is what the reference cuts it into. -/

theorem readItems_lines (first : Bool) (ls : List Bytes) :
    readItems first (ls.map LineItem.line)
      = (match ls with
          | [] => []
          | l :: ls =>
              SSEParser.stripCR (if first then SSEParser.stripBom l else l)
                :: ls.map SSEParser.stripCR).map classify := by
  cases ls with
  | nil => rfl
  | cons l ls =>
    have hrest : ∀ ls : List Bytes,
        readItems false (ls.map LineItem.line) = (ls.map SSEParser.stripCR).map classify := by
      intro ls
      induction ls with
      | nil => rfl
      | cons l ls ih => simp [readItems, readItem, ih]
    simp only [List.map_cons, readItems, readItem, LineItem.isOversize, Bool.and_false, hrest]

theorem lineItems_of_withinCaps {bytes : Bytes} (h : WithinCaps bytes) :
    lineItems bytes = (cut LF bytes).1.map LineItem.line := by
  have htail : ¬ (cut LF bytes).2.length > sseParserMaxBuffer := Nat.not_lt.mpr h.tail
  rw [lineItems, if_neg htail, List.append_nil]
  refine List.map_congr_left (fun l hl => ?_)
  rw [capped, if_neg (Nat.not_lt.mpr (h.line l hl))]

theorem streamBlocks_eq {bytes : Bytes} (h : WithinCaps bytes) :
    blocks bytes = (streamBlocks bytes).1 ∧ pendingBlock bytes = (streamBlocks bytes).2 := by
  have hlines : streamLines bytes = (lines bytes).map classify := by
    rw [streamLines, lineItems_of_withinCaps h, readItems_lines]
    unfold lines
    cases (cut LF bytes).1 <;> rfl
  rw [blocks, pendingBlock, hlines]
  exact ⟨rfl, rfl⟩

/-- Without an oversized line, a block within the data cap is not poisoned. -/
theorem not_poisoned {b : Block} (hover : BlockLine.oversize ∉ b)
    (hsize : dataSize b ≤ sseParserMaxBuffer) : poisoned b = false := by
  simp [poisoned, hover, hsize]

/-- The lines of a list of lines are those of its blocks. -/
theorem mem_lines_of_mem_blocksOf {lines : List (Option BlockLine)} {l : BlockLine} :
    ((∃ b ∈ (blocksOf lines).1, l ∈ b) ∨ l ∈ (blocksOf lines).2) → some l ∈ lines := by
  induction lines using List.reverseRecOn with
  | nil => simp [blocksOf]
  | append_singleton lines x ih =>
    cases x with
    | none =>
        rw [blocksOf_snoc_blank]
        rintro (⟨b, hb, hl⟩ | hl)
        · rcases List.mem_append.mp hb with hb | hb
          · exact List.mem_append_left _ (ih (.inl ⟨b, hb, hl⟩))
          · rw [List.mem_singleton.mp hb] at hl
            exact List.mem_append_left _ (ih (.inr hl))
        · simp at hl
    | some y =>
        rw [blocksOf_snoc_line]
        rintro (⟨b, hb, hl⟩ | hl)
        · exact List.mem_append_left _ (ih (.inl ⟨b, hb, hl⟩))
        · rcases List.mem_append.mp hl with hl | hl
          · exact List.mem_append_left _ (ih (.inr hl))
          · rw [List.mem_singleton.mp hl]
            simp

theorem oversize_not_mem {bytes : Bytes} {b : Block}
    (hb : b ∈ (streamBlocks bytes).1 ∨ b = (streamBlocks bytes).2) :
    BlockLine.oversize ∉ b := by
  intro hover
  have hmem : some BlockLine.oversize ∈ (lines bytes).map classify := by
    refine mem_lines_of_mem_blocksOf ?_
    rcases hb with hb | rfl
    · exact .inl ⟨b, hb, hover⟩
    · exact .inr hover
  obtain ⟨text, -, htext⟩ := List.mem_map.mp hmem
  exact classify_ne_oversize text htext

/-! ## §3. The recorded calls of blocks that are not lost. -/

theorem lineCalls_recorder (b : Block) (hp : poisoned b = false) (log : List ParserCall) :
    lineCalls recorder b log = log ++ retryCalls b := by
  induction b using List.reverseRecOn with
  | nil => simp [retryCalls]
  | append_singleton b l ih =>
    have hl := hp
    rw [poisoned_snoc, Bool.or_eq_false_iff] at hl
    obtain ⟨hb, hl⟩ := hl
    rw [lineCalls_snoc, ih hb]
    unfold retryCalls
    rw [List.filterMap_append]
    cases l with
    | oversize => simp at hl
    | data v => simp [lineCall, of_decide_eq_false hl]
    | retry v =>
        cases hv : SSEParser.isRetryValue v <;>
          simp [lineCall, hb, hv, recorder, SSEParserCallbacks.callOnRetry]
    | _ => simp [lineCall]

theorem endBlock_recorder (lastId : Option Bytes) (b : Block) (hp : poisoned b = false)
    (log : List ParserCall) :
    endBlock recorder ⟨lastId, false⟩ b log
      = (⟨(ownId b).or lastId, false⟩, log ++ endCall ((ownId b).or lastId) b) := by
  unfold endBlock endCall
  rw [if_neg (by simp [hp])]
  by_cases hd : dataValues b = []
  · rw [if_pos hd, if_pos hd]
    cases ho : ownId b <;>
      simp [Resume.idAfter, ho, recorder, SSEParserCallbacks.callOnId]
  · rw [if_neg hd, if_neg hd]
    simp [recorder, SSEParserCallbacks.callOnEvent, message, Resume.idAfter]

theorem runBlocks_recorder (bs : List Block) (hp : ∀ b ∈ bs, poisoned b = false) :
    ∀ (lastId : Option Bytes) (log : List ParserCall),
      (runBlocks recorder bs (⟨lastId, false⟩, log)).2 = log ++ blockCalls lastId bs := by
  induction bs with
  | nil => intro lastId log; simp [runBlocks, blockCalls]
  | cons b bs ih =>
    intro lastId log
    have hb : poisoned b = false := hp b List.mem_cons_self
    show (runBlocks recorder bs
      (endBlock recorder ⟨lastId, false⟩ b (lineCalls recorder b log))).2 = _
    rw [lineCalls_recorder b hb, endBlock_recorder lastId b hb,
      ih (fun b' hb' => hp b' (List.mem_cons_of_mem _ hb'))]
    simp [blockCalls]

/-! ## §4. The parser meets the reference. -/

/-- **FUNCTIONAL CORRECTNESS.** Within the caps, in any segmentation, a fresh
parser whose messages are accepted makes exactly the calls of the reference. -/
theorem feedAll_eq_reference (pieces : List Bytes) (h : WithinCaps pieces.flatten) :
    (SSEParser.reset.feedAll pieces recorder []).2 = calls pieces.flatten := by
  obtain ⟨hblocks, hpending⟩ := streamBlocks_eq h
  have hp : ∀ b ∈ blocks pieces.flatten, poisoned b = false := by
    intro b hb
    rw [hblocks] at hb
    exact not_poisoned (oversize_not_mem (.inl hb)) (h.block b hb)
  have hpend : poisoned (pendingBlock pieces.flatten) = false := by
    rw [hpending]
    exact not_poisoned (oversize_not_mem (.inr rfl)) h.pending
  rw [SSEParser.feedAll_eq, SSEParser.feed_stream, Resume.init,
    lineCalls_recorder _ hpend, runBlocks_recorder _ hp, hblocks, hpending]
  simp [calls]

/-- The same on a stream with a BOM, CRLF lines, an empty value, an id-only
block and an overlong retry value, cut in the middle of a line. -/
theorem feedAll_eq_reference_mixed :
    let pieces := [[0xEF, 0xBB, 0xBF] ++ ascii "id: 7\r\nevent:\r\nda",
      ascii "ta: a\r\ndata\r\n\r\nid: 8\n\nretry: 99999999999999999999\n:c\ndata: lost"]
    (SSEParser.reset.feedAll pieces recorder []).2 = calls pieces.flatten
      ∧ calls pieces.flatten
        = [.event ⟨ascii "message", ascii "a\n", ascii "7", some (ascii "7")⟩, .id (ascii "8"),
            .retry 300000] :=
  ⟨feedAll_eq_reference _
    { line := by decide
      tail := by decide
      block := by decide
      pending := by decide },
    by decide⟩

end Reference

end DefoldSSE
