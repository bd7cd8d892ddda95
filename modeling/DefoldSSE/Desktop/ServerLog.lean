/-
  DefoldSSE.Desktop.ServerLog — an attempt that reads the log of a server.

  A server that supports `Last-Event-ID` keeps its events and answers a request
  with those after the one the header names, written as `Parser/Serialise.lean`
  says.  The attempt may end anywhere in the answer, and the queue may refuse any
  message.  What the adapter has then is an attempt in the sense of
  `Lib/Replay.lean`: it offered the next events of the log, in order, and the id
  it would send next is that of the last one before the first refusal.

  THE CHAIN behind `feed_written`:
    (1) what a part of the answer finishes are the first of its blocks
                                                              (`blocks_written`);
    (2) those blocks offer their events and commit their ids (`offered_blocks`,
        `committed_blocks`).
-/
import DefoldSSE.Desktop.Resume
import DefoldSSE.Lib.Replay
import DefoldSSE.Parser.Serialise
import DefoldSSE.Pool.Request

namespace DefoldSSE

open CLib CLib.Replay EventStream EventStream.Block

/-! ## §1. What the server answers. -/

/-- The events of a server, which can be told apart by their ids. -/
structure ServerLog where
  events : List ServerEvent
  distinct : DistinctKeys ServerEvent.id events
  /-- An empty id would take the header back. -/
  named : ∀ e ∈ events, ∀ v, e.id = some v → v.bytes ≠ []
  fits : ∀ e ∈ events, e.data.bytes.length + 1 ≤ sseParserMaxBuffer

/-- The events that a request with this `Last-Event-ID` asks for. -/
def ServerLog.after (log : ServerLog) (id : Option CString) : List ServerEvent :=
  replay ServerEvent.id log.events id

/-- `bytes` are the events written as a stream, or as much of it as arrived. -/
def Written (events : List ServerEvent) (bytes : Bytes) : Prop :=
  ∃ lines : List (Bytes × LineEnd),
    WithInsertions (events.flatMap ServerEvent.lines) (lines.map Prod.fst)
      ∧ (∀ l ∈ lines, (l.1 ++ l.2.beforeLF).length ≤ sseParserMaxBuffer)
      ∧ bytes <+: text lines

/-- The events of which nothing is missing in `bytes`. -/
def WrittenFully (events : List ServerEvent) (bytes : Bytes) : Prop :=
  ∃ lines : List (Bytes × LineEnd),
    WithInsertions (events.flatMap ServerEvent.lines) (lines.map Prod.fst)
      ∧ (∀ l ∈ lines, (l.1 ++ l.2.beforeLF).length ≤ sseParserMaxBuffer)
      ∧ bytes = text lines

theorem WrittenFully.written {events : List ServerEvent} {bytes : Bytes}
    (h : WrittenFully events bytes) : Written events bytes := by
  obtain ⟨lines, hlines, hcap, rfl⟩ := h
  exact ⟨lines, hlines, hcap, List.prefix_rfl⟩

/-- Any part of it may arrive. -/
theorem Written.take {events : List ServerEvent} {bytes : Bytes} (h : Written events bytes)
    (n : Nat) : Written events (bytes.take n) := by
  obtain ⟨lines, hlines, hcap, hpart⟩ := h
  exact ⟨lines, hlines, hcap, (List.take_prefix n bytes).trans hpart⟩

/-- The event as it is queued. -/
def ServerEvent.queued (handle : Int) (e : ServerEvent) : SSEEvent :=
  messageEvent handle (some (if e.name.bytes = [] then .lit "message" else e.name)) (some e.data)
    (some (e.id.getD (.lit "")))

theorem mem_replay {log : List ServerEvent} {p : Option CString} {e : ServerEvent}
    (h : e ∈ replay ServerEvent.id log p) : e ∈ log := (replay_suffix _ log p).mem h

/-! ## §2. The blocks of a part of the answer. -/

/-- More bytes leave the finished blocks alone. -/
theorem blocks_more (bytes more : Bytes) : blocks bytes <+: blocks (bytes ++ more) := by
  induction more using List.reverseRecOn with
  | nil => rw [List.append_nil]
  | append_singleton more c ih =>
      rw [← List.append_assoc]
      rcases blocks_snoc (bytes ++ more) c with h | ⟨-, h⟩
      · rw [h]
        exact ih
      · rw [h]
        exact ih.trans (List.prefix_append _ _)

/-- The blocks of a written log are its events', but for the lines that are
ignored. -/
theorem blocks_text {events : List ServerEvent} {lines : List (Bytes × LineEnd)}
    (hlines : WithInsertions (events.flatMap ServerEvent.lines) (lines.map Prod.fst))
    (hcap : ∀ l ∈ lines, (l.1 ++ l.2.beforeLF).length ≤ sseParserMaxBuffer) :
    (blocks (text lines)).map plainLines = events.map ServerEvent.block := by
  have hsingle : ∀ l ∈ lines, SingleLine l.1 := by
    intro l hl
    refine hlines.singleLine ?_ l.1 (List.mem_map_of_mem hl)
    intro line hline
    obtain ⟨e, -, hline⟩ := List.mem_flatMap.mp hline
    exact e.singleLine line hline
  have hkept : ∀ l ∈ events.flatMap (fun e => e.block.map some ++ [none]),
      decide (l ≠ some BlockLine.ignored) = true := by
    intro l hl
    obtain ⟨e, -, hl⟩ := List.mem_flatMap.mp hl
    exact decide_eq_true (e.not_ignored l hl)
  have hread : streamLines (text lines) = (lines.map Prod.fst).map classify := by
    rw [streamLines_text hsingle hcap, hlines.withoutBom_eq]
  have hmeaning : (events.flatMap ServerEvent.lines).map classify
      = events.flatMap (fun e => e.block.map some ++ [none]) := by
    rw [List.map_flatMap]
    exact List.flatMap_congr (fun e _ => e.map_classify_lines)
  have hcut := blocksOf_filter (streamLines (text lines))
  rw [hread, hlines.filter_classify, hmeaning, List.filter_eq_self.mpr hkept, blocksOf_meaning]
    at hcut
  rw [blocks, hread]
  exact (congrArg Prod.fst hcut).symm

/-- **What arrived finishes the first of the events.** -/
theorem blocks_written {events : List ServerEvent} {bytes : Bytes} (h : Written events bytes) :
    ∃ xs, xs <+: events ∧ (blocks bytes).map plainLines = xs.map ServerEvent.block := by
  obtain ⟨lines, hlines, hcap, more, hbytes⟩ := h
  have htext := blocks_text hlines hcap
  have hprefix := (blocks_more bytes more).map plainLines
  rw [hbytes, htext] at hprefix
  have hfirst := List.prefix_iff_eq_take.mp hprefix
  refine ⟨events.take ((blocks bytes).map plainLines).length, List.take_prefix _ _, ?_⟩
  rw [List.map_take]
  exact hfirst

/-! ## §3. What the blocks offer and commit. -/

section Offered

variable (answers : Nat → Bool)

/-- A block written for an event. -/
structure WrittenFor (b : Block) (e : ServerEvent) : Prop where
  whole : poisoned b = false
  data : dataValues b ≠ []
  joined : joinedData b = e.data.bytes
  own : ownId b = e.id.map CString.bytes
  name : eventName b = if e.name.bytes = [] then ascii "message" else e.name.bytes

theorem writtenFor {b : Block} {e : ServerEvent} (h : plainLines b = e.block)
    (hfits : e.data.bytes.length + 1 ≤ sseParserMaxBuffer) : WrittenFor b e where
  whole := by
    rw [← poisoned_plain, h]
    exact e.not_poisoned_block hfits
  data := by
    rw [← dataValues_plain, h, e.dataValues_block]
    exact List.splitOn_ne_nil LF e.data.bytes
  joined := by
    rw [joinedData, ← dataValues_plain, h, e.dataValues_block, ServerEvent.segments,
      List.intercalate_splitOn]
  own := by rw [← ownId_plain, h, e.ownId_block]
  name := by rw [← eventName_plain, h, e.eventName_block]

theorem forall₂_written {bs : List Block} {xs : List ServerEvent}
    (h : bs.map plainLines = xs.map ServerEvent.block)
    (hfits : ∀ e ∈ xs, e.data.bytes.length + 1 ≤ sseParserMaxBuffer) :
    List.Forall₂ WrittenFor bs xs := by
  induction xs generalizing bs with
  | nil =>
      rw [List.map_eq_nil_iff.mp h]
      exact .nil
  | cons e xs ih =>
      obtain ⟨b, bs', rfl, hb, hbs⟩ := List.map_eq_cons_iff.mp h
      exact .cons (writtenFor hb (hfits e List.mem_cons_self))
        (ih hbs (fun e' he' => hfits e' (List.mem_cons_of_mem e he')))

section Written

variable {b : Block} {e : ServerEvent} (h : WrittenFor b e)

include h

/-- Its fate is that of a message that was accepted. -/
theorem outcomes_accepted {n : Nat} (hanswer : answers n = true) (r : Resume) (bs : List Block) :
    outcomes answers n r (b :: bs)
      = ⟨some (message r b, true), (message r b).lastEventId⟩
        :: outcomes answers (n + 1) { r with lastId := r.idAfter b } bs := by
  have hcarries : carriesData b = true := by simp [carriesData, h.data]
  simp [outcomes, outcome, nextMessage, h.whole, h.data, hcarries, hanswer]

/-- Or of one that was refused. -/
theorem outcomes_refused {n : Nat} (hanswer : answers n = false) (r : Resume) (bs : List Block) :
    outcomes answers n r (b :: bs)
      = ⟨some (message r b, false), none⟩
        :: outcomes answers (n + 1) { r with dropObserved := true } bs := by
  have hcarries : carriesData b = true := by simp [carriesData, h.data]
  simp [outcomes, outcome, nextMessage, h.whole, h.data, hcarries, hanswer]

/-- The id in force after it. -/
theorem idAfter_written (r : Resume) :
    r.idAfter b = (e.id.map CString.bytes).or r.lastId := by
  rw [Resume.idAfter, h.own]

/-- The message is the event. -/
theorem pushOf_written (handle : Int) (r : Resume) (ok : Bool) :
    Adapter.pushOf handle (message r b, ok) = (e.queued handle, ok) := by
  have hname : CString.read (eventName b)
      = if e.name.bytes = [] then CString.lit "message" else e.name := by
    rw [h.name]
    split
    · rfl
    · exact CString.read_self e.name
  have hid : CString.read ((ownId b).getD []) = e.id.getD (.lit "") := by
    rw [h.own]
    cases e.id with
    | none => rfl
    | some v => exact CString.read_self v
  show (messageEvent handle (some (.read (eventName b))) (some (.read (joinedData b)))
    (some (.read ((ownId b).getD []))), ok) = _
  rw [hname, hid, h.joined, CString.read_self]
  rfl

end Written

variable {bs : List Block} {xs : List ServerEvent}

/-- The blocks offer their events. -/
theorem offered_blocks (handle : Int) (h : List.Forall₂ WrittenFor bs xs) :
    ∀ (n : Nat) (r : Resume),
      ((outcomes answers n r bs).filterMap BlockOutcome.offered).map (Adapter.pushOf handle)
        = (offersFrom answers n xs).map (fun o => (o.1.queued handle, o.2)) := by
  induction h with
  | nil => intro n r; rfl
  | cons hb _ ih =>
      intro n r
      cases hanswer : answers n with
      | true =>
          rw [outcomes_accepted answers hb hanswer, offersFrom, List.map_cons, ← ih,
            ← pushOf_written hb handle r, hanswer]
          rfl
      | false =>
          rw [outcomes_refused answers hb hanswer, offersFrom, List.map_cons, ← ih,
            ← pushOf_written hb handle r, hanswer]
          rfl

/-- The last id they commit is the last one before the first refusal. -/
theorem committed_blocks (h : List.Forall₂ WrittenFor bs xs) :
    ∀ (n : Nat) (r : Resume), r.dropObserved = false →
      ((outcomes answers n r bs).filterMap BlockOutcome.commit).getLast?.or r.lastId
        = ((lastKey ServerEvent.id (keptRun (offersFrom answers n xs))).map CString.bytes).or
            r.lastId := by
  induction h with
  | nil => intro n r _; rfl
  | @cons b e bs xs hb _ ih =>
      intro n r hr
      cases hanswer : answers n with
      | false =>
          -- nothing is committed any more
          have hfrozen := outcomes_frozen answers bs (n + 1) { r with dropObserved := true } rfl
          rw [outcomes_refused answers hb hanswer, offersFrom, hanswer,
            List.filterMap_cons_none rfl, hfrozen]
          rfl
      | true =>
          have hcommit : (message r b).lastEventId = r.idAfter b := by
            rw [message, hr]
            rfl
          have hrest := ih (n + 1) { r with lastId := r.idAfter b } hr
          rw [outcomes_accepted answers hb hanswer, offersFrom, hanswer, List.filterMap_cons]
          show _ = ((lastKey ServerEvent.id
            (e :: keptRun (offersFrom answers (n + 1) xs))).map CString.bytes).or r.lastId
          rw [lastKey_cons, hcommit]
          generalize lastKey ServerEvent.id (keptRun (offersFrom answers (n + 1) xs)) = last
            at hrest ⊢
          generalize (outcomes answers (n + 1) { r with lastId := r.idAfter b } bs).filterMap
            BlockOutcome.commit = vs at hrest ⊢
          have hid := idAfter_written hb r
          -- the last commit of the rest, or this one, or an earlier one
          have hsplit : ((last.or e.id).map CString.bytes).or r.lastId
              = (last.map CString.bytes).or (r.idAfter b) := by
            rw [hid]
            cases last with
            | none => rfl
            | some v => rfl
          rw [hsplit, ← hrest]
          cases hnow : r.idAfter b with
          | none =>
              rw [hnow] at hid
              rw [(Option.or_eq_none_iff.mp hid.symm).2]
          | some v =>
              cases vs with
              | nil => rfl
              | cons w ws =>
                  show ((v :: w :: ws).getLast?).or r.lastId = _
                  rw [List.getLast?_cons_cons, List.getLast?_cons]
                  rfl

end Offered

/-! ## §4. The attempt. -/

namespace Adapter

variable (conn : SSEDesktopConnection) (queue : QueueAnswers)

/-- The attempt offered these events, with the queue's answers, and the id it
leaves is that of the last event before the first refusal. -/
structure Offered (xs : List ServerEvent) (a : Adapter) : Prop where
  pushes : messagePushes a.trace
    = (offersFrom queue.message 0 xs).map (fun o => (o.1.queued conn.handle, o.2))
  position : sentLastEventId a.conn
    = (lastKey ServerEvent.id (keptRun (offersFrom queue.message 0 xs))).or (sentLastEventId conn)

theorem offered_of_blocks {bytes : Bytes} {xs : List ServerEvent}
    (hblocks : (blocks bytes).map plainLines = xs.map ServerEvent.block)
    (hfits : ∀ e ∈ xs, e.data.bytes.length + 1 ≤ sseParserMaxBuffer)
    (hnamed : ∀ e ∈ xs, ∀ v, e.id = some v → v.bytes ≠ []) :
    Offered conn queue xs ((start conn queue).feed bytes) := by
  have hwritten := forall₂_written hblocks hfits
  constructor
  · rw [messagePushes_feed, assembled]
    exact offered_blocks queue.message conn.handle hwritten 0 .init
  · have hlast := (feed_does conn queue bytes).lastEventId
    have hcommit := committed_blocks queue.message hwritten 0 .init rfl
    rw [Resume.init, Option.or_none, Option.or_none] at hcommit
    rw [List.getLast?_map, show outcomes queue.message 0 Resume.init (blocks bytes)
      = outcomes queue.message 0 ⟨none, false⟩ (blocks bytes) from rfl, hcommit] at hlast
    unfold sentLastEventId
    rw [hlast]
    cases hkey : lastKey ServerEvent.id (keptRun (offersFrom queue.message 0 xs)) with
    | none => rfl
    | some v =>
        -- the id belongs to an event of the log, so it is not empty
        have hne : v.bytes ≠ [] := by
          obtain ⟨e, he, hid⟩ := List.mem_filterMap.mp (List.mem_of_getLast? hkey)
          have hmem := (keptRun_initial _).mem he
          rw [offersFrom_fst] at hmem
          exact hnamed e hmem v hid
        show Option.filter _ (some (CString.read v.bytes)) = some v
        rw [CString.read_self, Option.filter_some, if_pos (by simpa using hne)]

/-- **An attempt that reads a server's log is a replay of it**, up to some event,
and up to the last if all of it arrived. -/
theorem feed_written (log : ServerLog) {bytes : Bytes}
    (h : Written (log.after (sentLastEventId conn)) bytes) :
    ∃ xs, xs <+: log.after (sentLastEventId conn)
      ∧ (WrittenFully (log.after (sentLastEventId conn)) bytes →
          xs = log.after (sentLastEventId conn))
      ∧ Offered conn queue xs ((start conn queue).feed bytes) := by
  obtain ⟨xs, hxs, hblocks⟩ := blocks_written h
  have hmem : ∀ e ∈ xs, e ∈ log.events := fun e he => mem_replay (hxs.mem he)
  refine ⟨xs, hxs, ?_, offered_of_blocks conn queue hblocks (fun e he => log.fits e (hmem e he))
    (fun e he => log.named e (hmem e he))⟩
  intro hfully
  obtain ⟨lines, hlines, hcap, rfl⟩ := hfully
  rw [blocks_text hlines hcap] at hblocks
  have hlength := congrArg List.length hblocks
  rw [List.length_map, List.length_map] at hlength
  exact hxs.eq_of_length hlength.symm

end Adapter

end DefoldSSE
