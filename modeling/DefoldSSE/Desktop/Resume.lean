/-
  DefoldSSE.Desktop.Resume — where a reconnect would resume.

  THE CHAIN behind `resume_position_safe`:
    (1) a block ends at an LF and nowhere else              (`blocks_snoc`);
    (2) so one byte commits at most at the end of one block (`committed_snoc`);
    (3) and a commit speaks for all blocks up to it         (`commit_spec`).
-/
import DefoldSSE.Desktop.Attempt

namespace DefoldSSE

open CLib EventStream EventStream.Block

/-! ## §1. One more byte. -/

namespace EventStream

/-- One byte ends the pending block or leaves the finished ones as they are;
only an LF ends a block. -/
theorem blocks_snoc (bytes : Bytes) (c : UInt8) :
    blocks (bytes ++ [c]) = blocks bytes
      ∨ c = LF ∧ blocks (bytes ++ [c]) = blocks bytes ++ [pendingBlock bytes] := by
  -- a line that is added ends the block exactly when it is blank
  have hadd : ∀ item : LineItem, lineItems (bytes ++ [c]) = lineItems bytes ++ [item] →
      blocks (bytes ++ [c]) = blocks bytes
        ∨ (∃ text, item = .line text) ∧
          blocks (bytes ++ [c]) = blocks bytes ++ [pendingBlock bytes] := by
    intro item h
    unfold blocks pendingBlock streamLines
    rw [h, readItems_snoc]
    cases hl : readItem (true && (lineItems bytes).all LineItem.isOversize) item with
    | none =>
        rw [blocksOf_snoc_blank]
        cases item with
        | line text => exact .inr ⟨⟨text, rfl⟩, rfl⟩
        | oversize => simp [readItem] at hl
    | some l =>
        rw [blocksOf_snoc_line]
        exact .inl rfl
  have hkeep : lineItems (bytes ++ [c]) = lineItems bytes →
      blocks (bytes ++ [c]) = blocks bytes := by
    intro h
    unfold blocks streamLines
    rw [h]
  by_cases hc : c = LF
  · subst hc
    have hitems := lineItems_snoc_LF bytes
    split at hitems
    · exact .inl (hkeep hitems)
    · exact (hadd _ hitems).imp_right (fun h => ⟨rfl, h.2⟩)
  · have hitems := lineItems_snoc_ne bytes hc
    split at hitems
    · refine (hadd _ hitems).imp_right (fun h => ?_)
      obtain ⟨text, ht⟩ := h.1
      cases ht
    · exact .inl (hkeep hitems)

end EventStream

/-- One byte commits nothing, or it ended a block and committed that block's id. -/
theorem committed_snoc (answers : Nat → Bool) (bytes : Bytes) (c : UInt8) :
    committed answers (bytes ++ [c]) = committed answers bytes
      ∨ ∃ v, committed answers (bytes ++ [c]) = committed answers bytes ++ [v]
          ∧ c = LF ∧ blocks (bytes ++ [c]) = blocks bytes ++ [pendingBlock bytes]
          ∧ (outcome (answers (resumeAfter answers 0 .init (blocks bytes)).1)
              (resumeAfter answers 0 .init (blocks bytes)).2 (pendingBlock bytes)).1.commit
            = some v := by
  unfold committed
  rcases blocks_snoc bytes c with h | ⟨hc, h⟩
  · rw [h]
    exact .inl rfl
  · rw [h, outcomes_append, List.filterMap_append]
    simp only [outcomes, List.filterMap_cons, List.filterMap_nil]
    cases hv : (outcome (answers (resumeAfter answers 0 .init (blocks bytes)).1)
        (resumeAfter answers 0 .init (blocks bytes)).2 (pendingBlock bytes)).1.commit with
    | none => exact .inl (List.append_nil _)
    | some v => exact .inr ⟨v, rfl, hc, trivial, rfl⟩

/-- Once an event was refused, more bytes commit nothing. -/
theorem committed_frozen (answers : Nat → Bool) {before after : Bytes} {m : SSEParsedEvent}
    (h : (m, false) ∈ assembled answers before) :
    committed answers (before ++ after) = committed answers before := by
  induction after using List.reverseRecOn with
  | nil => rw [List.append_nil]
  | append_singleton after c ih =>
    rw [← List.append_assoc, ← ih]
    rcases committed_snoc answers (before ++ after) c with heq | ⟨v, -, -, -, hcommit⟩
    · exact heq
    · obtain ⟨hacc, -⟩ := commit_spec answers hcommit
      -- the refused message is still among those offered
      have hmem : ∀ after : Bytes, (m, false) ∈ assembled answers (before ++ after) := by
        intro after
        induction after using List.reverseRecOn with
        | nil => rwa [List.append_nil]
        | append_singleton after c ih =>
          rw [← List.append_assoc]
          unfold assembled at ih ⊢
          rcases blocks_snoc (before ++ after) c with hb | ⟨-, hb⟩
          · rwa [hb]
          · rw [hb, outcomes_append, List.filterMap_append]
            exact List.mem_append_left _ ih
      have hm := hacc (m, false) (by
        rw [outcomes_append, List.filterMap_append]
        exact List.mem_append_left _ (hmem after))
      exact absurd hm Bool.false_ne_true

namespace Adapter

/-! ## §2. The resume position. -/

section Resume

variable (conn : SSEDesktopConnection) (queue : QueueAnswers)

/-- The commit made when `c` arrived after `before`, and not overwritten since
in `a`: it ended a block, every block up to it that had a message to offer was
accepted, and its value is the last id of the blocks up to it that were not
lost. -/
structure CommittedAt (before : Bytes) (c : UInt8) (a : Adapter) : Prop where
  endsBlock : c = LF ∧ blocks (before ++ [c]) = blocks before ++ [pendingBlock before]
  accepted : (messagePushes ((start conn queue).feed (before ++ [c])).trace).map
      (fun p => (p.1.data, p.2))
    = (dataBlocks (blocks (before ++ [c]))).map (fun b => (some (.read (joinedData b)), true))
  value : ∃ v, (liveIds (blocks (before ++ [c]))).getLast? = some v
    ∧ a.conn.lastEventId = some (.read v)

/-- What is pushed for the data blocks, when all of it was accepted. -/
theorem messagePushes_accepted {bytes : Bytes}
    (h : ∀ m ∈ assembled queue.message bytes, m.2 = true) :
    (messagePushes ((start conn queue).feed bytes).trace).map (fun p => (p.1.data, p.2))
      = (dataBlocks (blocks bytes)).map (fun b => (some (.read (joinedData b)), true)) := by
  have hdata : (assembled queue.message bytes).map (fun m => m.1.data)
      = (dataBlocks (blocks bytes)).map joinedData :=
    offered_data queue.message (blocks bytes) 0 .init
  have hpair : (dataBlocks (blocks bytes)).map (fun b => (some (CString.read (joinedData b)), true))
      = ((dataBlocks (blocks bytes)).map joinedData).map (fun d => (some (CString.read d), true)) := by
    simp
  rw [messagePushes_feed, hpair, ← hdata, List.map_map, List.map_map]
  refine List.map_congr_left (fun m hm => ?_)
  simp [pushOf, messageEvent, h m hm]

theorem committedAt {before after : Bytes} {c : UInt8}
    (hnew : stored ((start conn queue).feed (before ++ [c])).trace
      ≠ stored ((start conn queue).feed before).trace)
    (hlast : stored ((start conn queue).feed (before ++ c :: after)).trace
      = stored ((start conn queue).feed (before ++ [c])).trace) :
    CommittedAt conn queue before c ((start conn queue).feed (before ++ c :: after)) := by
  rw [stored_feed, stored_feed] at hnew
  rcases committed_snoc queue.message before c with heq | ⟨v, hv, hc, hb, hcommit⟩
  · exact absurd (congrArg _ heq) hnew
  · obtain ⟨hacc, hids⟩ := commit_spec queue.message hcommit
    rw [← hb] at hacc hids
    refine ⟨⟨hc, hb⟩, messagePushes_accepted conn queue hacc, v, hids, ?_⟩
    -- the id field holds the last value stored
    rw [(feed_does conn queue (before ++ c :: after)).lastEventId]
    rw [stored_feed, stored_feed, hv, List.map_append] at hlast
    have hlast' : ((outcomes queue.message 0 .init (blocks (before ++ c :: after))).filterMap
        BlockOutcome.commit).map CString.read = _ := hlast
    rw [hlast', List.map_singleton, List.getLast?_concat]
    rfl

/-- A value that was stored was stored by some byte. -/
theorem exists_last_commit {bytes : Bytes}
    (h : stored ((start conn queue).feed bytes).trace ≠ []) :
    ∃ before c after, bytes = before ++ c :: after
      ∧ stored ((start conn queue).feed (before ++ [c])).trace
        ≠ stored ((start conn queue).feed before).trace
      ∧ stored ((start conn queue).feed bytes).trace
        = stored ((start conn queue).feed (before ++ [c])).trace := by
  induction bytes using List.reverseRecOn with
  | nil => exact absurd rfl h
  | append_singleton bytes c ih =>
    by_cases hsame : stored ((start conn queue).feed (bytes ++ [c])).trace
        = stored ((start conn queue).feed bytes).trace
    · obtain ⟨before, d, after, hbytes, hnew, hlast⟩ := ih (hsame ▸ h)
      exact ⟨before, d, after ++ [c], by rw [hbytes]; simp, hnew, hsame.trans hlast⟩
    · exact ⟨bytes, c, [], rfl, hsame, rfl⟩

/-- **THE RESUME POSITION IS SAFE.** In one attempt, over any bytes in any
pieces and any answers of the queue: the last commit speaks for every block up
to the one it ended, and after a refused message there is none. -/
theorem resume_position_safe (pieces : List Bytes) :
    let run := fun bytes => (start conn queue).feed bytes
    (start conn queue).feedAll pieces = run pieces.flatten
      ∧ (stored (run pieces.flatten).trace ≠ [] →
          ∃ before c after, pieces.flatten = before ++ c :: after
            ∧ stored (run (before ++ [c])).trace ≠ stored (run before).trace
            ∧ stored (run pieces.flatten).trace = stored (run (before ++ [c])).trace)
      ∧ (∀ before c after, pieces.flatten = before ++ c :: after →
          stored (run (before ++ [c])).trace ≠ stored (run before).trace →
          stored (run pieces.flatten).trace = stored (run (before ++ [c])).trace →
          CommittedAt conn queue before c (run pieces.flatten))
      ∧ ∀ before after, pieces.flatten = before ++ after →
          (∃ e, (e, false) ∈ messagePushes (run before).trace) →
          stored (run pieces.flatten).trace = stored (run before).trace := by
  refine ⟨feedAll_eq _ _, exists_last_commit conn queue, ?_, ?_⟩
  · intro before c after hbytes hnew hlast
    rw [hbytes] at hlast ⊢
    exact committedAt conn queue hnew hlast
  · rintro before after hbytes ⟨e, he⟩
    simp only [messagePushes_feed, List.mem_map] at he
    obtain ⟨⟨m, ok⟩, hm, hpush⟩ := he
    have hok : ok = false := congrArg Prod.snd hpush
    subst hok
    rw [hbytes]
    simp only [stored_feed]
    rw [committed_frozen queue.message hm]

/-- Two commits, a refusal, and a commit that is withheld: the attempt that cuts
its stream inside `id: 8` and has its third message refused. -/
theorem resume_position_safe_refused :
    let conn : SSEDesktopConnection := {}
    let queue : QueueAnswers := ⟨fun n => n != 2, fun _ => true⟩
    let pieces := [ascii "id: 7\ndata: a\n\ndata: b\nid:", ascii " 8\n\nid: 9\ndata: c\n\nid: 10\n\n"]
    stored ((start conn queue).feedAll pieces).trace = [.lit "7", .lit "8"]
      ∧ ((start conn queue).feedAll pieces).conn.lastEventId = some (.lit "8") := by
  intro conn queue pieces
  obtain ⟨hrun, -, hcommit, hfrozen⟩ := resume_position_safe conn queue pieces
  have hat := hcommit (ascii "id: 7\ndata: a\n\ndata: b\nid: 8\n") LF
    (ascii "id: 9\ndata: c\n\nid: 10\n\n") (by decide) (by decide) (by decide)
  have hstop := hfrozen (ascii "id: 7\ndata: a\n\ndata: b\nid: 8\n\nid: 9\ndata: c\n\n")
    (ascii "id: 10\n\n") (by decide) ⟨messageEvent 0 (some (.lit "message")) (some (.lit "c"))
      (some (.lit "9")), by decide⟩
  obtain ⟨v, hv, hid⟩ := hat.value
  have hv8 : v = ascii "8" := by
    have h8 : (liveIds (blocks (ascii "id: 7\ndata: a\n\ndata: b\nid: 8\n" ++ [LF]))).getLast?
        = some (ascii "8") := by decide
    exact Option.some.inj (hv.symm.trans h8)
  rw [hrun]
  refine ⟨hstop.trans (by decide), ?_⟩
  rw [hid, hv8]
  rfl

end Resume

end Adapter

end DefoldSSE
