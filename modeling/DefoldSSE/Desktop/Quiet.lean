/-
  DefoldSSE.Desktop.Quiet — the streams that come to nothing.

  A stream is quiet when the adapter makes nothing of it but error events: no
  block offers a message or an id, and no line changes the reconnect delay.
  `Quiet` says so of the stream's blocks alone.

  `Watch` is the least a parser's context can be and still know whether such a
  call was made; every adapter is one (`EventOrder.lean`).
-/
import DefoldSSE.Parser.Reference

namespace DefoldSSE

open CLib EventStream EventStream.Block

/-! ## §1. Quiet streams. -/

/-- A line of the block changes the reconnect delay: it has a retry value and
comes before whatever lost the block. -/
def setsRetry (b : Block) : Prop :=
  ∃ before v, before ++ [.retry v] <+: b ∧ poisoned before = false
    ∧ SSEParser.isRetryValue v = true

/-- The end of the block offers a message or an id. -/
def offers (b : Block) : Prop :=
  poisoned b = false ∧ (dataValues b ≠ [] ∨ idValues b ≠ [])

/-- The stream comes to nothing. -/
structure Quiet (bytes : Bytes) : Prop where
  blocks : ∀ b ∈ blocks bytes, ¬offers b ∧ ¬setsRetry b
  pending : ¬setsRetry (pendingBlock bytes)

theorem setsRetry_nil : ¬setsRetry [] := by
  intro h
  obtain ⟨before, v, hprefix, -, -⟩ := h
  exact absurd (List.prefix_nil.mp hprefix) (by simp)

theorem setsRetry_snoc (b : Block) (l : BlockLine) :
    setsRetry (b ++ [l]) ↔ setsRetry b
      ∨ ∃ v, l = .retry v ∧ poisoned b = false ∧ SSEParser.isRetryValue v = true := by
  constructor
  · intro h
    obtain ⟨before, v, hprefix, hlive, hretry⟩ := h
    rcases List.prefix_concat_iff.mp hprefix with heq | hprefix
    · obtain ⟨rfl, hl⟩ := List.append_inj' heq rfl
      exact .inr ⟨v, (List.singleton_inj.mp hl).symm, hlive, hretry⟩
    · exact .inl ⟨before, v, hprefix, hlive, hretry⟩
  · intro h
    rcases h with ⟨before, v, hprefix, hlive, hretry⟩ | ⟨v, rfl, hlive, hretry⟩
    · exact ⟨before, v, hprefix.trans (List.prefix_append b [l]), hlive, hretry⟩
    · exact ⟨b, v, List.prefix_rfl, hlive, hretry⟩

/-! ## §2. Watching the parser. -/

/-- The answers to the messages, how many there were, and whether anything but
an error was called for. -/
structure Watch where
  answers : Nat → Bool
  messages : Nat
  seen : Bool

/-- The callbacks that only watch. -/
def watching : SSEParserCallbacks Watch where
  onEvent := some (fun w _ =>
    (w.answers w.messages, { w with messages := w.messages + 1, seen := true }))
  onRetry := some (fun w _ => { w with seen := true })
  onId := some (fun w _ => { w with seen := true })
  onError := some (fun w _ => w)

theorem lineCall_seen (before : Block) (w : Watch) (l : BlockLine) :
    (lineCall watching before w l).seen = true ↔ w.seen = true
      ∨ ∃ v, l = .retry v ∧ poisoned before = false ∧ SSEParser.isRetryValue v = true := by
  cases l with
  | retry v =>
      simp only [lineCall]
      split
      · next h =>
          have h := Bool.and_eq_true_iff.mp h
          have hlive : poisoned before = false := by simpa using h.1
          exact ⟨fun _ => .inr ⟨v, rfl, hlive, h.2⟩, fun _ => rfl⟩
      · next h =>
          constructor
          · intro hseen
            exact .inl hseen
          · intro hor
            rcases hor with hseen | ⟨v', hv, hlive, hretry⟩
            · exact hseen
            · cases hv
              exact absurd (by rw [hlive, hretry]; rfl) h
  | data v =>
      simp only [lineCall]
      split
      · simp [watching, SSEParserCallbacks.callOnError]
      · simp
  | oversize => simp [lineCall, watching, SSEParserCallbacks.callOnError]
  | event v => simp [lineCall]
  | id v => simp [lineCall]
  | ignored => simp [lineCall]

/-- The lines of a block are seen exactly when one of them sets the delay. -/
theorem lineCalls_seen (b : Block) (w : Watch) :
    (lineCalls watching b w).seen = true ↔ w.seen = true ∨ setsRetry b := by
  induction b using List.reverseRecOn with
  | nil => simp [setsRetry_nil]
  | append_singleton b l ih =>
    rw [lineCalls_snoc, lineCall_seen, ih, setsRetry_snoc, or_assoc]

/-- A message is seen, however it is answered. -/
theorem endBlock_data_seen (r : Resume) {b : Block} (w : Watch) (hp : poisoned b = false)
    (hd : dataValues b ≠ []) : (endBlock watching r b w).2.seen = true := by
  have hcall : SSEParserCallbacks.callOnEvent watching w (message r b)
      = (w.answers w.messages, { w with messages := w.messages + 1, seen := true }) := rfl
  unfold endBlock
  rw [hp, if_neg (by simp), if_neg hd, hcall]
  generalize w.answers w.messages = delivered
  cases delivered with
  | true => rfl
  | false => rfl

/-- The end of a block is seen exactly when it offers something, as long as no
message was refused. -/
theorem endBlock_seen {r : Resume} (hr : r.dropObserved = false) (b : Block) (w : Watch) :
    (endBlock watching r b w).2.seen = true ↔ w.seen = true ∨ offers b := by
  unfold offers
  cases hp : poisoned b with
  | true => simp [endBlock, hp]
  | false =>
      by_cases hd : dataValues b = []
      · have hids : ownId b = none ↔ idValues b = [] := List.getLast?_eq_none_iff
        cases hid : ownId b with
        | none => simp [endBlock, hp, hd, hid, hids.mp hid]
        | some v =>
            have hne : idValues b ≠ [] := by
              intro h
              rw [hids.mpr h] at hid
              cases hid
            simp [endBlock, hp, hd, hid, hr, hne, watching, SSEParserCallbacks.callOnId]
      · have hseen := endBlock_data_seen r w hp hd
        simp [hseen, hd]

/-- Nothing is unseen. -/
theorem endBlock_keeps_seen (r : Resume) (b : Block) {w : Watch} (hw : w.seen = true) :
    (endBlock watching r b w).2.seen = true := by
  cases hp : poisoned b with
  | true => simpa [endBlock, hp] using hw
  | false =>
      by_cases hd : dataValues b = []
      · unfold endBlock
        rw [hp, if_neg (by simp), if_pos hd]
        cases ownId b with
        | none => exact hw
        | some v =>
            cases r.dropObserved with
            | true => exact hw
            | false => rfl
      · exact endBlock_data_seen r w hp hd

/-- A refusal is seen. -/
theorem endBlock_drop_seen {r : Resume} (hr : r.dropObserved = false) (b : Block) (w : Watch)
    (hdrop : (endBlock watching r b w).1.dropObserved = true) :
    (endBlock watching r b w).2.seen = true := by
  cases hp : poisoned b with
  | true => simp [endBlock, hp, hr] at hdrop
  | false =>
      by_cases hd : dataValues b = []
      · simp [endBlock, hp, hd, hr] at hdrop
      · exact endBlock_data_seen r w hp hd

theorem runBlocks_seen (bs : List Block) (w : Watch) :
    let s := runBlocks watching bs (.init, w)
    (s.1.dropObserved = true → s.2.seen = true)
      ∧ (s.2.seen = true ↔ w.seen = true ∨ ∃ b ∈ bs, offers b ∨ setsRetry b) := by
  induction bs using List.reverseRecOn with
  | nil => exact ⟨fun h => absurd h (by simp [runBlocks, Resume.init]), by simp [runBlocks]⟩
  | append_singleton bs b ih =>
    rw [runBlocks_snoc]
    obtain ⟨hdrop, hseen⟩ := ih
    generalize runBlocks watching bs (.init, w) = s at hdrop hseen
    obtain ⟨r, w'⟩ := s
    simp only at hdrop hseen
    unfold runBlock
    simp only
    have hlines := lineCalls_seen b w'
    cases hr : r.dropObserved with
    | true =>
        -- the refusal was seen, and stays so
        have hw' : w'.seen = true := hdrop hr
        have hend := endBlock_keeps_seen r b (hlines.mpr (.inl hw'))
        refine ⟨fun _ => hend, fun _ => ?_, fun _ => hend⟩
        rcases hseen.mp hw' with h | ⟨b', hb', h⟩
        · exact .inl h
        · exact .inr ⟨b', List.mem_append_left _ hb', h⟩
    | false =>
        refine ⟨endBlock_drop_seen hr b _, ?_⟩
        rw [endBlock_seen hr, hlines, hseen]
        simp only [List.mem_append, List.mem_singleton, or_and_right, exists_or, exists_eq_left]
        rw [or_right_comm, or_assoc, or_assoc]

/-- **A stream is quiet exactly when nothing is seen of it.** -/
theorem seen_iff (bytes : Bytes) (answers : Nat → Bool) (n : Nat) :
    (SSEParser.reset.feed bytes watching ⟨answers, n, false⟩).2.seen = false ↔ Quiet bytes := by
  have hruns := (runBlocks_seen (blocks bytes) ⟨answers, n, false⟩).2
  rw [SSEParser.feed_stream, ← Bool.not_eq_true, lineCalls_seen, hruns]
  constructor
  · intro h
    push Not at h
    exact ⟨fun b hb => h.1.2 b hb, h.2⟩
  · intro h hseen
    rcases hseen with (hseen | ⟨b, hb, hseen⟩) | hseen
    · cases hseen
    · rcases hseen with hseen | hseen
      · exact (h.blocks b hb).1 hseen
      · exact (h.blocks b hb).2 hseen
    · exact h.pending hseen

end DefoldSSE
