/-
  DefoldSSE.Desktop.Outcomes — what a stream and the queue's answers make of an
  attempt, block by block.

  `outcomes` is the abstract attempt: each finished block either offers a
  message, which the queue accepts or refuses, or it does not; and it either
  commits an id or it does not.  It reads blocks and answers only.

  Nothing here runs the adapter; `Desktop/Attempt.lean` proves that the adapter
  does exactly this.
-/
import DefoldSSE.Desktop.Adapter

namespace DefoldSSE

open CLib EventStream EventStream.Block

/-! ## §1. The abstract attempt. -/

/-- What became of one block. -/
structure BlockOutcome where
  /-- The message it offered, and the queue's answer. -/
  offered : Option (SSEParsedEvent × Bool)
  /-- The id that was committed at its end. -/
  commit : Option Bytes
  deriving DecidableEq

/-- The fate of block `b`, were its message answered with `answer`, and what is
remembered after it. -/
def outcome (answer : Bool) (r : Resume) (b : Block) : BlockOutcome × Resume :=
  if poisoned b then (⟨none, none⟩, r)
  else if dataValues b = [] then
    (⟨none, if r.dropObserved then none else ownId b⟩, { r with lastId := r.idAfter b })
  else if answer then
    (⟨some (message r b, true), (message r b).lastEventId⟩, { r with lastId := r.idAfter b })
  else (⟨some (message r b, false), none⟩, { r with dropObserved := true })

/-- Which message comes next once `b` is over. -/
def nextMessage (n : Nat) (b : Block) : Nat :=
  if !poisoned b && carriesData b then n + 1 else n

/-- The fates of successive blocks; `answers n` is the answer to the `n`-th
message of the attempt. -/
def outcomes (answers : Nat → Bool) : Nat → Resume → List Block → List BlockOutcome
  | _, _, [] => []
  | n, r, b :: bs =>
      (outcome (answers n) r b).1
        :: outcomes answers (nextMessage n b) (outcome (answers n) r b).2 bs

/-- The number of messages so far and what is remembered, after some blocks. -/
def resumeAfter (answers : Nat → Bool) : Nat → Resume → List Block → Nat × Resume
  | n, r, [] => (n, r)
  | n, r, b :: bs => resumeAfter answers (nextMessage n b) (outcome (answers n) r b).2 bs

/-- The messages a stream offers, with the answers they get. -/
def assembled (answers : Nat → Bool) (bytes : Bytes) : List (SSEParsedEvent × Bool) :=
  (outcomes answers 0 .init (blocks bytes)).filterMap BlockOutcome.offered

/-- The ids a stream commits, as the stream spells them. -/
def committed (answers : Nat → Bool) (bytes : Bytes) : List Bytes :=
  (outcomes answers 0 .init (blocks bytes)).filterMap BlockOutcome.commit

section Outcomes

variable (answers : Nat → Bool)

theorem outcomes_append (bs cs : List Block) :
    ∀ (n : Nat) (r : Resume),
      outcomes answers n r (bs ++ cs)
        = outcomes answers n r bs
          ++ outcomes answers (resumeAfter answers n r bs).1 (resumeAfter answers n r bs).2 cs := by
  induction bs with
  | nil => intro n r; rfl
  | cons b bs ih => intro n r; simp [outcomes, resumeAfter, ih]

theorem resumeAfter_append (bs cs : List Block) :
    ∀ (n : Nat) (r : Resume),
      resumeAfter answers n r (bs ++ cs)
        = resumeAfter answers (resumeAfter answers n r bs).1 (resumeAfter answers n r bs).2
            cs := by
  induction bs with
  | nil => intro n r; rfl
  | cons b bs ih => intro n r; simp [resumeAfter, ih]

/-- Once an event was refused, nothing is committed any more. -/
theorem outcomes_frozen (bs : List Block) :
    ∀ (n : Nat) (r : Resume), r.dropObserved = true →
      (outcomes answers n r bs).filterMap BlockOutcome.commit = [] := by
  induction bs with
  | nil => intro n r _; rfl
  | cons b bs ih =>
    intro n r hr
    have hstep : (outcome (answers n) r b).1.commit = none
        ∧ (outcome (answers n) r b).2.dropObserved = true := by
      unfold outcome
      repeat' split
      all_goals simp_all [message]
    rw [outcomes, List.filterMap_cons, hstep.1]
    exact ih _ _ hstep.2

/-- The ids of the blocks that were not lost, in stream order. -/
def liveIds (bs : List Block) : List Bytes :=
  (bs.filter (fun b => !poisoned b)).flatMap idValues

/-- The blocks that have a message to offer. -/
def dataBlocks (bs : List Block) : List Block :=
  bs.filter (fun b => !poisoned b && carriesData b)

/-- Each of them offers it, once. -/
theorem offered_data (bs : List Block) :
    ∀ (n : Nat) (r : Resume),
      ((outcomes answers n r bs).filterMap BlockOutcome.offered).map (fun m => m.1.data)
        = (dataBlocks bs).map joinedData := by
  induction bs with
  | nil => intro n r; rfl
  | cons b bs ih =>
    intro n r
    have hstep : (outcome (answers n) r b).1.offered.map (fun m => m.1.data)
        = if !poisoned b && carriesData b then some (joinedData b) else none := by
      unfold outcome carriesData
      repeat' split
      all_goals simp_all [message]
    unfold dataBlocks at ih ⊢
    rw [outcomes, List.filterMap_cons, List.filter_cons]
    cases hoff : (outcome (answers n) r b).1.offered with
    | none =>
        rw [hoff] at hstep
        split at hstep
        · simp at hstep
        · next hc => rw [if_neg hc]; exact ih _ _
    | some m =>
        rw [hoff] at hstep
        split at hstep
        · next hc =>
            rw [if_pos hc, List.map_cons, List.map_cons, ih]
            simpa using hstep
        · simp at hstep

/-- **What is remembered after some blocks**: unless an event was refused, every
message offered was accepted and the last id is that of the blocks that were
not lost. -/
theorem resumeAfter_spec (bs : List Block) :
    (resumeAfter answers 0 .init bs).2.dropObserved = false →
      (∀ m ∈ (outcomes answers 0 .init bs).filterMap BlockOutcome.offered, m.2 = true)
        ∧ (resumeAfter answers 0 .init bs).2.lastId = (liveIds bs).getLast? := by
  induction bs using List.reverseRecOn with
  | nil => intro _; exact ⟨by simp [outcomes], rfl⟩
  | append_singleton bs b ih =>
    rw [resumeAfter_append, outcomes_append]
    generalize resumeAfter answers 0 .init bs = s at ih ⊢
    obtain ⟨n, r⟩ := s
    have hids : liveIds (bs ++ [b]) = liveIds bs ++ (if poisoned b then [] else idValues b) := by
      cases hp : poisoned b <;> simp [liveIds, hp]
    simp only [resumeAfter, outcomes, List.filterMap_append, hids] at ih ⊢
    intro hdrop
    unfold outcome at hdrop ⊢
    cases hp : poisoned b with
    | true =>
        simp only [hp, if_true] at hdrop ⊢
        simpa using ih hdrop
    | false =>
        simp only [hp, Bool.false_eq_true, if_false] at hdrop ⊢
        have hlast : ∀ ids : List Bytes, r.lastId = ids.getLast? →
            r.idAfter b = (ids ++ idValues b).getLast? := by
          intro ids hr
          rw [Resume.idAfter, ownId, hr, List.getLast?_append]
        by_cases hd : dataValues b = []
        · simp only [if_pos hd] at hdrop ⊢
          obtain ⟨hacc, hr⟩ := ih hdrop
          exact ⟨by simpa using hacc, hlast _ hr⟩
        · simp only [if_neg hd] at hdrop ⊢
          cases ha : answers n with
          | false => simp [ha] at hdrop
          | true =>
              simp only [ha, if_true] at hdrop ⊢
              obtain ⟨hacc, hr⟩ := ih hdrop
              refine ⟨fun m hm => ?_, hlast _ hr⟩
              rcases List.mem_append.mp hm with hm | hm
              · exact hacc m hm
              · simp only [List.filterMap_cons, List.filterMap_nil, List.mem_singleton] at hm
                rw [hm]

/-- **A commit speaks for everything before it**: the block it ends leaves the
attempt undropped, with the committed id as the last one. -/
theorem commit_spec {bs : List Block} {b : Block} {v : Bytes}
    (h : (outcome (answers (resumeAfter answers 0 .init bs).1)
      (resumeAfter answers 0 .init bs).2 b).1.commit = some v) :
    (∀ m ∈ (outcomes answers 0 .init (bs ++ [b])).filterMap BlockOutcome.offered, m.2 = true)
      ∧ (liveIds (bs ++ [b])).getLast? = some v := by
  have hafter : (resumeAfter answers 0 .init (bs ++ [b])).2.dropObserved = false
      ∧ (resumeAfter answers 0 .init (bs ++ [b])).2.lastId = some v := by
    rw [resumeAfter_append]
    generalize resumeAfter answers 0 .init bs = s at h ⊢
    obtain ⟨n, r⟩ := s
    simp only [resumeAfter]
    unfold outcome at h ⊢
    cases hp : poisoned b with
    | true => simp [hp] at h
    | false =>
        cases hr : r.dropObserved with
        | true =>
            simp only [hp, hr, Bool.false_eq_true, if_false, if_true, message] at h
            repeat' split at h
            all_goals simp at h
        | false =>
            simp only [hp, hr, Bool.false_eq_true, if_false, message] at h ⊢
            by_cases hd : dataValues b = []
            · rw [if_pos hd] at h
              simp only [if_pos hd]
              have hown : ownId b = some v := h
              exact ⟨trivial, by simp [Resume.idAfter, hown]⟩
            · rw [if_neg hd] at h
              simp only [if_neg hd]
              cases ha : answers n with
              | false => simp [ha] at h
              | true =>
                  simp only [ha, if_true] at h ⊢
                  exact ⟨trivial, h⟩
  obtain ⟨hacc, hids⟩ := resumeAfter_spec answers (bs ++ [b]) hafter.1
  exact ⟨hacc, hids.symm.trans hafter.2⟩

/-- Every committed id is an id of a block that was not lost. -/
theorem commit_mem_liveIds {bs : List Block} {v : Bytes}
    (h : v ∈ (outcomes answers 0 .init bs).filterMap BlockOutcome.commit) : v ∈ liveIds bs := by
  induction bs using List.reverseRecOn with
  | nil => simp [outcomes] at h
  | append_singleton bs b ih =>
    rw [outcomes_append, List.filterMap_append] at h
    rcases List.mem_append.mp h with h | h
    · have := ih h
      simp only [liveIds, List.filter_append, List.flatMap_append, List.mem_append] at this ⊢
      exact .inl this
    · obtain ⟨o, ho, hv⟩ := List.mem_filterMap.mp h
      simp only [outcomes, List.mem_singleton] at ho
      subst ho
      exact List.mem_of_getLast? (commit_spec answers hv).2

end Outcomes

end DefoldSSE
