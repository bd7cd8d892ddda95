/-
  DefoldSSE.Lib.Search — searching a list for a sublist, and cutting it at a pair.

  `find` is `std::string::find`: the index of the first occurrence.  `cutPair`
  cuts at each occurrence of two elements in a row, as CRLF ends an HTTP line.
  `splitTokens` are the pieces between separators; a text without separators occurs
  in a list exactly if it occurs in a token (`infix_iff_exists_token`).
-/
import Mathlib.Data.List.Infix
import DefoldSSE.Lib.Bytes

namespace CLib

variable {α : Type} [DecidableEq α]

/-! ## §1. The first occurrence. -/

/-- The index of the first occurrence of `pat`. -/
def find (pat : List α) : List α → Option Nat
  | [] => if pat = [] then some 0 else none
  | x :: xs => if pat <+: x :: xs then some 0 else (find pat xs).map (· + 1)

/-- **What `find` finds**: an occurrence, and none before it. -/
theorem find_eq_some_iff {pat s : List α} {i : Nat} :
    find pat s = some i
      ↔ i ≤ s.length ∧ pat <+: s.drop i ∧ ∀ j < i, ¬ pat <+: s.drop j := by
  induction s generalizing i with
  | nil =>
    by_cases hp : pat = []
    · subst hp
      constructor
      · intro h
        obtain rfl : 0 = i := Option.some.inj h
        exact ⟨Nat.le_refl _, List.nil_prefix, fun j hj => absurd hj (Nat.not_lt_zero j)⟩
      · rintro ⟨hlen, -, -⟩
        obtain rfl : i = 0 := Nat.le_zero.mp hlen
        rfl
    · simp [find, hp]
  | cons x xs ih =>
    unfold find
    by_cases hp : pat <+: x :: xs
    · rw [if_pos hp, Option.some_inj]
      constructor
      · rintro rfl
        exact ⟨Nat.zero_le _, hp, fun j hj => absurd hj (Nat.not_lt_zero j)⟩
      · rintro ⟨-, -, hmin⟩
        by_contra hne
        exact hmin 0 (by omega) hp
    · rw [if_neg hp, Option.map_eq_some_iff]
      constructor
      · rintro ⟨k, hk, rfl⟩
        obtain ⟨hlen, hocc, hmin⟩ := ih.mp hk
        refine ⟨by simpa using hlen, hocc, fun j hj => ?_⟩
        cases j with
        | zero => exact hp
        | succ j => exact hmin j (by omega)
      · rintro ⟨hlen, hocc, hmin⟩
        cases i with
        | zero => exact absurd hocc hp
        | succ k =>
            exact ⟨k, ih.mpr ⟨by simpa using hlen, hocc, fun j hj => hmin (j + 1) (by omega)⟩,
              rfl⟩

/-- What does not hold the first element of `pat` cannot hold the start of an
occurrence. -/
theorem find_append_of_not_mem {p : α} {a : List α} (h : p ∉ a) (pat b : List α) :
    find (p :: pat) (a ++ (p :: pat ++ b)) = some a.length := by
  induction a with
  | nil =>
    rw [List.nil_append, List.cons_append, find, if_pos]
    · rfl
    · exact List.prefix_append (p :: pat) b
  | cons x a ih =>
    rw [List.mem_cons, not_or] at h
    have hne : ¬ p :: pat <+: x :: (a ++ (p :: pat ++ b)) :=
      fun hprefix => h.1 (List.cons_prefix_cons.mp hprefix).1
    rw [List.cons_append, find, if_neg hne, ih h.2]
    rfl

/-- An occurrence lies within the list. -/
theorem find_le {pat s : List α} {i : Nat} (h : find pat s = some i) :
    i + pat.length ≤ s.length := by
  obtain ⟨hlen, hocc, -⟩ := find_eq_some_iff.mp h
  have := hocc.length_le
  rw [List.length_drop] at this
  omega

/-- What occurs is found. -/
theorem exists_find_of_prefix {pat s : List α} {i : Nat} (h : pat <+: s.drop i) :
    ∃ k, find pat s = some k := by
  induction s generalizing i with
  | nil =>
    rw [List.drop_nil, List.prefix_nil] at h
    exact ⟨0, by rw [find, if_pos h]⟩
  | cons x xs ih =>
    unfold find
    by_cases hp : pat <+: x :: xs
    · exact ⟨0, by rw [if_pos hp]⟩
    · cases i with
      | zero => exact absurd h hp
      | succ i =>
          obtain ⟨k, hk⟩ := ih h
          exact ⟨k + 1, by rw [if_neg hp, hk]; rfl⟩

/-- Within the first `n` elements, the same occurrence if it ends there, or none. -/
theorem find_take {pat : List α} (hpat : pat ≠ []) (s : List α) (n : Nat) :
    find pat (s.take n) = (find pat s).filter (fun i => i + pat.length ≤ n) := by
  have hpos : 0 < pat.length := List.length_pos_iff.mpr hpat
  -- an occurrence is one in the prefix exactly when it ends there
  have hocc : ∀ j, pat <+: (s.take n).drop j ↔ pat <+: s.drop j ∧ j + pat.length ≤ n := by
    intro j
    rw [List.drop_take, List.prefix_take_iff]
    exact and_congr_right (fun _ => by omega)
  cases hfind : find pat s with
  | none =>
      show find pat (s.take n) = none
      by_contra hne
      obtain ⟨i, hi⟩ := Option.ne_none_iff_exists'.mp hne
      obtain ⟨-, hi', -⟩ := find_eq_some_iff.mp hi
      have hmem := (hocc i).mp hi'
      obtain ⟨k, hk⟩ := exists_find_of_prefix hmem.1
      rw [hfind] at hk
      cases hk
  | some i =>
      obtain ⟨hle, hi, hmin⟩ := find_eq_some_iff.mp hfind
      by_cases hn : i + pat.length ≤ n
      · rw [Option.filter_some, if_pos (by simpa using hn), find_eq_some_iff]
        refine ⟨?_, (hocc i).mpr ⟨hi, hn⟩, fun j hj h => hmin j hj ((hocc j).mp h).1⟩
        rw [List.length_take]
        omega
      · rw [Option.filter_some, if_neg (by simpa using hn)]
        by_contra hne
        obtain ⟨j, hj⟩ := Option.ne_none_iff_exists'.mp hne
        obtain ⟨-, hj', -⟩ := find_eq_some_iff.mp hj
        obtain ⟨hjs, hjn⟩ := (hocc j).mp hj'
        exact hmin j (by omega) hjs

/-! ## §2. Where a property ends. -/

omit [DecidableEq α] in
/-- A list is taken apart where a property first fails. -/
theorem takeWhile_dropWhile_append {p : α → Bool} {a b : List α} (ha : ∀ x ∈ a, p x = true)
    (hb : ∀ x, b.head? = some x → p x = false) :
    (a ++ b).takeWhile p = a ∧ (a ++ b).dropWhile p = b := by
  rw [List.takeWhile_append_of_pos ha, List.dropWhile_append_of_pos ha]
  cases b with
  | nil => exact ⟨List.append_nil a, rfl⟩
  | cons x b =>
      have hx : ¬ p x = true := by
        rw [hb x rfl]
        exact Bool.false_ne_true
      rw [List.takeWhile_cons_of_neg hx, List.dropWhile_cons_of_neg hx]
      exact ⟨List.append_nil a, rfl⟩

/-! ## §3. Cutting at a pair. -/

/-- The items of a list that end in `a` directly followed by `b`, and the rest. -/
def cutPair (a b : α) : List α → List (List α) × List α
  | [] => ([], [])
  | [x] => ([], [x])
  | x :: y :: xs =>
      if x = a ∧ y = b then ([] :: (cutPair a b xs).1, (cutPair a b xs).2)
      else
        match cutPair a b (y :: xs) with
        | ([], tail) => ([], x :: tail)
        | (item :: items, tail) => ((x :: item) :: items, tail)

/-- An item without `a` ends at the first pair. -/
theorem cutPair_append {a b : α} {item : List α} (h : a ∉ item) (rest : List α) :
    cutPair a b (item ++ a :: b :: rest)
      = (item :: (cutPair a b rest).1, (cutPair a b rest).2) := by
  induction item with
  | nil => simp [cutPair]
  | cons x item ih =>
    rw [List.mem_cons, not_or] at h
    have hx : x ≠ a := fun hx => h.1 hx.symm
    have hstep : ∀ s : List α, s ≠ [] → cutPair a b (x :: s)
        = match cutPair a b s with
          | ([], tail) => ([], x :: tail)
          | (item :: items, tail) => ((x :: item) :: items, tail) := by
      intro s hs
      cases s with
      | nil => exact absurd rfl hs
      | cons y s =>
          rw [cutPair]
          simp [hx]
    rw [List.cons_append, hstep _ (by simp), ih h.2]

/-- **Cutting undoes ending.** Items without `a`, each ended by the pair. -/
theorem cutPair_flatMap {a b : α} {items : List (List α)} (h : ∀ item ∈ items, a ∉ item) :
    cutPair a b (items.flatMap (fun item => item ++ [a, b])) = (items, []) := by
  induction items with
  | nil => rfl
  | cons item items ih =>
    rw [List.flatMap_cons, List.append_assoc]
    simp only [List.cons_append, List.nil_append]
    rw [cutPair_append (h item List.mem_cons_self),
      ih (fun i hi => h i (List.mem_cons_of_mem _ hi))]

/-! ## §4. Tokens. -/

theorem find_isSome_iff {pat s : List α} : (find pat s).isSome = true ↔ pat <:+: s := by
  constructor
  · intro h
    obtain ⟨i, hi⟩ := Option.isSome_iff_exists.mp h
    obtain ⟨-, hprefix, -⟩ := find_eq_some_iff.mp hi
    exact hprefix.isInfix.trans (List.drop_suffix i s).isInfix
  · intro h
    obtain ⟨before, after, rfl⟩ := h
    have hprefix : pat <+: (before ++ pat ++ after).drop before.length := by
      rw [List.append_assoc, List.drop_left]
      exact List.prefix_append pat after
    obtain ⟨k, hk⟩ := exists_find_of_prefix hprefix
    rw [hk]
    rfl

/-- At the start. -/
theorem find_eq_zero_iff {pat s : List α} : find pat s = some 0 ↔ pat <+: s := by
  rw [find_eq_some_iff, List.drop_zero]
  constructor
  · intro h
    exact h.2.1
  · intro h
    exact ⟨Nat.zero_le _, h, fun j hj => absurd hj (Nat.not_lt_zero j)⟩

omit [DecidableEq α] in
/-- A text without `x` occurs on one side of it. -/
theorem infix_append_cons_iff {pat : List α} {x : α} (hx : x ∉ pat) (a b : List α) :
    pat <:+: a ++ x :: b ↔ pat <:+: a ∨ pat <:+: b := by
  constructor
  · intro h
    rcases List.infix_append_iff.mp h with h | h | ⟨l, r, rfl, hl, hr⟩
    · exact .inl h
    · rcases List.infix_cons_iff.mp h with hprefix | h
      · cases pat with
        | nil => exact .inl List.nil_infix
        | cons y pat =>
            obtain rfl := (List.cons_prefix_cons.mp hprefix).1
            exact absurd List.mem_cons_self hx
      · exact .inr h
    · -- what lies across `x` would hold it
      cases r with
      | nil =>
          rw [List.append_nil]
          exact .inl hl.isInfix
      | cons y r =>
          obtain rfl := (List.cons_prefix_cons.mp hr).1
          exact absurd (List.mem_append_right l List.mem_cons_self) hx
  · intro h
    rcases h with h | h
    · exact h.trans (List.prefix_append a (x :: b)).isInfix
    · have hsuffix : b <:+ a ++ x :: b :=
        (List.suffix_cons x b).trans (List.suffix_append a (x :: b))
      exact h.trans hsuffix.isInfix

omit [DecidableEq α] in
theorem infix_iff_exists_piece {sep : α → Bool} {pat : List α} (hsep : ∀ x ∈ pat, sep x = false)
    (s : List α) :
    ∀ a : List α, (∀ x ∈ a, sep x = false) →
      (pat <:+: a ++ s ↔ ∃ piece ∈ (a ++ s).splitOnP sep, pat <:+: piece) := by
  induction s with
  | nil =>
      intro a ha
      rw [List.append_nil, List.splitOnP_eq_singleton ha]
      simp
  | cons x s ih =>
      intro a ha
      cases hx : sep x with
      | true =>
          have hnot : x ∉ pat := by
            intro hmem
            rw [hsep x hmem] at hx
            cases hx
          have hrest := ih [] (by simp)
          rw [List.nil_append] at hrest
          rw [List.splitOnP_append_cons_of_forall_mem ha x hx, infix_append_cons_iff hnot, hrest]
          simp
      | false =>
          have hgrown : ∀ y ∈ a ++ [x], sep y = false := by
            intro y hy
            rcases List.mem_append.mp hy with hy | hy
            · exact ha y hy
            · rw [List.mem_singleton.mp hy]
              exact hx
          rw [show a ++ x :: s = (a ++ [x]) ++ s by simp]
          exact ih (a ++ [x]) hgrown

/-- The pieces between separators that are not empty. -/
def splitTokens (sep : α → Bool) (s : List α) : List (List α) :=
  (s.splitOnP sep).filter (fun piece => !piece.isEmpty)

omit [DecidableEq α] in
/-- **A text without separators occurs in a token, or nowhere.** -/
theorem infix_iff_exists_token {sep : α → Bool} {pat : List α} (hne : pat ≠ [])
    (hsep : ∀ x ∈ pat, sep x = false) (s : List α) :
    pat <:+: s ↔ ∃ token ∈ splitTokens sep s, pat <:+: token := by
  have hpieces := infix_iff_exists_piece hsep s [] (by simp)
  rw [List.nil_append] at hpieces
  rw [hpieces]
  unfold splitTokens
  constructor
  · intro h
    obtain ⟨piece, hmem, hocc⟩ := h
    have hpiece : piece ≠ [] := by
      rintro rfl
      exact hne (List.infix_nil.mp hocc)
    exact ⟨piece, List.mem_filter.mpr ⟨hmem, by simpa using hpiece⟩, hocc⟩
  · intro h
    obtain ⟨token, hmem, hocc⟩ := h
    exact ⟨token, List.mem_of_mem_filter hmem, hocc⟩

end CLib
