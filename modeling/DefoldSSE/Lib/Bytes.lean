/-
  DefoldSSE.Lib.Bytes — byte strings, C strings, and cutting a list at a terminator.

  Nothing here knows about event streams.  The file fixes how the rest of the
  development speaks about raw memory:

    • `Bytes` — a `std::string`: any bytes, NUL included;
    • `CString` — what is left of one after a `const char*` round trip
      (`strlen` stops at the first NUL), with the absence of NUL as a FIELD;
    • what stands before the first separator and from it on (`takeWhile_bne`,
      `dropWhile_bne`);
    • `cut s` — the items of a list that are terminated by `s`, and the
      unterminated rest.  `cut` grows at the right end (`cut_snoc_self`,
      `cut_snoc_ne`), which is how a reader that consumes one byte at a time
      sees it;
    • `List.splitOn` of the standard library cuts at a separator instead; what is
      said of it here is which elements its segments have and how many.
-/
import Mathlib.Algebra.Order.Ring.Int
import Mathlib.Data.List.DropRight
import Mathlib.Data.List.Induction
import Mathlib.Data.List.TakeWhile
import Mathlib.Tactic.Cases

namespace CLib

/-- The bytes of a `std::string` or of a buffer with an explicit length. -/
abbrev Bytes := List UInt8

/-- The bytes of an ASCII literal. -/
def ascii (s : String) : Bytes := s.toList.map (fun c => UInt8.ofNat c.toNat)

/-- `'\0'`. -/
abbrev NUL : UInt8 := 0
/-- `'\n'`. -/
abbrev LF : UInt8 := 10
/-- `'\r'`. -/
abbrev CR : UInt8 := 13
/-- `' '`. -/
abbrev SP : UInt8 := 32
/-- `':'`. -/
abbrev COLON : UInt8 := 58

/-! ## §1. C strings. -/

/-- The bytes a `const char*` stands for: everything before the terminator. -/
structure CString where
  bytes : Bytes
  noNul : NUL ∉ bytes
  deriving DecidableEq

instance : Inhabited CString := ⟨⟨[], by simp⟩⟩

/-- Reading `s.c_str()` back as a C string (`strlen`, `strdup`): the bytes up
to the first NUL. -/
def CString.read (s : Bytes) : CString where
  bytes := s.takeWhile (· != NUL)
  noNul := by
    intro h
    have := List.mem_takeWhile_imp h
    simp at this

/-- The C string of an ASCII literal. -/
def CString.lit (s : String) : CString := CString.read (ascii s)

@[ext] theorem CString.ext {a b : CString} (h : a.bytes = b.bytes) : a = b := by
  cases a; cases b; simpa using h

@[simp] theorem CString.read_bytes (s : Bytes) :
    (CString.read s).bytes = s.takeWhile (· != NUL) := rfl

/-- A byte string survives the C round trip exactly when it holds no NUL. -/
theorem CString.read_bytes_eq_self_iff (s : Bytes) :
    (CString.read s).bytes = s ↔ NUL ∉ s := by
  rw [CString.read_bytes, List.takeWhile_eq_self_iff]
  constructor
  · intro h hm
    have := h NUL hm
    simp at this
  · intro h x hx
    simp only [bne_iff_ne, ne_eq]
    rintro rfl
    exact h hx

/-- Reading never adds a byte. -/
theorem CString.mem_of_mem_read {s : Bytes} {x : UInt8} (h : x ∈ (CString.read s).bytes) :
    x ∈ s :=
  (List.takeWhile_prefix _).mem h

/-- A C string reads back as itself. -/
@[simp] theorem CString.read_self (c : CString) : CString.read c.bytes = c :=
  CString.ext ((CString.read_bytes_eq_self_iff c.bytes).mpr c.noNul)

/-! ## §2. Up to a separator. -/

section Separator

variable {α : Type} [BEq α] [LawfulBEq α] {x : α} {xs : List α}

theorem bne_of_not_mem (h : x ∉ xs) : ∀ c ∈ xs, (c != x) = true := by
  intro c hc
  rw [bne_iff_ne]
  rintro rfl
  exact h hc

/-- What stands before the first separator, and what stands from it on. -/
theorem takeWhile_bne (h : x ∉ xs) (rest : List α) :
    (xs ++ x :: rest).takeWhile (· != x) = xs := by
  rw [List.takeWhile_append_of_pos (bne_of_not_mem h), List.takeWhile_cons_of_neg (by simp),
    List.append_nil]

theorem dropWhile_bne (h : x ∉ xs) (rest : List α) :
    (xs ++ x :: rest).dropWhile (· != x) = x :: rest := by
  rw [List.dropWhile_append_of_pos (bne_of_not_mem h), List.dropWhile_cons_of_neg (by simp)]

/-- Without a separator there is nothing from it on. -/
theorem dropWhile_bne_of_not_mem (h : x ∉ xs) : xs.dropWhile (· != x) = [] :=
  List.dropWhile_eq_nil_iff.mpr (bne_of_not_mem h)

end Separator

/-! ## §3. Cutting a list at a terminator. -/

section Cut

variable {α : Type} [DecidableEq α]

/-- The items of `xs` that end in `s` (without it), and what follows the last
`s`. -/
def cut (s : α) : List α → List (List α) × List α
  | [] => ([], [])
  | x :: xs =>
      if x = s then ([] :: (cut s xs).1, (cut s xs).2)
      else
        match cut s xs with
        | ([], tail) => ([], x :: tail)
        | (item :: items, tail) => ((x :: item) :: items, tail)

@[simp] theorem cut_nil (s : α) : cut s [] = ([], []) := rfl

theorem cut_cons_self (s : α) (xs : List α) :
    cut s (s :: xs) = ([] :: (cut s xs).1, (cut s xs).2) := by
  simp [cut]

/-- A terminator closes the pending item. -/
theorem cut_snoc_self (s : α) (xs : List α) :
    cut s (xs ++ [s]) = ((cut s xs).1 ++ [(cut s xs).2], []) := by
  induction xs with
  | nil => simp [cut]
  | cons x xs ih =>
    by_cases hx : x = s
    · subst hx
      rw [List.cons_append, cut_cons_self, cut_cons_self, ih]
      rfl
    · simp only [List.cons_append, cut, hx, if_false, ih]
      rcases cut s xs with ⟨_ | ⟨item, items⟩, tail⟩ <;> rfl

/-- Any other element is appended to the pending item. -/
theorem cut_snoc_ne (s : α) (xs : List α) {x : α} (hx : x ≠ s) :
    cut s (xs ++ [x]) = ((cut s xs).1, (cut s xs).2 ++ [x]) := by
  induction xs with
  | nil => simp [cut, hx]
  | cons y ys ih =>
    by_cases hy : y = s
    · subst hy
      rw [List.cons_append, cut_cons_self, cut_cons_self, ih]
    · simp only [List.cons_append, cut, hy, if_false, ih]
      rcases cut s ys with ⟨_ | ⟨item, items⟩, tail⟩ <;> rfl

/-- Without the terminator there is only the rest. -/
theorem cut_of_not_mem {s : α} {xs : List α} (h : s ∉ xs) : cut s xs = ([], xs) := by
  induction xs with
  | nil => rfl
  | cons x xs ih =>
    rw [List.mem_cons, not_or] at h
    rw [cut, if_neg (Ne.symm h.1), ih h.2]

/-- An item ends at its first terminator. -/
theorem cut_append_cons {s : α} {item : List α} (h : s ∉ item) (rest : List α) :
    cut s (item ++ s :: rest) = (item :: (cut s rest).1, (cut s rest).2) := by
  induction item with
  | nil => exact cut_cons_self s rest
  | cons x item ih =>
    rw [List.mem_cons, not_or] at h
    rw [List.cons_append, cut, if_neg (Ne.symm h.1), ih h.2]

/-- No item holds the terminator. -/
theorem not_mem_of_mem_cut (s : α) (xs : List α) :
    (∀ item ∈ (cut s xs).1, s ∉ item) ∧ s ∉ (cut s xs).2 := by
  induction xs using List.reverseRecOn with
  | nil => simp
  | append_singleton xs x ih =>
    by_cases hx : x = s
    · subst hx
      rw [cut_snoc_self]
      refine ⟨fun item hitem => ?_, by simp⟩
      rcases List.mem_append.mp hitem with h | h
      · exact ih.1 item h
      · rw [List.mem_singleton.mp h]
        exact ih.2
    · rw [cut_snoc_ne s xs hx]
      refine ⟨ih.1, fun h => ?_⟩
      rcases List.mem_append.mp h with h | h
      · exact ih.2 h
      · exact hx (List.mem_singleton.mp h).symm

/-- A list is its items, each with its terminator, and what follows them. -/
theorem eq_flatMap_cut (s : α) (xs : List α) :
    xs = (cut s xs).1.flatMap (fun item => item ++ [s]) ++ (cut s xs).2 := by
  induction xs using List.reverseRecOn with
  | nil => rfl
  | append_singleton xs x ih =>
    by_cases hx : x = s
    · subst hx
      rw [cut_snoc_self, List.flatMap_append, List.flatMap_singleton, List.append_nil,
        ← List.append_assoc, ← ih]
    · rw [cut_snoc_ne s xs hx, ← List.append_assoc, ← ih]

/-- **Cutting a list**: the items are what the terminators end, the rest is what
no terminator ends. -/
theorem cut_eq_iff {s : α} {xs : List α} {items : List (List α)} {tail : List α} :
    cut s xs = (items, tail)
      ↔ xs = items.flatMap (fun item => item ++ [s]) ++ tail
        ∧ (∀ item ∈ items, s ∉ item) ∧ s ∉ tail := by
  constructor
  · intro h
    have hwhole := eq_flatMap_cut s xs
    have hnot := not_mem_of_mem_cut s xs
    rw [h] at hwhole hnot
    exact ⟨hwhole, hnot⟩
  · rintro ⟨rfl, hitems, htail⟩
    induction items with
    | nil => exact cut_of_not_mem htail
    | cons item items ih =>
      have hrest := ih (fun item' hitem' => hitems item' (List.mem_cons_of_mem item hitem'))
      rw [List.flatMap_cons, List.append_assoc, List.append_assoc, List.singleton_append,
        cut_append_cons (hitems item List.mem_cons_self), hrest]

/-- Cutting in two goes: what the first leaves unterminated stands before the
second. -/
theorem cut_append (s : α) (xs ys : List α) :
    cut s (xs ++ ys)
      = ((cut s xs).1 ++ (cut s ((cut s xs).2 ++ ys)).1, (cut s ((cut s xs).2 ++ ys)).2) := by
  induction ys using List.reverseRecOn with
  | nil =>
    rw [List.append_nil, List.append_nil, cut_of_not_mem (not_mem_of_mem_cut s xs).2,
      List.append_nil]
  | append_singleton ys y ih =>
    by_cases hy : y = s
    · subst hy
      rw [← List.append_assoc, ← List.append_assoc, cut_snoc_self, cut_snoc_self, ih,
        List.append_assoc]
    · rw [← List.append_assoc, ← List.append_assoc, cut_snoc_ne s _ hy, cut_snoc_ne s _ hy, ih]

/-- What has no terminator in it is the beginning of the first item. -/
theorem cut_append_of_not_mem {s : α} {xs : List α} (h : s ∉ xs) (ys : List α) :
    cut s (xs ++ ys)
      = match cut s ys with
        | ([], tail) => ([], xs ++ tail)
        | (item :: items, tail) => ((xs ++ item) :: items, tail) := by
  induction xs with
  | nil =>
    rw [List.nil_append]
    rcases cut s ys with ⟨_ | ⟨item, items⟩, tail⟩ <;> rfl
  | cons x xs ih =>
    rw [List.mem_cons, not_or] at h
    rw [List.cons_append, cut, if_neg (Ne.symm h.1), ih h.2]
    rcases cut s ys with ⟨_ | ⟨item, items⟩, tail⟩ <;> rfl

/-- Without its rest a list has the same items. -/
theorem cut_rdropWhile (s : α) (xs : List α) :
    cut s (xs.rdropWhile (· != s)) = ((cut s xs).1, []) := by
  induction xs using List.reverseRecOn with
  | nil => rfl
  | append_singleton xs x ih =>
    by_cases hx : x = s
    · subst hx
      rw [List.rdropWhile_concat_neg _ _ x (by simp), cut_snoc_self]
    · rw [List.rdropWhile_concat_pos _ _ x (by simpa using hx), ih, cut_snoc_ne s xs hx]

end Cut

/-! ## §4. Splitting a list at a separator. -/

section SplitOn

variable {α : Type} [DecidableEq α]

/-- What stands between the separators: elements of the list, the separator
apart. -/
theorem mem_of_mem_splitOn {s : α} {xs : List α} {seg : List α} (hseg : seg ∈ xs.splitOn s)
    {x : α} (hx : x ∈ seg) : x ∈ xs ∧ x ≠ s := by
  induction xs generalizing seg with
  | nil =>
    rw [List.splitOn_nil, List.mem_singleton] at hseg
    subst hseg
    cases hx
  | cons y xs ih =>
    rw [List.splitOn_cons_eq_if_modifyHead] at hseg
    by_cases hy : y = s
    · rw [if_pos (beq_iff_eq.mpr hy)] at hseg
      rcases List.mem_cons.mp hseg with rfl | hseg
      · cases hx
      · obtain ⟨hmem, hne⟩ := ih hseg hx
        exact ⟨List.mem_cons_of_mem y hmem, hne⟩
    · rw [if_neg (fun h => hy (beq_iff_eq.mp h))] at hseg
      cases hsplit : xs.splitOn s with
      | nil => exact absurd hsplit (List.splitOn_ne_nil s xs)
      | cons first rest =>
          rw [hsplit, List.modifyHead_cons] at hseg
          rcases List.mem_cons.mp hseg with rfl | hseg
          · rcases List.mem_cons.mp hx with rfl | hx
            · exact ⟨List.mem_cons_self, hy⟩
            · obtain ⟨hmem, hne⟩ := ih (hsplit ▸ List.mem_cons_self) hx
              exact ⟨List.mem_cons_of_mem y hmem, hne⟩
          · obtain ⟨hmem, hne⟩ := ih (hsplit ▸ List.mem_cons_of_mem first hseg) hx
            exact ⟨List.mem_cons_of_mem y hmem, hne⟩

/-- With a separator after each, the segments take one place more than the
list. -/
theorem sum_length_splitOn (s : α) (xs : List α) :
    ((xs.splitOn s).map (fun seg => seg.length + 1)).sum = xs.length + 1 := by
  induction xs with
  | nil => rfl
  | cons y xs ih =>
    rw [List.splitOn_cons_eq_if_modifyHead, List.length_cons]
    split
    · rw [List.map_cons, List.sum_cons, ih, List.length_nil]
      omega
    · cases hsplit : xs.splitOn s with
      | nil => exact absurd hsplit (List.splitOn_ne_nil s xs)
      | cons first rest =>
          rw [hsplit, List.map_cons, List.sum_cons] at ih
          rw [List.modifyHead_cons, List.map_cons, List.sum_cons, List.length_cons]
          omega

/-- The segments are the terminated items and the rest. -/
theorem splitOn_eq_cut (s : α) (xs : List α) : xs.splitOn s = (cut s xs).1 ++ [(cut s xs).2] := by
  induction xs with
  | nil => rfl
  | cons x xs ih =>
    rw [List.splitOn_cons_eq_if_modifyHead, ih]
    by_cases hx : x = s
    · subst hx
      rw [if_pos (beq_self_eq_true x), cut_cons_self]
      rfl
    · rw [if_neg (fun h => hx (beq_iff_eq.mp h)), cut, if_neg hx]
      rcases cut s xs with ⟨_ | ⟨item, items⟩, tail⟩ <;> rfl

end SplitOn

end CLib
