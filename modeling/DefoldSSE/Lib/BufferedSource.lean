/-
  DefoldSSE.Lib.BufferedSource — a stream behind a buffer that reads ahead.

  The operations of okio's `BufferedSource`, as they are documented.  Each reads
  what it needs into the buffer; how much it reads beyond that is chosen from
  outside (`ahead`), so that at any moment the buffer may hold any longer part of
  what remains.  What an operation returns depends on the buffer for `size`
  alone; the others see the stream (`indexOf_eq_some`, `indexOf_eq_none`).

  A stream that has too few elements throws: `none`.
-/
import Mathlib.Data.List.Basic

namespace Okio

/-- What has not been consumed, how much of it is buffered, and how far the next
operations read ahead. -/
structure BufferedSource (α : Type) where
  remaining : List α
  buffered : Nat
  ahead : Nat → Nat
  fits : buffered ≤ remaining.length

namespace BufferedSource

variable {α : Type}

/-! ## §1. The operations. -/

/-- The buffer holds at least `need` elements, or all there are. -/
def fill (s : BufferedSource α) (need : Nat) : BufferedSource α where
  remaining := s.remaining
  buffered := min s.remaining.length (max s.buffered need + s.ahead 0)
  ahead := fun k => s.ahead (k + 1)
  fits := Nat.min_le_left _ _

/-- `getBuffer().size()`. -/
def size (s : BufferedSource α) : Nat × BufferedSource α := ((s.fill 0).buffered, s.fill 0)

/-- `indexOf(b, 0, toIndex)`; `none` is -1. -/
def indexOf [DecidableEq α] (s : BufferedSource α) (b : α) (toIndex : Nat) :
    Option Nat × BufferedSource α :=
  match (s.remaining.take toIndex).findIdx? (· == b) with
  | some index => (some index, s.fill (index + 1))
  | none => (none, s.fill toIndex)

/-- `request(byteCount)`: false at the end of the stream only. -/
def request (s : BufferedSource α) (byteCount : Nat) : Bool × BufferedSource α :=
  (decide (byteCount ≤ s.remaining.length), s.fill byteCount)

/-- `skip(byteCount)`. -/
def skip (s : BufferedSource α) (byteCount : Nat) : Option (BufferedSource α) :=
  if byteCount ≤ s.remaining.length then
    some
      { remaining := s.remaining.drop byteCount
        buffered := (s.fill byteCount).buffered - byteCount
        ahead := (s.fill byteCount).ahead
        fits := by
          have hfits := (s.fill byteCount).fits
          rw [List.length_drop]
          exact Nat.sub_le_sub_right hfits byteCount }
  else none

/-- `readUtf8(byteCount)`, before it is decoded. -/
def read (s : BufferedSource α) (byteCount : Nat) : Option (List α × BufferedSource α) :=
  (s.skip byteCount).map (fun rest => (s.remaining.take byteCount, rest))

/-! ## §2. What they do. -/

variable (s : BufferedSource α)

@[simp] theorem fill_remaining (need : Nat) : (s.fill need).remaining = s.remaining := rfl

@[simp] theorem size_remaining : s.size.2.remaining = s.remaining := rfl

@[simp] theorem request_remaining (n : Nat) : (s.request n).2.remaining = s.remaining := rfl

theorem request_fst (n : Nat) : (s.request n).1 = true ↔ n ≤ s.remaining.length :=
  decide_eq_true_iff

theorem buffered_le_fill (need : Nat) : s.buffered ≤ (s.fill need).buffered := by
  have hfits := s.fits
  show s.buffered ≤ min s.remaining.length (max s.buffered need + s.ahead 0)
  omega

/-- What was needed is there, or the end of the stream. -/
theorem need_le_fill (need : Nat) : min need s.remaining.length ≤ (s.fill need).buffered := by
  show min need s.remaining.length ≤ min s.remaining.length (max s.buffered need + s.ahead 0)
  omega

theorem buffered_le_size : s.buffered ≤ s.size.1 := s.buffered_le_fill 0

theorem size_le : s.size.1 ≤ s.remaining.length := (s.fill 0).fits

theorem skip_eq {n : Nat} (h : n ≤ s.remaining.length) :
    ∃ t, s.skip n = some t ∧ t.remaining = s.remaining.drop n := by
  unfold skip
  rw [if_pos h]
  exact ⟨_, rfl, rfl⟩

theorem skip_remaining {t : BufferedSource α} {n : Nat} (h : s.skip n = some t) :
    n ≤ s.remaining.length ∧ t.remaining = s.remaining.drop n := by
  unfold skip at h
  split at h
  · next hle =>
      obtain rfl := Option.some.inj h
      exact ⟨hle, rfl⟩
  · cases h

theorem read_eq {n : Nat} (h : n ≤ s.remaining.length) :
    ∃ t, s.read n = some (s.remaining.take n, t) ∧ t.remaining = s.remaining.drop n := by
  obtain ⟨t, hskip, hremaining⟩ := s.skip_eq h
  unfold read
  rw [hskip]
  exact ⟨t, rfl, hremaining⟩

theorem read_remaining {t : BufferedSource α} {n : Nat} {taken : List α}
    (h : s.read n = some (taken, t)) : n ≤ s.remaining.length ∧ t.remaining = s.remaining.drop n := by
  obtain ⟨u, hskip, hpair⟩ := Option.map_eq_some_iff.mp h
  obtain ⟨-, rfl⟩ := Prod.mk.inj hpair
  exact s.skip_remaining hskip

section IndexOf

variable [DecidableEq α] {b : α} {n : Nat}

@[simp] theorem indexOf_remaining : (s.indexOf b n).2.remaining = s.remaining := by
  unfold indexOf
  split
  · rfl
  · rfl

theorem buffered_le_indexOf : s.buffered ≤ (s.indexOf b n).2.buffered := by
  unfold indexOf
  split
  · exact s.buffered_le_fill _
  · exact s.buffered_le_fill _

/-- **What is found** is the first `b`, and stands before `n`. -/
theorem indexOf_eq_some {index : Nat} (h : (s.indexOf b n).1 = some index) :
    ∃ before after, s.remaining = before ++ b :: after ∧ b ∉ before ∧ before.length = index
      ∧ index < n := by
  unfold indexOf at h
  cases hfind : (s.remaining.take n).findIdx? (· == b) with
  | none =>
      rw [hfind] at h
      cases h
  | some k =>
      rw [hfind] at h
      obtain rfl := Option.some.inj h
      obtain ⟨hlt, hb, hmin⟩ := List.findIdx?_eq_some_iff_getElem.mp hfind
      have hlength := hlt
      rw [List.length_take] at hlength
      have hk : k < s.remaining.length := by omega
      have hget : s.remaining[k] = b := by
        rw [List.getElem_take] at hb
        simpa using hb
      refine ⟨s.remaining.take k, s.remaining.drop (k + 1), ?_, ?_, ?_, by omega⟩
      · rw [← hget, List.getElem_cons_drop, List.take_append_drop]
      · intro hmem
        obtain ⟨j, hj, hjb⟩ := List.mem_iff_getElem.mp hmem
        rw [List.length_take] at hj
        have hother := hmin j (by omega)
        rw [List.getElem_take] at hother hjb
        simp [hjb] at hother
      · rw [List.length_take]
        omega

/-- **Nothing is found** where there is none before `n`, and then the buffer
holds `n` elements or all there are. -/
theorem indexOf_eq_none (h : (s.indexOf b n).1 = none) :
    b ∉ s.remaining.take n ∧ min n s.remaining.length ≤ (s.indexOf b n).2.buffered := by
  unfold indexOf at h ⊢
  cases hfind : (s.remaining.take n).findIdx? (· == b) with
  | none =>
      refine ⟨fun hmem => ?_, s.need_le_fill n⟩
      have hnone := List.findIdx?_eq_none_iff.mp hfind b hmem
      simp at hnone
  | some k =>
      rw [hfind] at h
      cases h

end IndexOf

end BufferedSource

end Okio
