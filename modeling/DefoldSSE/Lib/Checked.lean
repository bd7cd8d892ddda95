/-
  DefoldSSE.Lib.Checked — machine arithmetic that says when a result does not fit.

  An operation on a machine type is the exact one on the integers, and then
  `checked lo hi`: none where a signed type overflows and an unsigned one wraps.
  A function written with it returns a value only if no step of it did.

  Fixed-point scaling is such arithmetic: `share num den n` is `num / den` of
  `n`, rounded toward zero as `/` rounds in C.  Adding a share keeps the order
  of what it is added to (`add_share_mono`), whatever its sign.
-/
import Mathlib.Algebra.Order.Group.Unbundled.Int
import Mathlib.Tactic.Ring

namespace CLib

/-! ## §1. Results that fit. -/

/-- `n`, where a type that holds `lo` to `hi` holds it. -/
def checked (lo hi n : Int) : Option Int := if lo ≤ n ∧ n ≤ hi then some n else none

/-- A result of type `int64_t`. -/
def int64 (n : Int) : Option Int := checked (-2 ^ 63) (2 ^ 63 - 1) n

/-- A result of type `int32_t`. -/
def int32 (n : Int) : Option Int := checked (-2 ^ 31) (2 ^ 31 - 1) n

/-- `n << shift` in `int64_t`, undefined for a negative `n`. -/
def shiftLeft64 (n : Int) (shift : Nat) : Option Int :=
  if 0 ≤ n ∧ shift < 64 then int64 (n * 2 ^ shift) else none

/-- A result of an unsigned type that ends at `max`. -/
def unsigned (max : Nat) (n : Int) : Option Nat := (checked 0 max n).map Int.toNat

theorem checked_of_fits {lo hi n : Int} (hlo : lo ≤ n) (hhi : n ≤ hi) :
    checked lo hi n = some n := if_pos ⟨hlo, hhi⟩

theorem int64_of_fits {n : Int} (hlo : -2 ^ 63 ≤ n) (hhi : n ≤ 2 ^ 63 - 1) :
    int64 n = some n := checked_of_fits hlo hhi

theorem int32_of_fits {n : Int} (hlo : -2 ^ 31 ≤ n) (hhi : n ≤ 2 ^ 31 - 1) :
    int32 n = some n := checked_of_fits hlo hhi

theorem shiftLeft64_of_fits {n : Int} {shift : Nat} (hn : 0 ≤ n) (hshift : shift < 64)
    (hfits : n * 2 ^ shift ≤ 2 ^ 63 - 1) : shiftLeft64 n shift = some (n * 2 ^ shift) := by
  have hpos : 0 ≤ n * 2 ^ shift := Int.mul_nonneg hn (Int.le_of_lt (Int.pow_pos (by decide)))
  unfold shiftLeft64
  rw [if_pos ⟨hn, hshift⟩, int64_of_fits (by omega) hfits]

theorem unsigned_of_fits {max n : Nat} (h : n ≤ max) : unsigned max n = some n := by
  unfold unsigned
  rw [checked_of_fits (by omega) (by omega)]
  rfl

/-! ## §2. A share of a number. -/

/-- `n * num / den` with the division of C. -/
def share (num den n : Int) : Int := (n * num).tdiv den

/-- A share by what is not negative is the rounded down quotient. -/
theorem share_of_nonneg {num n : Int} (hnum : 0 ≤ num) (hn : 0 ≤ n) (den : Int) :
    share num den n = n * num / den :=
  Int.tdiv_eq_ediv_of_nonneg (Int.mul_nonneg hn hnum)

theorem share_neg (num den n : Int) : share (-num) den n = -share num den n := by
  unfold share
  rw [Int.mul_neg, Int.neg_tdiv]

/-- A share by what is not positive is the one by its opposite, taken away. -/
theorem share_of_nonpos {num n : Int} (hnum : num ≤ 0) (hn : 0 ≤ n) (den : Int) :
    share num den n = -(n * (-num) / den) := by
  rw [← share_of_nonneg (by omega) hn, share_neg, Int.neg_neg]

/-- One part in `parts`, rounded down. -/
theorem mul_ediv_le {k den n parts : Int} (hden : 0 < den) (hn : 0 ≤ n) (hparts : 0 ≤ parts)
    (hk : parts * k ≤ den) : parts * (n * k / den) ≤ n := by
  have hquot : n * k / den * den ≤ n * k := Int.ediv_mul_le _ (by omega)
  have hscaled : parts * (n * k / den) * den ≤ n * den := by
    calc parts * (n * k / den) * den
        = parts * (n * k / den * den) := by ring
      _ ≤ parts * (n * k) := Int.mul_le_mul_of_nonneg_left hquot hparts
      _ = n * (parts * k) := by ring
      _ ≤ n * den := Int.mul_le_mul_of_nonneg_left hk hn
  exact Int.le_of_mul_le_mul_right hscaled hden

/-- A share by `num` is at most one part in `parts`, if `num` is. -/
theorem share_abs_le {num den n parts : Int} (hden : 0 < den) (hn : 0 ≤ n)
    (hparts : 0 ≤ parts) (hnum : parts * |num| ≤ den) : parts * |share num den n| ≤ n := by
  have hquotient : ∀ k : Int, 0 ≤ k → 0 ≤ n * k / den := by
    intro k hk
    exact Int.ediv_nonneg (Int.mul_nonneg hn hk) (by omega)
  rcases Int.le_total 0 num with hpos | hneg
  · rw [abs_of_nonneg hpos] at hnum
    rw [share_of_nonneg hpos hn, abs_of_nonneg (hquotient num hpos)]
    exact mul_ediv_le hden hn hparts hnum
  · rw [abs_of_nonpos hneg] at hnum
    rw [share_of_nonpos hneg hn, abs_neg, abs_of_nonneg (hquotient (-num) (by omega))]
    exact mul_ediv_le hden hn hparts hnum

/-- **Adding a share keeps the order**, also where the share is negative and its
rounding goes the other way. -/
theorem add_share_mono {num den n m : Int} (hden : 0 < den) (hnum : |num| ≤ den) (hn : 0 ≤ n)
    (hle : n ≤ m) : n + share num den n ≤ m + share num den m := by
  rcases Int.le_total 0 num with hpos | hneg
  · rw [share_of_nonneg hpos hn, share_of_nonneg hpos (by omega)]
    have hquot : n * num / den ≤ m * num / den :=
      Int.ediv_le_ediv hden (Int.mul_le_mul_of_nonneg_right hle hpos)
    omega
  · rw [abs_of_nonpos hneg] at hnum
    rw [share_of_nonpos hneg hn, share_of_nonpos hneg (by omega)]
    -- what `m` loses more than `n` is no more than what it has more
    have hloss : m * (-num) / den ≤ n * (-num) / den + (m - n) := by
      calc m * (-num) / den
          = (n * (-num) + (m - n) * (-num)) / den := by
            congr 1
            ring
        _ ≤ (n * (-num) + (m - n) * den) / den := by
            apply Int.ediv_le_ediv hden
            have hmore := Int.mul_le_mul_of_nonneg_left hnum (by omega : 0 ≤ m - n)
            omega
        _ = n * (-num) / den + (m - n) := Int.add_mul_ediv_right _ _ (by omega)
    omega

end CLib
