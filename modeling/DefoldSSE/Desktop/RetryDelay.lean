/-
  DefoldSSE.Desktop.RetryDelay — the arithmetic of the reconnect delay.

  `computeRetryDelayMS` computes on the integers.  Here
  `SSEDesktop_ComputeRetryDelayMS` is written once more in its own types, with a
  check behind every operation; the checks never fail, so that the two agree.
  The delay stays near

      min 300000 (clamp retry_ms · 2 ^ min (failures − 1) 8)

  and grows with both arguments, for any one reading of the clock.
-/
import Mathlib.Algebra.Order.Ring.Abs
import Mathlib.Algebra.Order.Ring.Int
import DefoldSSE.Lib.Checked
import DefoldSSE.Desktop.Backoff

namespace DefoldSSE

open CLib

/-! ## §1. The function in its own types. -/

/-- `shift`. -/
def checkedShift (failures : UInt32) : UInt32 :=
  let shift := if failures > 1 then failures - 1 else 0
  if shift > 8 then 8 else shift

/-- `SSEDesktop_ComputeRetryDelayMS`, none where an operation on `int64_t`
overflows or the result is no `int32_t`.  `clock` is `dmTime::GetTime()`. -/
def checkedRetryDelayMS (retryMs : Int32) (failures : UInt32) (clock : UInt64) : Option Int := do
  let base ← int64 retryMs.toInt
  let base := if base < SSE_DESKTOP_RETRY_MIN_MS then SSE_DESKTOP_RETRY_MIN_MS else base
  let base := if base > SSE_DESKTOP_RETRY_MAX_MS then SSE_DESKTOP_RETRY_MAX_MS else base
  let delay ← shiftLeft64 base (checkedShift failures).toNat
  let delay := if delay > SSE_DESKTOP_RETRY_MAX_MS then SSE_DESKTOP_RETRY_MAX_MS else delay
  let jitter ← int64 ((clock % 401).toNat - 200)
  let product ← int64 (delay * jitter)
  let delay ← int64 (delay + product.tdiv 1000)
  let delay := if delay < SSE_DESKTOP_MIN_DELAY_MS then SSE_DESKTOP_MIN_DELAY_MS else delay
  int32 delay

/-- The delay without its jitter. -/
def targetDelay (retryMs : Int) (failures : Nat) : Int :=
  min 300000 (min (max retryMs 1000) 300000 * 2 ^ min (failures - 1) 8)

/-! ## §2. The steps on the way. -/

theorem retryBase_eq (retryMs : Int) : retryBase retryMs = min (max retryMs 1000) 300000 := by
  unfold retryBase SSE_DESKTOP_RETRY_MIN_MS SSE_DESKTOP_RETRY_MAX_MS
  dsimp only
  split <;> split <;> omega

theorem backoffShift_eq (failures : Nat) : backoffShift failures = min (failures - 1) 8 := by
  unfold backoffShift SSE_DESKTOP_MAX_BACKOFF_SHIFT
  dsimp only
  split <;> split <;> omega

theorem nominalDelay_eq (retryMs : Int) (failures : Nat) :
    nominalDelay retryMs failures = targetDelay retryMs failures := by
  unfold nominalDelay targetDelay SSE_DESKTOP_RETRY_MAX_MS
  rw [retryBase_eq, backoffShift_eq]
  dsimp only
  split <;> omega

/-- `failures - 1` in `uint32_t` does not wrap where it is computed. -/
theorem toNat_checkedShift (failures : UInt32) :
    (checkedShift failures).toNat = backoffShift failures.toNat := by
  have hone : (1 : UInt32).toNat = 1 := rfl
  have height : (8 : UInt32).toNat = 8 := rfl
  have hsub : failures > 1 → (failures - 1).toNat = failures.toNat - 1 := by
    intro hgt
    have hle : (1 : UInt32) ≤ failures := UInt32.le_iff_toNat_le.mpr
      (Nat.le_of_lt (UInt32.lt_iff_toNat_lt.mp hgt))
    rw [UInt32.toNat_sub_of_le _ _ hle, hone]
  unfold checkedShift backoffShift SSE_DESKTOP_MAX_BACKOFF_SHIFT
  dsimp only
  by_cases hgt : failures > 1
  · have hgt' : failures.toNat > 1 := UInt32.lt_iff_toNat_lt.mp hgt
    rw [if_pos hgt, if_pos hgt']
    simp only [gt_iff_lt, UInt32.lt_iff_toNat_lt, hsub hgt, height]
    split
    · rfl
    · exact hsub hgt
  · have hgt' : ¬ failures.toNat > 1 := fun h => hgt (UInt32.lt_iff_toNat_lt.mpr h)
    rw [if_neg hgt, if_neg hgt']
    rfl

/-- The jitter is a share of the delay, of at most 200 in 1000. -/
theorem jitteredDelay_eq (delay : Int) (clock : Nat) :
    jitteredDelay delay clock = delay + share ((clock % 401 : Nat) - 200) 1000 delay := rfl

theorem jitter_abs_le (clock : Nat) : |((clock % 401 : Nat) : Int) - 200| ≤ 200 := by
  rw [abs_le]
  omega

/-- A product of a delay and a jitter is small. -/
theorem delay_mul_jitter_bounds {delay : Int} (hlo : 0 ≤ delay) (hhi : delay ≤ 300000)
    (clock : Nat) :
    -60000000 ≤ delay * ((clock % 401 : Nat) - 200)
      ∧ delay * ((clock % 401 : Nat) - 200) ≤ 60000000 := by
  obtain ⟨hneg, hpos⟩ := abs_le.mp (jitter_abs_le clock)
  have hbelow := Int.mul_le_mul_of_nonneg_left hneg hlo
  have habove := Int.mul_le_mul_of_nonneg_left hpos hlo
  omega

/-! ## §3. The order of the delays. -/

theorem targetDelay_nonneg (retryMs : Int) (failures : Nat) : 0 ≤ targetDelay retryMs failures := by
  rw [← nominalDelay_eq]
  have hlo := (nominalDelay_bounds retryMs failures).1
  omega

theorem targetDelay_mono {retryMs retryMs' : Int} {failures failures' : Nat}
    (hretry : retryMs ≤ retryMs') (hfailures : failures ≤ failures') :
    targetDelay retryMs failures ≤ targetDelay retryMs' failures' := by
  have hbase : min (max retryMs 1000) 300000 ≤ min (max retryMs' 1000) 300000 := by omega
  have hpow : (2 : Int) ^ min (failures - 1) 8 ≤ 2 ^ min (failures' - 1) 8 :=
    pow_le_pow_right₀ (by decide) (by omega)
  have hproduct := Int.mul_le_mul hbase hpow (Int.le_of_lt (Int.pow_pos (by decide))) (by omega)
  unfold targetDelay
  omega

/-- The shift of a counter that is signed, on Android and iOS. -/
theorem signedShift_eq (failures cap : Nat) :
    (if (if (failures : Int) > 1 then (failures : Int) - 1 else 0) > (cap : Int) then cap
      else (if (failures : Int) > 1 then (failures : Int) - 1 else 0).toNat)
      = if (if failures > 1 then failures - 1 else 0) > cap then cap
        else if failures > 1 then failures - 1 else 0 := by
  split_ifs <;> omega

/-- The delay before it is cut to an `int32_t`, which changes nothing. -/
theorem computeRetryDelayMS_eq (retryMs : Int) (failures clock : Nat) :
    computeRetryDelayMS retryMs failures clock
      = jitteredDelay (targetDelay retryMs failures) clock := by
  obtain ⟨hlo, hhi⟩ := nominalDelay_bounds retryMs failures
  obtain ⟨hlo, hhi⟩ := jitteredDelay_bounds hlo hhi clock
  rw [← nominalDelay_eq]
  unfold computeRetryDelayMS SSE_DESKTOP_MIN_DELAY_MS
  dsimp only
  rw [if_neg (by omega)]
  exact toInt32_of_fits (by omega) (by omega)

theorem computeRetryDelayMS_bounds (retryMs : Int) (failures clock : Nat) :
    800 ≤ computeRetryDelayMS retryMs failures clock
      ∧ computeRetryDelayMS retryMs failures clock ≤ 360000 := by
  obtain ⟨hlo, hhi⟩ := nominalDelay_bounds retryMs failures
  rw [computeRetryDelayMS_eq, ← nominalDelay_eq]
  exact jitteredDelay_bounds hlo hhi clock

/-- The jitter moves the delay by a fifth at most. -/
theorem computeRetryDelayMS_near (retryMs : Int) (failures clock : Nat) :
    5 * |computeRetryDelayMS retryMs failures clock - targetDelay retryMs failures|
      ≤ targetDelay retryMs failures := by
  have hjitter := jitter_abs_le clock
  rw [computeRetryDelayMS_eq, jitteredDelay_eq, add_sub_cancel_left]
  exact share_abs_le (by decide) (targetDelay_nonneg retryMs failures) (by decide) (by omega)

theorem computeRetryDelayMS_mono {retryMs retryMs' : Int} {failures failures' : Nat}
    (hretry : retryMs ≤ retryMs') (hfailures : failures ≤ failures') (clock : Nat) :
    computeRetryDelayMS retryMs failures clock ≤ computeRetryDelayMS retryMs' failures' clock := by
  have hjitter := jitter_abs_le clock
  rw [computeRetryDelayMS_eq, computeRetryDelayMS_eq, jitteredDelay_eq, jitteredDelay_eq]
  exact add_share_mono (by decide) (by omega) (targetDelay_nonneg retryMs failures)
    (targetDelay_mono hretry hfailures)

/-! ## §4. No step overflows. -/

/-- The checks hold, one operation after the other. -/
theorem checkedRetryDelayMS_eq (retryMs : Int32) (failures : UInt32) (clock : UInt64) :
    checkedRetryDelayMS retryMs failures clock
      = some (computeRetryDelayMS retryMs.toInt failures.toNat clock.toNat) := by
  have hretryLo := retryMs.le_toInt
  have hretryHi := retryMs.toInt_lt
  have hbaseLo : 1000 ≤ retryBase retryMs.toInt := by
    rw [retryBase_eq]
    omega
  have hbaseHi : retryBase retryMs.toInt ≤ 300000 := by
    rw [retryBase_eq]
    omega
  have hshift : backoffShift failures.toNat ≤ 8 := by
    rw [backoffShift_eq]
    omega
  have hshifted : retryBase retryMs.toInt * 2 ^ backoffShift failures.toNat ≤ 300000 * 2 ^ 8 :=
    Int.mul_le_mul hbaseHi (pow_le_pow_right₀ (by decide) hshift)
      (Int.le_of_lt (Int.pow_pos (by decide))) (by decide)
  obtain ⟨hnominalLo, hnominalHi⟩ := nominalDelay_bounds retryMs.toInt failures.toNat
  obtain ⟨hproductLo, hproductHi⟩ :=
    delay_mul_jitter_bounds (by omega) hnominalHi clock.toNat
  obtain ⟨hdelayLo, hdelayHi⟩ := jitteredDelay_bounds hnominalLo hnominalHi clock.toNat
  have hclock : (clock % 401).toNat = clock.toNat % 401 := rfl
  unfold checkedRetryDelayMS
  rw [int64_of_fits (by omega) (by omega)]
  show (shiftLeft64 (retryBase retryMs.toInt) _).bind _ = _
  rw [toNat_checkedShift, shiftLeft64_of_fits (by omega) (by omega) (by omega)]
  show (int64 ((clock % 401).toNat - 200)).bind _ = _
  rw [hclock, int64_of_fits (by omega) (by omega)]
  show (int64 (nominalDelay retryMs.toInt failures.toNat * ((clock.toNat % 401 : Nat) - 200))).bind
    _ = _
  rw [int64_of_fits (by omega) (by omega)]
  show (int64 (jitteredDelay (nominalDelay retryMs.toInt failures.toNat) clock.toNat)).bind _ = _
  rw [int64_of_fits (by omega) (by omega)]
  show int32 (if jitteredDelay _ _ < 500 then 500 else _) = _
  rw [if_neg (by omega), int32_of_fits (by omega) (by omega), computeRetryDelayMS_eq,
    nominalDelay_eq]

/-- **THE RECONNECT DELAY**, for every delay a stream or a script may have set,
every count of failures and every clock: no operation overflows, the delay is
within a fifth of its target, and a larger `retry_ms` or more failures never
shorten it. -/
theorem retryDelay_exact (retryMs : Int32) (failures : UInt32) (clock : UInt64) :
    ∃ delay, checkedRetryDelayMS retryMs failures clock = some delay
      ∧ 800 ≤ delay ∧ delay ≤ 360000
      ∧ 5 * |delay - targetDelay retryMs.toInt failures.toNat|
          ≤ targetDelay retryMs.toInt failures.toNat
      ∧ ∀ (retryMs' : Int32) (failures' : UInt32), retryMs ≤ retryMs' → failures ≤ failures' →
          ∃ delay', checkedRetryDelayMS retryMs' failures' clock = some delay'
            ∧ delay ≤ delay' := by
  obtain ⟨hlo, hhi⟩ := computeRetryDelayMS_bounds retryMs.toInt failures.toNat clock.toNat
  refine ⟨_, checkedRetryDelayMS_eq retryMs failures clock, hlo, hhi,
    computeRetryDelayMS_near _ _ _, ?_⟩
  intro retryMs' failures' hretry hfailures
  refine ⟨_, checkedRetryDelayMS_eq retryMs' failures' clock, ?_⟩
  exact computeRetryDelayMS_mono (Int32.le_iff_toInt_le.mp hretry)
    (UInt32.le_iff_toNat_le.mp hfailures) _

/-- A delay of 0 before the first failure, against 5000 after three. -/
theorem retryDelay_exact_zero :
    ∃ delay, checkedRetryDelayMS 0 0 7 = some delay
      ∧ ∃ delay', checkedRetryDelayMS 5000 3 7 = some delay' ∧ delay ≤ delay' := by
  obtain ⟨delay, hdelay, -, -, -, hmono⟩ := retryDelay_exact 0 0 7
  exact ⟨delay, hdelay, hmono 5000 3 (by decide) (by decide)⟩

end DefoldSSE
