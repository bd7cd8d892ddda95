/-
  DefoldSSE.Pool.ChunkSize — the number a chunk's size line spells.

  `SSEDM_ParseChunkSize` accumulates hexadecimal digits in a `size_t` of a size
  the target chooses.  Here it is written with a check behind every operation on
  a `size_t` and with its out parameter: no operation wraps
  (`checkedChunkSizeFrom_exact`), and the number is the one the line spells
  (`chunkSize_exact`).  The decoder's `parseChunkSize` is this function on a
  64-bit target (`checkedChunkSizeFrom_eq`).
-/
import Mathlib.Data.List.Forall2
import DefoldSSE.Lib.Checked
import DefoldSSE.Pool.Chunked

namespace DefoldSSE

open CLib

/-! ## §1. What a size line spells. -/

/-- `' '` or `'\t'`. -/
def isBlank (c : UInt8) : Bool := c == SP || c == TAB

/-- The values of the hexadecimal digits of a text, blanks left out. -/
def sizeDigits (text : Bytes) : Option (List Nat) :=
  (text.filter (fun c => !isBlank c)).mapM hexDigit

/-- The number that more digits make of `value`. -/
def hexValue (value : Nat) (digits : List Nat) : Nat :=
  digits.foldl (fun value digit => value * 16 + digit) value

theorem le_hexValue (value : Nat) (digits : List Nat) : value ≤ hexValue value digits := by
  induction digits generalizing value with
  | nil => exact le_refl value
  | cons digit digits ih =>
      calc value ≤ value * 16 + digit := by omega
        _ ≤ hexValue (value * 16 + digit) digits := ih _

/-- The hexadecimal digits in their order, small and capital. -/
def hexDigits : List Bytes := [ascii "0123456789abcdef", ascii "0123456789ABCDEF"]

/-- **A hexadecimal digit** has its place among the sixteen as its value. -/
theorem hexDigit_eq_some_iff {c : UInt8} {digit : Nat} :
    hexDigit c = some digit ↔ ∃ digits ∈ hexDigits, digits[digit]? = some c := by
  constructor
  · intro h
    -- all 256 bytes
    have hall : ∀ n : Fin 256, ∀ d ∈ hexDigit (UInt8.ofNat n.val),
        ∃ digits ∈ hexDigits, digits[d]? = some (UInt8.ofNat n.val) := by decide +kernel
    have hc := hall ⟨c.toNat, c.toNat_lt⟩ digit
    rw [UInt8.ofNat_toNat] at hc
    exact hc h
  · rintro ⟨digits, hmem, hc⟩
    have hlength : ∀ digits ∈ hexDigits, digits.length = 16 := by decide
    have hall : ∀ digits ∈ hexDigits, ∀ d : Fin 16,
        digits[d.val]?.bind hexDigit = some d.val := by decide
    obtain ⟨hlt, -⟩ := List.getElem?_eq_some_iff.mp hc
    rw [hlength digits hmem] at hlt
    have hvalue := hall digits hmem ⟨digit, hlt⟩
    rwa [hc] at hvalue

theorem hexDigit_lt {c : UInt8} {digit : Nat} (h : hexDigit c = some digit) : digit < 16 := by
  obtain ⟨digits, hmem, hc⟩ := hexDigit_eq_some_iff.mp h
  have hlength : ∀ digits ∈ hexDigits, digits.length = 16 := by decide
  obtain ⟨hlt, -⟩ := List.getElem?_eq_some_iff.mp hc
  rwa [hlength digits hmem] at hlt

theorem isBlank_iff (c : UInt8) : isBlank c = true ↔ c = SP ∨ c = TAB := by
  unfold isBlank
  simp

/-- The digits of a text are those of its bytes that are no blanks. -/
theorem sizeDigits_eq_some_iff {text : Bytes} {digits : List Nat} :
    sizeDigits text = some digits
      ↔ List.Forall₂ (fun c digit => hexDigit c = some digit)
          (text.filter (fun c => !isBlank c)) digits := by
  unfold sizeDigits
  generalize text.filter (fun c => !isBlank c) = text
  induction text generalizing digits with
  | nil => cases digits <;> simp
  | cons c text ih =>
      rw [List.mapM_cons]
      cases digits with
      | nil => cases hexDigit c <;> cases List.mapM hexDigit text <;> simp
      | cons digit digits =>
        rw [List.forall₂_cons, ← ih]
        cases hexDigit c <;> cases List.mapM hexDigit text <;> simp

theorem sizeDigits_cons_blank {c : UInt8} (h : isBlank c = true) (text : Bytes) :
    sizeDigits (c :: text) = sizeDigits text := by
  unfold sizeDigits
  rw [List.filter_cons_of_neg (by simp [h])]

theorem sizeDigits_cons {c : UInt8} (h : ¬ isBlank c = true) (text : Bytes) :
    sizeDigits (c :: text)
      = (hexDigit c).bind (fun digit => (sizeDigits text).map (digit :: ·)) := by
  unfold sizeDigits
  rw [List.filter_cons_of_pos (by simp [h]), List.mapM_cons]
  cases hexDigit c with
  | none => rfl
  | some digit => cases List.mapM hexDigit (text.filter (fun c => !isBlank c)) <;> rfl

/-! ## §2. The function with its checks. -/

section SizeT

-- `SIZE_MAX` of the target; the C standard promises more than the largest digit
variable (sizeMax : Nat)

/-- The loop of `SSEDM_ParseChunkSize`, none where an operation on a `size_t`
wraps; what it returns otherwise is what `parseChunkSizeFrom` returns. -/
def checkedChunkSizeFrom (value : Nat) (hasDigit : Bool) : Bytes → Option (Option Nat)
  | [] => some (if hasDigit then some value else none)
  | c :: line =>
      if c = SEMICOLON then some (if hasDigit then some value else none)
      else if c = SP || c = TAB then checkedChunkSizeFrom value hasDigit line
      else
        match hexDigit c with
        | none => some none
        | some digit =>
            (unsigned sizeMax (sizeMax - digit : Int)).bind fun room =>
              if value > room / 16 then some none
              else
                (unsigned sizeMax (value * 16 : Int)).bind fun product =>
                  (unsigned sizeMax (product + digit : Int)).bind fun value =>
                    checkedChunkSizeFrom value true line

/-- `SSEDM_ParseChunkSize(line, &size)`: what it returns, and `size` after it. -/
def checkedChunkSize (line : Bytes) (size : Nat) : Option (Bool × Nat) :=
  (checkedChunkSizeFrom sizeMax 0 false line).map fun result =>
    match result with
    | none => (false, size)
    | some value => (true, value)

variable {sizeMax}

/-- The test before a digit is added: `value * 16 + digit` fits a `size_t`. -/
theorem size_overflow_iff {value digit : Nat} (hroom : digit ≤ sizeMax) :
    value > (sizeMax - digit) / 16 ↔ sizeMax < value * 16 + digit := by
  omega

/-- A digit: refused if the longer number does not fit, and added without a wrap
if it does. -/
theorem checkedChunkSizeFrom_digit (hmax : 15 ≤ sizeMax) (value : Nat) (hasDigit : Bool)
    {c : UInt8} (hsemi : c ≠ SEMICOLON) (hblank : ¬ isBlank c = true) {digit : Nat}
    (hhex : hexDigit c = some digit) (line : Bytes) :
    checkedChunkSizeFrom sizeMax value hasDigit (c :: line)
      = if sizeMax < value * 16 + digit then some none
        else checkedChunkSizeFrom sizeMax (value * 16 + digit) true line := by
  have hlt := hexDigit_lt hhex
  have hblank' : ¬ (decide (c = SP) || decide (c = TAB)) = true := by
    have := (isBlank_iff c).not.mp hblank
    simpa using this
  have hroom : unsigned sizeMax (sizeMax - digit : Int) = some (sizeMax - digit) := by
    rw [show (sizeMax - digit : Int) = (sizeMax - digit : Nat) by omega]
    exact unsigned_of_fits (by omega)
  rw [checkedChunkSizeFrom, if_neg hsemi, if_neg hblank']
  simp only [hhex, hroom, Option.bind_some]
  by_cases hbig : sizeMax < value * 16 + digit
  · rw [if_pos ((size_overflow_iff (by omega)).mpr hbig), if_pos hbig]
  · have hproduct : unsigned sizeMax (value * 16 : Int) = some (value * 16) :=
      unsigned_of_fits (n := value * 16) (by omega)
    have hsum : unsigned sizeMax ((value * 16 : Nat) + digit : Int) = some (value * 16 + digit) :=
      unsigned_of_fits (by omega)
    rw [if_neg ((size_overflow_iff (by omega)).not.mpr hbig), if_neg hbig, hproduct,
      Option.bind_some, hsum, Option.bind_some]

/-- The end of the text, or its first `;`. -/
theorem hexValue_nil_iff {value : Nat} (hvalue : value ≤ sizeMax) (hasDigit : Bool)
    (size : Nat) :
    (if hasDigit then some value else none) = some size
      ↔ ∃ digits, sizeDigits [] = some digits ∧ (hasDigit = true ∨ digits ≠ [])
          ∧ hexValue value digits = size ∧ size ≤ sizeMax := by
  constructor
  · intro h
    split at h
    · next hhas =>
        obtain rfl := Option.some.inj h
        exact ⟨[], rfl, .inl hhas, rfl, hvalue⟩
    · cases h
  · intro h
    obtain ⟨digits, hdigits, hhas, hsize, -⟩ := h
    obtain rfl : digits = [] := by
      have hnil : sizeDigits [] = some [] := rfl
      rw [hnil] at hdigits
      exact (Option.some.inj hdigits).symm
    have hhas : hasDigit = true := hhas.resolve_right (fun h => h rfl)
    rw [if_pos hhas]
    exact congrArg some hsize

/-- **No operation of the loop wraps, and its result is exact**: it reads the
text before the first `;`, and what does not fit a `size_t` is refused. -/
theorem checkedChunkSizeFrom_exact (hmax : 15 ≤ sizeMax) (line : Bytes) {value : Nat}
    (hvalue : value ≤ sizeMax) (hasDigit : Bool) :
    ∃ result, checkedChunkSizeFrom sizeMax value hasDigit line = some result
      ∧ ∀ size, result = some size
          ↔ ∃ digits, sizeDigits (line.takeWhile (· != SEMICOLON)) = some digits
              ∧ (hasDigit = true ∨ digits ≠ [])
              ∧ hexValue value digits = size ∧ size ≤ sizeMax := by
  induction line generalizing value hasDigit with
  | nil => exact ⟨_, rfl, hexValue_nil_iff hvalue hasDigit⟩
  | cons c line ih =>
      by_cases hsemi : c = SEMICOLON
      · rw [checkedChunkSizeFrom, if_pos hsemi, List.takeWhile_cons_of_neg (by simp [hsemi])]
        exact ⟨_, rfl, hexValue_nil_iff hvalue hasDigit⟩
      rw [List.takeWhile_cons_of_pos (by simp [hsemi])]
      by_cases hblank : isBlank c = true
      · have hblank' : (decide (c = SP) || decide (c = TAB)) = true := by
          have := (isBlank_iff c).mp hblank
          simp [this]
        rw [checkedChunkSizeFrom, if_neg hsemi, if_pos hblank', sizeDigits_cons_blank hblank]
        exact ih hvalue hasDigit
      rw [sizeDigits_cons hblank]
      cases hhex : hexDigit c with
      | none =>
          have hblank' : ¬ (decide (c = SP) || decide (c = TAB)) = true := by
            have := (isBlank_iff c).not.mp hblank
            simpa using this
          rw [checkedChunkSizeFrom, if_neg hsemi, if_neg hblank']
          refine ⟨none, by rw [hhex], fun size => ?_⟩
          simp
      | some digit =>
          rw [checkedChunkSizeFrom_digit hmax value hasDigit hsemi hblank hhex]
          simp only [Option.bind_some, Option.map_eq_some_iff]
          by_cases hbig : sizeMax < value * 16 + digit
          · -- refused, and indeed every longer number is even larger
            refine ⟨none, if_pos hbig, fun size => ?_⟩
            constructor
            · intro h
              cases h
            · intro h
              obtain ⟨digits, ⟨tail, -, rfl⟩, -, rfl, hfits⟩ := h
              have hle := le_hexValue (value * 16 + digit) tail
              have hcons : hexValue value (digit :: tail)
                  = hexValue (value * 16 + digit) tail := rfl
              omega
          · obtain ⟨result, hresult, hspells⟩ := ih (Nat.le_of_not_lt hbig) true
            refine ⟨result, by rw [if_neg hbig, hresult], fun size => ?_⟩
            rw [hspells size]
            constructor
            · intro h
              obtain ⟨digits, hsome, -, hsize, hfits⟩ := h
              exact ⟨digit :: digits, ⟨digits, hsome, rfl⟩, .inr (List.cons_ne_nil _ _), hsize,
                hfits⟩
            · intro h
              obtain ⟨_, ⟨digits, hsome, rfl⟩, -, hsize, hfits⟩ := h
              exact ⟨digits, hsome, .inl rfl, hsize, hfits⟩

/-- **CHUNK SIZES ARE EXACT.** On a target whose `size_t` holds a digit, no
operation wraps; `size` is set exactly to the number the line spells, and left
alone where the line spells none that fits. -/
theorem chunkSize_exact (hmax : 15 ≤ sizeMax) (line : Bytes) (size : Nat) :
    ∃ ok out, checkedChunkSize sizeMax line size = some (ok, out)
      ∧ (ok = false → out = size)
      ∧ ∀ v, (ok = true ∧ out = v)
          ↔ ∃ digits, sizeDigits (line.takeWhile (· != SEMICOLON)) = some digits
              ∧ digits ≠ [] ∧ hexValue 0 digits = v ∧ v ≤ sizeMax := by
  obtain ⟨result, hresult, hspells⟩ :=
    checkedChunkSizeFrom_exact hmax line (Nat.zero_le sizeMax) false
  simp only [Bool.false_eq_true, false_or] at hspells
  unfold checkedChunkSize
  rw [hresult]
  cases result with
  | none =>
      refine ⟨false, size, rfl, fun _ => rfl, fun v => ?_⟩
      rw [← hspells v]
      simp
  | some value =>
      refine ⟨true, value, rfl, fun h => (by cases h), fun v => ?_⟩
      rw [← hspells v]
      simp

/-- `" 00FFffFFffFFffFFff;x"` on a 64-bit target: the largest `size_t`, behind
leading zeros. -/
theorem chunkSize_exact_max :
    15 ≤ SIZE_MAX
      ∧ ∃ ok out, checkedChunkSize SIZE_MAX
          (SP :: 48 :: 48 :: (List.replicate 16 70 ++ [SEMICOLON, 120])) 7 = some (ok, out)
        ∧ ok = true ∧ out = SIZE_MAX := by
  have hmax : 15 ≤ SIZE_MAX := by decide
  refine ⟨hmax, ?_⟩
  obtain ⟨ok, out, hrun, -, hexact⟩ := chunkSize_exact hmax
    (SP :: 48 :: 48 :: (List.replicate 16 70 ++ [SEMICOLON, 120])) 7
  exact ⟨ok, out, hrun, (hexact SIZE_MAX).mpr
    ⟨0 :: 0 :: List.replicate 16 15, by decide, by decide, by decide, Nat.le_refl _⟩⟩

end SizeT

/-! ## §3. The decoder's function. -/

/-- `parseChunkSizeFrom` is the loop on a 64-bit target. -/
theorem checkedChunkSizeFrom_eq (line : Bytes) (value : Nat) (hasDigit : Bool) :
    checkedChunkSizeFrom SIZE_MAX value hasDigit line
      = some (parseChunkSizeFrom value hasDigit line) := by
  induction line generalizing value hasDigit with
  | nil => rfl
  | cons c line ih =>
      rw [parseChunkSizeFrom]
      by_cases hsemi : c = SEMICOLON
      · rw [checkedChunkSizeFrom, if_pos hsemi, if_pos hsemi]
      by_cases hblank : isBlank c = true
      · have hblank' : (decide (c = SP) || decide (c = TAB)) = true := by
          have := (isBlank_iff c).mp hblank
          simp [this]
        rw [checkedChunkSizeFrom, if_neg hsemi, if_neg hsemi, if_pos hblank', if_pos hblank']
        exact ih value hasDigit
      have hblank' : ¬ (decide (c = SP) || decide (c = TAB)) = true := by
        have := (isBlank_iff c).not.mp hblank
        simpa using this
      cases hhex : hexDigit c with
      | none =>
          rw [checkedChunkSizeFrom, if_neg hsemi, if_neg hsemi, if_neg hblank', if_neg hblank',
            hhex]
      | some digit =>
          have hlt := hexDigit_lt hhex
          have hroom : digit ≤ SIZE_MAX := by
            unfold SIZE_MAX
            omega
          rw [checkedChunkSizeFrom_digit (by decide) value hasDigit hsemi hblank hhex,
            if_neg hsemi, if_neg hblank', ih]
          dsimp only
          by_cases hbig : SIZE_MAX < value * 16 + digit
          · rw [if_pos hbig, if_pos ((size_overflow_iff hroom).mpr hbig)]
          · rw [if_neg hbig, if_neg ((size_overflow_iff hroom).not.mpr hbig)]

/-- The loop of the decoder's `SSEDM_ParseChunkSize` is exact. -/
theorem parseChunkSizeFrom_eq_some (line : Bytes) {value : Nat} (hvalue : value ≤ SIZE_MAX)
    (hasDigit : Bool) (size : Nat) :
    parseChunkSizeFrom value hasDigit line = some size
      ↔ ∃ digits, sizeDigits (line.takeWhile (· != SEMICOLON)) = some digits
          ∧ (hasDigit = true ∨ digits ≠ [])
          ∧ hexValue value digits = size ∧ size ≤ SIZE_MAX := by
  obtain ⟨result, hresult, hspells⟩ :=
    checkedChunkSizeFrom_exact (by decide) line hvalue hasDigit
  rw [checkedChunkSizeFrom_eq] at hresult
  rw [Option.some.inj hresult]
  exact hspells size

end DefoldSSE
