/-
  DefoldSSE.Lib.CStdlib — the C library calls the adapters lean on.

  `isspace`, `isdigit`, `tolower` in the "C" locale, `strtol` in base 10 with
  its own grammar (blanks, a sign, saturation with ERANGE) and the one `sscanf`
  format the HTTP readers use.  Each follows the documented behaviour, not the
  use a caller makes of it.

  Memory that is written and freed is a function from addresses to what stands
  there (`update_eq_some`).
-/
import Mathlib.Logic.Function.Basic
import DefoldSSE.Lib.Bytes

namespace CLib

/-! ## §1. Character classes. -/

/-- `isspace` in the "C" locale: space, `\t`, `\n`, `\v`, `\f`, `\r`. -/
def isSpace (c : UInt8) : Bool := c == SP || (9 ≤ c && c ≤ 13)

/-- `isdigit`: `'0'` to `'9'`. -/
def isDigit (c : UInt8) : Bool := 48 ≤ c && c ≤ 57

/-- `tolower` in the "C" locale. -/
def toLower (c : UInt8) : UInt8 := if 65 ≤ c && c ≤ 90 then c + 32 else c

/-- The value of a decimal digit. -/
def digitVal (c : UInt8) : Nat := c.toNat - 48

/-- The number a digit string denotes, leading zeros included. -/
def decimalValue (digits : Bytes) : Nat :=
  digits.foldl (fun n c => 10 * n + digitVal c) 0

/-- `"%d"` of a non-negative number. -/
def decimal (n : Nat) : Bytes := (Nat.toDigits 10 n).map (fun c => UInt8.ofNat c.toNat)

/-- The bytes that `tolower` brings to `d`, where `d` is no capital. -/
def EqualNoCase (c d : UInt8) : Prop := c = d ∨ (97 ≤ d ∧ d ≤ 122 ∧ c = d - 32)

theorem toLower_eq_iff {c d : UInt8} (hd : toLower d = d) : toLower c = d ↔ EqualNoCase c d := by
  unfold EqualNoCase
  unfold toLower at hd ⊢
  simp only [Bool.and_eq_true, decide_eq_true_eq, UInt8.le_iff_toNat_le, UInt8.reduceToNat,
    ← UInt8.toNat_inj] at hd ⊢
  have hc := c.toNat_lt
  have hd' := d.toNat_lt
  split at hd <;> split <;> simp only [UInt8.toNat_add, UInt8.toNat_sub, UInt8.reduceToNat] at * <;>
    omega

/-- A digit is no blank. -/
theorem isSpace_of_isDigit {c : UInt8} (h : isDigit c = true) : isSpace c = false := by
  simp only [isDigit, Bool.and_eq_true, decide_eq_true_eq, UInt8.le_iff_toNat_le,
    UInt8.reduceToNat] at h
  simp only [isSpace, Bool.or_eq_false_iff, beq_eq_false_iff_ne, ne_eq, Bool.and_eq_false_iff,
    decide_eq_false_iff_not, SP, UInt8.le_iff_toNat_le, UInt8.reduceToNat, ← UInt8.toNat_inj]
  omega

/-- A digit is no sign. -/
theorem ne_sign_of_isDigit {c : UInt8} (h : isDigit c = true) : c ≠ 43 ∧ c ≠ 45 := by
  constructor <;> rintro rfl <;> simp [isDigit] at h

/-- Every byte `decimal` writes is a digit. -/
theorem isDigit_of_mem_decimal {n : Nat} {c : UInt8} (h : c ∈ decimal n) :
    isDigit c = true := by
  obtain ⟨d, hd, rfl⟩ := List.mem_map.mp h
  have hdigit := Nat.isDigit_of_mem_toDigits (by decide) (by decide) hd
  simp only [Char.isDigit, Bool.and_eq_true, decide_eq_true_eq] at hdigit
  have hlo : 48 ≤ d.toNat := UInt32.le_iff_toNat_le.mp hdigit.1
  have hhi : d.toNat ≤ 57 := UInt32.le_iff_toNat_le.mp hdigit.2
  simp only [isDigit, Bool.and_eq_true, decide_eq_true_eq, UInt8.le_iff_toNat_le,
    UInt8.reduceToNat, UInt8.toNat_ofNat']
  omega

/-- A number's decimal digits denote it. -/
theorem decimalValue_decimal (n : Nat) : decimalValue (decimal n) = n := by
  have hdigits : ∀ (ds : List Char) (m : Nat), (∀ d ∈ ds, d.isDigit = true) →
      (ds.map (fun c => UInt8.ofNat c.toNat)).foldl (fun n c => 10 * n + digitVal c) m
        = Nat.ofDigitChars 10 ds m := by
    intro ds
    induction ds with
    | nil => simp [Nat.ofDigitChars_nil]
    | cons d ds ih =>
      intro m hall
      have hd := hall d List.mem_cons_self
      simp only [Char.isDigit, Bool.and_eq_true, decide_eq_true_eq] at hd
      have hhi : d.toNat ≤ 57 := UInt32.le_iff_toNat_le.mp hd.2
      have hval : digitVal (UInt8.ofNat d.toNat) = d.toNat - '0'.toNat := by
        have hmod : d.toNat % 2 ^ 8 = d.toNat := Nat.mod_eq_of_lt (by omega)
        rw [digitVal, UInt8.toNat_ofNat', hmod]
        rfl
      rw [List.map_cons, List.foldl_cons, hval, Nat.ofDigitChars_cons,
        ih _ (fun d' hd' => hall d' (List.mem_cons_of_mem d hd'))]
  rw [decimalValue, decimal, hdigits _ _ (fun d hd =>
    Nat.isDigit_of_mem_toDigits (by decide) (by decide) hd)]
  exact Nat.ofDigitChars_toDigits (by decide) (by decide)

/-- Zeros in front do not count. -/
theorem decimalValue_zeros (k : Nat) (digits : Bytes) :
    decimalValue (List.replicate k 48 ++ digits) = decimalValue digits := by
  induction k with
  | zero => rfl
  | succ k ih => exact ih

/-! ## §2. `strtol`. -/

/-- What `strtol` hands back: the value, the text `*end` points at, and whether
it set `errno` to ERANGE. -/
structure StrtolResult where
  value : Int
  rest : Bytes
  erange : Bool
  deriving DecidableEq

/-- An optional sign: whether it is `-`, and the text after it. -/
def scanSign : Bytes → Bool × Bytes
  | 43 :: rest => (false, rest)
  | 45 :: rest => (true, rest)
  | text => (false, text)

/-- `strtol(text, &end, 10)` where `long` reaches `longMax`. -/
def strtol (longMax : Nat) (text : Bytes) : StrtolResult :=
  let body := scanSign (text.dropWhile isSpace)
  let digits := body.2.takeWhile isDigit
  let rest := body.2.dropWhile isDigit
  -- nothing converted: `end` is the start of the text
  if digits = [] then ⟨0, text, false⟩
  else if body.1 then
    if longMax + 1 < decimalValue digits then ⟨-(longMax + 1 : Nat), rest, true⟩
    else ⟨-(decimalValue digits : Nat), rest, false⟩
  else
    if longMax < decimalValue digits then ⟨longMax, rest, true⟩
    else ⟨decimalValue digits, rest, false⟩

/-- `LONG_MAX` of an LP64 target (macOS, Linux). -/
def LONG_MAX : Nat := 2 ^ 63 - 1

/-- On a non-empty digit string `strtol` is the saturated decimal value. -/
theorem strtol_digits (longMax : Nat) {text : Bytes} (hne : text ≠ [])
    (hdig : ∀ c ∈ text, isDigit c = true) :
    strtol longMax text =
      if longMax < decimalValue text then ⟨longMax, [], true⟩
      else ⟨decimalValue text, [], false⟩ := by
  obtain ⟨c, cs, rfl⟩ := List.exists_cons_of_ne_nil hne
  have hc : isDigit c = true := hdig c List.mem_cons_self
  have hsp : (c :: cs).dropWhile isSpace = c :: cs := by
    rw [List.dropWhile_cons, isSpace_of_isDigit hc]
    rfl
  have hsign : scanSign (c :: cs) = (false, c :: cs) := by
    obtain ⟨h43, h45⟩ := ne_sign_of_isDigit hc
    unfold scanSign
    split <;> simp_all
  have htake : (c :: cs).takeWhile isDigit = c :: cs := List.takeWhile_eq_self_iff.mpr hdig
  have hdrop : (c :: cs).dropWhile isDigit = [] := List.dropWhile_eq_nil_iff.mpr hdig
  simp only [strtol, hsp, hsign, htake, hdrop]
  simp

/-- A sign is taken off, or there is none. -/
theorem scanSign_cases (text : Bytes) :
    (∃ sign, (sign = [] ∨ sign = [43]) ∧ text = sign ++ (scanSign text).2
        ∧ (scanSign text).1 = false)
      ∨ (scanSign text).1 = true := by
  unfold scanSign
  split
  · exact .inl ⟨[43], .inr rfl, rfl, rfl⟩
  · exact .inr rfl
  · exact .inl ⟨[], .inl rfl, rfl, rfl⟩

/-- Blanks and a `+` in front of digits make no difference. -/
theorem strtol_skips (longMax : Nat) {blanks sign digits : Bytes}
    (hblanks : ∀ c ∈ blanks, isSpace c = true) (hsign : sign = [] ∨ sign = [43])
    (hne : digits ≠ []) (hdigits : ∀ c ∈ digits, isDigit c = true) :
    strtol longMax (blanks ++ (sign ++ digits)) = strtol longMax digits := by
  obtain ⟨c, cs, rfl⟩ := List.exists_cons_of_ne_nil hne
  have hc : isDigit c = true := hdigits c List.mem_cons_self
  have hspace : isSpace c = false := isSpace_of_isDigit hc
  have hscan : scanSign (c :: cs) = (false, c :: cs) := by
    obtain ⟨h43, h45⟩ := ne_sign_of_isDigit hc
    unfold scanSign
    split <;> simp_all
  have hdrop : (c :: cs).dropWhile isSpace = c :: cs :=
    List.dropWhile_cons_of_neg (by simp [hspace])
  have htake : (c :: cs).takeWhile isDigit ≠ [] := by
    rw [List.takeWhile_cons_of_pos hc]
    exact List.cons_ne_nil _ _
  have hbody : scanSign ((blanks ++ (sign ++ c :: cs)).dropWhile isSpace) = (false, c :: cs) := by
    rw [List.dropWhile_append_of_pos hblanks]
    rcases hsign with rfl | rfl
    · rw [List.nil_append, hdrop, hscan]
    · rfl
  simp only [strtol, hbody, hdrop, hscan, htake, if_false]

/-- **What `strtol` reads to its end as a positive number** is digits, behind
blanks and a `+` or nothing. -/
theorem strtol_full {longMax : Nat} {text : Bytes} (hrest : (strtol longMax text).rest = [])
    (hpos : 0 < (strtol longMax text).value) :
    ∃ blanks sign digits, text = blanks ++ (sign ++ digits)
      ∧ (∀ c ∈ blanks, isSpace c = true) ∧ (sign = [] ∨ sign = [43])
      ∧ digits ≠ [] ∧ ∀ c ∈ digits, isDigit c = true := by
  unfold strtol at hrest hpos
  dsimp only at hrest hpos
  generalize hbody : scanSign (text.dropWhile isSpace) = body at hrest hpos
  by_cases hnone : body.2.takeWhile isDigit = []
  · rw [if_pos hnone] at hpos
    exact absurd hpos (Int.lt_irrefl 0)
  rw [if_neg hnone] at hrest hpos
  rcases scanSign_cases (text.dropWhile isSpace) with ⟨sign, hsign, htext, hplus⟩ | hminus
  · rw [hbody] at htext hplus
    rw [hplus] at hrest
    have hall : body.2.dropWhile isDigit = [] := by
      simp only [Bool.false_eq_true, if_false] at hrest
      split at hrest
      · exact hrest
      · exact hrest
    have hdigits : ∀ c ∈ body.2, isDigit c = true := List.dropWhile_eq_nil_iff.mp hall
    refine ⟨text.takeWhile isSpace, sign, body.2, ?_, ?_, hsign, ?_, hdigits⟩
    · rw [← htext, List.takeWhile_append_dropWhile]
    · intro c hc
      exact List.mem_takeWhile_imp hc
    · intro hnil
      rw [hnil] at hnone
      exact hnone rfl
  · -- a minus sign gives no positive number
    rw [hbody] at hminus
    rw [hminus] at hpos
    simp only [if_true] at hpos
    split at hpos
    · dsimp only at hpos
      omega
    · dsimp only at hpos
      omega

/-! ## §3. Scanning a status line. -/

/-- Storing a `long` in an `int`. -/
def toInt32 (n : Int) : Int := Int.bmod n (2 ^ 32)

/-- What an `int` holds is stored as it is. -/
theorem toInt32_of_fits {n : Int} (hlo : -2 ^ 31 ≤ n) (hhi : n < 2 ^ 31) : toInt32 n = n :=
  Int.bmod_eq_of_le (by omega) (by omega)

theorem toInt32_zero : toInt32 (0 : Nat) = 0 := toInt32_of_fits (by decide) (by decide)

/-- An `int` that is counted up counts modulo `2 ^ 32`. -/
theorem toInt32_succ {n : Int} {count : Nat} (h : n = toInt32 count) :
    toInt32 (n + 1) = toInt32 (count + 1 : Nat) := by
  rw [h]
  exact Int.bmod_add_bmod

/-- `sscanf(text, "HTTP/%*s %d", &status)`: the literal, one skipped token, and
a number.  A number outside `long` is what `strtol` saturates it to, and the
result is stored in an `int`. -/
def scanStatus (text : Bytes) : Option Int :=
  if (ascii "HTTP/").isPrefixOf text then
    let word := (text.drop 5).dropWhile isSpace
    if (word.takeWhile (fun c => !isSpace c)) = [] then none
    else
      let number := (word.dropWhile (fun c => !isSpace c)).dropWhile isSpace
      if ((scanSign number).2.takeWhile isDigit) = [] then none
      else some (toInt32 (strtol LONG_MAX number).value)
  else none

example : scanStatus (ascii "HTTP/1.1 404 Not Found") = some 404 := by decide

/-! ## §4. Memory. -/

/-- What stands at an address after a write or a free was put there, or stood
there before. -/
theorem update_eq_some {α β : Type*} [DecidableEq α] {memory : α → Option β} {p q : α}
    {x : Option β} {r : β} (h : Function.update memory p x q = some r) :
    (q = p ∧ x = some r) ∨ (q ≠ p ∧ memory q = some r) := by
  by_cases hqp : q = p
  · subst hqp
    rw [Function.update_self] at h
    exact .inl ⟨rfl, h⟩
  · rw [Function.update_of_ne hqp] at h
    exact .inr ⟨hqp, h⟩

end CLib
