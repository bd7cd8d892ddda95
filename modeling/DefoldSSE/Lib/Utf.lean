/-
  DefoldSSE.Lib.Utf — UTF-8, UTF-16, and the modified UTF-8 of JNI.

  A text is a list of Unicode scalar values (`Char`).  `utf8` and `utf16` encode
  it; `modifiedUtf8` encodes code units, surrogates included, and writes U+0000
  in two bytes.  The two ways to bytes agree on a text exactly when it holds
  neither U+0000 nor a character beyond the basic plane
  (`modifiedUtf8_utf16_eq_iff`).
-/
import Mathlib.Data.List.Basic
import DefoldSSE.Lib.Bytes

namespace CLib

/-- The code units of a Java or JavaScript string. -/
abbrev Utf16 := List UInt16

/-- The code units of an ASCII literal. -/
def units (s : String) : Utf16 := s.toList.map (fun c => UInt16.ofNat c.toNat)

/-! ## §1. The encodings. -/

def utf8 (text : List Char) : Bytes := text.flatMap String.utf8EncodeChar

/-- One code unit, or a surrogate pair. -/
def utf16Char (c : Char) : Utf16 :=
  if c.toNat < 0x10000 then [UInt16.ofNat c.toNat]
  else
    [UInt16.ofNat (0xD800 + (c.toNat - 0x10000) / 0x400),
      UInt16.ofNat (0xDC00 + (c.toNat - 0x10000) % 0x400)]

def utf16 (text : List Char) : Utf16 := text.flatMap utf16Char

/-- A code unit in modified UTF-8. -/
def modifiedUtf8Unit (u : UInt16) : Bytes :=
  if u ≠ 0 ∧ u.toNat < 0x80 then [UInt8.ofNat u.toNat]
  else if u.toNat < 0x800 then
    [UInt8.ofNat (u.toNat / 0x40 % 0x20 + 0xC0), UInt8.ofNat (u.toNat % 0x40 + 0x80)]
  else
    [UInt8.ofNat (u.toNat / 0x1000 % 0x10 + 0xE0), UInt8.ofNat (u.toNat / 0x40 % 0x40 + 0x80),
      UInt8.ofNat (u.toNat % 0x40 + 0x80)]

def modifiedUtf8 (units : Utf16) : Bytes := units.flatMap modifiedUtf8Unit

/-- A character that both ways to bytes write alike. -/
def plain (c : Char) : Prop := c.toNat ≠ 0 ∧ c.toNat < 0x10000

@[simp] theorem utf8_nil : utf8 [] = [] := rfl
@[simp] theorem utf16_nil : utf16 [] = [] := rfl
@[simp] theorem modifiedUtf8_nil : modifiedUtf8 [] = [] := rfl

theorem utf8_cons (c : Char) (text : List Char) :
    utf8 (c :: text) = String.utf8EncodeChar c ++ utf8 text := rfl

theorem utf16_cons (c : Char) (text : List Char) :
    utf16 (c :: text) = utf16Char c ++ utf16 text := rfl

theorem utf8_append (a b : List Char) : utf8 (a ++ b) = utf8 a ++ utf8 b := List.flatMap_append

theorem utf16_append (a b : List Char) : utf16 (a ++ b) = utf16 a ++ utf16 b :=
  List.flatMap_append

theorem modifiedUtf8_append (a b : Utf16) :
    modifiedUtf8 (a ++ b) = modifiedUtf8 a ++ modifiedUtf8 b :=
  List.flatMap_append

/-! ## §2. Lengths. -/

theorem toNat_lt (c : Char) : c.toNat < 0x110000 := by
  have hvalid := c.valid
  simp only [UInt32.isValidChar, Nat.isValidChar] at hvalid
  show c.val.toNat < 0x110000
  omega

/-- No character is a surrogate. -/
theorem toNat_not_surrogate (c : Char) : c.toNat < 0xD800 ∨ 0xE000 ≤ c.toNat := by
  have hvalid := c.valid
  simp only [UInt32.isValidChar, Nat.isValidChar] at hvalid
  show c.val.toNat < 0xD800 ∨ 0xE000 ≤ c.val.toNat
  omega

/-- The encoding of a character, in numbers. -/
theorem utf8EncodeChar_eq (c : Char) :
    String.utf8EncodeChar c =
      if c.toNat ≤ 0x7F then [UInt8.ofNat c.toNat]
      else if c.toNat ≤ 0x7FF then
        [UInt8.ofNat (c.toNat / 0x40 % 0x20 + 0xC0), UInt8.ofNat (c.toNat % 0x40 + 0x80)]
      else if c.toNat ≤ 0xFFFF then
        [UInt8.ofNat (c.toNat / 0x1000 % 0x10 + 0xE0), UInt8.ofNat (c.toNat / 0x40 % 0x40 + 0x80),
          UInt8.ofNat (c.toNat % 0x40 + 0x80)]
      else
        [UInt8.ofNat (c.toNat / 0x40000 % 8 + 0xF0), UInt8.ofNat (c.toNat / 0x1000 % 0x40 + 0x80),
          UInt8.ofNat (c.toNat / 0x40 % 0x40 + 0x80), UInt8.ofNat (c.toNat % 0x40 + 0x80)] :=
  rfl

theorem utf16Char_of_lt {c : Char} (h : c.toNat < 0x10000) :
    utf16Char c = [UInt16.ofNat c.toNat] := if_pos h

theorem toNat_ofNat_unit {n : Nat} (h : n < 0x10000) : (UInt16.ofNat n).toNat = n := by
  rw [UInt16.toNat_ofNat']
  exact Nat.mod_eq_of_lt h

/-- A code unit is no longer than the bytes of its character. -/
theorem utf16Char_length_le (c : Char) :
    (utf16Char c).length ≤ (String.utf8EncodeChar c).length := by
  rw [utf8EncodeChar_eq]
  unfold utf16Char
  split
  · split
    · exact Nat.le_refl 1
    · split
      · show 1 ≤ 2
        omega
      · split
        · show 1 ≤ 3
          omega
        · show 1 ≤ 4
          omega
  · rw [if_neg (by omega), if_neg (by omega), if_neg (by omega)]
    show 2 ≤ 4
    omega

theorem utf16_length_le (text : List Char) : (utf16 text).length ≤ (utf8 text).length := by
  induction text with
  | nil => exact Nat.le_refl 0
  | cons c text ih =>
      have hc := utf16Char_length_le c
      rw [utf16_cons, utf8_cons, List.length_append, List.length_append]
      omega

/-! ## §3. Modified UTF-8 against UTF-8. -/

theorem modifiedUtf8_plain {c : Char} (h : plain c) :
    modifiedUtf8 (utf16Char c) = String.utf8EncodeChar c := by
  obtain ⟨hne, hlt⟩ := h
  have hunit := toNat_ofNat_unit hlt
  have hunit_ne : UInt16.ofNat c.toNat ≠ 0 := by
    intro h0
    rw [h0] at hunit
    exact hne hunit.symm
  rw [utf16Char_of_lt hlt, utf8EncodeChar_eq]
  show modifiedUtf8Unit _ ++ [] = _
  rw [List.append_nil]
  unfold modifiedUtf8Unit
  rw [hunit]
  by_cases h1 : c.toNat ≤ 0x7F
  · rw [if_pos ⟨hunit_ne, by omega⟩, if_pos h1]
  · rw [if_neg (by omega), if_neg h1]
    by_cases h2 : c.toNat ≤ 0x7FF
    · rw [if_pos (by omega), if_pos h2]
    · rw [if_neg (by omega), if_neg h2, if_pos (by omega)]

theorem modifiedUtf8Unit_length (u : UInt16) :
    (modifiedUtf8Unit u).length = if u ≠ 0 ∧ u.toNat < 0x80 then 1
      else if u.toNat < 0x800 then 2 else 3 := by
  unfold modifiedUtf8Unit
  split
  · rfl
  · split <;> rfl

/-- U+0000 takes two bytes, a surrogate pair six. -/
theorem modifiedUtf8_not_plain {c : Char} (h : ¬ plain c) :
    (String.utf8EncodeChar c).length < (modifiedUtf8 (utf16Char c)).length := by
  by_cases hlt : c.toNat < 0x10000
  · have hzero : c.toNat = 0 := by
      by_contra hne
      exact h ⟨hne, hlt⟩
    rw [utf16Char_of_lt hlt, utf8EncodeChar_eq, hzero]
    show 1 < 2
    omega
  · have hbound := toNat_lt c
    have hlength : (modifiedUtf8 (utf16Char c)).length = 6 := by
      unfold utf16Char
      rw [if_neg hlt]
      show (modifiedUtf8Unit _ ++ (modifiedUtf8Unit _ ++ [])).length = 6
      rw [List.length_append, List.length_append, modifiedUtf8Unit_length, modifiedUtf8Unit_length,
        toNat_ofNat_unit (by omega), toNat_ofNat_unit (by omega), if_neg (by omega),
        if_neg (by omega), if_neg (by omega), if_neg (by omega)]
      rfl
    rw [hlength, utf8EncodeChar_eq, if_neg (by omega), if_neg (by omega), if_neg (by omega)]
    show 4 < 6
    omega

theorem utf8_length_le (text : List Char) :
    (utf8 text).length ≤ (modifiedUtf8 (utf16 text)).length := by
  induction text with
  | nil => exact Nat.le_refl 0
  | cons c text ih =>
      rw [utf16_cons, utf8_cons, modifiedUtf8_append, List.length_append, List.length_append]
      by_cases hc : plain c
      · rw [modifiedUtf8_plain hc]
        omega
      · have hc := modifiedUtf8_not_plain hc
        omega

/-- **The two ways to bytes agree on the plain texts, and on no others.** -/
theorem modifiedUtf8_utf16_eq_iff (text : List Char) :
    modifiedUtf8 (utf16 text) = utf8 text ↔ ∀ c ∈ text, plain c := by
  induction text with
  | nil => simp
  | cons c text ih =>
      rw [utf16_cons, utf8_cons, modifiedUtf8_append, List.forall_mem_cons]
      constructor
      · intro h
        have hlength := congrArg List.length h
        rw [List.length_append, List.length_append] at hlength
        have htext := utf8_length_le text
        have hc : plain c := by
          by_contra hc
          have hc := modifiedUtf8_not_plain hc
          omega
        rw [modifiedUtf8_plain hc] at h
        exact ⟨hc, ih.mp (List.append_cancel_left h)⟩
      · rintro ⟨hc, htext⟩
        rw [modifiedUtf8_plain hc, ih.mpr htext]

/-- Modified UTF-8 is made for C strings. -/
theorem nul_not_mem_modifiedUtf8 (units : Utf16) : NUL ∉ modifiedUtf8 units := by
  intro h
  obtain ⟨u, -, hu⟩ := List.mem_flatMap.mp h
  have hlt := u.toNat_lt
  have hne {n : Nat} (hn : 0 < n) (hn' : n < 256) : NUL ≠ UInt8.ofNat n := by
    intro h0
    have h0 := congrArg UInt8.toNat h0
    rw [UInt8.toNat_ofNat'] at h0
    have h0 : 0 = n % 2 ^ 8 := h0
    omega
  unfold modifiedUtf8Unit at hu
  split at hu
  · rename_i hone
    have hpos : 0 < u.toNat := by
      rw [Nat.pos_iff_ne_zero]
      exact fun h0 => hone.1 (UInt16.toNat_inj.mp h0)
    exact hne hpos (by omega) (List.mem_singleton.mp hu)
  · split at hu
    · simp only [List.mem_cons, List.not_mem_nil, or_false] at hu
      rcases hu with hu | hu <;> exact hne (by omega) (by omega) hu
    · simp only [List.mem_cons, List.not_mem_nil, or_false] at hu
      rcases hu with hu | hu | hu <;> exact hne (by omega) (by omega) hu

/-! ## §4. Characters and their units. -/

/-- A code unit that is no surrogate is a character of the text. -/
theorem mem_of_mem_utf16 {c : Char} (hc : c.toNat < 0xD800) {text : List Char}
    (h : UInt16.ofNat c.toNat ∈ utf16 text) : c ∈ text := by
  obtain ⟨d, hd, hunit⟩ := List.mem_flatMap.mp h
  have hbound := toNat_lt d
  have heq : d.toNat = c.toNat := by
    have hsame {n : Nat} (hn : n < 0x10000) (h : UInt16.ofNat c.toNat = UInt16.ofNat n) :
        c.toNat = n := by
      have h := congrArg UInt16.toNat h
      rw [toNat_ofNat_unit (by omega), toNat_ofNat_unit hn] at h
      exact h
    unfold utf16Char at hunit
    split at hunit
    · rename_i hlt
      exact (hsame hlt (List.mem_singleton.mp hunit)).symm
    · simp only [List.mem_cons, List.not_mem_nil, or_false] at hunit
      rcases hunit with hunit | hunit
      · have hsurrogate := hsame (by omega) hunit
        omega
      · have hsurrogate := hsame (by omega) hunit
        omega
  have hcd : d = c := by rw [← Char.ofNat_toNat d, heq, Char.ofNat_toNat]
  rw [← hcd]
  exact hd

/-- A text starts with its first character's first unit. -/
theorem utf16_head? {c : Char} (hc : c.toNat < 0xD800) {text : List Char}
    (h : (utf16 text).head? = some (UInt16.ofNat c.toNat)) : text.head? = some c := by
  cases text with
  | nil => cases h
  | cons d text =>
      have hhead : UInt16.ofNat c.toNat ∈ utf16 [d] := by
        rw [utf16_cons] at h ⊢
        rw [utf16_nil, List.append_nil]
        apply List.mem_of_mem_head?
        cases hunits : utf16Char d with
        | nil =>
            unfold utf16Char at hunits
            split at hunits <;> cases hunits
        | cons u units =>
            rw [hunits] at h
            exact h
      rw [List.mem_singleton.mp (mem_of_mem_utf16 hc hhead)]
      rfl

/-- The bytes of a character beyond ASCII are beyond ASCII. -/
theorem utf8EncodeChar_high {c : Char} (hc : 0x80 ≤ c.toNat) {b : UInt8}
    (h : b ∈ String.utf8EncodeChar c) : 0x80 ≤ b.toNat := by
  have hbyte : ∀ n : Nat, n < 0x40 → (UInt8.ofNat (n + 0x80)).toNat = n + 0x80 := by
    intro n hn
    rw [UInt8.toNat_ofNat']
    omega
  have hlead : ∀ n k : Nat, n + k < 0x100 → (UInt8.ofNat (n + k)).toNat = n + k := by
    intro n k hn
    rw [UInt8.toNat_ofNat']
    omega
  have hbound := toNat_lt c
  rw [utf8EncodeChar_eq, if_neg (by omega)] at h
  split at h
  · simp only [List.mem_cons, List.not_mem_nil, or_false] at h
    rcases h with rfl | rfl
    · rw [hlead _ _ (by omega)]
      omega
    · rw [hbyte _ (by omega)]
      omega
  · split at h
    · simp only [List.mem_cons, List.not_mem_nil, or_false] at h
      rcases h with rfl | rfl | rfl
      · rw [hlead _ _ (by omega)]
        omega
      · rw [hbyte _ (by omega)]
        omega
      · rw [hbyte _ (by omega)]
        omega
    · simp only [List.mem_cons, List.not_mem_nil, or_false] at h
      rcases h with rfl | rfl | rfl | rfl
      · rw [hlead _ _ (by omega)]
        omega
      · rw [hbyte _ (by omega)]
        omega
      · rw [hbyte _ (by omega)]
        omega
      · rw [hbyte _ (by omega)]
        omega

theorem utf8EncodeChar_low {c : Char} (hc : c.toNat < 0x80) :
    String.utf8EncodeChar c = [UInt8.ofNat c.toNat] := by
  rw [utf8EncodeChar_eq, if_pos (by omega)]

/-- An ASCII byte is a character of the text. -/
theorem mem_of_mem_utf8 {c : Char} (hc : c.toNat < 0x80) {text : List Char}
    (h : UInt8.ofNat c.toNat ∈ utf8 text) : c ∈ text := by
  obtain ⟨d, hd, hbyte⟩ := List.mem_flatMap.mp h
  have hlow : (UInt8.ofNat c.toNat).toNat = c.toNat := by
    rw [UInt8.toNat_ofNat']
    omega
  have hd' : d.toNat < 0x80 := by
    by_contra hhigh
    have hbyte := utf8EncodeChar_high (Nat.le_of_not_lt hhigh) hbyte
    omega
  rw [utf8EncodeChar_low hd', List.mem_singleton] at hbyte
  have hsame := congrArg UInt8.toNat hbyte
  rw [hlow, UInt8.toNat_ofNat', Nat.mod_eq_of_lt (by omega)] at hsame
  rw [← Char.ofNat_toNat c, hsame, Char.ofNat_toNat]
  exact hd

/-- A text starts with its first character's first byte. -/
theorem utf8_head? {c : Char} (hc : c.toNat < 0x80) {text : List Char}
    (h : (utf8 text).head? = some (UInt8.ofNat c.toNat)) : text.head? = some c := by
  cases text with
  | nil => cases h
  | cons d text =>
      have hhead : UInt8.ofNat c.toNat ∈ utf8 [d] := by
        rw [utf8_cons] at h ⊢
        rw [utf8_nil, List.append_nil]
        apply List.mem_of_mem_head?
        rw [List.head?_append_of_ne_nil _ (List.ne_nil_of_length_pos
          (Nat.lt_of_lt_of_le (by unfold utf16Char; split <;> simp) (utf16Char_length_le d)))] at h
        exact h
      rw [List.mem_singleton.mp (mem_of_mem_utf8 hc hhead)]
      rfl

/-! ## §5. Decoding. -/

/-- The text of well-formed UTF-8; empty for other bytes. -/
def utf8Chars (bytes : Bytes) : List Char :=
  match bytes.toByteArray.utf8Decode? with
  | some chars => chars.toList
  | none => []

theorem utf8Chars_utf8 (text : List Char) : utf8Chars (utf8 text) = text := by
  unfold utf8Chars
  rw [show (utf8 text).toByteArray = text.utf8Encode from rfl, List.utf8Decode?_utf8Encode]

def isHighSurrogate (u : UInt16) : Bool := 0xD800 ≤ u.toNat && u.toNat < 0xDC00

def isLowSurrogate (u : UInt16) : Bool := 0xDC00 ≤ u.toNat && u.toNat < 0xE000

/-- The text of well-formed UTF-16; a lone surrogate becomes U+FFFD. -/
def utf16Chars : Utf16 → List Char
  | [] => []
  | [u] => [if isHighSurrogate u || isLowSurrogate u then '\uFFFD' else Char.ofNat u.toNat]
  | u :: v :: units =>
      if isHighSurrogate u && isLowSurrogate v then
        Char.ofNat (0x10000 + (u.toNat - 0xD800) * 0x400 + (v.toNat - 0xDC00)) :: utf16Chars units
      else
        (if isHighSurrogate u || isLowSurrogate u then '\uFFFD' else Char.ofNat u.toNat)
          :: utf16Chars (v :: units)

theorem utf16Chars_cons {u : UInt16} (hhigh : isHighSurrogate u = false)
    (hlow : isLowSurrogate u = false) (units : Utf16) :
    utf16Chars (u :: units) = Char.ofNat u.toNat :: utf16Chars units := by
  cases units with
  | nil => simp [utf16Chars, hhigh, hlow]
  | cons v units => simp [utf16Chars, hhigh, hlow]

theorem utf16Chars_utf16Char (c : Char) (units : Utf16) :
    utf16Chars (utf16Char c ++ units) = c :: utf16Chars units := by
  have hbound := toNat_lt c
  have hsurrogate := toNat_not_surrogate c
  unfold utf16Char
  split
  · rename_i hlt
    have hunit := toNat_ofNat_unit hlt
    have hhigh : isHighSurrogate (UInt16.ofNat c.toNat) = false := by
      simp only [isHighSurrogate, hunit, Bool.and_eq_false_iff, decide_eq_false_iff_not]
      omega
    have hlow : isLowSurrogate (UInt16.ofNat c.toNat) = false := by
      simp only [isLowSurrogate, hunit, Bool.and_eq_false_iff, decide_eq_false_iff_not]
      omega
    show utf16Chars (UInt16.ofNat c.toNat :: units) = _
    rw [utf16Chars_cons hhigh hlow, hunit, Char.ofNat_toNat]
  · have hhi := toNat_ofNat_unit (n := 0xD800 + (c.toNat - 0x10000) / 0x400) (by omega)
    have hlo := toNat_ofNat_unit (n := 0xDC00 + (c.toNat - 0x10000) % 0x400) (by omega)
    have hhigh : isHighSurrogate (UInt16.ofNat (0xD800 + (c.toNat - 0x10000) / 0x400)) = true := by
      simp only [isHighSurrogate, hhi, Bool.and_eq_true, decide_eq_true_eq]
      omega
    have hlow : isLowSurrogate (UInt16.ofNat (0xDC00 + (c.toNat - 0x10000) % 0x400)) = true := by
      simp only [isLowSurrogate, hlo, Bool.and_eq_true, decide_eq_true_eq]
      omega
    have hvalue : 0x10000 + (0xD800 + (c.toNat - 0x10000) / 0x400 - 0xD800) * 0x400
        + (0xDC00 + (c.toNat - 0x10000) % 0x400 - 0xDC00) = c.toNat := by omega
    show utf16Chars (UInt16.ofNat _ :: UInt16.ofNat _ :: units) = _
    rw [utf16Chars, hhigh, hlow, hhi, hlo, hvalue, Char.ofNat_toNat]
    rfl

theorem utf16Chars_utf16 (text : List Char) : utf16Chars (utf16 text) = text := by
  induction text with
  | nil => rfl
  | cons c text ih => rw [utf16_cons, utf16Chars_utf16Char, ih]

/-! ## §6. ASCII. -/

/-- ASCII without NUL. -/
def AsciiText (s : Bytes) : Prop := ∀ c ∈ s, c ≠ NUL ∧ c.toNat < 0x80

instance (s : Bytes) : Decidable (AsciiText s) := List.decidableBAll _ s

/-- Each byte as a code unit. -/
def widen (s : Bytes) : Utf16 := s.map UInt8.toUInt16

def asciiChars (s : Bytes) : List Char := s.map (fun c => Char.ofNat c.toNat)

theorem AsciiText.append {a b : Bytes} (ha : AsciiText a) (hb : AsciiText b) :
    AsciiText (a ++ b) := by
  intro c hc
  rcases List.mem_append.mp hc with hc | hc
  · exact ha c hc
  · exact hb c hc

theorem AsciiText.of_subset {a b : Bytes} (hb : AsciiText b) (h : a ⊆ b) : AsciiText a :=
  fun c hc => hb c (h hc)

theorem asciiText_nil : AsciiText [] := fun _ hc => absurd hc List.not_mem_nil

theorem toUInt16_injective : Function.Injective UInt8.toUInt16 := by
  intro a b h
  apply UInt8.toNat_inj.mp
  have h := congrArg UInt16.toNat h
  rw [UInt8.toNat_toUInt16, UInt8.toNat_toUInt16] at h
  exact h

theorem widen_injective : Function.Injective widen :=
  List.map_injective_iff.mpr toUInt16_injective

/-- An ASCII text is made of its bytes. -/
theorem asciiChars_of_low {text : List Char} (h : ∀ c ∈ text, c.toNat < 0x80) :
    asciiChars (text.map (fun c => UInt8.ofNat c.toNat)) = text := by
  unfold asciiChars
  rw [List.map_map]
  conv => rhs; rw [← List.map_id text]
  apply List.map_congr_left
  intro c hc
  have hlow := h c hc
  show Char.ofNat (UInt8.ofNat c.toNat).toNat = c
  rw [UInt8.toNat_ofNat', Nat.mod_eq_of_lt (by omega), Char.ofNat_toNat]

theorem toNat_ofNat_char {n : Nat} (h : n < 0x80) : (Char.ofNat n).toNat = n := by
  have hvalid : n.isValidChar := Or.inl (by omega)
  rw [Char.ofNat, dif_pos hvalid]
  rfl

theorem utf8_asciiChars {s : Bytes} (h : AsciiText s) : utf8 (asciiChars s) = s := by
  induction s with
  | nil => rfl
  | cons c s ih =>
      have hc := (h c List.mem_cons_self).2
      show String.utf8EncodeChar (Char.ofNat c.toNat) ++ utf8 (asciiChars s) = c :: s
      rw [ih (fun d hd => h d (List.mem_cons_of_mem c hd)), utf8EncodeChar_eq, toNat_ofNat_char hc,
        if_pos (by omega), UInt8.ofNat_toNat]
      rfl

theorem utf16_asciiChars {s : Bytes} (h : AsciiText s) : utf16 (asciiChars s) = widen s := by
  induction s with
  | nil => rfl
  | cons c s ih =>
      have hc := (h c List.mem_cons_self).2
      show utf16Char (Char.ofNat c.toNat) ++ utf16 (asciiChars s) = c.toUInt16 :: widen s
      rw [ih (fun d hd => h d (List.mem_cons_of_mem c hd)),
        utf16Char_of_lt (by rw [toNat_ofNat_char hc]; omega), toNat_ofNat_char hc,
        UInt16.ofNat_uInt8ToNat]
      rfl

theorem modifiedUtf8_widen {s : Bytes} (h : AsciiText s) : modifiedUtf8 (widen s) = s := by
  have hplain : ∀ c ∈ asciiChars s, plain c := by
    intro c hc
    obtain ⟨b, hb, rfl⟩ := List.mem_map.mp hc
    obtain ⟨hne, hlt⟩ := h b hb
    unfold plain
    rw [toNat_ofNat_char hlt]
    refine ⟨fun h0 => hne (UInt8.toNat_inj.mp h0), by omega⟩
  rw [← utf16_asciiChars h, (modifiedUtf8_utf16_eq_iff _).mpr hplain, utf8_asciiChars h]

end CLib
