/-
  DefoldSSE.RetryFields — a `retry:` line on the desktop and on Android.

  The line carries any Unicode text.  The desktop parser reads its UTF-8 bytes
  and tests them with `isdigit`; the Java parser reads its UTF-16 units and tests
  them with `Character.isDigit`, which knows the digits of every script, and
  `Long.parseLong` reads those too.

      desktop : digits 0–9 only                      (`desktop_retry`)
      Android : any units `Character.isDigit` takes  (`android_retry`)

  `retryFields_iff`: the two agree, with the clamped decimal number, exactly on
  the values that are not made of other digits.
-/
import DefoldSSE.Android.Lines
import DefoldSSE.Parser.Recovery

namespace DefoldSSE

open CLib

/-! ## §1. What a value asks for. -/

/-- The value of `retry:v`: one leading space is not part of it. -/
def retryText (v : List Char) : List Char := if v.head? = some ' ' then v.drop 1 else v

/-- A digit string. -/
def IsRetry (v : List Char) : Prop := retryText v ≠ [] ∧ ∀ c ∈ retryText v, c.isDigit = true

-- over the text, not over all characters
instance (v : List Char) : Decidable (IsRetry v) :=
  @instDecidableAnd _ _ _ (List.decidableBAll _ _)

/-- The number of a digit string, between 1000 and 300000. -/
def retryDelay (v : List Char) : Int :=
  max 1000 (min 300000
    ((retryText v).foldl (fun (n : Nat) c => 10 * n + (c.toNat - 48)) 0 : Nat))

/-- The new delay, if the value gives one. -/
def expectedRetry (v : List Char) : Option Int := if IsRetry v then some (retryDelay v) else none

/-- The value is made of digits for `Character.isDigit`, and not all of them are
`0` to `9`. -/
def OtherDigits (v : List Char) : Prop :=
  retryText v ≠ [] ∧ (∀ u ∈ utf16 (retryText v), characterIsDigit u = true)
    ∧ ¬ ∀ c ∈ retryText v, c.isDigit = true

/-! ## §2. Digits in both encodings. -/

theorem char_isDigit_iff (c : Char) : c.isDigit = true ↔ 48 ≤ c.toNat ∧ c.toNat ≤ 57 := by
  unfold Char.isDigit
  rw [Bool.and_eq_true, decide_eq_true_eq, decide_eq_true_eq]
  exact and_congr UInt32.le_iff_toNat_le UInt32.le_iff_toNat_le

theorem isDigit_ofNat_iff {n : Nat} (h : n < 0x100) :
    isDigit (UInt8.ofNat n) = true ↔ 48 ≤ n ∧ n ≤ 57 := by
  simp only [isDigit, Bool.and_eq_true, decide_eq_true_eq, UInt8.le_iff_toNat_le,
    UInt8.reduceToNat, UInt8.toNat_ofNat']
  rw [Nat.mod_eq_of_lt h]

/-- Digits are ASCII. -/
theorem asciiText_of_digits {w : List Char} (h : ∀ c ∈ w, c.isDigit = true) :
    AsciiText (w.map (fun c => UInt8.ofNat c.toNat)) := by
  intro b hb
  obtain ⟨c, hc, rfl⟩ := List.mem_map.mp hb
  obtain ⟨hlo, hhi⟩ := (char_isDigit_iff c).mp (h c hc)
  have hbyte : (UInt8.ofNat c.toNat).toNat = c.toNat := by
    rw [UInt8.toNat_ofNat']
    omega
  refine ⟨fun hnul => ?_, by omega⟩
  rw [hnul] at hbyte
  have hzero : 0 = c.toNat := hbyte
  omega

theorem asciiChars_of_digits {w : List Char} (h : ∀ c ∈ w, c.isDigit = true) :
    asciiChars (w.map (fun c => UInt8.ofNat c.toNat)) = w := by
  apply asciiChars_of_low
  intro c hc
  have hdigit := (char_isDigit_iff c).mp (h c hc)
  omega

/-- The bytes of a digit string. -/
theorem utf8_of_digits {w : List Char} (h : ∀ c ∈ w, c.isDigit = true) :
    utf8 w = w.map (fun c => UInt8.ofNat c.toNat) := by
  have hchars := utf8_asciiChars (asciiText_of_digits h)
  rw [asciiChars_of_digits h] at hchars
  exact hchars

/-- Its units are its bytes. -/
theorem utf16_of_digits {w : List Char} (h : ∀ c ∈ w, c.isDigit = true) :
    utf16 w = widen (utf8 w) := by
  have hchars := utf16_asciiChars (asciiText_of_digits h)
  rw [asciiChars_of_digits h] at hchars
  rw [hchars, utf8_of_digits h]

/-- **The desktop's test** sees digits only where there are digits: every other
character has a byte that is none. -/
theorem isRetryValue_utf8 (w : List Char) :
    SSEParser.isRetryValue (utf8 w) = true ↔ w ≠ [] ∧ ∀ c ∈ w, c.isDigit = true := by
  rw [SSEParser.isRetryValue_iff]
  constructor
  · intro h
    obtain ⟨hne, hdigits⟩ := h
    refine ⟨?_, fun c hc => ?_⟩
    · rintro rfl
      exact hne rfl
    · have hbytes : ∀ b ∈ String.utf8EncodeChar c, isDigit b = true :=
        fun b hb => hdigits b (List.mem_flatMap.mpr ⟨c, hc, hb⟩)
      by_cases hlow : c.toNat < 0x80
      · rw [utf8EncodeChar_low hlow] at hbytes
        have hbyte := (isDigit_ofNat_iff (by omega)).mp (hbytes _ (List.mem_singleton_self _))
        exact (char_isDigit_iff c).mpr hbyte
      · -- the first byte is no digit
        obtain ⟨b, bs, hcons⟩ : ∃ b bs, String.utf8EncodeChar c = b :: bs := by
          apply List.exists_cons_of_ne_nil
          intro hnil
          have hlength := utf16Char_length_le c
          rw [hnil] at hlength
          unfold utf16Char at hlength
          split at hlength <;> simp at hlength
        have hmem : b ∈ String.utf8EncodeChar c := by
          rw [hcons]
          exact List.mem_cons_self
        have hhigh := utf8EncodeChar_high (Nat.le_of_not_lt hlow) hmem
        have hbyte := hbytes b hmem
        simp only [isDigit, Bool.and_eq_true, decide_eq_true_eq, UInt8.le_iff_toNat_le,
          UInt8.reduceToNat] at hbyte
        omega
  · intro h
    obtain ⟨hne, hdigits⟩ := h
    rw [utf8_of_digits hdigits]
    refine ⟨by simp [hne], fun b hb => ?_⟩
    obtain ⟨c, hc, rfl⟩ := List.mem_map.mp hb
    have hrange := (char_isDigit_iff c).mp (hdigits c hc)
    exact (isDigit_ofNat_iff (by omega)).mpr hrange

/-- The number in the bytes. -/
theorem clampedRetry_utf8 {v : List Char} (h : ∀ c ∈ retryText v, c.isDigit = true) :
    SSEParser.clampedRetry (utf8 (retryText v)) = retryDelay v := by
  have hvalue : decimalValue (utf8 (retryText v))
      = (retryText v).foldl (fun (n : Nat) c => 10 * n + (c.toNat - 48)) 0 := by
    rw [utf8_of_digits h]
    unfold decimalValue
    rw [List.foldl_map]
    apply List.foldl_ext
    intro n c hc
    have hrange := (char_isDigit_iff c).mp (h c hc)
    show 10 * n + ((UInt8.ofNat c.toNat).toNat - 48) = _
    rw [UInt8.toNat_ofNat', Nat.mod_eq_of_lt (by omega)]
  unfold SSEParser.clampedRetry retryDelay sseParserRetryMinMs sseParserRetryMaxMs
  rw [hvalue]

/-! ## §3. The line. -/

/-- Dropping the space commutes with an encoding that keeps it apart. -/
theorem encode_retryText {α : Type} [DecidableEq α] (encode : List Char → List α) {space : α}
    (hcons : ∀ w, encode (' ' :: w) = space :: encode w)
    (hhead : ∀ w, (encode w).head? = some space → w.head? = some ' ') (v : List Char) :
    (if (encode v).head? = some space then (encode v).drop 1 else encode v)
      = encode (retryText v) := by
  unfold retryText
  by_cases hspace : v.head? = some ' '
  · obtain ⟨w, rfl⟩ := List.head?_eq_some_iff.mp hspace
    rw [if_pos hspace, hcons, if_pos (by rfl)]
    rfl
  · rw [if_neg hspace, if_neg (fun h => hspace (hhead v h))]

/-- The line as the desktop parser takes it apart. -/
theorem valueOf_utf8 (v : List Char) :
    SSEParser.valueOf (ascii "retry:" ++ utf8 v) = utf8 (retryText v) := by
  have hafter : ((ascii "retry:" ++ utf8 v).dropWhile (· != COLON)).drop 1 = utf8 v := rfl
  unfold SSEParser.valueOf
  rw [hafter]
  exact encode_retryText utf8 (fun _ => rfl) (fun _ h => utf8_head? (c := ' ') (by decide) h) v

/-- And as the Java parser does. -/
theorem valueOf_utf16 (v : List Char) :
    SseParser.valueOf (units "retry:" ++ utf16 v) = utf16 (retryText v) := by
  have hafter : ((units "retry:" ++ utf16 v).dropWhile (· != 58)).drop 1 = utf16 v := rfl
  unfold SseParser.valueOf
  rw [hafter]
  exact encode_retryText utf16 (fun _ => rfl) (fun _ h => utf16_head? (c := ' ') (by decide) h) v

/-- A text without CR does not lose its end. -/
theorem getLast?_append_ne {α : Type} {a b : List α} {x : α} (ha : x ∉ a) (hb : x ∉ b) :
    (a ++ b).getLast? ≠ some x := by
  intro hlast
  rcases List.mem_append.mp (List.mem_of_getLast? hlast) with h | h
  · exact ha h
  · exact hb h

section Line

variable {v : List Char} (hCR : '\r' ∉ v)
include hCR

/-- **The desktop parser** takes a digit string, and calls once. -/
theorem desktop_retry {p : SSEParser} (hp : p.eventPoisoned = false)
    (answers : List ParserCall → Bool) (log : List ParserCall) :
    p.processLine (ascii "retry:" ++ utf8 v) (answering answers) log
      = ({ p with firstLine := false }, log ++ ((expectedRetry v).map ParserCall.retry).toList) := by
  have hbom : SSEParser.stripBom (ascii "retry:" ++ utf8 v) = ascii "retry:" ++ utf8 v := rfl
  have hend : SSEParser.stripCR (ascii "retry:" ++ utf8 v) = ascii "retry:" ++ utf8 v := by
    apply if_neg
    apply getLast?_append_ne (by decide)
    intro hmem
    exact hCR (mem_of_mem_utf8 (c := '\r') (by decide) hmem)
  have hfield : SSEParser.fieldOf (ascii "retry:" ++ utf8 v) = ascii "retry" := rfl
  have hhead : (ascii "retry:" ++ utf8 v).head? ≠ some COLON := by
    show some 114 ≠ some COLON
    decide
  have hdata : ascii "retry" ≠ ascii "data" := by decide
  have hevent : ascii "retry" ≠ ascii "event" := by decide
  have hid : ascii "retry" ≠ ascii "id" := by decide
  unfold SSEParser.processLine
  simp only [hbom, ite_self, hend]
  unfold SSEParser.processField
  rw [if_neg (by simp [ascii]), if_neg (by simp [hp]), if_neg hhead]
  simp only [hfield, hdata, hevent, hid, if_false, if_true, valueOf_utf8]
  unfold expectedRetry
  by_cases hretry : IsRetry v
  · have hvalid := (isRetryValue_utf8 (retryText v)).mpr hretry
    rw [if_pos hvalid, if_pos hretry, SSEParser.retryMs_eq (by decide) hvalid,
      clampedRetry_utf8 hretry.2]
    rfl
  · rw [if_neg (fun hvalid => hretry ((isRetryValue_utf8 _).mp hvalid)), if_neg hretry]
    show _ = (_, log ++ [])
    rw [List.append_nil]

/-- **The Java parser** takes any digits. -/
theorem android_retry {s : SseStream} (hs : s.parser.eventPoisoned = false) :
    s.processLine (units "retry:" ++ utf16 v)
      = if SseParser.isInteger (utf16 (retryText v)) then
          { s with
            parser := { s.parser with firstLine := false }
            retryMs := SseParser.parsedRetry (utf16 (retryText v))
            calls := s.calls ++ [.onRetry (SseParser.parsedRetry (utf16 (retryText v)))] }
        else s.setParser { s.parser with firstLine := false } := by
  have hbom : SseParser.stripBom (units "retry:" ++ utf16 v) = units "retry:" ++ utf16 v := by
    apply if_neg
    show some 114 ≠ some 0xFEFF
    decide
  have hend : SseParser.stripCR (units "retry:" ++ utf16 v) = units "retry:" ++ utf16 v := by
    apply if_neg
    apply getLast?_append_ne (by decide)
    intro hmem
    exact hCR (mem_of_mem_utf16 (c := '\r') (by decide) hmem)
  have hfield : SseParser.fieldOf (units "retry:" ++ utf16 v) = units "retry" := rfl
  have hhead : (units "retry:" ++ utf16 v).head? ≠ some 58 := by
    show some 114 ≠ some 58
    decide
  have hdata : units "retry" ≠ units "data" := by decide
  have hevent : units "retry" ≠ units "event" := by decide
  have hid : units "retry" ≠ units "id" := by decide
  unfold SseStream.processLine
  simp only [hbom, ite_self, hend]
  unfold SseStream.processField
  rw [if_neg (by simp [units]), if_neg (by simp [SseStream.setParser, hs]), if_neg hhead]
  simp only [hfield, hdata, hevent, hid, if_false, decide_true, Bool.true_and, valueOf_utf16]
  split
  · rfl
  · rfl

end Line

/-! ## §4. Both. -/

/-- On Android and on the desktop, the line gives the delay it should, or none:
the calls, and the field that holds the delay. -/
structure RetryAgrees (v : List Char) (s : SseStream) (p : SSEParser)
    (answers : List ParserCall → Bool) (log : List ParserCall) : Prop where
  android : (s.processLine (units "retry:" ++ utf16 v)).calls
    = s.calls ++ ((expectedRetry v).map NativeCall.onRetry).toList
  retryMs : (s.processLine (units "retry:" ++ utf16 v)).retryMs
    = (expectedRetry v).getD s.retryMs
  desktop : (p.processLine (ascii "retry:" ++ utf8 v) (answering answers) log).2
    = log ++ ((expectedRetry v).map ParserCall.retry).toList

/-- What both take for a number is the same number. -/
theorem parsedRetry_utf16 {v : List Char} (h : IsRetry v) :
    SseParser.isInteger (utf16 (retryText v)) = true
      ∧ SseParser.parsedRetry (utf16 (retryText v)) = retryDelay v := by
  have hvalid := (isRetryValue_utf8 (retryText v)).mpr h
  have hascii : AsciiText (utf8 (retryText v)) := by
    rw [utf8_of_digits h.2]
    exact asciiText_of_digits h.2
  rw [utf16_of_digits h.2, SseParser.isInteger_widen hascii, SseParser.parsedRetry_widen hvalid hascii,
    clampedRetry_utf8 h.2]
  exact ⟨hvalid, rfl⟩

/-- `isInteger` in words. -/
theorem isInteger_utf16_iff (w : List Char) :
    SseParser.isInteger (utf16 w) = true
      ↔ w ≠ [] ∧ ∀ u ∈ utf16 w, characterIsDigit u = true := by
  have hempty : utf16 w = [] ↔ w = [] := by
    constructor
    · intro h
      rw [← utf16Chars_utf16 w, h]
      rfl
    · rintro rfl
      rfl
  unfold SseParser.isInteger
  simp [hempty]

/-- **ANDROID AND THE DESKTOP AGREE ON RETRY FIELDS, AND WHEN**: outside a lost
block, unless the value is made of the digits of another script. -/
theorem retryFields_iff {v : List Char} (hCR : '\r' ∉ v) {s : SseStream}
    (hs : s.parser.eventPoisoned = false) {p : SSEParser} (hp : p.eventPoisoned = false)
    (answers : List ParserCall → Bool) (log : List ParserCall) :
    RetryAgrees v s p answers log ↔ ¬ OtherDigits v := by
  have hdesktop := congrArg Prod.snd (desktop_retry hCR hp answers log)
  have handroid := android_retry hCR hs
  constructor
  · intro hagrees hother
    obtain ⟨hne, hunits, hdigits⟩ := hother
    -- the Java parser calls, and should not have
    have hnone : expectedRetry v = none := if_neg (fun h => hdigits h.2)
    rw [if_pos ((isInteger_utf16_iff _).mpr ⟨hne, hunits⟩)] at handroid
    have hcalls := hagrees.android
    rw [handroid, hnone] at hcalls
    simp at hcalls
  · intro hnot
    by_cases hretry : IsRetry v
    · obtain ⟨hinteger, hparsed⟩ := parsedRetry_utf16 hretry
      have hsome : expectedRetry v = some (retryDelay v) := if_pos hretry
      rw [if_pos hinteger, hparsed] at handroid
      exact
        { android := by rw [handroid, hsome]; rfl
          retryMs := by rw [handroid, hsome]; rfl
          desktop := hdesktop }
    · have hinteger : ¬ SseParser.isInteger (utf16 (retryText v)) = true := by
        intro h
        obtain ⟨hne, hunits⟩ := (isInteger_utf16_iff _).mp h
        exact hnot ⟨hne, hunits, fun hdigits => hretry ⟨hne, hdigits⟩⟩
      have hnone : expectedRetry v = none := if_neg hretry
      rw [if_neg hinteger] at handroid
      exact
        { android := by rw [handroid, hnone]; exact (List.append_nil _).symm
          retryMs := by rw [handroid, hnone]; rfl
          desktop := hdesktop }

/-- A number below the minimum, behind a space and zeros, and one that no `long`
holds. -/
theorem retryFields_iff_long :
    RetryAgrees " 00012".toList (.start true 3000 [] fun _ => true) .reset (fun _ => true) []
      ∧ RetryAgrees "99999999999999999999".toList (.start true 3000 [] fun _ => true) .reset
          (fun _ => true) []
      ∧ expectedRetry " 00012".toList = some 1000
      ∧ expectedRetry "99999999999999999999".toList = some 300000 := by
  refine ⟨?_, ?_, by decide, by decide⟩
  · refine (retryFields_iff (by decide) rfl rfl _ _).mpr fun hother => hother.2.2 ?_
    exact List.all_eq_true.mp (by decide)
  · refine (retryFields_iff (by decide) rfl rfl _ _).mpr fun hother => hother.2.2 ?_
    exact List.all_eq_true.mp (by decide)

/-- `retry:` and the Arabic-Indic digits for 5000: Android takes it, the desktop
does not. -/
theorem retryFields_arabic :
    ((SseStream.start true 3000 [] fun _ => true).processLine
        (units "retry:" ++ utf16 "٥٠٠٠".toList)).calls = [.onRetry 5000]
      ∧ (SSEParser.reset.processLine (ascii "retry:" ++ utf8 "٥٠٠٠".toList)
          (answering fun _ => true) []).2 = []
      ∧ ¬ ∀ (v : List Char), '\r' ∉ v → '\n' ∉ v → '\x00' ∉ v →
          ∀ (s : SseStream) (p : SSEParser) (answers : List ParserCall → Bool)
            (log : List ParserCall), s.parser.eventPoisoned = false →
            p.eventPoisoned = false → RetryAgrees v s p answers log := by
  refine ⟨by decide, by decide, fun hall => ?_⟩
  have hagrees := hall "٥٠٠٠".toList (by decide) (by decide) (by decide)
    (.start true 3000 [] fun _ => true) .reset (fun _ => true) [] rfl rfl
  exact absurd hagrees.android (by decide)

end DefoldSSE
