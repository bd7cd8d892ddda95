/-
  DefoldSSE.Html5.HeadersJson — the custom headers on their way to JavaScript.

  `SSEHTML5_BuildHeadersJson` writes them as a JSON object, byte by byte, and
  `Module.SSEExt` reads it with a JSON parser.  On names and values that are UTF-8
  the parser of RFC 8259 gives the headers back.

  The code escapes BYTES.  A byte that it escapes is a character by itself, and
  every other character goes through byte by byte (`escapedByte_utf8`), so what it
  writes is the text that escapes characters.
-/
import DefoldSSE.Core.Event
import DefoldSSE.Lib.Json

namespace DefoldSSE

open CLib

/-! ## §1. `SSEHTML5_BuildHeadersJson`. -/

/-- A hexadecimal digit, in lower case. -/
def lowerHexDigit (n : Nat) : UInt8 := if n < 10 then UInt8.ofNat (48 + n) else UInt8.ofNat (87 + n)

/-- `"\\u%04x"` of a byte. -/
def unicodeEscape (c : UInt8) : Bytes :=
  [92, 117, 48, 48, lowerHexDigit (c.toNat / 16), lowerHexDigit (c.toNat % 16)]

/-- The `switch` of `SSEHTML5_AppendEscaped`: what is appended for one byte. -/
def escapedByte (c : UInt8) : Bytes :=
  if c = 92 then [92, 92]
  else if c = 34 then [92, 34]
  else if c = 8 then [92, 98]
  else if c = 12 then [92, 102]
  else if c = LF then [92, 110]
  else if c = CR then [92, 114]
  else if c = 9 then [92, 116]
  else if c < 0x20 then unicodeEscape c
  else [c]

/-- `SSEHTML5_AppendEscaped`; a null `value` gives the empty string. -/
def appendEscaped (out : Bytes) (value : Option CString) : Bytes :=
  let out := out ++ [34]
  let out :=
    match value with
    | some value => value.bytes.foldl (fun out c => out ++ escapedByte c) out
    | none => out
  out ++ [34]

/-- One turn of the loop over the headers. -/
def appendMember (json : Bytes) (i : Nat) (header : SSEHeader) : Bytes :=
  let json := if i > 0 then json ++ ascii "," else json
  let json := appendEscaped json header.name
  let json := json ++ ascii ":"
  appendEscaped json header.value

/-- `SSEHTML5_BuildHeadersJson`. -/
def buildHeadersJson (headers : List SSEHeader) : Bytes :=
  let json := ascii "\x7b"
  let json := headers.zipIdx.foldl (fun json h => appendMember json h.2 h.1) json
  json ++ ascii "\x7d"

/-! ## §2. Escaped bytes and escaped characters. -/

/-- A hexadecimal digit as a character. -/
def hexChar (n : Nat) : Char := if n < 10 then Char.ofNat (48 + n) else Char.ofNat (87 + n)

/-- What the code writes for a character. -/
def escapedChar (c : Char) : List Char :=
  if c.toNat = 92 then [Json.reverseSolidus, Json.reverseSolidus]
  else if c.toNat = 34 then [Json.reverseSolidus, Json.quotationMark]
  else if c.toNat = 8 then [Json.reverseSolidus, 'b']
  else if c.toNat = 12 then [Json.reverseSolidus, 'f']
  else if c.toNat = 10 then [Json.reverseSolidus, 'n']
  else if c.toNat = 13 then [Json.reverseSolidus, 'r']
  else if c.toNat = 9 then [Json.reverseSolidus, 't']
  else if c.toNat < 0x20 then
    [Json.reverseSolidus, 'u', '0', '0', hexChar (c.toNat / 16), hexChar (c.toNat % 16)]
  else [c]

theorem hexDigitValue_hexChar {n : Nat} (h : n < 16) : Json.hexDigitValue (hexChar n) = some n := by
  have hall : ∀ n : Fin 16, Json.hexDigitValue (hexChar n) = some n.val := by decide
  exact hall ⟨n, h⟩

/-- A character is determined by its number. -/
theorem eq_ofNat {c : Char} {n : Nat} (h : c.toNat = n) : Char.ofNat n = c := by
  rw [← h]
  exact Char.ofNat_toNat c

/-- **What the code writes for a character is read as that character.** -/
theorem encodes_escapedChar (c : Char) : Json.Encodes c (escapedChar c) := by
  -- the escapes of two characters; `h` says which character `c` is
  have hsimple : ∀ {n : Nat} {x : Char}, c.toNat = n → x ≠ 'u' →
      Json.simpleEscape x = some (Char.ofNat n) → Json.Encodes c [Json.reverseSolidus, x] := by
    intro n x h hx hescape
    rw [eq_ofNat h] at hescape
    exact Json.encodes_simple hx hescape
  unfold escapedChar
  split
  · next h => exact hsimple h (by decide) rfl
  split
  · next h => exact hsimple h (by decide) rfl
  split
  · next h => exact hsimple h (by decide) rfl
  split
  · next h => exact hsimple h (by decide) rfl
  split
  · next h => exact hsimple h (by decide) rfl
  split
  · next h => exact hsimple h (by decide) rfl
  split
  · next h => exact hsimple h (by decide) rfl
  split
  · next h =>
      have hhigh := hexDigitValue_hexChar (n := c.toNat / 16) (by omega)
      have hlow := hexDigitValue_hexChar (n := c.toNat % 16) (by omega)
      have hzero : Json.hexDigitValue '0' = some 0 := by decide
      have hnumber : 0x1000 * 0 + 0x100 * 0 + 0x10 * (c.toNat / 16) + c.toNat % 16 = c.toNat := by
        omega
      apply Json.encodes_unicode hzero hzero hhigh hlow
      · rw [hnumber]
        omega
      · rw [hnumber]
        exact Char.ofNat_toNat c
  · next hsolidus hquote _ _ _ _ _ hcontrol =>
      apply Json.encodes_plain _ _ hcontrol
      · rintro rfl
        exact hquote (by decide)
      · rintro rfl
        exact hsolidus (by decide)

/-- No byte from 0x80 on is escaped. -/
theorem escapedByte_of_ge {b : UInt8} (h : 0x80 ≤ b.toNat) : escapedByte b = [b] := by
  have hne : ∀ x : UInt8, x.toNat < 0x80 → b ≠ x := by
    rintro x hx rfl
    omega
  have hcontrol : ¬ b < 0x20 := by
    rw [UInt8.lt_iff_toNat_lt]
    show ¬ b.toNat < 32
    omega
  unfold escapedByte
  rw [if_neg (hne 92 (by decide)), if_neg (hne 34 (by decide)), if_neg (hne 8 (by decide)),
    if_neg (hne 12 (by decide)), if_neg (hne LF (by decide)), if_neg (hne CR (by decide)),
    if_neg (hne 9 (by decide)), if_neg hcontrol]

/-- Every byte of a character that is not ASCII is from 0x80 on. -/
theorem utf8EncodeChar_ge {c : Char} (h : 0x80 ≤ c.toNat) {b : UInt8}
    (hb : b ∈ String.utf8EncodeChar c) : 0x80 ≤ b.toNat := by
  have hbyte : ∀ n, n < 0x100 → 0x80 ≤ n → 0x80 ≤ (UInt8.ofNat n).toNat := by
    intro n hlt hge
    rw [UInt8.toNat_ofNat_of_lt' hlt]
    exact hge
  rw [utf8EncodeChar_eq, if_neg (by omega)] at hb
  split at hb
  · rcases List.mem_pair.mp hb with rfl | rfl
    · exact hbyte _ (by omega) (by omega)
    · exact hbyte _ (by omega) (by omega)
  split at hb
  · simp only [List.mem_cons, List.not_mem_nil, or_false] at hb
    rcases hb with rfl | rfl | rfl
    · exact hbyte _ (by omega) (by omega)
    · exact hbyte _ (by omega) (by omega)
    · exact hbyte _ (by omega) (by omega)
  · simp only [List.mem_cons, List.not_mem_nil, or_false] at hb
    rcases hb with rfl | rfl | rfl | rfl
    · exact hbyte _ (by omega) (by omega)
    · exact hbyte _ (by omega) (by omega)
    · exact hbyte _ (by omega) (by omega)
    · exact hbyte _ (by omega) (by omega)

theorem escapedChar_of_ge {c : Char} (h : 0x80 ≤ c.toNat) : escapedChar c = [c] := by
  unfold escapedChar
  rw [if_neg (by omega), if_neg (by omega), if_neg (by omega), if_neg (by omega),
    if_neg (by omega), if_neg (by omega), if_neg (by omega), if_neg (by omega)]

/-- **Escaping the bytes of a character is escaping the character.** -/
theorem escapedByte_utf8EncodeChar (c : Char) :
    (String.utf8EncodeChar c).flatMap escapedByte = utf8 (escapedChar c) := by
  by_cases h : c.toNat < 0x80
  · -- one byte: a finite table
    have hall : ∀ n : Fin 0x80,
        (String.utf8EncodeChar (Char.ofNat n.val)).flatMap escapedByte
          = utf8 (escapedChar (Char.ofNat n.val)) := by decide
    have hc := hall ⟨c.toNat, h⟩
    rwa [Char.ofNat_toNat] at hc
  · have hge : 0x80 ≤ c.toNat := Nat.le_of_not_lt h
    have hcopied : (String.utf8EncodeChar c).flatMap escapedByte
        = (String.utf8EncodeChar c).flatMap (fun b => [b]) := by
      apply List.flatMap_congr
      intro b hb
      exact escapedByte_of_ge (utf8EncodeChar_ge hge hb)
    rw [hcopied, escapedChar_of_ge hge, List.flatMap_singleton', utf8_cons, utf8_nil,
      List.append_nil]

/-- The same of a text. -/
theorem escapedByte_utf8 (text : List Char) :
    (utf8 text).flatMap escapedByte = utf8 (text.flatMap escapedChar) := by
  induction text with
  | nil => rfl
  | cons c text ih =>
    rw [utf8_cons, List.flatMap_append, ih, escapedByte_utf8EncodeChar, List.flatMap_cons,
      utf8_append]

/-! ## §3. The object. -/

/-- A header whose name and value are UTF-8 texts. -/
def SSEHeader.Holds (header : SSEHeader) (text : List Char × List Char) : Prop :=
  header.name.map CString.bytes = some (utf8 text.1)
    ∧ header.value.map CString.bytes = some (utf8 text.2)

instance (header : SSEHeader) (text : List Char × List Char) : Decidable (header.Holds text) :=
  inferInstanceAs (Decidable (_ ∧ _))

theorem foldl_escapedByte (out bytes : Bytes) :
    bytes.foldl (fun out c => out ++ escapedByte c) out = out ++ bytes.flatMap escapedByte := by
  induction bytes generalizing out with
  | nil => exact (List.append_nil out).symm
  | cons c bytes ih => rw [List.foldl_cons, ih, List.flatMap_cons, List.append_assoc]

/-- A written string. -/
theorem appendEscaped_utf8 (out : Bytes) {value : Option CString} {text : List Char}
    (h : value.map CString.bytes = some (utf8 text)) :
    appendEscaped out value = out ++ utf8 (Json.quoted escapedChar text) := by
  obtain ⟨s, rfl, hs⟩ := Option.map_eq_some_iff.mp h
  have hmark : String.utf8EncodeChar Json.quotationMark = [34] := by decide
  show s.bytes.foldl (fun out c => out ++ escapedByte c) (out ++ [34]) ++ [34] = _
  rw [foldl_escapedByte, hs, escapedByte_utf8, Json.quoted, utf8_cons, utf8_append, utf8_cons,
    utf8_nil, hmark]
  simp only [List.append_assoc, List.append_nil]

/-- A written member, with the comma before it. -/
theorem appendMember_utf8 (json : Bytes) (i : Nat) {header : SSEHeader}
    {text : List Char × List Char} (h : header.Holds text) :
    appendMember json i header
      = json ++ utf8 ((if i > 0 then [Json.valueSeparator] else [])
          ++ Json.memberText escapedChar text) := by
  have hcolon : String.utf8EncodeChar Json.nameSeparator = ascii ":" := by decide
  have hcomma : utf8 [Json.valueSeparator] = ascii "," := by decide
  unfold appendMember
  simp only
  rw [appendEscaped_utf8 _ h.1, appendEscaped_utf8 _ h.2, Json.memberText, utf8_append,
    utf8_append, utf8_cons, hcolon]
  split
  · rw [hcomma]
    simp only [List.append_assoc]
  · rw [utf8_nil]
    simp only [List.append_assoc, List.nil_append]

/-- The members after the first, each with its comma. -/
def furtherMembers (texts : List (List Char × List Char)) : List Char :=
  texts.flatMap (fun text => Json.valueSeparator :: Json.memberText escapedChar text)

theorem intercalate_memberText (text : List Char × List Char)
    (texts : List (List Char × List Char)) :
    List.intercalate [Json.valueSeparator] ((text :: texts).map (Json.memberText escapedChar))
      = Json.memberText escapedChar text ++ furtherMembers texts := by
  induction texts generalizing text with
  | nil => simp [furtherMembers]
  | cons next texts ih =>
    rw [List.map_cons, List.map_cons, List.intercalate_cons_cons, ← List.map_cons, ih]
    simp [furtherMembers]

/-- The loop from its second turn on. -/
theorem foldl_appendMember {headers : List SSEHeader} {texts : List (List Char × List Char)}
    (h : List.Forall₂ SSEHeader.Holds headers texts) (json : Bytes) {i : Nat} (hi : 0 < i) :
    (headers.zipIdx i).foldl (fun json h => appendMember json h.2 h.1) json
      = json ++ utf8 (furtherMembers texts) := by
  induction h generalizing json i with
  | nil => exact (List.append_nil json).symm
  | cons hhead _ ih =>
    rw [List.zipIdx_cons, List.foldl_cons, ih _ (Nat.lt_succ_of_lt hi), appendMember_utf8 _ _ hhead,
      if_pos hi, List.append_assoc, ← utf8_append]
    rfl

/-- **What the code writes**: the object of RFC 8259 with these members. -/
theorem buildHeadersJson_utf8 {headers : List SSEHeader} {texts : List (List Char × List Char)}
    (h : List.Forall₂ SSEHeader.Holds headers texts) :
    buildHeadersJson headers = utf8 (Json.objectText escapedChar texts) := by
  have hopen : String.utf8EncodeChar Json.beginObject = ascii "\x7b" := by decide
  have hclose : utf8 [Json.endObject] = ascii "\x7d" := by decide
  unfold buildHeadersJson Json.objectText
  simp only
  rw [utf8_cons, utf8_append, hopen, hclose]
  cases h with
  | nil => rfl
  | cons hhead htail =>
    rw [List.zipIdx_cons, List.foldl_cons, foldl_appendMember htail _ (Nat.succ_pos 0),
      appendMember_utf8 _ _ hhead, if_neg (Nat.lt_irrefl 0), List.nil_append,
      intercalate_memberText, utf8_append]
    simp only [List.append_assoc]

/-- **The headers come back.**  The text is one JSON object; its members are the
headers in their order, each name and each value with all its bytes. -/
theorem headersJson_roundTrip {headers : List SSEHeader} {texts : List (List Char × List Char)}
    (h : List.Forall₂ SSEHeader.Holds headers texts) :
    Json.parseUtf8 (buildHeadersJson headers) = some (.object (Json.stringMembers texts)) := by
  rw [buildHeadersJson_utf8 h, Json.parseUtf8_utf8]
  exact Json.parse_objectText encodes_escapedChar texts

/-- Values with a quotation mark, a line end, an escape of their own, and
characters of two and four bytes. -/
theorem headersJson_roundTrip_quoted :
    Json.parseUtf8 (buildHeadersJson
        [⟨some (.lit "X-A"), some (.lit "a\"\n\\u0041")⟩,
          ⟨some (.lit "X-B"), some (.read (utf8 "é😀".toList))⟩])
      = some (.object (Json.stringMembers
        [("X-A".toList, "a\"\n\\u0041".toList), ("X-B".toList, "é😀".toList)])) :=
  headersJson_roundTrip (.cons (by decide) (.cons (by decide) .nil))

end DefoldSSE
