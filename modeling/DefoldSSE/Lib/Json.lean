/-
  DefoldSSE.Lib.Json — JSON texts, read by the grammar of RFC 8259.

  A JSON text is a list of characters, in UTF-8 when it is exchanged (§8.1 of the
  RFC).  `parse` reads one value of any kind with blanks around it; the characters
  of the grammar have the names they have there.  A lone surrogate in an escape
  names no character, and a text that has one is refused.

  What a WRITER of objects needs is in §4: if its way to write a character is read
  back as that character (`Encodes`), its objects are read back member by member
  (`parse_objectText`).
-/
import DefoldSSE.Lib.Utf

namespace CLib.Json

/-! ## §1. Values and characters. -/

inductive Value where
  | null
  | bool (b : Bool)
  /-- A number, as it is written. -/
  | number (text : List Char)
  | string (text : List Char)
  | array (elements : List Value)
  /-- The members in order, equal names included. -/
  | object (members : List (List Char × Value))

/-- `begin-array`, `[`. -/
abbrev beginArray : Char := Char.ofNat 0x5B
/-- `begin-object`. -/
abbrev beginObject : Char := Char.ofNat 0x7B
/-- `end-array`, `]`. -/
abbrev endArray : Char := Char.ofNat 0x5D
/-- `end-object`. -/
abbrev endObject : Char := Char.ofNat 0x7D
/-- `name-separator`, `:`. -/
abbrev nameSeparator : Char := Char.ofNat 0x3A
/-- `value-separator`, `,`. -/
abbrev valueSeparator : Char := Char.ofNat 0x2C
/-- `quotation-mark`. -/
abbrev quotationMark : Char := Char.ofNat 0x22
/-- `escape`, the reverse solidus. -/
abbrev reverseSolidus : Char := Char.ofNat 0x5C

/-- `ws`. -/
def isWs (c : Char) : Bool := c.toNat = 0x20 || c.toNat = 0x09 || c.toNat = 0x0A || c.toNat = 0x0D

def skipWs (s : List Char) : List Char := s.dropWhile isWs

/-! ## §2. Strings. -/

/-- `HEXDIG`, in either case. -/
def hexDigitValue (c : Char) : Option Nat :=
  if 0x30 ≤ c.toNat ∧ c.toNat ≤ 0x39 then some (c.toNat - 0x30)
  else if 0x41 ≤ c.toNat ∧ c.toNat ≤ 0x46 then some (c.toNat - 0x41 + 10)
  else if 0x61 ≤ c.toNat ∧ c.toNat ≤ 0x66 then some (c.toNat - 0x61 + 10)
  else none

/-- `4HEXDIG`. -/
def hex4 : List Char → Option (Nat × List Char)
  | a :: b :: c :: d :: rest =>
      match hexDigitValue a, hexDigitValue b, hexDigitValue c, hexDigitValue d with
      | some a, some b, some c, some d => some (0x1000 * a + 0x100 * b + 0x10 * c + d, rest)
      | _, _, _, _ => none
  | _ => none

/-- What follows `\u`: a character, or a surrogate pair. -/
def unicodeEscape (s : List Char) : Option (Char × List Char) :=
  match hex4 s with
  | none => none
  | some (unit, rest) =>
      if unit < 0xD800 ∨ 0xDFFF < unit then some (Char.ofNat unit, rest)
      else if unit < 0xDC00 then
        match rest with
        | b :: u :: rest =>
            if b = reverseSolidus ∧ u = 'u' then
              match hex4 rest with
              | some (low, rest) =>
                  if 0xDC00 ≤ low ∧ low ≤ 0xDFFF then
                    some (Char.ofNat (0x10000 + 0x400 * (unit - 0xD800) + (low - 0xDC00)), rest)
                  else none
              | none => none
            else none
        | _ => none
      else none

/-- The escapes of two characters. -/
def simpleEscape (c : Char) : Option Char :=
  if c = quotationMark ∨ c = reverseSolidus ∨ c = '/' then some c
  else if c = 'b' then some (Char.ofNat 0x08)
  else if c = 'f' then some (Char.ofNat 0x0C)
  else if c = 'n' then some (Char.ofNat 0x0A)
  else if c = 'r' then some (Char.ofNat 0x0D)
  else if c = 't' then some (Char.ofNat 0x09)
  else none

/-- What follows the reverse solidus. -/
def escape : List Char → Option (Char × List Char)
  | [] => none
  | c :: rest => if c = 'u' then unicodeEscape rest else (simpleEscape c).map (·, rest)

/-- One item more, before what was read. -/
def consTo {α : Type} (x : α) (read : List α × List Char) : List α × List Char :=
  (x :: read.1, read.2)

/-- The characters of a string up to its closing quotation mark, at most `n` of
them with it. -/
def stringRest : Nat → List Char → Option (List Char × List Char)
  | 0, _ => none
  | _ + 1, [] => none
  | n + 1, c :: rest =>
      if c = quotationMark then some ([], rest)
      else if c = reverseSolidus then
        match escape rest with
        | none => none
        | some (x, rest) => (stringRest n rest).map (consTo x)
      else if c.toNat < 0x20 then none
      else (stringRest n rest).map (consTo c)

/-- `string`. -/
def string : List Char → Option (List Char × List Char)
  | [] => none
  | c :: rest => if c = quotationMark then stringRest rest.length rest else none

/-! ## §3. Values. -/

/-- `1*DIGIT`. -/
def digits (s : List Char) : Option (List Char × List Char) :=
  if s.takeWhile Char.isDigit = [] then none
  else some (s.takeWhile Char.isDigit, s.dropWhile Char.isDigit)

/-- `int`: no leading zeros. -/
def int (s : List Char) : Option (List Char × List Char) :=
  match digits s with
  | none => none
  | some (ds, rest) => if ds.head? = some '0' ∧ ds ≠ ['0'] then none else some (ds, rest)

/-- `[ frac ]`. -/
def frac : List Char → Option (List Char × List Char)
  | [] => some ([], [])
  | c :: rest =>
      if c = '.' then (digits rest).map (consTo c) else some ([], c :: rest)

/-- `[ exp ]`. -/
def exp : List Char → Option (List Char × List Char)
  | [] => some ([], [])
  | c :: rest =>
      if c = 'e' ∨ c = 'E' then
        match rest with
        | sign :: rest' =>
            if sign = '+' ∨ sign = '-' then
              ((digits rest').map (consTo sign)).map (consTo c)
            else (digits rest).map (consTo c)
        | [] => none
      else some ([], c :: rest)

/-- `number`. -/
def number (s : List Char) : Option (List Char × List Char) :=
  let minus := if s.head? = some '-' then ['-'] else []
  match int (s.drop minus.length) with
  | none => none
  | some (i, rest) =>
      match frac rest with
      | none => none
      | some (f, rest) => (exp rest).map (fun (e, rest) => (minus ++ i ++ f ++ e, rest))

/-- One of the three literal names. -/
def literal (word : String) (v : Value) (s : List Char) : Option (Value × List Char) :=
  if word.toList <+: s then some (v, s.drop word.length) else none

mutual

/-- `value`, in at most `n` steps. -/
def value : Nat → List Char → Option (Value × List Char)
  | 0, _ => none
  | _ + 1, [] => none
  | n + 1, c :: rest =>
      if c = quotationMark then (string (c :: rest)).map (fun (s, rest) => (.string s, rest))
      else if c = beginObject then
        match skipWs rest with
        | [] => none
        | d :: rest =>
            if d = endObject then some (.object [], rest)
            else (members n (d :: rest)).map (fun (ms, rest) => (.object ms, rest))
      else if c = beginArray then
        match skipWs rest with
        | [] => none
        | d :: rest =>
            if d = endArray then some (.array [], rest)
            else (elements n (d :: rest)).map (fun (vs, rest) => (.array vs, rest))
      else if c = 't' then literal "true" (.bool true) (c :: rest)
      else if c = 'f' then literal "false" (.bool false) (c :: rest)
      else if c = 'n' then literal "null" .null (c :: rest)
      else (number (c :: rest)).map (fun (s, rest) => (.number s, rest))

/-- `member *( value-separator member ) end-object`. -/
def members : Nat → List Char → Option (List (List Char × Value) × List Char)
  | 0, _ => none
  | n + 1, s =>
      match string (skipWs s) with
      | none => none
      | some (name, rest) =>
          match skipWs rest with
          | [] => none
          | c :: rest =>
              if c = nameSeparator then
                match value n (skipWs rest) with
                | none => none
                | some (v, rest) =>
                    match skipWs rest with
                    | [] => none
                    | d :: rest =>
                        if d = endObject then some ([(name, v)], rest)
                        else if d = valueSeparator then
                          (members n rest).map (consTo (name, v))
                        else none
              else none

/-- `value *( value-separator value ) end-array`. -/
def elements : Nat → List Char → Option (List Value × List Char)
  | 0, _ => none
  | n + 1, s =>
      match value n (skipWs s) with
      | none => none
      | some (v, rest) =>
          match skipWs rest with
          | [] => none
          | d :: rest =>
              if d = endArray then some ([v], rest)
              else if d = valueSeparator then
                (elements n rest).map (consTo v)
              else none

end

/-- `JSON-text`.  Every step takes a character. -/
def parse (text : List Char) : Option Value :=
  match value (text.length + 1) (skipWs text) with
  | none => none
  | some (v, rest) => if skipWs rest = [] then some v else none

/-- A JSON text in UTF-8. -/
def parseUtf8 (bytes : Bytes) : Option Value :=
  match bytes.toByteArray.utf8Decode? with
  | none => none
  | some text => parse text.toList

example : (parse "[1, -0.5e+3, true, null]".toList).isSome = true := by decide +kernel

example : ["[01]", "[1,]", "[1] 2"].all (fun text => (parse text.toList).isNone) = true := by
  decide +kernel

/-! ## §4. What a writer needs. -/

theorem skipWs_cons {c : Char} (h : isWs c = false) (s : List Char) : skipWs (c :: s) = c :: s :=
  List.dropWhile_cons_of_neg (by simp [h])

/-- Within a string, `e` is read as the character `c`. -/
def Encodes (c : Char) (e : List Char) : Prop :=
  ∀ n rest, stringRest (n + 1) (e ++ rest) = (stringRest n rest).map (consTo c)

/-- A character that needs no escape. -/
theorem encodes_plain {c : Char} (hquote : c ≠ quotationMark) (hsolidus : c ≠ reverseSolidus)
    (hcontrol : ¬ c.toNat < 0x20) : Encodes c [c] := by
  intro n rest
  show stringRest (n + 1) (c :: rest) = _
  rw [stringRest, if_neg hquote, if_neg hsolidus, if_neg hcontrol]

theorem encodes_of_escape {c : Char} {e : List Char}
    (h : ∀ rest, escape (e ++ rest) = some (c, rest)) : Encodes c (reverseSolidus :: e) := by
  intro n rest
  show stringRest (n + 1) (reverseSolidus :: (e ++ rest)) = _
  rw [stringRest, if_neg (by decide), if_pos rfl, h]

theorem encodes_simple {c x : Char} (hx : x ≠ 'u') (h : simpleEscape x = some c) :
    Encodes c [reverseSolidus, x] := by
  apply encodes_of_escape
  intro rest
  show escape (x :: rest) = _
  rw [escape, if_neg hx, h]
  rfl

/-- A character of the basic plane by the digits of its number. -/
theorem encodes_unicode {c : Char} {a b d e : Char} {wa wb wd we : Nat}
    (ha : hexDigitValue a = some wa) (hb : hexDigitValue b = some wb)
    (hd : hexDigitValue d = some wd) (he : hexDigitValue e = some we)
    (hsmall : 0x1000 * wa + 0x100 * wb + 0x10 * wd + we < 0xD800)
    (hc : Char.ofNat (0x1000 * wa + 0x100 * wb + 0x10 * wd + we) = c) :
    Encodes c [reverseSolidus, 'u', a, b, d, e] := by
  apply encodes_of_escape
  intro rest
  show escape ('u' :: a :: b :: d :: e :: rest) = _
  rw [escape, if_pos rfl, unicodeEscape, hex4, ha, hb, hd, he]
  simp only
  rw [if_pos (.inl hsmall), hc]

/-- What is read as a character is not nothing. -/
theorem Encodes.ne_nil {c : Char} {e : List Char} (h : Encodes c e) : e ≠ [] := by
  rintro rfl
  have hread := h 0 [quotationMark]
  have hend : stringRest (0 + 1) ([] ++ [quotationMark]) = some ([], []) := rfl
  rw [hend] at hread
  cases hread

section Writer

variable {f : Char → List Char}

/-- **A written string is read back**, whatever follows it. -/
theorem stringRest_encoded (hf : ∀ c, Encodes c (f c)) (text rest : List Char) {n : Nat}
    (hn : text.length < n) :
    stringRest n (text.flatMap f ++ quotationMark :: rest) = some (text, rest) := by
  induction text generalizing n with
  | nil =>
    obtain ⟨n, rfl⟩ := Nat.exists_eq_add_of_lt hn
    rw [List.flatMap_nil, List.nil_append, stringRest, if_pos rfl]
  | cons c text ih =>
    obtain ⟨m, rfl⟩ : ∃ m, n = m + 1 := Nat.exists_eq_succ_of_ne_zero (by omega)
    rw [List.flatMap_cons, List.append_assoc, hf c m, ih (Nat.lt_of_succ_lt_succ hn)]
    rfl

variable (f)

/-- A string as it is written. -/
def quoted (text : List Char) : List Char :=
  quotationMark :: (text.flatMap f ++ [quotationMark])

/-- A member with a string as its value. -/
def memberText (m : List Char × List Char) : List Char :=
  quoted f m.1 ++ nameSeparator :: quoted f m.2

/-- An object of such members. -/
def objectText (ms : List (List Char × List Char)) : List Char :=
  beginObject :: (List.intercalate [valueSeparator] (ms.map (memberText f)) ++ [endObject])

/-- The members as values. -/
def stringMembers (ms : List (List Char × List Char)) : List (List Char × Value) :=
  ms.map (fun m => (m.1, .string m.2))

variable {f}

theorem length_le_flatMap (hf : ∀ c, Encodes c (f c)) (text : List Char) :
    text.length ≤ (text.flatMap f).length := by
  induction text with
  | nil => exact Nat.zero_le _
  | cons c text ih =>
    have hpos : 0 < (f c).length := List.length_pos_iff.mpr (hf c).ne_nil
    rw [List.flatMap_cons, List.length_append, List.length_cons]
    omega

theorem string_quoted (hf : ∀ c, Encodes c (f c)) (text rest : List Char) :
    string (quoted f text ++ rest) = some (text, rest) := by
  have htext : quoted f text ++ rest
      = quotationMark :: (text.flatMap f ++ quotationMark :: rest) := by
    simp [quoted]
  have hlength : text.length < (text.flatMap f ++ quotationMark :: rest).length := by
    have hle := length_le_flatMap hf text
    rw [List.length_append, List.length_cons]
    omega
  rw [htext, string, if_pos rfl, stringRest_encoded hf text rest hlength]

theorem value_quoted (hf : ∀ c, Encodes c (f c)) (text rest : List Char) (n : Nat) :
    value (n + 1) (quoted f text ++ rest) = some (.string text, rest) := by
  have hstring := string_quoted hf text rest
  unfold quoted at hstring ⊢
  rw [List.cons_append] at hstring ⊢
  rw [value, if_pos rfl, hstring]
  rfl

/-- A quotation mark is not blank. -/
theorem skipWs_quoted (text rest : List Char) :
    skipWs (quoted f text ++ rest) = quoted f text ++ rest :=
  skipWs_cons (by decide) _

/-- One member, and what is read after it. -/
theorem members_memberText (hf : ∀ c, Encodes c (f c)) (m : List Char × List Char) (d : Char)
    (hd : isWs d = false) (rest : List Char) (n : Nat) :
    members (n + 2) (memberText f m ++ d :: rest)
      = if d = endObject then some ([(m.1, .string m.2)], rest)
        else if d = valueSeparator then (members (n + 1) rest).map (consTo (m.1, .string m.2))
        else none := by
  have htext : memberText f m ++ d :: rest
      = quoted f m.1 ++ nameSeparator :: (quoted f m.2 ++ d :: rest) := by
    simp [memberText]
  rw [htext, members, skipWs_quoted, string_quoted hf]
  simp only
  rw [skipWs_cons (by decide)]
  simp only
  rw [if_pos trivial, skipWs_quoted, value_quoted hf]
  simp only
  rw [skipWs_cons hd]

/-- **Written members are read back**, in order. -/
theorem members_written (hf : ∀ c, Encodes c (f c)) {ms : List (List Char × List Char)}
    (hms : ms ≠ []) (rest : List Char) {n : Nat} (hn : ms.length < n) :
    members n (List.intercalate [valueSeparator] (ms.map (memberText f)) ++ endObject :: rest)
      = some (stringMembers ms, rest) := by
  induction ms generalizing n with
  | nil => exact absurd rfl hms
  | cons m ms ih =>
    obtain ⟨k, rfl⟩ : ∃ k, n = k + 2 := by
      rw [List.length_cons] at hn
      exact ⟨n - 2, by omega⟩
    cases ms with
    | nil =>
        have hone : List.intercalate [valueSeparator] ([m].map (memberText f)) = memberText f m := by
          simp
        rw [hone, members_memberText hf m endObject (by decide), if_pos rfl]
        rfl
    | cons m' ms =>
        have hsplit : List.intercalate [valueSeparator] ((m :: m' :: ms).map (memberText f))
              ++ endObject :: rest
            = memberText f m ++ valueSeparator
              :: (List.intercalate [valueSeparator] ((m' :: ms).map (memberText f))
                ++ endObject :: rest) := by
          simp [List.intercalate_cons_cons]
        rw [List.length_cons] at hn
        rw [hsplit, members_memberText hf m valueSeparator (by decide), if_neg (by decide),
          if_pos rfl, ih (List.cons_ne_nil m' ms) (by omega)]
        rfl

theorem length_le_intercalate (ms : List (List Char × List Char)) :
    ms.length ≤ (List.intercalate [valueSeparator] (ms.map (memberText f))).length := by
  have hpos : ∀ m, 0 < (memberText f m).length := by
    intro m
    simp [memberText, quoted]
  induction ms with
  | nil => exact Nat.zero_le _
  | cons m ms ih =>
    cases ms with
    | nil =>
        have hm := hpos m
        simpa [Nat.succ_le_iff] using hm
    | cons m' ms =>
        have hm := hpos m
        rw [List.map_cons, List.map_cons, List.intercalate_cons_cons, ← List.map_cons,
          List.length_append, List.length_append, List.length_cons]
        simp only [List.length_singleton]
        omega

/-- **A written object is read back**: one object, whose members are those that
were written, in their order. -/
theorem parse_objectText (hf : ∀ c, Encodes c (f c)) (ms : List (List Char × List Char)) :
    parse (objectText f ms) = some (.object (stringMembers ms)) := by
  have hvalue : value ((objectText f ms).length + 1) (objectText f ms)
      = some (.object (stringMembers ms), []) := by
    cases ms with
    | nil => rfl
    | cons m ms =>
        -- the first member starts with its name, so this is not the empty object
        obtain ⟨tail, htail⟩ : ∃ tail,
            List.intercalate [valueSeparator] ((m :: ms).map (memberText f)) ++ [endObject]
              = quotationMark :: tail := by
          cases ms with
          | nil => exact ⟨_, by simp [memberText, quoted]; rfl⟩
          | cons m' ms => exact ⟨_, by simp [List.intercalate_cons_cons, memberText, quoted]; rfl⟩
        have hlength : (m :: ms).length < (objectText f (m :: ms)).length := by
          have hle := length_le_intercalate (f := f) (m :: ms)
          show _ < (_ ++ [endObject]).length + 1
          rw [List.length_append]
          omega
        have hmembers := members_written hf (List.cons_ne_nil m ms) [] hlength
        generalize (objectText f (m :: ms)).length = n at hmembers
        rw [htail] at hmembers
        rw [objectText, htail, value, if_neg (by decide), if_pos rfl, skipWs_cons (by decide)]
        simp only
        rw [if_neg (by decide), hmembers]
        rfl
  unfold parse
  rw [objectText, skipWs_cons (by decide), ← objectText, hvalue]
  rfl

end Writer

/-- A text that is UTF-8. -/
theorem parseUtf8_utf8 (text : List Char) : parseUtf8 (utf8 text) = parse text := by
  have hbytes : (utf8 text).toByteArray = text.utf8Encode := rfl
  unfold parseUtf8
  rw [hbytes, List.utf8Decode?_utf8Encode]

end CLib.Json
