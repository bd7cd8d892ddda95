/-
  DefoldSSE.Pool.Decoding — chunked decoding undoes chunked encoding.

  The grammar of an encoded body is a pair of structures that carry their own
  well-formedness: a size line spells its number, a chunk's size line spells its
  length.  The proof decodes one size line, one chunk, the list of chunks, all
  with what follows left open; how the body was cut into reads is then
  `decodeChunked_append`.
-/
import DefoldSSE.Pool.ChunkSize

namespace DefoldSSE

open CLib

/-! ## §1. The grammar. -/

/-- LF or CRLF. -/
def lineEnd (crlf : Bool) : Bytes := if crlf then [CR, LF] else [LF]

/-- A size line: digits and blanks, an extension after a `;` or none, its end. -/
structure SizeLine where
  digits : Bytes
  extension : Option Bytes
  crlf : Bool
  deriving DecidableEq

/-- The line without its end. -/
def SizeLine.text (l : SizeLine) : Bytes :=
  match l.extension with
  | none => l.digits
  | some extension => l.digits ++ SEMICOLON :: extension

def SizeLine.bytes (l : SizeLine) : Bytes := l.text ++ lineEnd l.crlf

/-- The line spells `n` and the decoder's line buffer holds it. -/
structure SizeLine.Spells (l : SizeLine) (n : Nat) : Prop where
  digits : ∃ digits, sizeDigits l.digits = some digits ∧ digits ≠ [] ∧ hexValue 0 digits = n
  noLF : ∀ extension ∈ l.extension, LF ∉ extension
  short : l.bytes.length ≤ 1024

/-- A chunk as it is sent. -/
structure Chunk where
  data : Bytes
  size : SizeLine
  crlf : Bool
  nonempty : data ≠ []
  spelled : size.Spells data.length

def Chunk.bytes (c : Chunk) : Bytes := c.size.bytes ++ (c.data ++ lineEnd c.crlf)

/-- A chunked body: the chunks and the final size line. -/
def encodeChunked (chunks : List Chunk) (last : SizeLine) : Bytes :=
  chunks.flatMap Chunk.bytes ++ last.bytes

/-! ## §2. Decoding a size line. -/

/-- What stands in the digits of a size line. -/
theorem mem_sizeDigits {text : Bytes} {digits : List Nat} (h : sizeDigits text = some digits)
    {c : UInt8} (hc : c ∈ text) : isBlank c = true ∨ (hexDigit c).isSome = true := by
  by_cases hblank : isBlank c = true
  · exact .inl hblank
  · have hread := (sizeDigits_eq_some_iff.mp h).imp (fun c digit hdigit =>
      And.intro (show (hexDigit c).isSome = true by rw [hdigit]; rfl) hdigit)
    have hall := (List.forall₂_and_left _ _).mp hread
    exact .inr (hall.1 c (List.mem_filter.mpr ⟨hc, by simpa using hblank⟩))

theorem trimLineEnd_append {x : Bytes} (h : trimLineEnd x = x) (y : Bytes) :
    trimLineEnd (x ++ y) = x ++ trimLineEnd y := by
  unfold trimLineEnd List.rdropWhile at h ⊢
  rw [List.reverse_append, List.dropWhile_append]
  split
  · next hempty =>
      rw [h, List.isEmpty_iff.mp hempty, List.reverse_nil, List.append_nil]
  · rw [List.reverse_append, List.reverse_reverse]

@[simp] theorem trimLineEnd_lineEnd (crlf : Bool) : trimLineEnd (lineEnd crlf) = [] := by
  cases crlf <;> decide

section Line

variable {l : SizeLine} {n : Nat} (h : l.Spells n)
include h

theorem SizeLine.Spells.digit {c : UInt8} (hc : c ∈ l.digits) :
    c ≠ SEMICOLON ∧ c ≠ LF ∧ c ≠ CR := by
  obtain ⟨digits, hdigits, -, -⟩ := h.digits
  have hcase := mem_sizeDigits hdigits hc
  refine ⟨?_, ?_, ?_⟩
  all_goals
    intro heq
    subst heq
    exact absurd hcase (by decide)

theorem SizeLine.Spells.text_noLF : LF ∉ l.text := by
  intro hmem
  unfold SizeLine.text at hmem
  split at hmem
  · exact (h.digit hmem).2.1 rfl
  · next extension hext =>
      rcases List.mem_append.mp hmem with hmem | hmem
      · exact (h.digit hmem).2.1 rfl
      · cases hmem with
        | tail _ hmem => exact h.noLF extension hext hmem

/-- Trimming the line end leaves the size before the `;`. -/
theorem SizeLine.Spells.size_text :
    (trimLineEnd l.bytes).takeWhile (· != SEMICOLON) = l.digits := by
  have hdigits : SEMICOLON ∉ l.digits := fun hmem => (h.digit hmem).1 rfl
  unfold SizeLine.bytes SizeLine.text
  split
  · -- the digits end the line
    have htrim : trimLineEnd l.digits = l.digits := by
      apply List.rdropWhile_eq_self_iff.mpr
      intro hne
      have hlast := h.digit (List.getLast_mem hne)
      simp [hlast.2.1, hlast.2.2]
    rw [trimLineEnd_append htrim, trimLineEnd_lineEnd, List.append_nil]
    exact List.takeWhile_eq_self_iff.mpr (bne_of_not_mem hdigits)
  · -- whatever is trimmed stands after the `;`
    next extension _ =>
      have htrim : trimLineEnd (l.digits ++ [SEMICOLON]) = l.digits ++ [SEMICOLON] :=
        List.rdropWhile_concat_neg _ _ _ (by decide)
      have hsplit : (l.digits ++ SEMICOLON :: extension) ++ lineEnd l.crlf
          = (l.digits ++ [SEMICOLON]) ++ (extension ++ lineEnd l.crlf) := by simp
      rw [hsplit, trimLineEnd_append htrim, List.append_assoc]
      exact takeWhile_bne hdigits _

/-- `SSEDM_ParseChunkSize` reads the number the line spells, if a `size_t` holds
it. -/
theorem SizeLine.Spells.parse :
    parseChunkSize (trimLineEnd l.bytes) = if n ≤ SIZE_MAX then some n else none := by
  obtain ⟨digits, hdigits, hne, hvalue⟩ := h.digits
  have hiff (size : Nat) := parseChunkSizeFrom_eq_some (trimLineEnd l.bytes)
    (Nat.zero_le SIZE_MAX) false size
  rw [h.size_text] at hiff
  split
  · next hn => exact (hiff n).mpr ⟨digits, hdigits, .inr hne, hvalue, hn⟩
  · next hn =>
      apply Option.eq_none_iff_forall_ne_some.mpr
      intro size hsome
      obtain ⟨digits', hdigits', -, hvalue', hmax⟩ := (hiff size).mp hsome
      rw [hdigits] at hdigits'
      obtain rfl := Option.some.inj hdigits'
      exact hn (hvalue ▸ hvalue' ▸ hmax)

end Line

section Receiver

variable {σ : Type} (feed : σ → Bytes → σ) (s : σ)

/-- The bytes of a size line before its LF go into the line buffer. -/
theorem decodeChunked_line (line : Bytes) {text : Bytes} (hLF : LF ∉ text)
    (hshort : (line ++ text).length ≤ 1024) (rest : Bytes) :
    decodeChunked feed s ⟨line, 0, .size⟩ (text ++ rest)
      = decodeChunked feed s ⟨line ++ text, 0, .size⟩ rest := by
  induction text generalizing line with
  | nil => rw [List.nil_append, List.append_nil]
  | cons c text ih =>
      have hc : c ≠ LF := by
        intro heq
        exact hLF (heq ▸ List.mem_cons_self)
      have hlen : (line ++ [c]).length ≤ 1024 := by
        simp only [List.length_append, List.length_cons, List.length_nil] at hshort ⊢
        omega
      rw [List.cons_append, decodeChunked_size _ _ _ rfl, if_neg (Nat.not_lt.mpr hlen), if_neg hc]
      have hsplit : (line ++ [c]) ++ text = line ++ c :: text := by simp
      rw [← hsplit] at hshort ⊢
      exact ih (line ++ [c]) (fun hmem => hLF (List.mem_cons_of_mem c hmem)) hshort

/-- A whole size line. -/
theorem decodeChunked_sizeLine {l : SizeLine} {n : Nat} (h : l.Spells n) (rest : Bytes) :
    decodeChunked feed s {} (l.bytes ++ rest)
      = if n ≤ SIZE_MAX then
          decodeChunked feed s ⟨[], n, if n = 0 then .done else .data⟩ rest
        else (some "invalid chunk size", { line := trimLineEnd l.bytes }, s) := by
  -- all of the line but its LF, and the LF
  obtain ⟨front, hfront, hLF⟩ : ∃ front, l.bytes = front ++ [LF] ∧ LF ∉ front := by
    unfold SizeLine.bytes lineEnd
    cases l.crlf with
    | false => exact ⟨l.text, rfl, h.text_noLF⟩
    | true =>
        refine ⟨l.text ++ [CR], by simp, ?_⟩
        simp only [List.mem_append, List.mem_singleton, h.text_noLF, false_or]
        decide
  have hshort := h.short
  rw [hfront] at hshort
  have hlen : front.length ≤ 1024 := by
    rw [List.length_append] at hshort
    omega
  have hparse := h.parse
  rw [hfront] at hparse ⊢
  have hline := decodeChunked_line feed s [] hLF hlen ([LF] ++ rest)
  rw [List.nil_append] at hline
  rw [List.append_assoc, hline, List.cons_append, List.nil_append,
    decodeChunked_size feed s ⟨front, 0, .size⟩ rfl]
  simp only [if_neg (Nat.not_lt.mpr hshort), if_true, hparse]
  by_cases hn : n ≤ SIZE_MAX
  · simp only [if_pos hn]
  · simp only [if_neg hn]

/-! ## §3. Decoding a body. -/

/-- The data of a chunk, in one read. -/
theorem decodeChunked_chunkData {data : Bytes} (hne : data ≠ []) (rest : Bytes) :
    decodeChunked feed s ⟨[], data.length, .data⟩ (data ++ rest)
      = decodeChunked feed (feed s data) ⟨[], 0, .dataCRLF⟩ rest := by
  have hpos : 0 < data.length := List.length_pos_iff.mpr hne
  have hmin : min data.length (data ++ rest).length = data.length := by simp
  rw [decodeChunked_data _ _ _ rfl (List.append_ne_nil_of_left_ne_nil hne rest)]
  show decodeChunked feed (if min data.length (data ++ rest).length > 0 then _ else _) _ _ = _
  simp only [hmin, if_pos hpos, List.take_left', List.drop_left', SSEDMChunkDecoder.consume,
    Nat.sub_self, if_true]

/-- The line end after a chunk's data. -/
theorem decodeChunked_chunkEnd (crlf : Bool) (rest : Bytes) :
    decodeChunked feed s ⟨[], 0, .dataCRLF⟩ (lineEnd crlf ++ rest)
      = decodeChunked feed s {} rest := by
  cases crlf with
  | false =>
      show decodeChunked feed s ⟨[], 0, .dataCRLF⟩ (LF :: rest) = _
      rw [decodeChunked_dataCRLF _ _ _ rfl, if_neg (by decide), if_pos rfl]
  | true =>
      show decodeChunked feed s ⟨[], 0, .dataCRLF⟩ (CR :: LF :: rest) = _
      rw [decodeChunked_dataCRLF _ _ _ rfl, if_pos rfl, decodeChunked_dataLF _ _ _ rfl, if_pos rfl]

/-- **One chunk**: its data is fed and the decoder stands where it stood. -/
theorem decodeChunked_chunk (c : Chunk) (hsize : c.data.length ≤ SIZE_MAX) (rest : Bytes) :
    decodeChunked feed s {} (c.bytes ++ rest) = decodeChunked feed (feed s c.data) {} rest := by
  have hne : c.data.length ≠ 0 := by simpa using c.nonempty
  unfold Chunk.bytes
  rw [List.append_assoc, List.append_assoc, decodeChunked_sizeLine feed s c.spelled,
    if_pos hsize, if_neg hne, decodeChunked_chunkData feed s c.nonempty, decodeChunked_chunkEnd]

/-- The body in one read. -/
theorem decodeChunked_body {chunks : List Chunk} (hsize : ∀ c ∈ chunks, c.data.length ≤ SIZE_MAX)
    {last : SizeLine} (hlast : last.Spells 0) (rest : Bytes) :
    decodeChunked feed s {} (encodeChunked chunks last ++ rest)
      = (none, ⟨[], 0, .done⟩, chunks.foldl (fun s c => feed s c.data) s) := by
  unfold encodeChunked
  induction chunks generalizing s with
  | nil =>
      show decodeChunked feed s {} (last.bytes ++ rest) = _
      rw [decodeChunked_sizeLine feed s hlast, if_pos (Nat.zero_le SIZE_MAX), if_pos rfl]
      exact decodeChunked_done feed s _ rfl rest
  | cons c chunks ih =>
      rw [List.flatMap_cons, List.append_assoc, List.append_assoc,
        decodeChunked_chunk feed s c (hsize c List.mem_cons_self), ← List.append_assoc,
        ih (feed s c.data) (fun c hc => hsize c (List.mem_cons_of_mem _ hc))]
      rfl

end Receiver

/-! ## §4. Any cut into reads. -/

section Reads

variable {σ τ : Type}

/-- A decoder of one read called on one read after another: what each call
returned, and the state after the last. -/
def eachRead
    (read : σ → SSEDMChunkDecoder → Bytes → Option String × SSEDMChunkDecoder × σ)
    (s : σ) (d : SSEDMChunkDecoder) : List Bytes → List (Option String) × SSEDMChunkDecoder × σ
  | [] => ([], d, s)
  | piece :: pieces =>
      let (error, d, s) := read s d piece
      let (errors, d, s) := eachRead read s d pieces
      (error :: errors, d, s)

/-- Where the whole decodes without an error, so does every read of it. -/
theorem eachRead_of_flatten {feed : σ → Bytes → σ}
    (hfeed : ∀ (s : σ) (x y : Bytes), feed (feed s x) y = feed s (x ++ y))
    {s s' : σ} {d d' : SSEDMChunkDecoder} {pieces : List Bytes}
    (h : decodeChunked feed s d pieces.flatten = (none, d', s')) :
    eachRead (decodeChunked feed) s d pieces
      = (List.replicate pieces.length none, d', s') := by
  induction pieces generalizing s d with
  | nil =>
      rw [List.flatten_nil, decodeChunked_nil] at h
      cases h
      rfl
  | cons piece pieces ih =>
      rw [List.flatten_cons, decodeChunked_append hfeed] at h
      cases hread : decodeChunked feed s d piece with
      | mk error r =>
          rw [hread] at h
          cases error with
          | some error => cases h
          | none =>
              unfold eachRead
              rw [hread]
              show (none :: (eachRead (decodeChunked feed) r.2 r.1 pieces).1, _) = _
              rw [ih h]
              rfl

variable {feed : σ → Bytes → σ} {feed' : τ → Bytes → τ} {f : σ → τ}

/-- The decoder's course does not depend on the receiver. -/
theorem decodeChunked_map (hf : ∀ s x, feed' (f s) x = f (feed s x)) (s : σ)
    (d : SSEDMChunkDecoder) (data : Bytes) :
    decodeChunked feed' (f s) d data
      = ((decodeChunked feed s d data).1, (decodeChunked feed s d data).2.1,
          f (decodeChunked feed s d data).2.2) := by
  fun_induction decodeChunked feed s d data with
  | case1 s d => rw [decodeChunked_nil]
  | case2 s d c rest h => rw [decodeChunked_done _ _ d h]
  | case3 s d c rest h line hlong => rw [decodeChunked_size _ _ d h, if_pos hlong]
  | case4 s d rest h line hshort hsize =>
      rw [decodeChunked_size _ _ d h, if_neg hshort, if_pos rfl, hsize]
  | case5 s d rest h size line hshort hsize ih =>
      rw [decodeChunked_size _ _ d h, if_neg hshort, if_pos rfl, hsize]
      exact ih
  | case6 s d c rest h line hshort hc ih =>
      rw [decodeChunked_size _ _ d h, if_neg hshort, if_neg hc]
      exact ih
  | case7 s d c rest h chunk s' ih =>
      rw [decodeChunked_data _ _ d h (List.cons_ne_nil c rest), hf, ← apply_ite f]
      exact ih
  | case8 s d rest h ih =>
      rw [decodeChunked_dataCRLF _ _ d h, if_pos rfl]
      exact ih
  | case9 s d rest h hc ih =>
      rw [decodeChunked_dataCRLF _ _ d h, if_neg hc, if_pos rfl]
      exact ih
  | case10 s d c rest h hcr hlf =>
      rw [decodeChunked_dataCRLF _ _ d h, if_neg hcr, if_neg hlf]
  | case11 s d rest h ih =>
      rw [decodeChunked_dataLF _ _ d h, if_pos rfl]
      exact ih
  | case12 s d c rest h hlf =>
      rw [decodeChunked_dataLF _ _ d h, if_neg hlf]

theorem eachRead_map (hf : ∀ s x, feed' (f s) x = f (feed s x)) (s : σ)
    (d : SSEDMChunkDecoder) (pieces : List Bytes) :
    eachRead (decodeChunked feed') (f s) d pieces
      = ((eachRead (decodeChunked feed) s d pieces).1,
          (eachRead (decodeChunked feed) s d pieces).2.1,
          f (eachRead (decodeChunked feed) s d pieces).2.2) := by
  induction pieces generalizing s d with
  | nil => rfl
  | cons piece pieces ih =>
      unfold eachRead
      rw [decodeChunked_map hf]
      simp only [ih]

end Reads

/-- A receiver that keeps each slice it is given. -/
def keepSlice (slices : List Bytes) (slice : Bytes) : List Bytes := slices ++ [slice]

/-- The slices passed to `SSEParser::Feed` when `SSEDM_FeedChunkedBody` is
called on each of `pieces` in turn, from a fresh decoder. -/
def slicesFed (pieces : List Bytes) : List Bytes :=
  (eachRead (decodeChunked keepSlice) [] {} pieces).2.2

/-- The adapter is fed exactly these slices. -/
theorem eachRead_feedChunkedBody (a : Adapter) (pieces : List Bytes) :
    eachRead feedChunkedBody a {} pieces
      = ((eachRead (decodeChunked keepSlice) [] {} pieces).1,
          (eachRead (decodeChunked keepSlice) [] {} pieces).2.1,
          (slicesFed pieces).foldl Adapter.feed a) := by
  have hfeed : feedChunkedBody = decodeChunked Adapter.feed := by
    funext a d data
    exact feedChunkedBody_eq a d data
  rw [hfeed]
  exact eachRead_map (f := fun slices : List Bytes => slices.foldl Adapter.feed a)
    (by intro slices slice; simp [keepSlice]) [] {} pieces

/-- **Chunked decoding undoes chunked encoding**, however the body is cut into
reads. -/
theorem chunked_roundTrip (chunks : List Chunk) (hsize : ∀ c ∈ chunks, c.data.length ≤ SIZE_MAX)
    (last : SizeLine) (hlast : last.Spells 0) (rest : Bytes) (pieces : List Bytes)
    (hcut : pieces.flatten = encodeChunked chunks last ++ rest) (a : Adapter) :
    eachRead feedChunkedBody a {} pieces
        = (List.replicate pieces.length none, ⟨[], 0, .done⟩,
            (slicesFed pieces).foldl Adapter.feed a)
      ∧ (slicesFed pieces).flatten = chunks.flatMap Chunk.data
      ∧ ∀ (a : Adapter) (more : Bytes),
          feedChunkedBody a ⟨[], 0, .done⟩ more = (none, ⟨[], 0, .done⟩, a) := by
  -- the bytes fed, without the slices
  have hbytes : eachRead (decodeChunked (· ++ ·)) [] {} pieces
      = (List.replicate pieces.length none, ⟨[], 0, .done⟩, chunks.flatMap Chunk.data) := by
    apply eachRead_of_flatten List.append_assoc
    rw [hcut, decodeChunked_body _ _ hsize hlast, List.foldl_append_eq_append, List.nil_append,
      List.flatMap_def]
  have hslices : eachRead (decodeChunked (· ++ ·)) ([] : List Bytes).flatten {} pieces
      = ((eachRead (decodeChunked keepSlice) [] {} pieces).1,
          (eachRead (decodeChunked keepSlice) [] {} pieces).2.1, (slicesFed pieces).flatten) :=
    eachRead_map (by intro slices slice; simp [keepSlice]) [] {} pieces
  rw [List.flatten_nil, hbytes] at hslices
  injection hslices with herrors hslices
  injection hslices with hstate hslices
  refine ⟨?_, hslices.symm, fun a more => feedChunkedBody_done a _ rfl more⟩
  rw [eachRead_feedChunkedBody, ← herrors, ← hstate]

/-- `2 ;x` and a CRLF. -/
def twoBytes : SizeLine := ⟨ascii "02 ", some (ascii "x"), true⟩

theorem twoBytes_spells : twoBytes.Spells 2 where
  digits := ⟨[0, 2], by decide, by decide, by decide⟩
  noLF := by decide
  short := by decide

/-- `0` and an LF. -/
def noBytes : SizeLine := ⟨ascii "0", none, false⟩

theorem noBytes_spells : noBytes.Spells 0 where
  digits := ⟨[0], by decide, by decide, by decide⟩
  noLF := by decide
  short := by decide

/-- One chunk, cut inside the CRLF of its size line, inside its data and inside
the CRLF after it. -/
theorem chunked_roundTrip_hi :
    (slicesFed [ascii "02 ;x\r", ascii "\nh", ascii "i\r", ascii "\n0\nX"]).flatten
      = ascii "hi" :=
  (chunked_roundTrip [⟨ascii "hi", twoBytes, true, by decide, twoBytes_spells⟩] (by decide)
    noBytes noBytes_spells (ascii "X") _ (by decide)
    (Adapter.start {} ⟨fun _ => true, fun _ => true⟩)).2.1

/-- A chunk of `n` NULs. -/
def nulChunk (n : Nat) (size : SizeLine) (hn : n ≠ 0) (spelled : size.Spells n) : Chunk where
  data := List.replicate n NUL
  size := size
  crlf := false
  nonempty := by simpa using hn
  spelled := by rwa [List.length_replicate]

/-- A chunk no `size_t` can count is refused at its size line. -/
theorem nulChunk_refused {n : Nat} {size : SizeLine} (hn : n ≠ 0) (spelled : size.Spells n)
    (hmax : SIZE_MAX < n) (last : SizeLine) (a : Adapter) :
    (eachRead feedChunkedBody a {} [encodeChunked [nulChunk n size hn spelled] last]).1
      = [some "invalid chunk size"] := by
  unfold eachRead
  show [(feedChunkedBody a {} (encodeChunked [nulChunk n size hn spelled] last)).1] = _
  unfold encodeChunked
  rw [List.flatMap_cons]
  unfold Chunk.bytes
  show [(feedChunkedBody a {} ((size.bytes ++ _) ++ _ ++ _)).1] = _
  rw [feedChunkedBody_eq, List.append_assoc, List.append_assoc,
    decodeChunked_sizeLine Adapter.feed a spelled, if_neg (Nat.not_le.mpr hmax)]

/-- `10000000000000000` and an LF. -/
def tooManyBytes : SizeLine := ⟨ascii "10000000000000000", none, false⟩

theorem tooManyBytes_spells : tooManyBytes.Spells (2 ^ 64) where
  digits := ⟨1 :: List.replicate 16 0, by decide, by decide, by decide⟩
  noLF := by decide
  short := by decide

/-- A chunk of 2^64 bytes is not decoded: its size does not fit a `size_t`. -/
theorem chunked_oversized :
    ¬ ∀ (chunks : List Chunk) (last : SizeLine), last.Spells 0 →
        ∀ (rest : Bytes) (pieces : List Bytes),
          pieces.flatten = encodeChunked chunks last ++ rest →
            ∀ a : Adapter, (eachRead feedChunkedBody a {} pieces).1
              = List.replicate pieces.length none := by
  intro h
  have hpos : 2 ^ 64 ≠ 0 := by decide
  have hnone := h [nulChunk (2 ^ 64) tooManyBytes hpos tooManyBytes_spells] noBytes noBytes_spells
    [] [encodeChunked [nulChunk (2 ^ 64) tooManyBytes hpos tooManyBytes_spells] noBytes]
    (by simp only [List.flatten_cons, List.flatten_nil])
    (Adapter.start {} ⟨fun _ => true, fun _ => true⟩)
  rw [nulChunk_refused hpos tooManyBytes_spells (by decide)] at hnone
  cases hnone

end DefoldSSE
