/-
  DefoldSSE.Pool.Chunked — the chunked transfer decoder of the connection pool.

  `SSEDM_FeedChunkedBody` walks over one read with an offset; the walk is a
  recursion on what is left of the read.  Its state survives between reads, and
  `feedChunkedBody_append` says that where one read ends and the next begins
  leaves no trace.
-/
import Mathlib.Data.List.DropRight
import DefoldSSE.Desktop.Attempt

namespace DefoldSSE

open CLib

/-- `;`. -/
abbrev SEMICOLON : UInt8 := 59
/-- Horizontal tab. -/
abbrev TAB : UInt8 := 9

/-- `SIZE_MAX` of a 64-bit target. -/
def SIZE_MAX : Nat := 2 ^ 64 - 1

/-! ## §1. The chunk size. -/

/-- The value of a hexadecimal digit. -/
def hexDigit (c : UInt8) : Option Nat :=
  if 48 ≤ c && c ≤ 57 then some (c.toNat - 48)
  else if 97 ≤ c && c ≤ 102 then some (c.toNat - 97 + 10)
  else if 65 ≤ c && c ≤ 70 then some (c.toNat - 65 + 10)
  else none

/-- The loop of `SSEDM_ParseChunkSize`, with its two locals. -/
def parseChunkSizeFrom (value : Nat) (hasDigit : Bool) : Bytes → Option Nat
  | [] => if hasDigit then some value else none
  | c :: line =>
      if c = SEMICOLON then if hasDigit then some value else none
      else if c = SP || c = TAB then parseChunkSizeFrom value hasDigit line
      else
        match hexDigit c with
        | none => none
        | some digit =>
            -- the next value would not fit a `size_t`
            if value > (SIZE_MAX - digit) / 16 then none
            else parseChunkSizeFrom (value * 16 + digit) true line

/-- `SSEDM_ParseChunkSize`. -/
def parseChunkSize (line : Bytes) : Option Nat := parseChunkSizeFrom 0 false line

/-! ## §2. The decoder. -/

/-- `SSEDMChunkDecoder::State`. -/
inductive ChunkState where
  | size
  | data
  | dataCRLF
  | dataLF
  | done
  deriving DecidableEq, Repr

/-- `SSEDMChunkDecoder`. -/
structure SSEDMChunkDecoder where
  line : Bytes := []
  remaining : Nat := 0
  state : ChunkState := .size
  deriving DecidableEq, Repr

/-- The size line without the CRs and LFs at its end. -/
def trimLineEnd (line : Bytes) : Bytes := line.rdropWhile (fun c => c == LF || c == CR)

/-- The decoder after `n` bytes of the chunk's data. -/
def SSEDMChunkDecoder.consume (d : SSEDMChunkDecoder) (n : Nat) : SSEDMChunkDecoder :=
  { d with
    remaining := d.remaining - n
    state := if d.remaining - n = 0 then .dataCRLF else .data }

/-- A pass over `.data` takes bytes, or it leaves that state. -/
theorem SSEDMChunkDecoder.consume_smaller (d : SSEDMChunkDecoder) (hstate : d.state = .data)
    (c : UInt8) (rest : Bytes) :
    Prod.Lex (· < ·) (· < ·)
      (((c :: rest).drop (min d.remaining (c :: rest).length)).length,
        if (d.consume (min d.remaining (c :: rest).length)).state = .data then 1 else 0)
      ((c :: rest).length, if d.state = .data then 1 else 0) := by
  by_cases hz : d.remaining = 0
  · simp only [consume, hz, hstate, Nat.zero_min, Nat.sub_zero, List.drop_zero]
    apply Prod.Lex.right
    simp
  · apply Prod.Lex.left
    simp only [List.length_drop, List.length_cons]
    omega

/-- `SSEDM_FeedChunkedBody`: the error it returns false with, if any. -/
def feedChunkedBody (a : Adapter) (d : SSEDMChunkDecoder) (data : Bytes) :
    Option String × SSEDMChunkDecoder × Adapter :=
  match data with
  | [] => (none, d, a)
  | c :: rest =>
      match _hstate : d.state with
      | .done => (none, d, a)
      | .size =>
          let line := d.line ++ [c]
          if line.length > 1024 then
            (some "chunk size line is too long", { d with line := line }, a)
          else if c = LF then
            match parseChunkSize (trimLineEnd line) with
            | none => (some "invalid chunk size", { d with line := trimLineEnd line }, a)
            | some size =>
                feedChunkedBody a ⟨[], size, if size = 0 then .done else .data⟩ rest
          else feedChunkedBody a { d with line := line } rest
      | .data =>
          let chunk := min d.remaining (c :: rest).length
          let a := if chunk > 0 then a.feed ((c :: rest).take chunk) else a
          feedChunkedBody a (d.consume chunk) ((c :: rest).drop chunk)
      | .dataCRLF =>
          if c = CR then feedChunkedBody a { d with state := .dataLF } rest
          else if c = LF then feedChunkedBody a { d with state := .size } rest
          else (some "invalid chunk delimiter", d, a)
      | .dataLF =>
          if c = LF then feedChunkedBody a { d with state := .size } rest
          else (some "invalid chunk delimiter", d, a)
termination_by (data.length, if d.state = .data then 1 else 0)
decreasing_by
  · apply Prod.Lex.left
    simp
  · apply Prod.Lex.left
    simp
  · exact d.consume_smaller _hstate c rest
  · apply Prod.Lex.left
    simp
  · apply Prod.Lex.left
    simp
  · apply Prod.Lex.left
    simp

/-! ## §3. The decoder over any receiver. -/

section Receiver

variable {σ : Type} (feed : σ → Bytes → σ)

/-- `SSEDM_FeedChunkedBody` with `SSEParser::Feed` replaced by any receiver of
the body.  Over a list of bytes that appends what it is given, it returns what
was passed to `Feed`. -/
def decodeChunked (s : σ) (d : SSEDMChunkDecoder) (data : Bytes) :
    Option String × SSEDMChunkDecoder × σ :=
  match data with
  | [] => (none, d, s)
  | c :: rest =>
      match _hstate : d.state with
      | .done => (none, d, s)
      | .size =>
          let line := d.line ++ [c]
          if line.length > 1024 then
            (some "chunk size line is too long", { d with line := line }, s)
          else if c = LF then
            match parseChunkSize (trimLineEnd line) with
            | none => (some "invalid chunk size", { d with line := trimLineEnd line }, s)
            | some size =>
                decodeChunked s ⟨[], size, if size = 0 then .done else .data⟩ rest
          else decodeChunked s { d with line := line } rest
      | .data =>
          let chunk := min d.remaining (c :: rest).length
          let s := if chunk > 0 then feed s ((c :: rest).take chunk) else s
          decodeChunked s (d.consume chunk) ((c :: rest).drop chunk)
      | .dataCRLF =>
          if c = CR then decodeChunked s { d with state := .dataLF } rest
          else if c = LF then decodeChunked s { d with state := .size } rest
          else (some "invalid chunk delimiter", d, s)
      | .dataLF =>
          if c = LF then decodeChunked s { d with state := .size } rest
          else (some "invalid chunk delimiter", d, s)
termination_by (data.length, if d.state = .data then 1 else 0)
decreasing_by
  · apply Prod.Lex.left
    simp
  · apply Prod.Lex.left
    simp
  · exact d.consume_smaller _hstate c rest
  · apply Prod.Lex.left
    simp
  · apply Prod.Lex.left
    simp
  · apply Prod.Lex.left
    simp

variable (s : σ) (d : SSEDMChunkDecoder)

@[simp] theorem decodeChunked_nil : decodeChunked feed s d [] = (none, d, s) := by
  rw [decodeChunked]

/-- After the last chunk, everything is ignored. -/
theorem decodeChunked_done (h : d.state = .done) (data : Bytes) :
    decodeChunked feed s d data = (none, d, s) := by
  cases data with
  | nil => exact decodeChunked_nil feed s d
  | cons c rest =>
      rw [decodeChunked]
      split <;> simp_all

/-- A byte of a size line. -/
theorem decodeChunked_size (h : d.state = .size) (c : UInt8) (rest : Bytes) :
    decodeChunked feed s d (c :: rest)
      = if (d.line ++ [c]).length > 1024 then
          (some "chunk size line is too long", { d with line := d.line ++ [c] }, s)
        else if c = LF then
          match parseChunkSize (trimLineEnd (d.line ++ [c])) with
          | none =>
              (some "invalid chunk size", { d with line := trimLineEnd (d.line ++ [c]) }, s)
          | some size => decodeChunked feed s ⟨[], size, if size = 0 then .done else .data⟩ rest
        else decodeChunked feed s { d with line := d.line ++ [c] } rest := by
  rw [decodeChunked]
  split <;> simp_all

/-- A byte after a chunk. -/
theorem decodeChunked_dataCRLF (h : d.state = .dataCRLF) (c : UInt8) (rest : Bytes) :
    decodeChunked feed s d (c :: rest)
      = if c = CR then decodeChunked feed s { d with state := .dataLF } rest
        else if c = LF then decodeChunked feed s { d with state := .size } rest
        else (some "invalid chunk delimiter", d, s) := by
  rw [decodeChunked]
  split <;> simp_all

/-- A byte after the CR of a chunk. -/
theorem decodeChunked_dataLF (h : d.state = .dataLF) (c : UInt8) (rest : Bytes) :
    decodeChunked feed s d (c :: rest)
      = if c = LF then decodeChunked feed s { d with state := .size } rest
        else (some "invalid chunk delimiter", d, s) := by
  rw [decodeChunked]
  split <;> simp_all

/-- Inside a chunk, the read is cut at the chunk's end. -/
theorem decodeChunked_data (h : d.state = .data) {data : Bytes} (hne : data ≠ []) :
    decodeChunked feed s d data
      = decodeChunked feed (if min d.remaining data.length > 0
            then feed s (data.take (min d.remaining data.length)) else s)
          (d.consume (min d.remaining data.length)) (data.drop (min d.remaining data.length)) := by
  obtain ⟨c, rest, rfl⟩ := List.exists_cons_of_ne_nil hne
  conv => lhs; rw [decodeChunked]
  split <;> simp_all

end Receiver

/-- The decoder feeds the adapter's parser. -/
theorem feedChunkedBody_eq (a : Adapter) (d : SSEDMChunkDecoder) (data : Bytes) :
    feedChunkedBody a d data = decodeChunked Adapter.feed a d data := by
  fun_induction feedChunkedBody a d data with
  | case1 a d => rw [decodeChunked_nil]
  | case2 a d c rest h => rw [decodeChunked_done _ a d h]
  | case3 a d c rest h line hlong => rw [decodeChunked_size _ a d h, if_pos hlong]
  | case4 a d rest h line hshort hsize =>
      rw [decodeChunked_size _ a d h, if_neg hshort, if_pos rfl, hsize]
  | case5 a d rest h size line hshort hsize ih =>
      rw [decodeChunked_size _ a d h, if_neg hshort, if_pos rfl, hsize]
      exact ih
  | case6 a d c rest h line hshort hc ih =>
      rw [decodeChunked_size _ a d h, if_neg hshort, if_neg hc]
      exact ih
  | case7 a d c rest h chunk a' ih =>
      rw [decodeChunked_data _ a d h (List.cons_ne_nil c rest)]
      exact ih
  | case8 a d rest h ih =>
      rw [decodeChunked_dataCRLF _ a d h, if_pos rfl]
      exact ih
  | case9 a d rest h hc ih =>
      rw [decodeChunked_dataCRLF _ a d h, if_neg hc, if_pos rfl]
      exact ih
  | case10 a d c rest h hcr hlf =>
      rw [decodeChunked_dataCRLF _ a d h, if_neg hcr, if_neg hlf]
  | case11 a d rest h ih =>
      rw [decodeChunked_dataLF _ a d h, if_pos rfl]
      exact ih
  | case12 a d c rest h hlf =>
      rw [decodeChunked_dataLF _ a d h, if_neg hlf]

/-! ## §4. One read after another. -/

/-- What one read leaves is where the next begins. -/
def andThen {σ : Type} (r : Option String × SSEDMChunkDecoder × σ)
    (f : SSEDMChunkDecoder → σ → Option String × SSEDMChunkDecoder × σ) :
    Option String × SSEDMChunkDecoder × σ :=
  match r with
  | (none, d, s) => f d s
  | (some error, d, s) => (some error, d, s)

section Append

-- a receiver that does not see where one slice ends and the next begins
variable {σ : Type} {feed : σ → Bytes → σ}
  (hfeed : ∀ (s : σ) (x y : Bytes), feed (feed s x) y = feed s (x ++ y))
include hfeed

/-- The step inside a chunk: either the read reaches the chunk's end, and what
follows is decoded as it would be in a longer read, or the chunk goes on in the
next read. -/
theorem decodeChunked_append_data (s : σ) (d : SSEDMChunkDecoder) (h : d.state = .data)
    {x : Bytes} (hx : x ≠ []) (y : Bytes)
    (ih : decodeChunked feed (if min d.remaining x.length > 0
            then feed s (x.take (min d.remaining x.length)) else s)
          (d.consume (min d.remaining x.length)) (x.drop (min d.remaining x.length) ++ y)
        = andThen (decodeChunked feed (if min d.remaining x.length > 0
            then feed s (x.take (min d.remaining x.length)) else s)
          (d.consume (min d.remaining x.length)) (x.drop (min d.remaining x.length)))
          (fun d s => decodeChunked feed s d y)) :
    decodeChunked feed s d (x ++ y)
      = andThen (decodeChunked feed (if min d.remaining x.length > 0
            then feed s (x.take (min d.remaining x.length)) else s)
          (d.consume (min d.remaining x.length)) (x.drop (min d.remaining x.length)))
          (fun d s => decodeChunked feed s d y) := by
  have hpos : 0 < x.length := List.length_pos_iff.mpr hx
  rw [decodeChunked_data feed s d h (List.append_ne_nil_of_left_ne_nil hx y)]
  by_cases hle : d.remaining ≤ x.length
  · -- the chunk ends within `x`
    have hmin : min d.remaining (x ++ y).length = min d.remaining x.length := by
      rw [List.length_append]
      omega
    rw [hmin, ← ih, List.take_append_of_le_length (by omega),
      List.drop_append_of_le_length (by omega)]
  · -- the chunk goes on in `y`
    have hmin : min d.remaining x.length = x.length := by omega
    rw [hmin, List.take_length, List.drop_length, if_pos hpos, decodeChunked_nil]
    have hstate : (d.consume x.length).state = .data := by
      show (if d.remaining - x.length = 0 then ChunkState.dataCRLF else .data) = .data
      rw [if_neg (by omega)]
    show _ = decodeChunked feed (feed s x) (d.consume x.length) y
    cases y with
    | nil =>
        rw [List.append_nil, hmin, List.take_length, List.drop_length, if_pos hpos]
    | cons c rest =>
        have hrem : (d.consume x.length).remaining = d.remaining - x.length := rfl
        rw [decodeChunked_data _ _ _ hstate (List.cons_ne_nil c rest), hrem]
        generalize hy : c :: rest = y
        have hypos : 0 < y.length := by rw [← hy]; simp
        -- the longer read takes what the two reads take one after the other
        have hsum : min d.remaining (x ++ y).length
            = x.length + min (d.remaining - x.length) y.length := by
          rw [List.length_append]
          omega
        have htake : (x ++ y).take (x.length + min (d.remaining - x.length) y.length)
            = x ++ y.take (min (d.remaining - x.length) y.length) := by
          rw [List.take_append, List.take_of_length_le (by omega)]
          congr 2
          omega
        have hdrop : (x ++ y).drop (x.length + min (d.remaining - x.length) y.length)
            = y.drop (min (d.remaining - x.length) y.length) := List.drop_length_add_append _
        have hconsume : (d.consume x.length).consume (min (d.remaining - x.length) y.length)
            = d.consume (x.length + min (d.remaining - x.length) y.length) := by
          unfold SSEDMChunkDecoder.consume
          simp only [Nat.sub_sub]
        rw [hsum, htake, hdrop, hconsume, if_pos (by omega), if_pos (by omega), hfeed]

/-- **Where a read ends leaves no trace in the decoder.** -/
theorem decodeChunked_append (s : σ) (d : SSEDMChunkDecoder) (x y : Bytes) :
    decodeChunked feed s d (x ++ y)
      = andThen (decodeChunked feed s d x) (fun d s => decodeChunked feed s d y) := by
  fun_induction decodeChunked feed s d x with
  | case1 s d => rfl
  | case2 s d c rest h =>
      rw [decodeChunked_done feed s d h]
      exact (decodeChunked_done feed s d h y).symm
  | case3 s d c rest h line hlong =>
      rw [List.cons_append, decodeChunked_size feed s d h, if_pos hlong]
      rfl
  | case4 s d rest h line hshort hsize =>
      rw [List.cons_append, decodeChunked_size feed s d h, if_neg hshort, if_pos rfl, hsize]
      rfl
  | case5 s d rest h size line hshort hsize ih =>
      rw [List.cons_append, decodeChunked_size feed s d h, if_neg hshort, if_pos rfl, hsize]
      exact ih
  | case6 s d c rest h line hshort hc ih =>
      rw [List.cons_append, decodeChunked_size feed s d h, if_neg hshort, if_neg hc]
      exact ih
  | case7 s d c rest h chunk s' ih =>
      exact decodeChunked_append_data hfeed s d h (List.cons_ne_nil c rest) y ih
  | case8 s d rest h ih =>
      rw [List.cons_append, decodeChunked_dataCRLF feed s d h, if_pos rfl]
      exact ih
  | case9 s d rest h hc ih =>
      rw [List.cons_append, decodeChunked_dataCRLF feed s d h, if_neg hc, if_pos rfl]
      exact ih
  | case10 s d c rest h hcr hlf =>
      rw [List.cons_append, decodeChunked_dataCRLF feed s d h, if_neg hcr, if_neg hlf]
      rfl
  | case11 s d rest h ih =>
      rw [List.cons_append, decodeChunked_dataLF feed s d h, if_pos rfl]
      exact ih
  | case12 s d c rest h hlf =>
      rw [List.cons_append, decodeChunked_dataLF feed s d h, if_neg hlf]
      rfl

end Append

section Adapter

variable (a : Adapter) (d : SSEDMChunkDecoder)

@[simp] theorem feedChunkedBody_nil : feedChunkedBody a d [] = (none, d, a) := by
  rw [feedChunkedBody]

/-- After the last chunk, everything is ignored. -/
theorem feedChunkedBody_done (h : d.state = .done) (data : Bytes) :
    feedChunkedBody a d data = (none, d, a) := by
  rw [feedChunkedBody_eq]
  exact decodeChunked_done _ a d h data

/-- Two reads decode as one. -/
theorem feedChunkedBody_append (x y : Bytes) :
    feedChunkedBody a d (x ++ y)
      = andThen (feedChunkedBody a d x) (fun d a => feedChunkedBody a d y) := by
  simp only [feedChunkedBody_eq]
  exact decodeChunked_append Adapter.feed_feed a d x y

end Adapter

end DefoldSSE
