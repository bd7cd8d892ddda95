/-
  DefoldSSE.Pool.TransferEncoding — when a response body is taken for chunked.

  A header block lists codings, in its Transfer-Encoding lines; a body is framed
  in chunks if the last of them is `chunked`.  `SSEDM_ParseResponseHeaders` looks
  for the text `chunked` anywhere in such a line instead, which finds it in any
  coding and in any place of the list (`chunked_eq`).

  `transferEncoding_iff`: that is right exactly where no coding but a last
  `chunked` makes the test come out true.
-/
import DefoldSSE.Pool.ChunkSize
import DefoldSSE.Pool.Response

namespace DefoldSSE

open CLib

/-! ## §1. What a header block says. -/

/-- A comma or a blank. -/
def separatesCodings (c : UInt8) : Bool := c == 44 || isBlank c

/-- The lines after the status line, each without its CR and in lower case. -/
def headerLines (headers : Bytes) : List Bytes :=
  let lines := cut LF ((headers.dropWhile (· != LF)).drop 1)
  (lines.1 ++ [lines.2]).map (fun line => lowerASCII (trimTrailingCR line))

/-- What follows the colon in a line of that name. -/
def headerValue (name line : Bytes) : Option Bytes :=
  match line.dropWhile (· != COLON) with
  | [] => none
  | _ :: value => if line.takeWhile (· != COLON) = name then some value else none

/-- The codings of all Transfer-Encoding lines, in their order. -/
def codings (headers : Bytes) : List Bytes :=
  ((headerLines headers).filterMap (headerValue (ascii "transfer-encoding"))).flatMap
    (splitTokens separatesCodings)

/-- The body is framed in chunks. -/
def EndsChunked (headers : Bytes) : Prop := (codings headers).getLast? = some (ascii "chunked")

/-- Some coding has the text `chunked` in it. -/
def MentionsChunked (headers : Bytes) : Prop :=
  ∃ coding ∈ codings headers, ascii "chunked" <:+: coding

/-- The one CR at a line's end is the event stream's. -/
theorem trimTrailingCR_eq (line : Bytes) : trimTrailingCR line = SSEParser.stripCR line := rfl

/-- **The lines of a header block**: those between its LFs, but for the first. -/
theorem headerLines_eq {status last : Bytes} {lines : List Bytes} (hstatus : LF ∉ status)
    (hlines : ∀ line ∈ lines, LF ∉ line) (hlast : LF ∉ last) :
    headerLines (status ++ LF :: (lines.flatMap (fun line => line ++ [LF]) ++ last))
      = (lines ++ [last]).map (fun line => lowerASCII (trimTrailingCR line)) := by
  have hcut : cut LF (lines.flatMap (fun line => line ++ [LF]) ++ last) = (lines, last) :=
    cut_eq_iff.mpr ⟨rfl, hlines, hlast⟩
  unfold headerLines
  rw [dropWhile_bne hstatus, List.drop_succ_cons, List.drop_zero, hcut]

/-! ## §2. The test of a line. -/

/-- A line is its name, the colon and its value. -/
theorem eq_of_headerValue {name line value : Bytes} (h : headerValue name line = some value) :
    line = name ++ COLON :: value := by
  have hsplit := List.takeWhile_append_dropWhile (p := fun c => c != COLON) (l := line)
  have hhead := List.head?_dropWhile_not (fun c => c != COLON) line
  unfold headerValue at h
  cases hrest : line.dropWhile (fun c => c != COLON) with
  | nil =>
      rw [hrest] at h
      cases h
  | cons c rest =>
      rw [hrest] at h hsplit hhead
      dsimp only at h
      split at h
      · next hsame =>
          have hc : c = COLON := by simpa using hhead
          rw [← hsplit, hsame, hc, Option.some.inj h]
      · cases h

/-- **A line of that name**: the name, the first colon and the value. -/
theorem headerValue_eq_some_iff {name line value : Bytes} (hname : COLON ∉ name) :
    headerValue name line = some value ↔ line = name ++ COLON :: value := by
  constructor
  · exact eq_of_headerValue
  · rintro rfl
    rw [headerValue, dropWhile_bne hname, takeWhile_bne hname]
    exact if_pos rfl

/-- A line starts with a name and a colon, if that is its name. -/
theorem prefix_iff_headerValue {name line : Bytes} (hname : COLON ∉ name) :
    name ++ [COLON] <+: line ↔ (headerValue name line).isSome = true := by
  constructor
  · intro h
    obtain ⟨value, rfl⟩ := h
    rw [List.append_assoc, List.singleton_append, (headerValue_eq_some_iff hname).mpr rfl]
    rfl
  · intro h
    obtain ⟨value, hvalue⟩ := Option.isSome_iff_exists.mp h
    rw [eq_of_headerValue hvalue]
    exact ⟨value, by simp⟩

/-- **What the code looks for in a line**: a coding with `chunked` in it, since
the name has none and a separator ends it. -/
theorem isChunkedHeader_iff (line : Bytes) :
    isChunkedHeader line = true
      ↔ ∃ value, headerValue (ascii "transfer-encoding") (lowerASCII (trimTrailingCR line))
            = some value
          ∧ ∃ coding ∈ splitTokens separatesCodings value, ascii "chunked" <:+: coding := by
  unfold isChunkedHeader
  generalize lowerASCII (trimTrailingCR line) = lower
  have hstart : find (ascii "transfer-encoding:") lower = some 0
      ↔ (headerValue (ascii "transfer-encoding") lower).isSome = true := by
    rw [find_eq_zero_iff, ← prefix_iff_headerValue (by decide)]
    rfl
  have hword : ∀ c ∈ ascii "chunked", separatesCodings c = false := by
    decide +kernel
  have hname : ¬ ascii "chunked" <:+: ascii "transfer-encoding" := by
    decide +kernel
  simp only [Bool.and_eq_true, beq_iff_eq, find_isSome_iff, hstart]
  cases hvalue : headerValue (ascii "transfer-encoding") lower with
  | none => simp
  | some value =>
      rw [eq_of_headerValue hvalue, infix_append_cons_iff (by decide),
        infix_iff_exists_token (by decide) hword value]
      simp [hname]

/-! ## §3. The header block. -/

/-- **What the code finds in a header block**, whatever the other lines are. -/
theorem chunked_eq {headers : Bytes} {status : Int} {chunked : Bool}
    (h : parseResponseHeaders headers = some (status, chunked)) :
    chunked = true ↔ MentionsChunked headers := by
  unfold parseResponseHeaders at h
  dsimp only at h
  split at h
  · cases h
  · obtain ⟨-, rfl⟩ := Prod.mk.inj (Option.some.inj h)
    unfold MentionsChunked codings headerLines
    simp only [List.any_eq_true, isChunkedHeader_iff, List.mem_flatMap, List.mem_filterMap,
      List.mem_map]
    constructor
    · intro h
      obtain ⟨line, hline, value, hvalue, coding, hcoding, hocc⟩ := h
      exact ⟨coding, ⟨value, ⟨_, ⟨line, hline, rfl⟩, hvalue⟩, hcoding⟩, hocc⟩
    · intro h
      obtain ⟨coding, ⟨value, ⟨_, ⟨line, hline, rfl⟩, hvalue⟩, hcoding⟩, hocc⟩ := h
      exact ⟨line, hline, value, hvalue, coding, hcoding, hocc⟩

/-- A block that ends in `chunked` mentions it. -/
theorem EndsChunked.mentions {headers : Bytes} (h : EndsChunked headers) :
    MentionsChunked headers :=
  ⟨ascii "chunked", List.mem_of_getLast? h, List.infix_rfl⟩

/-- **TRANSFER-ENCODING IS RECOGNISED EXACTLY, AND WHEN**: if no coding has
`chunked` in it, or the last one is `chunked`. -/
theorem transferEncoding_iff {headers : Bytes} {status : Int} {chunked : Bool}
    (h : parseResponseHeaders headers = some (status, chunked)) :
    (chunked = true ↔ EndsChunked headers)
      ↔ (MentionsChunked headers → EndsChunked headers) := by
  rw [chunked_eq h]
  constructor
  · intro hexact
    exact hexact.mp
  · intro hends
    exact ⟨hends, EndsChunked.mentions⟩

/-- `chunked` in capitals behind another coding, between other lines. -/
theorem transferEncoding_iff_gzip :
    parseResponseHeaders (ascii
          "HTTP/1.1 200 OK\r\nX: chunked\r\nTransfer-Encoding: gzip,\tCHUNKED\r\nA: b")
        = some (200, true)
      ∧ (true = true ↔ EndsChunked (ascii
          "HTTP/1.1 200 OK\r\nX: chunked\r\nTransfer-Encoding: gzip,\tCHUNKED\r\nA: b")) := by
  have hparse : parseResponseHeaders (ascii
      "HTTP/1.1 200 OK\r\nX: chunked\r\nTransfer-Encoding: gzip,\tCHUNKED\r\nA: b")
      = some (200, true) := by decide
  refine ⟨hparse, (transferEncoding_iff hparse).mpr fun _ => ?_⟩
  show (codings _).getLast? = _
  decide

/-- A body that another coding frames is decoded as chunks. -/
theorem transferEncoding_substring :
    parseResponseHeaders (ascii "HTTP/1.1 200 OK\r\nTransfer-Encoding: x-chunked")
        = some (200, true)
      ∧ ¬ EndsChunked (ascii "HTTP/1.1 200 OK\r\nTransfer-Encoding: x-chunked")
      ∧ ¬ ∀ (headers : Bytes) (status : Int) (chunked : Bool),
          parseResponseHeaders headers = some (status, chunked) →
            (chunked = true ↔ EndsChunked headers) := by
  have hparse : parseResponseHeaders (ascii "HTTP/1.1 200 OK\r\nTransfer-Encoding: x-chunked")
      = some (200, true) := by decide
  have hnot : ¬ EndsChunked (ascii "HTTP/1.1 200 OK\r\nTransfer-Encoding: x-chunked") := by
    show ¬ (codings _).getLast? = _
    decide
  exact ⟨hparse, hnot, fun hall => hnot ((hall _ _ _ hparse).mp rfl)⟩

end DefoldSSE
