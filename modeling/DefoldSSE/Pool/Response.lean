/-
  DefoldSSE.Pool.Response — `SSEDM_ReadResponse` and what it is made of.

  What the sockets answer is given from outside, one entry a call: a `Receive`
  is one call of `Receive` together with the `Select` calls that follow it when
  it would block.  The stop flag is raised once, between two of the worker's
  looks at it.  A run that uses up its answers without returning is still going
  on (`none`).
-/
import DefoldSSE.Pool.Chunked
import DefoldSSE.Pool.Url

namespace DefoldSSE

open CLib

/-! ## §1. The response headers. -/

/-- `SSEDM_FindHeaderEnd`: the index of the delimiter and its size. -/
def findHeaderEnd (response : Bytes) : Option (Nat × Nat) :=
  match find [CR, LF, CR, LF] response with
  | some i => some (i, 4)
  | none =>
      match find [LF, LF] response with
      | some i => some (i, 2)
      | none => none

/-- `SSEDM_TrimTrailingCR`. -/
def trimTrailingCR (line : Bytes) : Bytes :=
  if line.getLast? = some CR then line.dropLast else line

/-- The header line says that the body is chunked. -/
def isChunkedHeader (line : Bytes) : Bool :=
  let lower := lowerASCII (trimTrailingCR line)
  find (ascii "transfer-encoding:") lower == some 0 && (find (ascii "chunked") lower).isSome

/-- `SSEDM_ParseResponseHeaders`: the status and whether the body is chunked.
An empty last line, which the loop does not see, is no chunked header. -/
def parseResponseHeaders (headers : Bytes) : Option (Int × Bool) :=
  let firstLine := trimTrailingCR (headers.takeWhile (· != LF))
  match scanStatus (CString.read firstLine).bytes with
  | none => none
  | some status =>
      let lines := cut LF ((headers.dropWhile (· != LF)).drop 1)
      some (status, (lines.1 ++ [lines.2]).any isChunkedHeader)

/-! ## §2. The body. -/

/-- `SSEDM_FeedBody`. -/
def feedBody (a : Adapter) (chunked : Bool) (d : SSEDMChunkDecoder) (data : Bytes) :
    Option String × SSEDMChunkDecoder × Adapter :=
  if data = [] then (none, d, a)
  else if chunked then feedChunkedBody a d data
  else (none, d, a.feed data)

theorem feedBody_append (a : Adapter) (chunked : Bool) (d : SSEDMChunkDecoder) (x y : Bytes) :
    feedBody a chunked d (x ++ y)
      = andThen (feedBody a chunked d x) (fun d a => feedBody a chunked d y) := by
  have hchunked : ∀ data : Bytes, feedBody a true d data = feedChunkedBody a d data := by
    intro data
    unfold feedBody
    split
    · next h => rw [h, feedChunkedBody_nil]
    · rfl
  have hplain : ∀ (a : Adapter) (data : Bytes), feedBody a false d data = (none, d, a.feed data) := by
    intro a data
    unfold feedBody
    split
    · next h => rw [h, Adapter.feed_nil]
    · rfl
  cases chunked with
  | true =>
      rw [hchunked, hchunked, feedChunkedBody_append]
      congr 1
      funext d a
      unfold feedBody
      split
      · next h => rw [h, feedChunkedBody_nil]
      · rfl
  | false =>
      rw [hplain, hplain]
      show _ = feedBody (a.feed x) false d y
      rw [hplain, Adapter.feed_feed]

/-- The body opens nothing. -/
theorem feedChunkedBody_opening (a : Adapter) (d : SSEDMChunkDecoder) (data : Bytes) :
    (feedChunkedBody a d data).2.2.opening = a.opening := by
  fun_induction feedChunkedBody a d data with
  | case7 a d c rest h chunk a' ih =>
      rw [ih]
      show (if chunk > 0 then a.feed ((c :: rest).take chunk) else a).opening = a.opening
      split
      · exact Adapter.feed_opening a _
      · rfl
  | _ => first | rfl | assumption

theorem feedBody_opening (a : Adapter) (chunked : Bool) (d : SSEDMChunkDecoder) (data : Bytes) :
    (feedBody a chunked d data).2.2.opening = a.opening := by
  unfold feedBody
  split
  · rfl
  · split
    · exact feedChunkedBody_opening a d data
    · exact Adapter.feed_opening a data

/-! ## §3. The sockets. -/

/-- `dmSocket::Result`. -/
inductive SocketResult where
  | ok
  | wouldBlock
  | tryAgain
  | failure (code : Nat)
  deriving DecidableEq, Repr

/-- `RESULT_WOULDBLOCK` or `RESULT_TRY_AGAIN`. -/
def SocketResult.retry : SocketResult → Bool
  | .wouldBlock => true
  | .tryAgain => true
  | _ => false

/-- `SSEDM_WaitForSocket`, given the results of its `Select` calls. -/
def waitForSocket (s : StopFlag) : List SocketResult → Option (SocketResult × StopFlag)
  | [] => if s.raised then some (.ok, s.next) else none
  | result :: selects =>
      if s.raised then some (.ok, s.next)
      else if result.retry then waitForSocket s.next selects
      else some (result, s.next)

/-- One call of `SSEDM_ReceiveRaw`. -/
inductive Receive where
  /-- `RESULT_OK` with these bytes; none of them at the end of the stream. -/
  | data (bytes : Bytes)
  /-- It would block; the results of the `Select` calls that follow. -/
  | again (selects : List SocketResult)
  /-- Any other result. -/
  | failed (code : Nat)
  deriving DecidableEq, Repr

/-! ## §4. `SSEDM_ReadResponse`. -/

/-- The locals of `SSEDM_ReadResponse`. -/
structure Reader where
  headerBuffer : Bytes := []
  headersDone : Bool := false
  chunked : Bool := false
  decoder : SSEDMChunkDecoder := {}
  deriving DecidableEq, Repr

/-- How a pass of the loop ends: it goes on, or the function returns, with an
error or with true. -/
inductive Pass where
  | goesOn (reader : Reader)
  | returns (error : Option String)
  deriving DecidableEq, Repr

def headersTooLarge : String := "HTTP response headers are too large"

/-- A pass that has body bytes. -/
def onBody (r : Reader) (a : Adapter) (body : Bytes) : Pass × Adapter :=
  match feedBody a r.chunked r.decoder body with
  | (some error, _, a) => (.returns (some error), a)
  | (none, decoder, a) =>
      if r.chunked && decoder.state == .done then (.returns none, a)
      else (.goesOn { r with headerBuffer := [], decoder := decoder }, a)

/-- The pass that completes the headers, with what was received beyond them. -/
def onHeaders (a : Adapter) (headers body : Bytes) : Pass × Adapter :=
  match parseResponseHeaders headers with
  | none => (.returns (some "invalid HTTP response"), a.setStatus 0)
  | some (status, chunked) =>
      let a := a.setStatus status
      if status < 200 ∨ status ≥ 300 then
        (.returns (some ("SSE request failed with HTTP status " ++ toString status)), a)
      else
        let a := a.openConnection
        let r : Reader := { headersDone := true, chunked := chunked }
        if body = [] then (.goesOn r, a) else onBody r a body

/-- A pass that received some bytes. -/
def onData (r : Reader) (a : Adapter) (received : Bytes) : Pass × Adapter :=
  if r.headersDone then onBody r a received
  else
    let headerBuffer := r.headerBuffer ++ received
    -- the cap is tested before the search, on everything received so far
    if headerBuffer.length > 65536 then (.returns (some headersTooLarge), a)
    else
      match findHeaderEnd headerBuffer with
      | none => (.goesOn { r with headerBuffer := headerBuffer }, a)
      | some (headerEnd, delimiterSize) =>
          onHeaders a (headerBuffer.take headerEnd)
            (headerBuffer.drop (headerEnd + delimiterSize))

section ReadResponse

-- `dmSocket::ResultToString`
variable (resultToString : SocketResult → String)

/-- `SSEDM_ReadResponse`: the error it returns false with, if any. -/
def readResponse (s : StopFlag) (r : Reader) (a : Adapter) :
    List Receive → Option (Option String × Adapter × StopFlag)
  | [] => if s.raised then some (none, a, s.next) else none
  | receive :: receives =>
      if s.raised then some (none, a, s.next)
      else
        match receive with
        | .again selects =>
            match waitForSocket s.next selects with
            | none => none
            | some (.ok, s) => readResponse s r a receives
            | some (result, s) =>
                some (some ("socket read wait failed: " ++ resultToString result), a, s)
        | .failed code =>
            if s.next.raised then some (none, a, s.next.next)
            else
              some (some ("socket receive failed: " ++ resultToString (.failure code)), a,
                s.next.next)
        | .data [] => some (none, a, s.next)
        | .data (c :: received) =>
            match onData r a (c :: received) with
            | (.returns error, a) => some (error, a, s.next)
            | (.goesOn r, a) => readResponse s.next r a receives

end ReadResponse

end DefoldSSE
