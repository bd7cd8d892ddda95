/-
  DefoldSSE.Html5.Stream — the stream loop of `Module.SSEExt.connect`.

  The loop reads decoded chunks, cuts what is pending at the line feeds, and makes
  one call for each line: `processLine`, or `poison` when the line is over the cap.
  A long line can be found in three places (among the lines of a chunk, in what is
  left pending after a chunk, at the end of the stream), and `discardLine` carries
  the second over the chunks that follow.  The calls depend on the decoded text
  alone:

      (runStream c d).lineCalls = textCalls d.text

  `Framed` says where the loop stands after any text; it does not mention chunks.
-/
import DefoldSSE.Html5.Lines

namespace DefoldSSE

open CLib

/-! ## §1. The loop. -/

/-- A call that the loop makes for a line. -/
inductive LineCall where
  | processLine (line : Utf16)
  | poison (message : String)
  deriving DecidableEq, Repr

namespace Html5Client

def lineCall (c : Html5Client) : LineCall → Html5Client
  | .processLine line => c.processLine line
  | .poison message => c.poison message

def setDiscardLine (c : Html5Client) (discardLine : Bool) : Html5Client :=
  { c with discardLine := discardLine }

end Html5Client

/-- The client, `pending`, and the calls made so far. -/
structure StreamLoop where
  client : Html5Client
  pending : Utf16
  lineCalls : List LineCall

namespace StreamLoop

/-- Before the first chunk of an attempt. -/
def start (c : Html5Client) : StreamLoop where
  client := c.beginAttempt
  pending := []
  lineCalls := []

def call (s : StreamLoop) (x : LineCall) : StreamLoop :=
  { s with client := s.client.lineCall x, lineCalls := s.lineCalls ++ [x] }

def setDiscardLine (s : StreamLoop) (discardLine : Bool) : StreamLoop :=
  { s with client := s.client.setDiscardLine discardLine }

/-- The body of the loop over `lines`. -/
def readLine (s : StreamLoop) (line : Utf16) : StreamLoop :=
  if s.client.discardLine then s.setDiscardLine false
  else if line.length > maxBuffer then s.call (.poison lineTooLong)
  else s.call (.processLine line)

/-- The cap on `pending` after a chunk. -/
def capPending (s : StreamLoop) : StreamLoop :=
  if s.pending.length > maxBuffer then
    let s :=
      if !s.client.discardLine then (s.call (.poison lineTooLong)).setDiscardLine true else s
    { s with pending := [] }
  else s

/-- One turn of the `while` loop, with the decoded chunk. -/
def readChunk (s : StreamLoop) (chunk : Utf16) : StreamLoop :=
  let pending := s.pending ++ chunk
  let lines := pending.splitOn 10
  let s := { s with pending := lines.getLastD [] }
  (lines.dropLast.foldl readLine s).capPending

/-- The end-of-stream step; `flush` is what `decoder.decode()` still had. -/
def finish (s : StreamLoop) (flush : Utf16) : StreamLoop :=
  let s := { s with pending := s.pending ++ flush }
  if s.pending.length > 0 && !s.client.discardLine then
    if s.pending.length > maxBuffer then s.call (.poison lineTooLong)
    else s.call (.processLine s.pending)
  else s

end StreamLoop

/-- A stream as `TextDecoder` gives it.  At the end it has at most a replacement
character for the bytes of an unfinished one. -/
structure DecodedStream where
  chunks : List Utf16
  flush : Utf16
  noLF : 10 ∉ flush

/-- The decoded text. -/
def DecodedStream.text (d : DecodedStream) : Utf16 := d.chunks.flatten ++ d.flush

/-- The loop over a stream that ends, the client not stopped. -/
def runStream (c : Html5Client) (d : DecodedStream) : StreamLoop :=
  (d.chunks.foldl StreamLoop.readChunk (.start c)).finish d.flush

/-! ## §2. The calls of a text. -/

/-- The call for a line. -/
def LineCall.ofLine (line : Utf16) : LineCall :=
  if line.length > maxBuffer then .poison lineTooLong else .processLine line

/-- The calls for the lines that a line feed ends. -/
def terminatedCalls (text : Utf16) : List LineCall := (cut 10 text).1.map .ofLine

/-- What follows the last line feed. -/
def remainder (text : Utf16) : Utf16 := (cut 10 text).2

/-- The calls for a text that ends: one for each line, and one for a remainder. -/
def textCalls (text : Utf16) : List LineCall :=
  terminatedCalls text ++ if remainder text = [] then [] else [.ofLine (remainder text)]

/-- The calls for a text that goes on: an overlong line is known before its end. -/
def openCalls (text : Utf16) : List LineCall :=
  terminatedCalls text
    ++ if (remainder text).length > maxBuffer then [.poison lineTooLong] else []

/-! ## §3. The calls and `discardLine`. -/

namespace Html5Client

theorem commitPending_setDiscardLine (c : Html5Client) (b : Bool) :
    (c.setDiscardLine b).commitPending = c.commitPending.setDiscardLine b := by
  unfold commitPending
  have hpending : (c.setDiscardLine b).pendingLastEventId = c.pendingLastEventId := rfl
  have hdrop : (c.setDiscardLine b).dropObserved = c.dropObserved := rfl
  rw [hpending, hdrop]
  cases c.pendingLastEventId with
  | none => rfl
  | some id =>
      cases c.dropObserved with
      | true => rfl
      | false => rfl

theorem dispatch_setDiscardLine (c : Html5Client) (b : Bool) :
    (c.setDiscardLine b).dispatch = c.dispatch.setDiscardLine b := by
  by_cases hpoisoned : c.eventPoisoned = true
  · simp only [dispatch, if_pos hpoisoned,
      if_pos (show (c.setDiscardLine b).eventPoisoned = true from hpoisoned)]
    rfl
  by_cases hdata : c.data.length = 0
  · rw [dispatch_checkpoint c hpoisoned hdata,
      dispatch_checkpoint (c.setDiscardLine b) hpoisoned hdata, commitPending_setDiscardLine]
    have hid : (c.setDiscardLine b).hasId = c.hasId := rfl
    rw [hid]
    cases c.hasId with
    | false => rfl
    | true => rfl
  · obtain ⟨enqueued, henqueued⟩ : ∃ enqueued, c.answers (c.calls.countP isMessage) = enqueued :=
      ⟨_, rfl⟩
    have hoffered : (c.setDiscardLine b).offered enqueued = (c.offered enqueued).setDiscardLine b :=
      rfl
    rw [dispatch_message c hpoisoned hdata henqueued,
      dispatch_message (c.setDiscardLine b) hpoisoned hdata henqueued, hoffered,
      commitPending_setDiscardLine]
    cases enqueued with
    | false => rfl
    | true => rfl

/-- The line functions neither read nor write `discardLine`. -/
theorem processLine_setDiscardLine (c : Html5Client) (b : Bool) (line : Utf16) :
    (c.setDiscardLine b).processLine line = (c.processLine line).setDiscardLine b := by
  have hpoisoned : (c.setDiscardLine b).eventPoisoned = c.eventPoisoned := rfl
  have hdata : (c.setDiscardLine b).data = c.data := rfl
  unfold processLine
  simp only [hpoisoned, hdata]
  -- the number is the same on both sides; without a name for it `split_ifs` opens it
  generalize clampRetry (parseInt _) = retryMs
  split_ifs
  · exact dispatch_setDiscardLine c b
  all_goals rfl

theorem lineCall_setDiscardLine (c : Html5Client) (b : Bool) (x : LineCall) :
    (c.setDiscardLine b).lineCall x = (c.lineCall x).setDiscardLine b := by
  cases x with
  | processLine line => exact processLine_setDiscardLine c b line
  | poison message => rfl

theorem lineCall_discardLine (c : Html5Client) (x : LineCall) :
    (c.lineCall x).discardLine = c.discardLine := by
  have hset : c.lineCall x = (c.lineCall x).setDiscardLine c.discardLine :=
    lineCall_setDiscardLine c c.discardLine x
  rw [hset]
  rfl

end Html5Client

/-! ## §4. Where the loop stands after a text. -/

namespace StreamLoop

/-- Calls one after the other. -/
def make (s : StreamLoop) (xs : List LineCall) : StreamLoop :=
  { s with client := xs.foldl Html5Client.lineCall s.client, lineCalls := s.lineCalls ++ xs }

theorem make_nil (s : StreamLoop) : s.make [] = s := by
  unfold make
  rw [List.append_nil]
  rfl

theorem call_make (s : StreamLoop) (x : LineCall) (xs : List LineCall) :
    (s.call x).make xs = s.make (x :: xs) := by
  unfold make call
  simp only [List.append_assoc, List.singleton_append, List.foldl_cons]

theorem call_discardLine (s : StreamLoop) (x : LineCall) :
    (s.call x).client.discardLine = s.client.discardLine :=
  Html5Client.lineCall_discardLine s.client x

theorem make_discardLine (s : StreamLoop) (xs : List LineCall) :
    (s.make xs).client.discardLine = s.client.discardLine := by
  induction xs generalizing s with
  | nil => rfl
  | cons x xs ih => rw [← call_make, ih, call_discardLine]

/-- A line that is not the tail of an overlong one. -/
theorem readLine_fresh {s : StreamLoop} (h : s.client.discardLine = false) (line : Utf16) :
    s.readLine line = s.call (.ofLine line) := by
  unfold readLine LineCall.ofLine
  rw [h]
  simp only [Bool.false_eq_true, if_false]
  split
  · rfl
  · rfl

/-- Lines of a chunk, none of them the tail of an overlong one. -/
theorem foldl_readLine {s : StreamLoop} (h : s.client.discardLine = false) (lines : List Utf16) :
    lines.foldl readLine s = s.make (lines.map .ofLine) := by
  induction lines generalizing s with
  | nil => exact (make_nil s).symm
  | cons line lines ih =>
    rw [List.foldl_cons, readLine_fresh h, ih ((call_discardLine s _).trans h), List.map_cons,
      call_make]

/-- The loop has read `text`, in whatever chunks. -/
structure Framed (text : Utf16) (s : StreamLoop) : Prop where
  calls : s.lineCalls = openCalls text
  discard : s.client.discardLine = decide (maxBuffer < (remainder text).length)
  /-- An overlong remainder is not kept. -/
  pending : (remainder text).length ≤ maxBuffer → s.pending = remainder text
  noLF : 10 ∉ s.pending

theorem framed_start (c : Html5Client) : Framed [] (.start c) where
  calls := rfl
  discard := rfl
  pending := fun _ => rfl
  noLF := List.not_mem_nil

/-- The lines of a text in two goes. -/
theorem terminatedCalls_append (text chunk : Utf16) :
    terminatedCalls (text ++ chunk)
      = terminatedCalls text ++ (cut 10 (remainder text ++ chunk)).1.map .ofLine := by
  unfold terminatedCalls remainder
  rw [cut_append, List.map_append]

theorem remainder_append (text chunk : Utf16) :
    remainder (text ++ chunk) = (cut 10 (remainder text ++ chunk)).2 := by
  unfold remainder
  rw [cut_append]

/-- The cap after the lines of a chunk, none of them still to be discarded. -/
theorem framed_capPending {text : Utf16} {s : StreamLoop} (hcalls : s.lineCalls = terminatedCalls text)
    (hdiscard : s.client.discardLine = false) (hpending : s.pending = remainder text) :
    Framed text s.capPending := by
  have hnoLF : 10 ∉ remainder text := (not_mem_of_mem_cut 10 text).2
  unfold capPending
  rw [hpending]
  by_cases hlong : (remainder text).length > maxBuffer
  · rw [if_pos hlong, hdiscard]
    refine ⟨?_, ?_, fun h => absurd hlong (Nat.not_lt.mpr h), List.not_mem_nil⟩
    · show s.lineCalls ++ [.poison lineTooLong] = _
      rw [hcalls, openCalls, if_pos hlong]
    · exact (decide_eq_true hlong).symm
  · rw [if_neg hlong]
    refine ⟨?_, ?_, fun _ => hpending, hpending ▸ hnoLF⟩
    · rw [hcalls, openCalls, if_neg hlong, List.append_nil]
    · rw [hdiscard]
      exact (decide_eq_false hlong).symm

/-- `split` and `pop` are the cut at the line feeds. -/
theorem readChunk_eq (s : StreamLoop) (chunk : Utf16) :
    s.readChunk chunk
      = ((cut 10 (s.pending ++ chunk)).1.foldl readLine
          { s with pending := (cut 10 (s.pending ++ chunk)).2 }).capPending := by
  unfold readChunk
  simp only
  rw [splitOn_eq_cut, List.dropLast_concat, List.getLastD_concat]

/-- A chunk without a line feed, after an overlong remainder. -/
theorem Framed.readChunk_discarded {text : Utf16} {s : StreamLoop} (h : Framed text s)
    (hlong : maxBuffer < (remainder text).length) {chunk rest : Utf16}
    (hchunk : cut 10 chunk = ([], rest)) : Framed (text ++ chunk) (s.readChunk chunk) := by
  have hnoLF : 10 ∉ remainder text := (not_mem_of_mem_cut 10 text).2
  have hrest : 10 ∉ rest := by
    have hmem := (not_mem_of_mem_cut 10 chunk).2
    rwa [hchunk] at hmem
  have hread : cut 10 (s.pending ++ chunk) = ([], s.pending ++ rest) := by
    rw [cut_append_of_not_mem h.noLF, hchunk]
  have hcut : cut 10 (remainder text ++ chunk) = ([], remainder text ++ rest) := by
    rw [cut_append_of_not_mem hnoLF, hchunk]
  have hterminated : terminatedCalls (text ++ chunk) = terminatedCalls text := by
    rw [terminatedCalls_append, hcut, List.map_nil, List.append_nil]
  have hremainder : remainder (text ++ chunk) = remainder text ++ rest := by
    rw [remainder_append, hcut]
  have hstill : maxBuffer < (remainder (text ++ chunk)).length := by
    rw [hremainder, List.length_append]
    omega
  have hdiscard : s.client.discardLine = true := h.discard.trans (decide_eq_true hlong)
  have hcalls : s.lineCalls = openCalls (text ++ chunk) := by
    rw [h.calls, openCalls, openCalls, if_pos hlong, if_pos hstill, hterminated]
  have hnoLF' : 10 ∉ s.pending ++ rest := by
    rw [List.mem_append, not_or]
    exact ⟨h.noLF, hrest⟩
  rw [readChunk_eq, hread, List.foldl_nil, capPending]
  -- the poison was called when the cap was first hit; it is not called again
  split
  · simp only [hdiscard, Bool.not_true, Bool.false_eq_true, if_false]
    exact ⟨hcalls, hdiscard.trans (decide_eq_true hstill).symm,
      fun hle => absurd hstill (Nat.not_lt.mpr hle), List.not_mem_nil⟩
  · exact ⟨hcalls, hdiscard.trans (decide_eq_true hstill).symm,
      fun hle => absurd hstill (Nat.not_lt.mpr hle), hnoLF'⟩

/-- A chunk whose first line feed ends an overlong line. -/
theorem Framed.readChunk_ended {text : Utf16} {s : StreamLoop} (h : Framed text s)
    (hlong : maxBuffer < (remainder text).length) {chunk item rest : Utf16} {items : List Utf16}
    (hchunk : cut 10 chunk = (item :: items, rest)) :
    Framed (text ++ chunk) (s.readChunk chunk) := by
  have hnoLF : 10 ∉ remainder text := (not_mem_of_mem_cut 10 text).2
  have hread : cut 10 (s.pending ++ chunk) = ((s.pending ++ item) :: items, rest) := by
    rw [cut_append_of_not_mem h.noLF, hchunk]
  have hcut : cut 10 (remainder text ++ chunk) = ((remainder text ++ item) :: items, rest) := by
    rw [cut_append_of_not_mem hnoLF, hchunk]
  have hline : (remainder text ++ item).length > maxBuffer := by
    rw [List.length_append]
    omega
  have hpoisoned : LineCall.ofLine (remainder text ++ item) = .poison lineTooLong := if_pos hline
  have hdiscard : s.client.discardLine = true := h.discard.trans (decide_eq_true hlong)
  rw [readChunk_eq, hread, List.foldl_cons, StreamLoop.readLine, if_pos hdiscard,
    foldl_readLine rfl]
  apply framed_capPending
  · -- the call was made when the cap was hit
    show s.lineCalls ++ items.map .ofLine = _
    rw [h.calls, openCalls, if_pos hlong, terminatedCalls_append, hcut, List.map_cons, hpoisoned,
      List.append_assoc, List.singleton_append]
  · rw [make_discardLine]
    rfl
  · rw [remainder_append, hcut]
    rfl

/-- **A chunk, wherever it is cut off.** -/
theorem Framed.readChunk {text : Utf16} {s : StreamLoop} (h : Framed text s) (chunk : Utf16) :
    Framed (text ++ chunk) (s.readChunk chunk) := by
  by_cases hlong : maxBuffer < (remainder text).length
  · -- the overlong line ends in this chunk, or it does not
    cases hchunk : cut 10 chunk with
    | mk items rest =>
        cases items with
        | nil => exact h.readChunk_discarded hlong hchunk
        | cons item items => exact h.readChunk_ended hlong hchunk
  · have hdiscard : s.client.discardLine = false := h.discard.trans (decide_eq_false hlong)
    have hfresh : ({ s with pending := (cut 10 (remainder text ++ chunk)).2 } :
        StreamLoop).client.discardLine = false := hdiscard
    rw [readChunk_eq, h.pending (Nat.le_of_not_lt hlong), foldl_readLine hfresh]
    apply framed_capPending
    · show s.lineCalls ++ (cut 10 (remainder text ++ chunk)).1.map .ofLine = _
      rw [h.calls, openCalls, if_neg hlong, List.append_nil, terminatedCalls_append]
    · exact (make_discardLine _ _).trans hdiscard
    · exact (remainder_append text chunk).symm

/-- The run. -/
theorem Framed.readChunks {text : Utf16} {s : StreamLoop} (h : Framed text s)
    (chunks : List Utf16) :
    Framed (text ++ chunks.flatten) (chunks.foldl StreamLoop.readChunk s) := by
  induction chunks generalizing text s with
  | nil =>
    rw [List.flatten_nil, List.append_nil]
    exact h
  | cons chunk chunks ih =>
    rw [List.flatten_cons, ← List.append_assoc, List.foldl_cons]
    exact ih (h.readChunk chunk)

/-- The end of the stream. -/
theorem Framed.finish {text : Utf16} {s : StreamLoop} (h : Framed text s) {flush : Utf16}
    (hflush : 10 ∉ flush) : (s.finish flush).lineCalls = textCalls (text ++ flush) := by
  have hnoLF : 10 ∉ remainder text := (not_mem_of_mem_cut 10 text).2
  have hcut : cut 10 (remainder text ++ flush) = ([], remainder text ++ flush) := by
    rw [cut_append_of_not_mem hnoLF, cut_of_not_mem hflush]
  have hterminated : terminatedCalls (text ++ flush) = terminatedCalls text := by
    rw [terminatedCalls_append, hcut, List.map_nil, List.append_nil]
  have hremainder : remainder (text ++ flush) = remainder text ++ flush := by
    rw [remainder_append, hcut]
  unfold StreamLoop.finish textCalls
  rw [hterminated, hremainder]
  by_cases hlong : maxBuffer < (remainder text).length
  · -- nothing is called at the end: the call for this line has been made
    have hdiscard : s.client.discardLine = true := h.discard.trans (decide_eq_true hlong)
    have hline : (remainder text ++ flush).length > maxBuffer := by
      rw [List.length_append]
      omega
    have hne : remainder text ++ flush ≠ [] := by
      intro hnil
      rw [hnil] at hline
      exact absurd hline (Nat.not_lt_zero _)
    simp only [hdiscard, Bool.not_true, Bool.and_false, Bool.false_eq_true, if_false]
    rw [h.calls, openCalls, if_pos hlong, if_neg hne, LineCall.ofLine, if_pos hline]
  · have hdiscard : s.client.discardLine = false := h.discard.trans (decide_eq_false hlong)
    have hcalls : s.lineCalls = terminatedCalls text := by
      rw [h.calls, openCalls, if_neg hlong, List.append_nil]
    simp only [h.pending (Nat.le_of_not_lt hlong), hdiscard, Bool.not_false, Bool.and_true,
      decide_eq_true_eq]
    by_cases hnil : remainder text ++ flush = []
    · have hempty : ¬ ([] : Utf16).length > 0 := Nat.lt_irrefl 0
      rw [hnil, if_neg hempty, if_pos rfl, List.append_nil]
      exact hcalls
    · rw [if_pos (List.length_pos_iff.mpr hnil), if_neg hnil, ← hcalls, LineCall.ofLine]
      split
      · rfl
      · rfl

end StreamLoop

/-! ## §5. The calls of a stream. -/

/-- **The calls are those of the decoded text.** -/
theorem lineCalls_eq (c : Html5Client) (d : DecodedStream) :
    (runStream c d).lineCalls = textCalls d.text :=
  ((StreamLoop.framed_start c).readChunks d.chunks).finish d.noLF

/-- **Line framing does not depend on the chunks.**  Two ways to cut a text give
the same calls: one for each terminated line, `processLine` with the whole line
or `poison` when it is over the cap, then one for what follows the last LF. -/
theorem lineFraming (c : Html5Client) (d₁ d₂ : DecodedStream) (h : d₁.text = d₂.text) :
    (runStream c d₁).lineCalls = (runStream c d₂).lineCalls
      ∧ (runStream c d₁).lineCalls = textCalls d₁.text := by
  refine ⟨?_, lineCalls_eq c d₁⟩
  rw [lineCalls_eq, lineCalls_eq, h]

/-- The call for an overlong line. -/
theorem textCalls_overlong {line : Utf16} (hnoLF : 10 ∉ line) (hlong : line.length > maxBuffer)
    (rest : Utf16) : textCalls (line ++ 10 :: rest) = .poison lineTooLong :: textCalls rest := by
  have hline : LineCall.ofLine line = .poison lineTooLong := if_pos hlong
  unfold textCalls terminatedCalls remainder
  rw [cut_append_cons hnoLF, List.map_cons, hline]
  rfl

/-- A line over the cap and a message, in one chunk and cut inside both. -/
theorem lineFraming_cut : ∃ long : Utf16, long.length > maxBuffer
    ∧ ∃ whole pieces : DecodedStream,
      whole.chunks = [long ++ units "\ndata: x\n\n"]
        ∧ pieces.chunks = [long, units "\nda", units "ta: x\n", units "\n"]
        ∧ ((runStream (.create [] true 3000 (fun _ => true)) whole).lineCalls
            = (runStream (.create [] true 3000 (fun _ => true)) pieces).lineCalls
          ∧ (runStream (.create [] true 3000 (fun _ => true)) whole).lineCalls
            = textCalls whole.text)
        ∧ textCalls whole.text
          = [.poison lineTooLong, .processLine (units "data: x"), .processLine []] := by
  obtain ⟨long, hlong, hnoLF⟩ : ∃ long : Utf16, long.length > maxBuffer ∧ 10 ∉ long := by
    refine ⟨List.replicate (maxBuffer + 1) 120, ?_, fun hmem => ?_⟩
    · rw [List.length_replicate]
      exact Nat.lt_succ_self maxBuffer
    · exact absurd (List.eq_of_mem_replicate hmem) (by decide)
  let whole : DecodedStream := ⟨[long ++ units "\ndata: x\n\n"], [], List.not_mem_nil⟩
  let pieces : DecodedStream :=
    ⟨[long, units "\nda", units "ta: x\n", units "\n"], [], List.not_mem_nil⟩
  have htext : whole.text = long ++ 10 :: units "data: x\n\n" := by
    simp [whole, DecodedStream.text, units]
  have hsame : whole.text = pieces.text := by
    simp [whole, pieces, DecodedStream.text, units]
  refine ⟨long, hlong, whole, pieces, rfl, rfl, lineFraming _ whole pieces hsame, ?_⟩
  rw [htext, textCalls_overlong hnoLF hlong]
  decide

/-! ## §6. The client after a stream. -/

/-- The client is where the calls have brought it. -/
def StreamLoop.Traced (c : Html5Client) (s : StreamLoop) : Prop :=
  s.client
    = (s.lineCalls.foldl Html5Client.lineCall c.beginAttempt).setDiscardLine s.client.discardLine

namespace StreamLoop

variable {c : Html5Client} {s : StreamLoop}

theorem Traced.call (h : Traced c s) (x : LineCall) : Traced c (s.call x) := by
  have hclient : (s.call x).client = s.client.lineCall x := rfl
  have hcalls : (s.call x).lineCalls = s.lineCalls ++ [x] := rfl
  unfold Traced at h ⊢
  rw [call_discardLine, hclient, hcalls, List.foldl_append, List.foldl_cons, List.foldl_nil,
    ← Html5Client.lineCall_setDiscardLine, ← h]

theorem Traced.setDiscardLine (h : Traced c s) (b : Bool) : Traced c (s.setDiscardLine b) := by
  show s.client.setDiscardLine b = _
  rw [h]
  rfl

theorem Traced.readLine (h : Traced c s) (line : Utf16) : Traced c (s.readLine line) := by
  unfold StreamLoop.readLine
  split
  · exact h.setDiscardLine false
  split
  · exact h.call _
  · exact h.call _

theorem Traced.readLines (h : Traced c s) (lines : List Utf16) :
    Traced c (lines.foldl StreamLoop.readLine s) := by
  induction lines generalizing s with
  | nil => exact h
  | cons line lines ih => exact ih (h.readLine line)

theorem Traced.capPending (h : Traced c s) : Traced c s.capPending := by
  unfold StreamLoop.capPending
  split
  · simp only
    split
    · exact (h.call _).setDiscardLine true
    · exact h
  · exact h

theorem Traced.readChunk (h : Traced c s) (chunk : Utf16) : Traced c (s.readChunk chunk) := by
  rw [readChunk_eq]
  have hpending : Traced c { s with pending := (cut 10 (s.pending ++ chunk)).2 } := h
  exact (hpending.readLines _).capPending

theorem Traced.readChunks (h : Traced c s) (chunks : List Utf16) :
    Traced c (chunks.foldl StreamLoop.readChunk s) := by
  induction chunks generalizing s with
  | nil => exact h
  | cons chunk chunks ih => exact ih (h.readChunk chunk)

theorem Traced.finish (h : Traced c s) (flush : Utf16) : Traced c (s.finish flush) := by
  unfold StreamLoop.finish
  have hpending : Traced c { s with pending := s.pending ++ flush } := h
  simp only
  split
  · split
    · exact hpending.call _
    · exact hpending.call _
  · exact hpending

end StreamLoop

/-- **The client after a stream** is that of the text's calls, `discardLine`
apart. -/
theorem runStream_client (c : Html5Client) (d : DecodedStream) :
    (runStream c d).client
      = ((textCalls d.text).foldl Html5Client.lineCall c.beginAttempt).setDiscardLine
          (runStream c d).client.discardLine := by
  have hstart : StreamLoop.Traced c (.start c) := rfl
  have htraced := (hstart.readChunks d.chunks).finish d.flush
  rw [← lineCalls_eq c d]
  exact htraced

/-- **An entry of the log is a call** of `processLine` or `poison`, on the client as
the calls before it have left it. -/
theorem runStream_entry {c : Html5Client} {d : DecodedStream} {before after : List LineCall}
    {x : LineCall} (h : (runStream c d).lineCalls = before ++ x :: after) :
    let client := before.foldl Html5Client.lineCall c.beginAttempt
    let called :=
      match x with
      | .processLine line => client.processLine line
      | .poison message => client.poison message
    (runStream c d).client
      = (after.foldl Html5Client.lineCall called).setDiscardLine
          (runStream c d).client.discardLine := by
  intro client called
  have hcalled : called = client.lineCall x := by
    cases x with
    | processLine line => rfl
    | poison message => rfl
  have hclient := runStream_client c d
  rw [← lineCalls_eq c d, h, List.foldl_append, List.foldl_cons] at hclient
  rw [hcalled]
  exact hclient

end DefoldSSE
