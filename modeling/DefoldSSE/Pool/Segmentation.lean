/-
  DefoldSSE.Pool.Segmentation — how much the outcome of a response depends on
  where the reads cut it.

  While the headers are incomplete the reader only collects bytes.  The read
  that completes them decides everything: it is judged by its LENGTH (the cap
  counts the body bytes that came along) and by the FIRST CRLFCRLF in it, if
  there is one, even behind an LFLF.  What follows is decoded the same way in
  whatever reads it comes (`feedBody_append`).

    (1) `readPieces_eq_verdict` — every cut ends in `verdict s n` for the length
        `n` received when the headers were found;
    (2) `exists_cut` — and every `n` that one read can reach is reached;
    (3) `segmentationFree_iff_unambiguous` — so the outcome is free of the cut
        exactly when `verdict s n` is the same for all those `n`;
    (4) `segmentationFree_of_plain` — which it is for a response that leaves the
        reads no choice, by its bytes.
-/
import DefoldSSE.Pool.Response

namespace DefoldSSE

open CLib

/-! ## §1. Reads that succeed. -/

/-- The passes over successive reads, then the end of the stream. -/
def readPieces (r : Reader) (a : Adapter) : List Bytes → Option String × Adapter
  | [] => (none, a)
  | received :: pieces =>
      match onData r a received with
      | (.returns error, a) => (error, a)
      | (.goesOn r, a) => readPieces r a pieces

/-- What `SSEDM_ReadResponse` receives: these pieces, then the end of the stream. -/
def reads (pieces : List Bytes) : List Receive := pieces.map .data ++ [.data []]

theorem readResponse_reads (resultToString : SocketResult → String) (pieces : List Bytes)
    (hne : ∀ p ∈ pieces, p ≠ []) :
    ∀ (s : StopFlag) (r : Reader) (a : Adapter), s.raisedAt = none →
      (readResponse resultToString s r a (reads pieces)).map (fun x => (x.1, x.2.1))
        = some (readPieces r a pieces) := by
  have hquiet : ∀ s : StopFlag, s.raisedAt = none → s.raised = false := by
    intro s hs
    simp [StopFlag.raised, hs]
  induction pieces with
  | nil =>
    intro s r a hs
    simp [reads, readResponse, readPieces, hquiet s hs]
  | cons p pieces ih =>
    intro s r a hs
    obtain ⟨c, p, rfl⟩ := List.exists_cons_of_ne_nil (hne p List.mem_cons_self)
    have hcons : reads ((c :: p) :: pieces) = .data (c :: p) :: reads pieces := rfl
    rw [hcons, readResponse, readPieces, hquiet s hs]
    simp only [Bool.false_eq_true, if_false]
    cases onData r a (c :: p) with
    | mk pass a' =>
      cases pass with
      | returns error => rfl
      | goesOn r' =>
          exact ih (fun q hq => hne q (List.mem_cons_of_mem _ hq)) s.next r' a' hs

/-! ## §2. The body. -/

/-- The error and the adapter. -/
def finish (x : Option String × SSEDMChunkDecoder × Adapter) : Option String × Adapter :=
  (x.1, x.2.2)

/-- After the last chunk, every read ends the response. -/
theorem feedBody_done (a : Adapter) {d : SSEDMChunkDecoder} (h : d.state = .done) (data : Bytes) :
    feedBody a true d data = (none, d, a) := by
  unfold feedBody
  split
  · rfl
  · exact feedChunkedBody_done a d h data

/-- **Once the headers are done, only the bytes count.** -/
theorem readPieces_body (pieces : List Bytes) :
    ∀ (r : Reader) (a : Adapter), r.headersDone = true →
      readPieces r a pieces = finish (feedBody a r.chunked r.decoder pieces.flatten) := by
  induction pieces with
  | nil => intro r a _; rfl
  | cons p pieces ih =>
    intro r a hr
    have hpass : onData r a p = onBody r a p := by
      unfold onData
      rw [if_pos hr]
    rw [readPieces, hpass, List.flatten_cons, feedBody_append]
    unfold onBody
    cases feedBody a r.chunked r.decoder p with
    | mk error rest =>
      obtain ⟨d, a'⟩ := rest
      cases error with
      | some error => rfl
      | none =>
          show (match (if r.chunked && d.state == .done then (Pass.returns none, a')
            else (.goesOn { r with headerBuffer := [], decoder := d }, a')) with
            | (.returns error, a) => (error, a)
            | (.goesOn r, a) => readPieces r a pieces)
              = finish (feedBody a' r.chunked d pieces.flatten)
          by_cases hdone : (r.chunked && d.state == .done) = true
          · rw [if_pos hdone]
            obtain ⟨hchunked, hstate⟩ := Bool.and_eq_true_iff.mp hdone
            rw [hchunked, feedBody_done a' (eq_of_beq hstate)]
            rfl
          · rw [if_neg hdone]
            exact ih { r with headerBuffer := [], decoder := d } a' hr

/-- The whole of a response whose headers are known. -/
def respond (a : Adapter) (headers body : Bytes) : Option String × Adapter :=
  match parseResponseHeaders headers with
  | none => (some "invalid HTTP response", a.setStatus 0)
  | some (status, chunked) =>
      if status < 200 ∨ status ≥ 300 then
        (some ("SSE request failed with HTTP status " ++ toString status), a.setStatus status)
      else finish (feedBody (a.setStatus status).openConnection chunked {} body)

/-- The pass that completes the headers and the reads after it. -/
theorem onHeaders_respond (a : Adapter) (headers body : Bytes) (pieces : List Bytes) :
    (match onHeaders a headers body with
      | (.returns error, a) => (error, a)
      | (.goesOn r, a) => readPieces r a pieces)
      = respond a headers (body ++ pieces.flatten) := by
  unfold onHeaders respond
  cases parseResponseHeaders headers with
  | none => rfl
  | some parsed =>
      obtain ⟨status, chunked⟩ := parsed
      simp only
      by_cases hstatus : status < 200 ∨ status ≥ 300
      · rw [if_pos hstatus, if_pos hstatus]
      · rw [if_neg hstatus, if_neg hstatus]
        have hdone : ({ headersDone := true, chunked := chunked } : Reader).headersDone = true := rfl
        by_cases hbody : body = []
        · rw [if_pos hbody, hbody]
          exact readPieces_body pieces _ _ hdone
        · rw [if_neg hbody]
          exact readPieces_body (body :: pieces) _ _ hdone

/-! ## §3. The read that completes the headers. -/

/-- The outcome when the headers of the response `s` are judged after `n` bytes. -/
def verdict (a : Adapter) (s : Bytes) (n : Nat) : Option String × Adapter :=
  if n > 65536 then (some headersTooLarge, a)
  else
    match findHeaderEnd (s.take n) with
    | none => (none, a)
    | some (headerEnd, delimiterSize) =>
        respond a (s.take headerEnd) (s.drop (headerEnd + delimiterSize))

/-- The reader while it collects headers. -/
def collecting (b : Bytes) : Reader := { headerBuffer := b }

theorem onData_collecting (a : Adapter) (b p : Bytes) :
    onData (collecting b) a p
      = if (b ++ p).length > 65536 then (.returns (some headersTooLarge), a)
        else
          match findHeaderEnd (b ++ p) with
          | none => (.goesOn (collecting (b ++ p)), a)
          | some (headerEnd, delimiterSize) =>
              onHeaders a ((b ++ p).take headerEnd) ((b ++ p).drop (headerEnd + delimiterSize)) :=
  rfl

/-- A read that leaves the headers incomplete is collected. -/
theorem readPieces_collect (a : Adapter) (b p : Bytes) (pieces : List Bytes)
    (hcap : (b ++ p).length ≤ 65536) (hend : findHeaderEnd (b ++ p) = none) :
    readPieces (collecting b) a (p :: pieces) = readPieces (collecting (b ++ p)) a pieces := by
  rw [readPieces, onData_collecting, if_neg (by omega), hend]

/-- The bound on an index into the response. -/
theorem findHeaderEnd_le {s : Bytes} {h d : Nat} (hfind : findHeaderEnd s = some (h, d)) :
    h + d ≤ s.length := by
  unfold findHeaderEnd at hfind
  split at hfind
  · next i hi =>
      cases hfind
      exact find_le hi
  · split at hfind
    · next i hi =>
        cases hfind
        exact find_le hi
    · cases hfind

/-- Any other read decides. -/
theorem readPieces_decide (a : Adapter) (b p : Bytes) (pieces : List Bytes)
    (h : (b ++ p).length ≤ 65536 → findHeaderEnd (b ++ p) ≠ none) :
    readPieces (collecting b) a (p :: pieces)
      = verdict a (b ++ (p :: pieces).flatten) (b ++ p).length := by
  have hsplit : b ++ (p :: pieces).flatten = (b ++ p) ++ pieces.flatten := by simp
  have htake : ((b ++ p) ++ pieces.flatten).take (b ++ p).length = b ++ p := List.take_left
  rw [hsplit]
  unfold verdict
  rw [htake, readPieces, onData_collecting]
  by_cases hcap : (b ++ p).length > 65536
  · rw [if_pos hcap, if_pos hcap]
  · rw [if_neg hcap, if_neg hcap]
    obtain ⟨⟨headerEnd, size⟩, hfind⟩ := Option.ne_none_iff_exists'.mp (h (by omega))
    have hle := findHeaderEnd_le hfind
    rw [hfind]
    show (match onHeaders a ((b ++ p).take headerEnd) ((b ++ p).drop (headerEnd + size)) with
      | (.returns error, a) => (error, a)
      | (.goesOn r, a) => readPieces r a pieces) = _
    rw [onHeaders_respond]
    generalize b ++ p = x at hle
    show _ = respond a ((x ++ pieces.flatten).take headerEnd)
      ((x ++ pieces.flatten).drop (headerEnd + size))
    rw [List.take_append_of_le_length (by omega), List.drop_append_of_le_length hle]

/-- **Every cut ends in a verdict**, after at most one read beyond a point where
the headers were still incomplete. -/
theorem readPieces_eq_verdict (a : Adapter) (pieces : List Bytes) :
    ∀ b : Bytes, (∀ p ∈ pieces, p.length ≤ 8192) → b.length ≤ 65536 → findHeaderEnd b = none →
      ∃ m n, readPieces (collecting b) a pieces = verdict a (b ++ pieces.flatten) n
        ∧ n ≤ (b ++ pieces.flatten).length ∧ n ≤ m + 8192 ∧ m ≤ n ∧ m ≤ 65536
        ∧ findHeaderEnd ((b ++ pieces.flatten).take m) = none
        ∧ (n = (b ++ pieces.flatten).length ∨ n > 65536
            ∨ findHeaderEnd ((b ++ pieces.flatten).take n) ≠ none) := by
  induction pieces with
  | nil =>
    intro b _ hcap hend
    refine ⟨b.length, b.length, ?_, by simp, by omega, Nat.le_refl _, hcap, ?_, .inl (by simp)⟩
    · unfold verdict
      rw [if_neg (by omega), List.flatten_nil, List.append_nil, List.take_length, hend]
      rfl
    · rw [List.flatten_nil, List.append_nil, List.take_length, hend]
  | cons p pieces ih =>
    intro b hread hcap hend
    have hp := hread p List.mem_cons_self
    have hsplit : b ++ (p :: pieces).flatten = (b ++ p) ++ pieces.flatten := by simp
    by_cases h : (b ++ p).length ≤ 65536 ∧ findHeaderEnd (b ++ p) = none
    · rw [readPieces_collect a b p pieces h.1 h.2, hsplit]
      exact ih (b ++ p) (fun q hq => hread q (List.mem_cons_of_mem _ hq)) h.1 h.2
    · have hdecide : (b ++ p).length ≤ 65536 → findHeaderEnd (b ++ p) ≠ none :=
        fun hle hnone => h ⟨hle, hnone⟩
      have htake : (b ++ (p :: pieces).flatten).take (b ++ p).length = b ++ p := by
        rw [hsplit, List.take_left]
      refine ⟨b.length, (b ++ p).length, readPieces_decide a b p pieces hdecide, ?_, ?_, ?_, hcap,
        ?_, ?_⟩
      · rw [hsplit, @List.length_append _ (b ++ p)]
        omega
      · rw [List.length_append]
        omega
      · rw [List.length_append]
        omega
      · rw [List.take_left, hend]
      · rw [htake]
        by_cases hle : (b ++ p).length ≤ 65536
        · exact .inr (.inr (hdecide hle))
        · exact .inr (.inl (by omega))

/-! ## §4. The earliest end of the headers. -/

/-- The delimiter that is complete first, byte by byte: its index and its
size. -/
def earliestEnd (s : Bytes) : Option (Nat × Nat) :=
  match find [CR, LF, CR, LF] s, find [LF, LF] s with
  | some i, some j => if i + 4 ≤ j + 2 then some (i, 4) else some (j, 2)
  | some i, none => some (i, 4)
  | none, some j => some (j, 2)
  | none, none => none

theorem findHeaderEnd_take (s : Bytes) (n : Nat) :
    findHeaderEnd (s.take n)
      = match (find [CR, LF, CR, LF] s).filter (fun i => i + 4 ≤ n) with
        | some i => some (i, 4)
        | none =>
            match (find [LF, LF] s).filter (fun j => j + 2 ≤ n) with
            | some j => some (j, 2)
            | none => none := by
  unfold findHeaderEnd
  rw [find_take (by simp), find_take (by simp)]
  rfl

/-- Without a delimiter, no read completes the headers. -/
theorem findHeaderEnd_take_of_none {s : Bytes} (h : earliestEnd s = none) (n : Nat) :
    findHeaderEnd (s.take n) = none := by
  rw [findHeaderEnd_take]
  unfold earliestEnd at h
  split at h
  · split at h <;> cases h
  · cases h
  · cases h
  · next hc hl => rw [hc, hl]; rfl

/-- **Which delimiter a read finds**: none before the earliest is complete; then
the first CRLFCRLF once that is complete too, and until then the earliest. -/
theorem findHeaderEnd_take_of_some {s : Bytes} {h d : Nat} (hs : earliestEnd s = some (h, d))
    (n : Nat) :
    findHeaderEnd (s.take n)
      = if n < h + d then none
        else
          match (find [CR, LF, CR, LF] s).filter (fun i => i + 4 ≤ n) with
          | some i => some (i, 4)
          | none => some (h, d) := by
  rw [findHeaderEnd_take]
  unfold earliestEnd at hs
  split at hs
  · next i j hc hl =>
      rw [hc, hl]
      simp only [Option.filter_some, decide_eq_true_eq]
      by_cases hij : i + 4 ≤ j + 2
      · rw [if_pos hij] at hs
        cases hs
        by_cases hn : n < h + 4
        · rw [if_pos hn, if_neg (by omega), if_neg (by omega)]
        · rw [if_neg hn, if_pos (by omega)]
      · rw [if_neg hij] at hs
        cases hs
        by_cases hn : n < h + 2
        · rw [if_pos hn, if_neg (by omega), if_neg (by omega)]
        · rw [if_neg hn, if_pos (c := h + 2 ≤ n) (by omega)]
  · next i hc hl =>
      rw [hc, hl]
      cases hs
      simp only [Option.filter_some, decide_eq_true_eq, Option.filter_none]
      by_cases hn : n < h + 4
      · rw [if_pos hn, if_neg (by omega)]
      · rw [if_neg hn, if_pos (by omega)]
  · next j hc hl =>
      rw [hc, hl]
      cases hs
      simp only [Option.filter_some, decide_eq_true_eq, Option.filter_none]
      by_cases hn : n < h + 2
      · rw [if_pos hn, if_neg (by omega)]
      · rw [if_neg hn, if_pos (by omega)]
  · cases hs

/-- The earliest delimiter lies within the response. -/
theorem earliestEnd_le {s : Bytes} {h d : Nat} (hs : earliestEnd s = some (h, d)) :
    1 ≤ d ∧ h + d ≤ s.length := by
  unfold earliestEnd at hs
  split at hs
  · next i j hc hl =>
      have hi := find_le hc
      have hj := find_le hl
      simp only [List.length_cons, List.length_nil] at hi hj
      split at hs <;> cases hs <;> omega
  · next i hc hl =>
      have hi := find_le hc
      cases hs
      simpa using hi
  · next j hc hl =>
      have hj := find_le hl
      cases hs
      simpa using hj
  · cases hs

/-- What has no delimiter had none before. -/
theorem findHeaderEnd_prefix_none {x y : Bytes} (h : findHeaderEnd (x ++ y) = none) :
    findHeaderEnd x = none := by
  have htake : x = (x ++ y).take x.length := List.take_left.symm
  rw [htake]
  cases he : earliestEnd (x ++ y) with
  | none => exact findHeaderEnd_take_of_none he _
  | some hd =>
      obtain ⟨i, d⟩ := hd
      obtain ⟨-, hle⟩ := earliestEnd_le he
      have hall := findHeaderEnd_take_of_some he (x ++ y).length
      rw [List.take_length, h, if_neg (by omega)] at hall
      split at hall <;> cases hall

/-! ## §5. Every verdict in reach. -/

/-- `pieces` cut the response `s` into reads of at most 8192 bytes. -/
structure IsCut (s : Bytes) (pieces : List Bytes) : Prop where
  whole : pieces.flatten = s
  read : ∀ p ∈ pieces, 1 ≤ p.length ∧ p.length ≤ 8192

/-- The reads of a response one byte at a time. -/
def singles (x : Bytes) : List Bytes := x.map (fun c => [c])

theorem singles_flatten (x : Bytes) : (singles x).flatten = x := by
  induction x with
  | nil => rfl
  | cons c x ih =>
    show [c] ++ (singles x).flatten = c :: x
    rw [ih]
    rfl

theorem length_of_mem_singles {x p : Bytes} (h : p ∈ singles x) : p.length = 1 := by
  obtain ⟨c, -, rfl⟩ := List.mem_map.mp h
  rfl

/-- Reading byte by byte while the headers are incomplete. -/
theorem readPieces_singles (a : Adapter) (pieces : List Bytes) (x : Bytes) :
    ∀ b : Bytes, (b ++ x).length ≤ 65536 → findHeaderEnd (b ++ x) = none →
      readPieces (collecting b) a (singles x ++ pieces)
        = readPieces (collecting (b ++ x)) a pieces := by
  induction x with
  | nil =>
    intro b _ _
    rw [List.append_nil]
    rfl
  | cons c x ih =>
    intro b hcap hend
    have hsplit : b ++ c :: x = (b ++ [c]) ++ x := by simp
    rw [hsplit] at hcap hend ⊢
    have hlen : (b ++ [c]).length ≤ 65536 := by
      rw [@List.length_append _ (b ++ [c])] at hcap
      omega
    have hpre : findHeaderEnd (b ++ [c]) = none := findHeaderEnd_prefix_none hend
    show readPieces (collecting b) a ([c] :: (singles x ++ pieces)) = _
    rw [readPieces_collect a b [c] _ hlen hpre]
    exact ih (b ++ [c]) hcap hend

/-- **Every point that one read can reach is where some cut decides.** -/
theorem exists_cut (a : Adapter) {s : Bytes} {h d n : Nat} (hs : earliestEnd s = some (h, d))
    (hcap : h + d ≤ 65536) (hlo : h + d ≤ n) (hhi : n ≤ min s.length (h + d + 8191)) :
    ∃ pieces, IsCut s pieces ∧ readPieces {} a pieces = verdict a s n := by
  obtain ⟨hd, hle⟩ := earliestEnd_le hs
  have hread : s.take n = s.take (h + d - 1) ++ (s.take n).drop (h + d - 1) := by
    have hpre : s.take (h + d - 1) = (s.take n).take (h + d - 1) := by
      rw [List.take_take]
      congr 1
      omega
    rw [hpre, List.take_append_drop]
  have hlen : ((s.take n).drop (h + d - 1)).length = n - (h + d - 1) := by
    rw [List.length_drop, List.length_take]
    omega
  have hwhole : (singles (s.take (h + d - 1))
      ++ (s.take n).drop (h + d - 1) :: singles (s.drop n)).flatten = s := by
    rw [List.flatten_append, List.flatten_cons, singles_flatten, singles_flatten,
      ← List.append_assoc, ← hread, List.take_append_drop]
  refine ⟨_, ⟨hwhole, ?_⟩, ?_⟩
  · intro p hp
    rcases List.mem_append.mp hp with hp | hp
    · rw [length_of_mem_singles hp]
      omega
    · rcases List.mem_cons.mp hp with rfl | hp
      · rw [hlen]
        omega
      · rw [length_of_mem_singles hp]
        omega
  · -- byte by byte up to the last byte of the delimiter, then one read up to `n`
    have hnone : findHeaderEnd (s.take (h + d - 1)) = none := by
      rw [findHeaderEnd_take_of_some hs, if_pos (by omega)]
    have hstart : readPieces {} a (singles (s.take (h + d - 1))
          ++ (s.take n).drop (h + d - 1) :: singles (s.drop n))
        = readPieces (collecting (s.take (h + d - 1))) a
            ((s.take n).drop (h + d - 1) :: singles (s.drop n)) :=
      readPieces_singles a _ _ [] (by rw [List.nil_append, List.length_take]; omega) hnone
    rw [hstart, readPieces_decide, ← hread]
    · congr 1
      · rw [List.flatten_cons, singles_flatten, ← List.append_assoc, ← hread,
          List.take_append_drop]
      · rw [List.length_take]
        omega
    · intro _
      rw [← hread, findHeaderEnd_take_of_some hs, if_neg (by omega)]
      split <;> simp

/-! ## §6. Outcomes. -/

/-- What the caller and the queue see of a response. -/
structure Outcome where
  returnsTrue : Bool
  status : Int
  opens : List (SSEEvent × Bool)
  calls : List ParserCall
  lastEventId : Option CString
  deriving DecidableEq

/-- The outcome of an attempt that ended in `x`. -/
def outcomeOf (x : Option String × Adapter) : Outcome where
  returnsTrue := x.1.isNone
  status := x.2.conn.status
  opens := Adapter.openPushes x.2.trace
  calls := Adapter.parserCalls x.2.trace
  lastEventId := x.2.conn.lastEventId

/-- What a body does, decoded from a fresh decoder. -/
def bodyEffect (a : Adapter) (chunked : Bool) (body : Bytes) :
    Bool × List ParserCall × Option CString :=
  let r := feedBody a chunked {} body
  (r.1.isNone, Adapter.parserCalls r.2.2.trace, r.2.2.conn.lastEventId)

/-- Two readings of the response, as headers and a body: the status is refused,
or the two bodies do the same. -/
def SameReading (a : Adapter) (headers body headers' body' : Bytes) : Prop :=
  ∀ status chunked chunked',
    parseResponseHeaders headers = some (status, chunked) →
    parseResponseHeaders headers' = some (status, chunked') →
    accepted status →
    bodyEffect (a.setStatus status).openConnection chunked body
      = bodyEffect (a.setStatus status).openConnection chunked' body'

/-- An accepted response keeps its status and pushes its one OPEN. -/
theorem outcomeOf_finish (a : Adapter) (chunked : Bool) (body : Bytes) :
    outcomeOf (finish (feedBody a chunked {} body))
      = { returnsTrue := (bodyEffect a chunked body).1
          status := a.conn.status
          opens := Adapter.openPushes a.trace
          calls := (bodyEffect a chunked body).2.1
          lastEventId := (bodyEffect a chunked body).2.2 } := by
  have hopen := feedBody_opening a chunked {} body
  have hstatus : (feedBody a chunked {} body).2.2.conn.status = a.conn.status :=
    congrArg (fun o => o.1) hopen
  have hopens : Adapter.openPushes (feedBody a chunked {} body).2.2.trace
      = Adapter.openPushes a.trace := congrArg (fun o => o.2.2) hopen
  unfold outcomeOf finish bodyEffect
  simp only [hstatus, hopens]

/-- The same status line, the same outcome exactly when the readings agree. -/
theorem outcome_respond_iff (a : Adapter) {headers body headers' body' : Bytes}
    (hline : (parseResponseHeaders headers).map Prod.fst
      = (parseResponseHeaders headers').map Prod.fst) :
    outcomeOf (respond a headers body) = outcomeOf (respond a headers' body')
      ↔ SameReading a headers body headers' body' := by
  unfold respond SameReading
  cases h : parseResponseHeaders headers with
  | none =>
      rw [h] at hline
      rw [Option.map_eq_none_iff.mp hline.symm]
      simp
  | some parsed =>
      obtain ⟨status, chunked⟩ := parsed
      rw [h] at hline
      obtain ⟨⟨status', chunked'⟩, h', hst⟩ := Option.map_eq_some_iff.mp hline.symm
      obtain rfl : status' = status := hst
      rw [h']
      simp only [Option.some.injEq, Prod.mk.injEq]
      by_cases hbad : status' < 200 ∨ status' ≥ 300
      · rw [if_pos hbad, if_pos hbad]
        refine iff_of_true rfl ?_
        rintro st c c' ⟨rfl, rfl⟩ ⟨-, rfl⟩ ⟨hlo, hhi⟩
        omega
      · rw [if_neg hbad, if_neg hbad, outcomeOf_finish, outcomeOf_finish]
        constructor
        · rintro h st c c' ⟨rfl, rfl⟩ ⟨-, rfl⟩ -
          exact Prod.ext (congrArg Outcome.returnsTrue h)
            (Prod.ext (congrArg Outcome.calls h) (congrArg Outcome.lastEventId h))
        · intro h
          rw [h status' chunked chunked' ⟨rfl, rfl⟩ ⟨rfl, rfl⟩ ⟨by omega, by omega⟩]

/-- The cap's outcome is a response's outcome only if that has no status, or
status 0. -/
theorem outcome_headersTooLarge_iff (conn : SSEDesktopConnection) (queue : QueueAnswers)
    (headers body : Bytes) :
    outcomeOf (respond (Adapter.start conn queue) headers body)
        = outcomeOf (some headersTooLarge, Adapter.start conn queue)
      ↔ ∀ status chunked, parseResponseHeaders headers = some (status, chunked) → status = 0 := by
  unfold respond
  cases parseResponseHeaders headers with
  | none => exact iff_of_true rfl (by simp)
  | some parsed =>
      obtain ⟨status, chunked⟩ := parsed
      have hzero : (∀ st c, some (status, chunked) = some (st, c) → st = 0) ↔ status = 0 := by
        simp
      rw [hzero]
      simp only
      by_cases hbad : status < 200 ∨ status ≥ 300
      · rw [if_pos hbad]
        constructor
        · intro h
          exact congrArg Outcome.status h
        · intro h
          rw [h]
          rfl
      · rw [if_neg hbad, outcomeOf_finish]
        constructor
        · intro h
          exact congrArg Outcome.status h
        · intro h
          omega

/-! ## §7. When the cut does not matter. -/

/-- An LFLF that is complete before the first CRLFCRLF lies wholly before it. -/
theorem lflf_before_crlf {s : Bytes} {i j : Nat} (hc : find [CR, LF, CR, LF] s = some i)
    (hl : find [LF, LF] s = some j) (h : j + 2 < i + 4) : j ≤ i := by
  obtain ⟨-, hcr, -⟩ := find_eq_some_iff.mp hc
  obtain ⟨-, hlf, -⟩ := find_eq_some_iff.mp hl
  by_contra hlt
  have hj : j = i + 1 := by omega
  subst hj
  obtain ⟨t, ht⟩ := hcr
  rw [← List.drop_drop, ← ht] at hlf
  revert hlf
  simp
  decide

/-- Headers that reach beyond the first LF have the response's first line. -/
theorem takeWhile_take {s : Bytes} {j : Nat} (hl : find [LF, LF] s = some j) {n : Nat}
    (hn : j ≤ n) : (s.take n).takeWhile (· != LF) = s.takeWhile (· != LF) := by
  obtain ⟨-, ⟨t, ht⟩, -⟩ := find_eq_some_iff.mp hl
  have hlen : (s.takeWhile (· != LF)).length ≤ j := by
    have hsplit : s = s.take j ++ LF :: (LF :: t) := by
      show s = s.take j ++ ([LF, LF] ++ t)
      rw [ht, List.take_append_drop]
    rw [hsplit, List.takeWhile_append]
    split
    · have hstop : (LF :: (LF :: t)).takeWhile (· != LF) = [] :=
        List.takeWhile_cons_of_neg (by simp)
      rw [hstop, List.append_nil, List.length_take]
      omega
    · have hpre := (List.takeWhile_prefix (l := s.take j) (· != LF)).length_le
      rw [List.length_take] at hpre
      omega
  rw [← List.take_takeWhile, List.take_of_length_le (by omega)]

/-- The status line is in both headers. -/
theorem status_eq {s : Bytes} {i j : Nat} (hc : find [CR, LF, CR, LF] s = some i)
    (hl : find [LF, LF] s = some j) (h : j + 2 < i + 4) :
    (parseResponseHeaders (s.take j)).map Prod.fst
      = (parseResponseHeaders (s.take i)).map Prod.fst := by
  have hji := lflf_before_crlf hc hl h
  unfold parseResponseHeaders
  rw [takeWhile_take hl (Nat.le_refl j), takeWhile_take hl hji]
  simp only
  cases scanStatus (CString.read (trimTrailingCR (s.takeWhile (· != LF)))).bytes with
  | none => rfl
  | some status => rfl

/-- `SSEDM_ReadResponse` on the response `s` has one outcome, whatever the cut. -/
def SegmentationFree (resultToString : SocketResult → String) (a : Adapter) (s : Bytes) : Prop :=
  ∃ o, ∀ pieces, IsCut s pieces →
    (readResponse resultToString {} {} a (reads pieces)).map (fun x => outcomeOf (x.1, x.2.1))
      = some o

/-- The response leaves no choice to the read that completes its headers: a
delimiter of size `d` at `h` is complete first, and no read that takes it
- goes beyond the cap, unless there is no status or status 0 anyway;
- takes a CRLFCRLF as well, unless the response reads the same from there. -/
structure Unambiguous (a : Adapter) (s : Bytes) (h d : Nat) : Prop where
  cap : min s.length (h + d + 8191) ≤ 65536
    ∨ ∀ status chunked, parseResponseHeaders (s.take h) = some (status, chunked) → status = 0
  delimiter : ∀ i, find [CR, LF, CR, LF] s = some i → h + d < i + 4 → i + 4 ≤ h + d + 8191 →
    i + 4 ≤ 65536 → SameReading a (s.take h) (s.drop (h + d)) (s.take i) (s.drop (i + 4))

section Segmentation

variable (resultToString : SocketResult → String) (conn : SSEDesktopConnection)
  (queue : QueueAnswers) (s : Bytes)

/-- The outcome of a cut, as the passes compute it. -/
theorem readResponse_cut (a : Adapter) {pieces : List Bytes} (h : IsCut s pieces) :
    (readResponse resultToString {} {} a (reads pieces)).map (fun x => outcomeOf (x.1, x.2.1))
      = some (outcomeOf (readPieces {} a pieces)) := by
  have hne : ∀ p ∈ pieces, p ≠ [] := by
    intro p hp hnil
    have := (h.read p hp).1
    rw [hnil] at this
    exact absurd this (by simp)
  have hrun := readResponse_reads resultToString pieces hne {} {} a rfl
  rw [← Option.map_some, ← hrun, Option.map_map]
  rfl

/-- Where a cut decides. -/
theorem cut_verdict (a : Adapter) {pieces : List Bytes} (h : IsCut s pieces) :
    ∃ m n, readPieces {} a pieces = verdict a s n ∧ n ≤ s.length ∧ n ≤ m + 8192 ∧ m ≤ n
      ∧ m ≤ 65536 ∧ findHeaderEnd (s.take m) = none
      ∧ (n = s.length ∨ n > 65536 ∨ findHeaderEnd (s.take n) ≠ none) := by
  have hrun := readPieces_eq_verdict a pieces [] (fun p hp => (h.read p hp).2) (by simp) (by decide)
  rw [h.whole, List.nil_append] at hrun
  exact hrun

/-- Without a delimiter within the cap, every cut ends the same. -/
theorem segmentationFree_of_no_end (a : Adapter)
    (h : ∀ n ≤ 65536, findHeaderEnd (s.take n) = none) : SegmentationFree resultToString a s := by
  have hverdict : ∀ n, (n = s.length ∨ n > 65536) → n ≤ s.length →
      verdict a s n = if s.length > 65536 then (some headersTooLarge, a) else (none, a) := by
    intro n hn hle
    unfold verdict
    by_cases hcap : n > 65536
    · rw [if_pos hcap, if_pos (by omega)]
    · rw [if_neg hcap, if_neg (by omega), h n (by omega)]
  refine ⟨outcomeOf (if s.length > 65536 then (some headersTooLarge, a) else (none, a)), ?_⟩
  intro pieces hcut
  obtain ⟨m, n, hrun, hle, -, -, -, -, hn⟩ := cut_verdict s a hcut
  have hend : n = s.length ∨ n > 65536 := by
    rcases hn with hn | hn | hn
    · exact .inl hn
    · exact .inr hn
    · by_contra hno
      exact hn (h n (by omega))
  rw [readResponse_cut resultToString s a hcut, hrun, hverdict n hend hle]

/-- With one, the cuts are the points one read can reach. -/
theorem segmentationFree_iff_verdicts (a : Adapter) {h d : Nat}
    (hs : earliestEnd s = some (h, d)) (hcap : h + d ≤ 65536) :
    SegmentationFree resultToString a s
      ↔ ∀ n, h + d ≤ n → n ≤ min s.length (h + d + 8191) →
          outcomeOf (verdict a s n) = outcomeOf (verdict a s (h + d)) := by
  obtain ⟨hd, hle⟩ := earliestEnd_le hs
  have hfind := findHeaderEnd_take_of_some hs
  constructor
  · rintro ⟨o, ho⟩ n hlo hhi
    have hpoint : ∀ k, h + d ≤ k → k ≤ min s.length (h + d + 8191) →
        outcomeOf (verdict a s k) = o := by
      intro k hk hk'
      obtain ⟨pieces, hcut, hrun⟩ := exists_cut a hs hcap hk hk'
      have hout := ho pieces hcut
      rw [readResponse_cut resultToString s a hcut, hrun] at hout
      exact Option.some.inj hout
    rw [hpoint n hlo hhi, hpoint (h + d) (Nat.le_refl _) (by omega)]
  · intro hall
    refine ⟨outcomeOf (verdict a s (h + d)), fun pieces hcut => ?_⟩
    obtain ⟨m, n, hrun, hn, hread, -, -, hm, hend⟩ := cut_verdict s a hcut
    -- before the last read the delimiter was incomplete, after it complete
    have hm' : m < h + d := by
      by_contra hlt
      rw [hfind, if_neg hlt] at hm
      split at hm <;> cases hm
    have hn' : h + d ≤ n := by
      rcases hend with hend | hend | hend
      · omega
      · omega
      · by_contra hlt
        exact hend (by rw [hfind, if_pos (by omega)])
    rw [readResponse_cut resultToString s a hcut, hrun, hall n hn' (by omega)]

/-- The earliest delimiter and the first CRLFCRLF. -/
theorem earliestEnd_crlf {s : Bytes} {h d i : Nat} (hs : earliestEnd s = some (h, d))
    (hc : find [CR, LF, CR, LF] s = some i) :
    (i + 4 ≤ h + d → h = i ∧ d = 4) ∧ (h + d < i + 4 → d = 2 ∧ find [LF, LF] s = some h) := by
  unfold earliestEnd at hs
  rw [hc] at hs
  cases hl : find [LF, LF] s with
  | none =>
      rw [hl] at hs
      cases hs
      exact ⟨fun _ => ⟨rfl, rfl⟩, fun hlt => absurd hlt (Nat.lt_irrefl _)⟩
  | some j =>
      rw [hl] at hs
      simp only at hs
      split at hs
      · cases hs
        exact ⟨fun _ => ⟨rfl, rfl⟩, fun hlt => absurd hlt (Nat.lt_irrefl _)⟩
      · cases hs
        exact ⟨fun hle => by omega, fun _ => ⟨rfl, rfl⟩⟩

/-- A read that takes no later CRLFCRLF judges by the earliest delimiter. -/
theorem verdict_early (a : Adapter) {s : Bytes} {h d n : Nat} (hs : earliestEnd s = some (h, d))
    (hlo : h + d ≤ n) (hcap : n ≤ 65536)
    (hearly : ∀ i, find [CR, LF, CR, LF] s = some i → i + 4 ≤ n → i + 4 ≤ h + d) :
    verdict a s n = respond a (s.take h) (s.drop (h + d)) := by
  unfold verdict
  rw [if_neg (by omega), findHeaderEnd_take_of_some hs, if_neg (by omega)]
  cases hc : find [CR, LF, CR, LF] s with
  | none => rfl
  | some i =>
      rw [Option.filter_some]
      by_cases hi : i + 4 ≤ n
      · obtain ⟨rfl, rfl⟩ := (earliestEnd_crlf hs hc).1 (hearly i hc hi)
        rw [if_pos (by simpa using hi)]
      · rw [if_neg (by simpa using hi)]

/-- A read that takes a CRLFCRLF judges by it. -/
theorem verdict_late (a : Adapter) {s : Bytes} {h d i n : Nat} (hs : earliestEnd s = some (h, d))
    (hlo : h + d ≤ n) (hcap : n ≤ 65536) (hc : find [CR, LF, CR, LF] s = some i)
    (hi : i + 4 ≤ n) : verdict a s n = respond a (s.take i) (s.drop (i + 4)) := by
  unfold verdict
  rw [if_neg (by omega), findHeaderEnd_take_of_some hs, if_neg (by omega), hc, Option.filter_some,
    if_pos (by simpa using hi)]

/-- The verdicts in reach agree exactly when the earliest delimiter is
unambiguous. -/
theorem verdicts_agree_iff {h d : Nat} (hs : earliestEnd s = some (h, d)) (hcap : h + d ≤ 65536) :
    (∀ n, h + d ≤ n → n ≤ min s.length (h + d + 8191) →
        outcomeOf (verdict (Adapter.start conn queue) s n)
          = outcomeOf (verdict (Adapter.start conn queue) s (h + d)))
      ↔ Unambiguous (Adapter.start conn queue) s h d := by
  have hlarge : ∀ n, n > 65536 → verdict (Adapter.start conn queue) s n
      = (some headersTooLarge, Adapter.start conn queue) := by
    intro n hn
    unfold verdict
    rw [if_pos hn]
  have hfirst : verdict (Adapter.start conn queue) s (h + d)
      = respond (Adapter.start conn queue) (s.take h) (s.drop (h + d)) :=
    verdict_early _ hs (Nat.le_refl _) hcap (fun _ _ hi => hi)
  have hsame : ∀ i, find [CR, LF, CR, LF] s = some i → h + d < i + 4 →
      (outcomeOf (respond (Adapter.start conn queue) (s.take h) (s.drop (h + d)))
          = outcomeOf (respond (Adapter.start conn queue) (s.take i) (s.drop (i + 4)))
        ↔ SameReading (Adapter.start conn queue) (s.take h) (s.drop (h + d)) (s.take i)
            (s.drop (i + 4))) := by
    intro i hc hlt
    obtain ⟨rfl, hl⟩ := (earliestEnd_crlf hs hc).2 hlt
    exact outcome_respond_iff _ (status_eq hc hl hlt)
  rw [hfirst]
  constructor
  · intro hall
    refine ⟨?_, fun i hc hlt hread hi => ?_⟩
    · by_cases hw : min s.length (h + d + 8191) ≤ 65536
      · exact .inl hw
      · -- one read can go beyond the cap
        have hout := hall 65537 (by omega) (by omega)
        rw [hlarge 65537 (by omega)] at hout
        exact .inr ((outcome_headersTooLarge_iff conn queue _ _).mp hout.symm)
    · have hle := find_le hc
      simp only [List.length_cons, List.length_nil] at hle
      have hout := hall (i + 4) (by omega) (by omega)
      rw [verdict_late _ hs (by omega) hi hc (Nat.le_refl _)] at hout
      exact (hsame i hc hlt).mp hout.symm
  · rintro ⟨hcap', hdelim⟩ n hlo hhi
    by_cases hn : n > 65536
    · rw [hlarge n hn]
      rcases hcap' with hw | hzero
      · omega
      · exact ((outcome_headersTooLarge_iff conn queue _ _).mpr hzero).symm
    · by_cases hlate : ∃ i, find [CR, LF, CR, LF] s = some i ∧ i + 4 ≤ n ∧ h + d < i + 4
      · obtain ⟨i, hc, hi, hlt⟩ := hlate
        rw [verdict_late _ hs hlo (by omega) hc hi]
        exact ((hsame i hc hlt).mpr (hdelim i hc hlt (by omega) (by omega))).symm
      · rw [verdict_early _ hs hlo (by omega)]
        intro i hc hi
        by_contra hgt
        exact hlate ⟨i, hc, hi, by omega⟩

/-- The outcome of a response is free of its segmentation exactly when the delimiter
that is complete first, if it is complete within the cap, is unambiguous. -/
theorem segmentationFree_iff_unambiguous :
    SegmentationFree resultToString (Adapter.start conn queue) s
      ↔ ∀ h d, earliestEnd s = some (h, d) → h + d ≤ 65536 →
          Unambiguous (Adapter.start conn queue) s h d := by
  cases hs : earliestEnd s with
  | none =>
      refine iff_of_true ?_ (fun h d hnone => by cases hnone)
      exact segmentationFree_of_no_end resultToString s _
        (fun n _ => findHeaderEnd_take_of_none hs n)
  | some hd =>
    obtain ⟨h, d⟩ := hd
    by_cases hcap : h + d ≤ 65536
    · rw [segmentationFree_iff_verdicts resultToString s _ hs hcap,
        verdicts_agree_iff conn queue s hs hcap]
      constructor
      · intro hun h' d' heq _
        cases heq
        exact hun
      · intro hall
        exact hall h d rfl hcap
    · refine iff_of_true ?_ (fun h' d' heq hcap' => ?_)
      · refine segmentationFree_of_no_end resultToString s _ (fun n hn => ?_)
        rw [findHeaderEnd_take_of_some hs, if_pos (by omega)]
      · cases heq
        exact absurd hcap' hcap

/-- No read that completes the headers goes beyond the cap, unless the response has
no status or status 0 anyway. -/
def WithinCap (s : Bytes) : Prop :=
  ∀ h d, earliestEnd s = some (h, d) → h + d ≤ 65536 →
    min s.length (h + d + 8191) ≤ 65536
      ∨ ∀ status chunked, parseResponseHeaders (s.take h) = some (status, chunked) → status = 0

/-- No read that completes the headers of an accepted response takes a later
CRLFCRLF as well. -/
def OneDelimiter (s : Bytes) : Prop :=
  ∀ h d i, earliestEnd s = some (h, d) → find [CR, LF, CR, LF] s = some i →
    h + d < i + 4 → i + 4 ≤ h + d + 8191 → i + 4 ≤ 65536 →
      ∀ status chunked, parseResponseHeaders (s.take h) = some (status, chunked) →
        ¬accepted status

/-- One cut takes the bytes before the delimiter that is complete first for the
headers, and another those before a later CRLFCRLF. -/
def ReadTwice (a : Adapter) (s : Bytes) : Prop :=
  ∃ h d i, earliestEnd s = some (h, d) ∧ h + d < i + 4
    ∧ (∃ pieces, IsCut s pieces ∧ readPieces {} a pieces = respond a (s.take h) (s.drop (h + d)))
    ∧ ∃ pieces, IsCut s pieces ∧ readPieces {} a pieces = respond a (s.take i) (s.drop (i + 4))

/-- **Where there is a second delimiter in reach, some cut takes it.** -/
theorem readTwice (a : Adapter) {h d i : Nat} (hs : earliestEnd s = some (h, d))
    (hc : find [CR, LF, CR, LF] s = some i) (hlt : h + d < i + 4) (hread : i + 4 ≤ h + d + 8191)
    (hcap : i + 4 ≤ 65536) : ReadTwice a s := by
  have hle := find_le hc
  simp only [List.length_cons, List.length_nil] at hle
  refine ⟨h, d, i, hs, hlt, ?_, ?_⟩
  · obtain ⟨pieces, hcut, hrun⟩ := exists_cut a hs (by omega) (Nat.le_refl _) (by omega)
    rw [verdict_early a hs (Nat.le_refl _) (by omega) (fun _ _ hi => hi)] at hrun
    exact ⟨pieces, hcut, hrun⟩
  · obtain ⟨pieces, hcut, hrun⟩ := exists_cut a hs (by omega) (n := i + 4) (by omega) (by omega)
    rw [verdict_late a hs (by omega) hcap hc (Nat.le_refl _)] at hrun
    exact ⟨pieces, hcut, hrun⟩

/-- **WHEN THE CUT DOES NOT MATTER.** Where no read goes beyond the cap and none
takes a second delimiter, the outcome of a response is free of its segmentation.
It is free of it only within the cap, and a second delimiter is one that some cut
takes. -/
theorem segmentationFree_of_plain :
    (WithinCap s ∧ OneDelimiter s → SegmentationFree resultToString (Adapter.start conn queue) s)
      ∧ (SegmentationFree resultToString (Adapter.start conn queue) s → WithinCap s)
      ∧ (¬OneDelimiter s → ReadTwice (Adapter.start conn queue) s) := by
  rw [segmentationFree_iff_unambiguous]
  refine ⟨?_, ?_, ?_⟩
  · rintro ⟨hcap, hone⟩ h d hs hend
    refine ⟨hcap h d hs hend, fun i hc hlt hread hi => ?_⟩
    intro status chunked _ hparsed _ haccepted
    exact absurd haccepted (hone h d i hs hc hlt hread hi status chunked hparsed)
  · intro hall h d hs hend
    exact (hall h d hs hend).cap
  · intro htwo
    by_contra hnot
    refine htwo fun h d i hs hc hlt hread hcap _ _ _ _ => hnot ?_
    exact readTwice s _ hs hc hlt hread hcap

end Segmentation

/-- Two header lines and a message. -/
theorem segmentationFree_of_plain_ok :
    SegmentationFree (fun _ => "") (Adapter.start {} ⟨fun _ => true, fun _ => true⟩)
      (ascii "HTTP/1.1 200 OK\r\nA: 1\r\n\r\ndata: a\r\n\r\n") := by
  have hend : earliestEnd (ascii "HTTP/1.1 200 OK\r\nA: 1\r\n\r\ndata: a\r\n\r\n") = some (21, 4) := by
    decide
  have hfind : find [CR, LF, CR, LF] (ascii "HTTP/1.1 200 OK\r\nA: 1\r\n\r\ndata: a\r\n\r\n")
      = some 21 := by
    decide
  refine (segmentationFree_of_plain _ _ _ _).1 ⟨fun h d hs _ => .inl ?_, fun h d i hs hc hlt => ?_⟩
  · rw [hend] at hs
    cases hs
    decide
  · rw [hend] at hs
    rw [hfind] at hc
    cases hs
    cases hc
    exact absurd hlt (by decide)

/-- An LFLF, then a CRLFCRLF in the body: a read that takes both loses the first
message, a read that ends between them does not. -/
theorem segmentation_matters :
    ¬ SegmentationFree (fun _ => "") (Adapter.start {} ⟨fun _ => true, fun _ => true⟩)
        (ascii "HTTP/1.1 200 OK\n\ndata: a\r\n\r\ndata: b\n\n") := by
  rintro ⟨o, ho⟩
  have hone := ho [ascii "HTTP/1.1 200 OK\n\ndata: a\r\n\r\ndata: b\n\n"]
    ⟨by decide, by decide⟩
  have htwo := ho [ascii "HTTP/1.1 200 OK\n\n", ascii "data: a\r\n\r\ndata: b\n\n"]
    ⟨by decide, by decide⟩
  have hcalls := congrArg (Option.map Outcome.calls) (hone.trans htwo.symm)
  revert hcalls
  decide +kernel

end DefoldSSE
