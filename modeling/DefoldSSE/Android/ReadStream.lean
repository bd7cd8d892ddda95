/-
  DefoldSSE.Android.ReadStream — `readStream` and `skipUntilNewline` of
  `SseClient.java`, over an okio source.

  Both loops search a window of `MAX_LINE_BYTES`; the buffer behind it may hold
  any more of the stream than that.  What they do does not depend on it:

      items (readStream s) = androidItems s.remaining

  A line is handed to `processLine`, or poisoned if it does not end within the
  window; its rest is then skipped, window by window, up to its newline.  The
  client is not stopped, and the source ends.
-/
import DefoldSSE.Android.Parser
import DefoldSSE.Lib.BufferedSource
import DefoldSSE.Parser.Stream

namespace DefoldSSE

open CLib EventStream Okio

/-! ## §1. `skipUntilNewline`. -/

/-- The skip of a window without a newline. -/
def skipWindow (s : BufferedSource UInt8) : Option (BufferedSource UInt8) :=
  if s.size.1 > 0 then s.size.2.skip (min s.size.1 maxLineBytes) else some s.size.2

/-- It skips within the window, and stays where it is only at the end. -/
theorem skipWindow_remaining {s t : BufferedSource UInt8} (h : skipWindow s = some t) :
    ∃ n, n ≤ maxLineBytes ∧ n ≤ s.remaining.length ∧ t.remaining = s.remaining.drop n
      ∧ (0 < s.buffered → 0 < n) := by
  have hgrows := s.buffered_le_size
  unfold skipWindow at h
  split at h
  · obtain ⟨hle, hremaining⟩ := BufferedSource.skip_remaining _ h
    refine ⟨_, Nat.min_le_right _ _, hle, hremaining, fun hpos => ?_⟩
    unfold maxLineBytes
    omega
  · obtain rfl := Option.some.inj h
    exact ⟨0, Nat.zero_le _, Nat.zero_le _, rfl, fun hpos => by omega⟩

theorem skipWindow_isSome (s : BufferedSource UInt8) : ∃ t, skipWindow s = some t := by
  have hle := s.size_le
  unfold skipWindow
  split
  · obtain ⟨t, hskip, -⟩ := s.size.2.skip_eq (n := min s.size.1 maxLineBytes) (by
      rw [BufferedSource.size_remaining]
      omega)
    exact ⟨t, hskip⟩
  · exact ⟨_, rfl⟩

/-- A window without a newline is not empty before the end of the stream. -/
theorem window_shorter {s t : BufferedSource UInt8}
    (hnone : (s.indexOf LF maxLineBytes).1 = none)
    (hskip : skipWindow (s.indexOf LF maxLineBytes).2 = some t)
    (hmore : (t.request 1).1 = true) :
    (t.request 1).2.remaining.length < s.remaining.length := by
  obtain ⟨-, hbuffered⟩ := s.indexOf_eq_none hnone
  obtain ⟨n, -, hle, hremaining, hpos⟩ := skipWindow_remaining hskip
  have hmore := (t.request_fst 1).mp hmore
  rw [BufferedSource.indexOf_remaining] at hle hremaining
  rw [BufferedSource.request_remaining]
  rw [hremaining, List.length_drop] at hmore ⊢
  have hwindow : 0 < maxLineBytes := by decide
  have hskipped : 0 < n := hpos (by omega)
  omega

/-- `skipUntilNewline`. -/
def skipUntilNewline (s : BufferedSource UInt8) : Option (Bool × BufferedSource UInt8) :=
  match _hindex : (s.indexOf LF maxLineBytes).1 with
  | some newline => ((s.indexOf LF maxLineBytes).2.skip (newline + 1)).map (fun t => (true, t))
  | none =>
      match _hskip : skipWindow (s.indexOf LF maxLineBytes).2 with
      | none => none
      | some t =>
          if _hmore : (t.request 1).1 = true then skipUntilNewline (t.request 1).2
          else some (false, (t.request 1).2)
termination_by s.remaining.length
decreasing_by exact window_shorter _hindex _hskip _hmore

/-- Without its part of a window without a newline, a stream has the same
newlines. -/
theorem drop_window {bytes : Bytes} {n : Nat} (hn : n ≤ maxLineBytes)
    (hnot : LF ∉ bytes.take maxLineBytes) :
    (LF ∈ bytes.drop n ↔ LF ∈ bytes)
      ∧ (bytes.drop n).dropWhile (· != LF) = bytes.dropWhile (· != LF) := by
  have hbefore : LF ∉ bytes.take n := fun hmem => hnot (List.take_subset_take_left bytes hn hmem)
  have hsplit := List.take_append_drop n bytes
  constructor
  · rw [← hsplit, List.mem_append, hsplit]
    exact ⟨.inr, fun h => h.resolve_left hbefore⟩
  · conv => rhs; rw [← hsplit, List.dropWhile_append_of_pos (bne_of_not_mem hbefore)]

/-- **What is skipped** is the rest of the line and its newline, or the rest of
the stream. -/
theorem skipUntilNewline_eq (s : BufferedSource UInt8) :
    ∃ t, skipUntilNewline s = some (decide (LF ∈ s.remaining), t)
      ∧ t.remaining = (s.remaining.dropWhile (· != LF)).drop 1 := by
  fun_induction skipUntilNewline s with
  | case1 s newline hindex =>
      obtain ⟨before, after, hsplit, hnot, hlength, -⟩ := s.indexOf_eq_some hindex
      obtain ⟨t, hskip, hremaining⟩ := (s.indexOf LF maxLineBytes).2.skip_eq (n := newline + 1) (by
        rw [BufferedSource.indexOf_remaining, hsplit, List.length_append, List.length_cons]
        omega)
      refine ⟨t, ?_, ?_⟩
      · rw [hskip, hsplit]
        simp
      · rw [hremaining, BufferedSource.indexOf_remaining, hsplit,
          dropWhile_bne hnot, ← hlength]
        simp
  | case2 s hindex hskip =>
      obtain ⟨t, ht⟩ := skipWindow_isSome (s.indexOf LF maxLineBytes).2
      rw [ht] at hskip
      cases hskip
  | case3 s hindex t hskip hmore ih =>
      obtain ⟨hnot, -⟩ := s.indexOf_eq_none hindex
      obtain ⟨n, hwindow, -, hremaining, -⟩ := skipWindow_remaining hskip
      rw [BufferedSource.indexOf_remaining] at hremaining
      obtain ⟨hmem, hdrop⟩ := drop_window hwindow hnot
      rw [BufferedSource.request_remaining, hremaining, hdrop] at ih
      rw [decide_eq_decide.mpr hmem] at ih
      exact ih
  | case4 s hindex t hskip hmore =>
      obtain ⟨hnot, -⟩ := s.indexOf_eq_none hindex
      obtain ⟨n, hwindow, -, hremaining, -⟩ := skipWindow_remaining hskip
      rw [BufferedSource.indexOf_remaining] at hremaining
      obtain ⟨hmem, hdrop⟩ := drop_window hwindow hnot
      -- nothing is left, so there was no newline
      have hnil : t.remaining = [] := by
        rw [t.request_fst 1] at hmore
        exact List.length_eq_zero_iff.mp (by omega)
      rw [hremaining] at hnil
      rw [hnil] at hmem hdrop
      refine ⟨(t.request 1).2, ?_, ?_⟩
      · rw [decide_eq_decide.mpr hmem.symm]
        rfl
      · rw [BufferedSource.request_remaining, hremaining, hnil, ← hdrop]
        rfl

/-! ## §2. `readStream`. -/

/-- The call for a line. -/
def SseStream.lineItem (readUtf8 : Bytes → Utf16) (s : SseStream) : LineItem → SseStream
  | .line line => s.readLine readUtf8 line
  | .oversize => s.poison "SSE line exceeded maximum buffer size"

/-- The parser and its client, and the calls that were made for lines. -/
structure ReadLoop where
  stream : SseStream
  items : List LineItem

def ReadLoop.call (readUtf8 : Bytes → Utf16) (loop : ReadLoop) (item : LineItem) : ReadLoop where
  stream := loop.stream.lineItem readUtf8 item
  items := loop.items ++ [item]

/-- `readUtf8(newline)` and `skip(1)`. -/
def readLineBytes (s : BufferedSource UInt8) (newline : Nat) :
    Option (Bytes × BufferedSource UInt8) :=
  (s.read newline).bind fun r => (r.2.skip 1).map fun t => (r.1, t)

/-- A line is read, with its newline. -/
theorem readLineBytes_eq {s : BufferedSource UInt8} {line rest : Bytes}
    (h : s.remaining = line ++ LF :: rest) :
    ∃ t, readLineBytes s line.length = some (line, t) ∧ t.remaining = rest := by
  obtain ⟨t, hread, ht⟩ := s.read_eq (n := line.length) (by
    rw [h, List.length_append]
    omega)
  rw [h, List.drop_left] at ht
  obtain ⟨u, hskip, hu⟩ := t.skip_eq (n := 1) (by
    rw [ht, List.length_cons]
    omega)
  unfold readLineBytes
  rw [hread, h, List.take_left]
  refine ⟨u, ?_, ?_⟩
  · rw [Option.bind_some, hskip]
    rfl
  · rw [hu, ht]
    rfl

theorem readLineBytes_shorter {s t : BufferedSource UInt8} {newline : Nat} {line : Bytes}
    (h : readLineBytes s newline = some (line, t)) : t.remaining.length < s.remaining.length := by
  obtain ⟨r, hread, h⟩ := Option.bind_eq_some_iff.mp h
  obtain ⟨u, hskip, hpair⟩ := Option.map_eq_some_iff.mp h
  obtain ⟨-, rfl⟩ := Prod.mk.inj hpair
  obtain ⟨hle, hr⟩ := s.read_remaining hread
  obtain ⟨hone, hu⟩ := r.2.skip_remaining hskip
  rw [hu, List.length_drop, hr, List.length_drop]
  rw [hr, List.length_drop] at hone
  omega

theorem skipUntilNewline_shorter {s t : BufferedSource UInt8}
    (h : skipUntilNewline s = some (true, t)) : t.remaining.length < s.remaining.length := by
  obtain ⟨u, hskip, hu⟩ := skipUntilNewline_eq s
  rw [h] at hskip
  obtain ⟨hmem, rfl⟩ := Prod.mk.inj (Option.some.inj hskip)
  have hmem : LF ∈ s.remaining := by simpa using hmem.symm
  have hpos : s.remaining.length ≠ 0 := fun h => List.ne_nil_of_mem hmem (List.length_eq_zero_iff.mp h)
  have hle := (List.dropWhile_sublist (fun c => c != LF) (l := s.remaining)).length_le
  rw [hu, List.length_drop]
  omega

/-- The buffer has grown, or the stream has ended. -/
theorem request_grows {s : BufferedSource UInt8}
    (hmore : ((s.indexOf LF maxLineBytes).2.size.2.size.2.request
      ((s.indexOf LF maxLineBytes).2.size.2.size.1 + 1)).1 = true) :
    s.buffered < (((s.indexOf LF maxLineBytes).2.size.2.size.2.request
      ((s.indexOf LF maxLineBytes).2.size.2.size.1 + 1)).2).buffered
    ∧ s.buffered < s.remaining.length := by
  generalize hu : (s.indexOf LF maxLineBytes).2.size.2 = u at hmore ⊢
  have hgrown : s.buffered ≤ u.buffered := by
    rw [← hu]
    exact Nat.le_trans s.buffered_le_indexOf (BufferedSource.buffered_le_size _)
  have hremaining : u.remaining = s.remaining := by
    rw [← hu]
    simp
  have hsize := u.buffered_le_size
  have hle := (u.size.2.request_fst (u.size.1 + 1)).mp hmore
  have hfill := u.size.2.need_le_fill (u.size.1 + 1)
  rw [BufferedSource.size_remaining, hremaining] at hle hfill
  constructor
  · show s.buffered < (u.size.2.fill (u.size.1 + 1)).buffered
    omega
  · omega

/-- `readStream`; `none` is an exception of the source. -/
def readStream (readUtf8 : Bytes → Utf16) (loop : ReadLoop) (s : BufferedSource UInt8) :
    Option (ReadLoop × BufferedSource UInt8) :=
  match _hindex : (s.indexOf LF maxLineBytes).1 with
  | some newline =>
      match _hline : readLineBytes (s.indexOf LF maxLineBytes).2 newline with
      | none => none
      | some (line, t) => readStream readUtf8 (loop.call readUtf8 (.line line)) t
  | none =>
      -- `getBuffer().size()`, which is read again below
      if (s.indexOf LF maxLineBytes).2.size.1 ≥ maxLineBytes then
        match _hskip : skipUntilNewline (s.indexOf LF maxLineBytes).2.size.2 with
        | none => none
        | some (true, t) => readStream readUtf8 (loop.call readUtf8 .oversize) t
        | some (false, t) => some (loop.call readUtf8 .oversize, t)
      else
        let again := (s.indexOf LF maxLineBytes).2.size.2.size
        if _hmore : (again.2.request (again.1 + 1)).1 = true then
          readStream readUtf8 loop (again.2.request (again.1 + 1)).2
        else some (loop, (again.2.request (again.1 + 1)).2)
termination_by (s.remaining.length, s.remaining.length - s.buffered)
decreasing_by
  · apply Prod.Lex.left
    have hshorter := readLineBytes_shorter _hline
    rw [BufferedSource.indexOf_remaining] at hshorter
    exact hshorter
  · apply Prod.Lex.left
    have hshorter := skipUntilNewline_shorter _hskip
    rw [BufferedSource.size_remaining, BufferedSource.indexOf_remaining] at hshorter
    exact hshorter
  · obtain ⟨hgrows, hless⟩ := request_grows _hmore
    have hsame : (again.2.request (again.1 + 1)).2.remaining = s.remaining := by
      show (s.indexOf LF maxLineBytes).2.remaining = s.remaining
      exact s.indexOf_remaining
    rw [hsame]
    apply Prod.Lex.right
    omega

/-! ## §3. The calls of a stream. -/

/-- A line as the cap of the Java client leaves it. -/
def androidCapped (line : Bytes) : LineItem :=
  if line.length < maxLineBytes then .line line else .oversize

/-- The calls for a stream that ends: one for each line, and one for a last line
without a newline that is over the cap. -/
def androidItems (bytes : Bytes) : List LineItem :=
  (cut LF bytes).1.map androidCapped
    ++ if (cut LF bytes).2.length < maxLineBytes then [] else [.oversize]

theorem androidItems_line {line : Bytes} (h : LF ∉ line) (rest : Bytes) :
    androidItems (line ++ LF :: rest) = androidCapped line :: androidItems rest := by
  unfold androidItems
  rw [cut_append_cons h]
  rfl

theorem androidItems_last {line : Bytes} (h : LF ∉ line) :
    androidItems line = if line.length < maxLineBytes then [] else [.oversize] := by
  unfold androidItems
  rw [cut_of_not_mem h]
  rfl

/-- A first window without a newline belongs to an overlong line. -/
theorem androidItems_window {bytes : Bytes} (hlong : maxLineBytes ≤ bytes.length)
    (hnot : LF ∉ bytes.take maxLineBytes) :
    androidItems bytes = .oversize
      :: if LF ∈ bytes then androidItems ((bytes.dropWhile (· != LF)).drop 1) else [] := by
  by_cases hmem : LF ∈ bytes
  · obtain ⟨line, rest, rfl, hline⟩ := List.eq_append_cons_of_mem hmem
    -- the line does not end within the window
    have hover : ¬ line.length < maxLineBytes := by
      intro hshort
      apply hnot
      rw [List.take_append, List.take_of_length_le (by omega)]
      apply List.mem_append_right
      rw [List.take_cons (by omega)]
      exact List.mem_cons_self
    rw [androidItems_line hline, if_pos hmem, dropWhile_bne hline]
    unfold androidCapped
    rw [if_neg hover]
    rfl
  · rw [androidItems_last hmem, if_neg (by omega), if_neg hmem]

/-- The calls for these lines, one after the other. -/
def ReadLoop.calls (readUtf8 : Bytes → Utf16) (loop : ReadLoop) (items : List LineItem) :
    ReadLoop where
  stream := items.foldl (SseStream.lineItem readUtf8) loop.stream
  items := loop.items ++ items

theorem ReadLoop.calls_nil (readUtf8 : Bytes → Utf16) (loop : ReadLoop) :
    loop.calls readUtf8 [] = loop := by
  unfold ReadLoop.calls
  rw [List.append_nil]
  rfl

theorem ReadLoop.calls_cons (readUtf8 : Bytes → Utf16) (loop : ReadLoop) (item : LineItem)
    (items : List LineItem) :
    loop.calls readUtf8 (item :: items) = (loop.call readUtf8 item).calls readUtf8 items := by
  unfold ReadLoop.calls ReadLoop.call
  simp

/-- What is left in the source: an unfinished line that is not over the cap. -/
def unread (bytes : Bytes) : Bytes :=
  if (cut LF bytes).2.length < maxLineBytes then (cut LF bytes).2 else []

theorem unread_line {line : Bytes} (h : LF ∉ line) (rest : Bytes) :
    unread (line ++ LF :: rest) = unread rest := by
  unfold unread
  rw [cut_append_cons h]

theorem unread_last {line : Bytes} (h : LF ∉ line) :
    unread line = if line.length < maxLineBytes then line else [] := by
  unfold unread
  rw [cut_of_not_mem h]

/-- A skipped line, with its newline, leaves what follows it. -/
theorem unread_skipped {bytes : Bytes} (hmem : LF ∈ bytes) :
    unread ((bytes.dropWhile (· != LF)).drop 1) = unread bytes := by
  obtain ⟨line, rest, rfl, hline⟩ := List.eq_append_cons_of_mem hmem
  rw [unread_line hline, dropWhile_bne hline]
  rfl

/-- A window without a newline that is full, and what skipping the line makes of
it. -/
theorem skipped_window {s t : BufferedSource UInt8} {more : Bool}
    (hindex : (s.indexOf LF maxLineBytes).1 = none)
    (hsize : (s.indexOf LF maxLineBytes).2.size.1 ≥ maxLineBytes)
    (hskip : skipUntilNewline (s.indexOf LF maxLineBytes).2.size.2 = some (more, t)) :
    LF ∉ s.remaining.take maxLineBytes ∧ maxLineBytes ≤ s.remaining.length
      ∧ decide (LF ∈ s.remaining) = more
      ∧ t.remaining = (s.remaining.dropWhile (· != LF)).drop 1 := by
  obtain ⟨hnot, -⟩ := s.indexOf_eq_none hindex
  have hle := (s.indexOf LF maxLineBytes).2.size_le
  obtain ⟨t', ht', hremaining⟩ := skipUntilNewline_eq (s.indexOf LF maxLineBytes).2.size.2
  rw [ht'] at hskip
  obtain ⟨hmem, rfl⟩ := Prod.mk.inj (Option.some.inj hskip)
  rw [BufferedSource.size_remaining, BufferedSource.indexOf_remaining] at hremaining hmem
  rw [BufferedSource.indexOf_remaining] at hle
  exact ⟨hnot, by omega, hmem, hremaining⟩

/-- **ANDROID'S LINE FRAMING, UNDER ANY BUFFERING.** `readStream` ends, without
an exception, at the end of the stream; the calls it has made are those of the
stream's lines, however far the source reads ahead. -/
theorem readStream_eq (readUtf8 : Bytes → Utf16) (loop : ReadLoop) (s : BufferedSource UInt8) :
    ∃ t, readStream readUtf8 loop s = some (loop.calls readUtf8 (androidItems s.remaining), t)
      ∧ t.remaining = unread s.remaining ∧ t.buffered = t.remaining.length := by
  fun_induction readStream readUtf8 loop s with
  | case1 loop s newline hindex hline =>
      obtain ⟨line, rest, hsplit, -, rfl, -⟩ := s.indexOf_eq_some hindex
      rw [← s.indexOf_remaining] at hsplit
      obtain ⟨t, hread, -⟩ := readLineBytes_eq hsplit
      rw [hread] at hline
      cases hline
  | case2 loop s newline hindex line t hline ih =>
      obtain ⟨before, rest, hsplit, hnot, rfl, hshort⟩ := s.indexOf_eq_some hindex
      obtain ⟨t', hread, ht⟩ := readLineBytes_eq (s.indexOf_remaining.trans hsplit)
      rw [hread] at hline
      obtain ⟨rfl, rfl⟩ := Prod.mk.inj (Option.some.inj hline)
      have hitem : androidCapped before = .line before := if_pos hshort
      rw [ht] at ih
      rw [hsplit, androidItems_line hnot, hitem, ReadLoop.calls_cons, unread_line hnot]
      exact ih
  | case3 loop s hindex hsize hskip =>
      obtain ⟨t, ht, -⟩ := skipUntilNewline_eq (s.indexOf LF maxLineBytes).2.size.2
      rw [ht] at hskip
      cases hskip
  | case4 loop s hindex hsize t hskip ih =>
      obtain ⟨hnot, hlong, hmem, hremaining⟩ := skipped_window hindex hsize hskip
      have hmem : LF ∈ s.remaining := by simpa using hmem
      rw [hremaining, unread_skipped hmem] at ih
      rw [androidItems_window hlong hnot, if_pos hmem, ReadLoop.calls_cons]
      exact ih
  | case5 loop s hindex hsize t hskip =>
      obtain ⟨hnot, hlong, hmem, hremaining⟩ := skipped_window hindex hsize hskip
      have hmem : LF ∉ s.remaining := by simpa using hmem
      -- the line was the last one
      have hnil : t.remaining = [] := by
        rw [hremaining, dropWhile_bne_of_not_mem hmem]
        rfl
      have hbuffered := t.fits
      rw [hnil] at hbuffered
      rw [androidItems_window hlong hnot, if_neg hmem, ReadLoop.calls_cons,
        ReadLoop.calls_nil, unread_last hmem, if_neg (by omega)]
      exact ⟨t, rfl, hnil, by rw [hnil]; exact Nat.le_zero.mp hbuffered⟩
  | case6 loop s hindex hsize again hmore ih =>
      have hsame : (again.2.request (again.1 + 1)).2.remaining = s.remaining := by
        show (s.indexOf LF maxLineBytes).2.remaining = s.remaining
        exact s.indexOf_remaining
      rw [hsame] at ih
      exact ih
  | case7 loop s hindex hsize again hmore =>
      obtain ⟨hnot, hbuffered⟩ := s.indexOf_eq_none hindex
      have hgrown := (s.indexOf LF maxLineBytes).2.buffered_le_size
      have hshort : s.remaining.length < maxLineBytes := by omega
      rw [List.take_of_length_le (by omega)] at hnot
      have hsame : (again.2.request (again.1 + 1)).2.remaining = s.remaining := by
        show (s.indexOf LF maxLineBytes).2.remaining = s.remaining
        exact s.indexOf_remaining
      rw [androidItems_last hnot, if_pos hshort, ReadLoop.calls_nil, unread_last hnot,
        if_pos hshort]
      refine ⟨_, rfl, hsame, ?_⟩
      -- more was asked for than there is, so all of it is buffered
      have hfull := again.2.need_le_fill (again.1 + 1)
      have hfits := (again.2.fill (again.1 + 1)).fits
      rw [again.2.request_fst] at hmore
      rw [BufferedSource.fill_remaining] at hfits
      show (again.2.fill (again.1 + 1)).buffered = again.2.remaining.length
      omega

/-- **An entry of the log is a call**: `processLine` of the line, or `poison`, on the
stream as the calls before it have left it. -/
theorem readStream_entry {readUtf8 : Bytes → Utf16} {loop loop' : ReadLoop}
    {s t : BufferedSource UInt8} (h : readStream readUtf8 loop s = some (loop', t))
    {before after : List LineItem} {item : LineItem}
    (hitems : loop'.items = loop.items ++ (before ++ item :: after)) :
    let stream := before.foldl (SseStream.lineItem readUtf8) loop.stream
    let called :=
      match item with
      | .line line => stream.readLine readUtf8 line
      | .oversize => stream.poison "SSE line exceeded maximum buffer size"
    loop'.stream = after.foldl (SseStream.lineItem readUtf8) called := by
  intro stream called
  have hcalled : called = stream.lineItem readUtf8 item := by
    cases item with
    | line line => rfl
    | oversize => rfl
  obtain ⟨t', hread, -⟩ := readStream_eq readUtf8 loop s
  rw [h] at hread
  obtain ⟨rfl, -⟩ := Prod.mk.inj (Option.some.inj hread)
  have hsame : androidItems s.remaining = before ++ item :: after :=
    List.append_cancel_left hitems
  rw [hcalled]
  unfold ReadLoop.calls
  rw [hsame, List.foldl_append, List.foldl_cons]

end DefoldSSE
