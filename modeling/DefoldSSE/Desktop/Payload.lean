/-
  DefoldSSE.Desktop.Payload — which bytes survive the adapter.

  The parser keeps its strings as bytes with a length; `SSEParsedEvent` hands
  them on as `const char*`, and `SSE_StrDup` copies up to the first NUL.  A NUL
  is an ordinary byte of UTF-8 and of a stream line, and nothing on the way
  rejects it.
-/
import Mathlib.Data.List.Forall2
import DefoldSSE.Desktop.Resume

namespace DefoldSSE

open CLib EventStream EventStream.Block

/-- The `id:` values of a stream, those of lost blocks included. -/
def streamIds (bytes : Bytes) : List Bytes :=
  (streamLines bytes).filterMap (fun | some (.id v) => some v | _ => none)

/-- The finished blocks that are not lost take their ids from the stream. -/
theorem mem_streamIds_of_mem_liveIds {bytes v : Bytes} (h : v ∈ liveIds (blocks bytes)) :
    v ∈ streamIds bytes := by
  obtain ⟨b, hb, hv⟩ := List.mem_flatMap.mp h
  have hblock : b ∈ (blocksOf (streamLines bytes)).1 := List.mem_of_mem_filter hb
  obtain ⟨l, hl, hid⟩ := List.mem_filterMap.mp hv
  cases l with
  | id w =>
      obtain rfl : w = v := Option.some.inj hid
      exact List.mem_filterMap.mpr
        ⟨some (.id w), Reference.mem_lines_of_mem_blocksOf (.inl ⟨b, hblock, hl⟩), rfl⟩
  | _ => simp at hid

theorem mem_streamIds_of_mem_committed {answers : Nat → Bool} {bytes v : Bytes}
    (h : v ∈ committed answers bytes) : v ∈ streamIds bytes :=
  mem_streamIds_of_mem_liveIds (commit_mem_liveIds answers h)

/-- A line that was read comes from a line of the stream. -/
theorem exists_item_of_mem_readItems {items : List LineItem} {x : Option BlockLine} :
    ∀ {first : Bool}, x ∈ readItems first items →
      ∃ item ∈ items, ∃ f, readItem f item = x := by
  induction items with
  | nil => intro first h; simp [readItems] at h
  | cons item items ih =>
    intro first h
    rcases List.mem_cons.mp h with rfl | h
    · exact ⟨item, List.mem_cons_self, first, rfl⟩
    · obtain ⟨item', hmem, hread⟩ := ih h
      exact ⟨item', List.mem_cons_of_mem _ hmem, hread⟩

/-- No id of a stream has an LF: lines end there. -/
theorem LF_not_mem_of_mem_streamIds {bytes v : Bytes} (h : v ∈ streamIds bytes) : LF ∉ v := by
  obtain ⟨x, hx, hid⟩ := List.mem_filterMap.mp h
  obtain ⟨item, hitem, first, hread⟩ := exists_item_of_mem_readItems hx
  have hx' : x = some (.id v) := by
    split at hid
    · rw [Option.some.inj hid]
    · cases hid
  subst hx'
  cases item with
  | oversize => simp [readItem] at hread
  | line text =>
      have htext : LF ∉ text := by
        rcases List.mem_append.mp hitem with hmem | hmem
        · obtain ⟨raw, hraw, hcap⟩ := List.mem_map.mp hmem
          unfold capped at hcap
          split at hcap
          · cases hcap
          · cases hcap
            exact (not_mem_of_mem_cut LF bytes).1 _ hraw
        · split at hmem
          · simp at hmem
          · cases hmem
      have hvalue : v = SSEParser.valueOf
          (SSEParser.stripCR (if first then SSEParser.stripBom text else text)) := by
        unfold readItem classify at hread
        simp only at hread
        repeat' split at hread
        all_goals simp_all
      intro hlf
      rw [hvalue] at hlf
      have hraw := mem_of_mem_stripCR (mem_of_mem_valueOf hlf)
      split at hraw
      · exact htext (mem_of_mem_stripBom hraw)
      · exact htext hraw

namespace Adapter

/-- The queued event has the bytes of the parser's strings. -/
structure Carries (parsed : SSEParsedEvent) (queued : SSEEvent) : Prop where
  data : queued.data.map CString.bytes = some parsed.data
  event : queued.event.map CString.bytes = some parsed.event
  id : queued.id.map CString.bytes = some parsed.id

/-- Each message that the queue took carries the strings the parser assembled
for it, and each committed id is an `id:` value of the stream. -/
def PayloadPreserved (bytes : Bytes) (a : Adapter) : Prop :=
  List.Forall₂ (fun event push => push.2 = true → Carries event push.1)
      (parserEvents a.trace) (messagePushes a.trace)
    ∧ ∀ v ∈ stored a.trace, v.bytes ∈ streamIds bytes

/-- No string of the message has a NUL. -/
def NulFree (event : SSEParsedEvent) : Prop :=
  NUL ∉ event.data ∧ NUL ∉ event.event ∧ NUL ∉ event.id

/-- A queued message carries its strings exactly when none has a NUL. -/
theorem carries_pushOf_iff (handle : Int) (m : SSEParsedEvent × Bool) :
    Carries m.1 (pushOf handle m).1 ↔ NulFree m.1 := by
  have hread : ∀ s : Bytes, Option.map CString.bytes (some (CString.read s)) = some s ↔ NUL ∉ s :=
    fun s => Option.some_inj.trans (CString.read_bytes_eq_self_iff s)
  constructor
  · intro h
    exact ⟨(hread _).mp h.data, (hread _).mp h.event, (hread _).mp h.id⟩
  · rintro ⟨hdata, hevent, hid⟩
    exact ⟨(hread _).mpr hdata, (hread _).mpr hevent, (hread _).mpr hid⟩

/-- **WHEN THE BYTES SURVIVE.** The payload is preserved exactly when no accepted
message has a NUL in its strings, and each committed id either has none or is,
up to its first NUL, another id of the stream. -/
theorem payloadPreserved_iff (conn : SSEDesktopConnection) (queue : QueueAnswers)
    (pieces : List Bytes) :
    PayloadPreserved pieces.flatten ((start conn queue).feedAll pieces)
      ↔ (∀ m ∈ assembled queue.message pieces.flatten, m.2 = true → NulFree m.1)
        ∧ ∀ v ∈ committed queue.message pieces.flatten,
            NUL ∉ v ∨ v.takeWhile (· != NUL) ∈ streamIds pieces.flatten := by
  rw [feedAll_eq, PayloadPreserved, parserEvents_feed, messagePushes_feed, stored_feed]
  refine and_congr ?_ ?_
  · rw [List.forall₂_map_left_iff, List.forall₂_map_right_iff, List.forall₂_same]
    refine forall₂_congr (fun m _ => imp_congr_right (fun _ => ?_))
    exact carries_pushOf_iff conn.handle m
  · rw [List.forall_mem_map]
    refine forall₂_congr (fun v hv => ?_)
    rw [CString.read_bytes]
    constructor
    · exact .inr
    · rintro (hnul | hmem)
      · have hself := (CString.read_bytes_eq_self_iff v).mpr hnul
        rw [CString.read_bytes] at hself
        rw [hself]
        exact mem_streamIds_of_mem_committed hv
      · exact hmem

/-- A NUL in a data line: the queue takes `a` where the stream says `a`, NUL, `b`. -/
theorem payload_not_preserved :
    ¬ PayloadPreserved (ascii "data: a" ++ [NUL] ++ ascii "b\n\n")
        ((start {} ⟨fun _ => true, fun _ => true⟩).feedAll
          [ascii "data: a" ++ [NUL] ++ ascii "b\n\n"]) := by
  rintro ⟨hpush, -⟩
  have hparser : parserEvents ((start {} ⟨fun _ => true, fun _ => true⟩).feedAll
      [ascii "data: a" ++ [NUL] ++ ascii "b\n\n"]).trace
        = [⟨ascii "message", ascii "a" ++ [NUL] ++ ascii "b", [], none⟩] := by decide
  have hqueue : messagePushes ((start {} ⟨fun _ => true, fun _ => true⟩).feedAll
      [ascii "data: a" ++ [NUL] ++ ascii "b\n\n"]).trace
        = [(messageEvent 0 (some (.lit "message")) (some (.lit "a")) (some (.lit "")), true)] := by
    decide
  rw [hparser, hqueue] at hpush
  cases hpush with
  | cons hcarries _ =>
      have hdata := (hcarries rfl).data
      revert hdata
      decide

end Adapter

end DefoldSSE
