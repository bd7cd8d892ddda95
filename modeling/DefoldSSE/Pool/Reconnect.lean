/-
  DefoldSSE.Pool.Reconnect — whether a committed id can be sent back.

  The stream decides the id, `SSEDM_AppendHeader` decides whether the next
  request can carry it.  The line splitter keeps LF out of an id; nothing keeps
  CR out, for only the last CR of a line is stripped.
-/
import DefoldSSE.Desktop.Payload
import DefoldSSE.Pool.Request

namespace DefoldSSE

open CLib EventStream EventStream.Block

namespace Adapter

/-- `SSEDM_AppendHeader` takes the value as a `Last-Event-ID`. -/
def Accepted (id : CString) : Prop :=
  ∀ request : Bytes, ∃ request',
    appendHeader request (some (.lit "Last-Event-ID")) (some id) = .ok request'

theorem accepted_iff (id : CString) : Accepted id ↔ CR ∉ id.bytes ∧ LF ∉ id.bytes := by
  rw [← sendable_lastEventId_iff]
  constructor
  · intro h
    obtain ⟨request', hok⟩ := h []
    exact (appendHeader_ok_iff.mp hok).1
  · intro h request
    exact ⟨_, appendHeader_ok_iff.mpr ⟨h, rfl⟩⟩

/-- **A server cannot break reconnection**: each value the attempt stored is
accepted, so once a value was stored, a connection whose custom headers can be
sent has its next request built. -/
structure CanReconnect (a : Adapter) : Prop where
  accepted : ∀ id ∈ stored a.trace, Accepted id
  nextRequest : stored a.trace ≠ [] → (∀ h ∈ customHeaders a.conn.headers, Sendable h.1 h.2) →
    ∀ url : SSEDMUrl, ∃ request, buildRequest a.conn url = .ok request

/-- An accepted id does not stop the next request. -/
theorem exists_request {conn : SSEDesktopConnection} {id : CString} (hid : Accepted id)
    (hlast : conn.lastEventId = some id)
    (hcustom : ∀ h ∈ customHeaders conn.headers, Sendable h.1 h.2) (url : SSEDMUrl) :
    ∃ request, buildRequest conn url = .ok request := by
  refine ⟨_, buildRequest_ok_iff.mpr ⟨hcustom, fun v hv => ?_, rfl⟩⟩
  have hv' : v = id := by
    unfold sentLastEventId at hv
    rw [hlast] at hv
    exact (Option.some.inj (Option.mem_filter_iff.mp hv).1).symm
  rw [hv']
  exact (accepted_iff id).mp hid

/-- A committed id is accepted exactly when its C string has no CR. -/
theorem accepted_committed_iff {answers : Nat → Bool} {bytes v : Bytes}
    (h : v ∈ committed answers bytes) :
    Accepted (.read v) ↔ CR ∉ v.takeWhile (· != NUL) := by
  have hlf : LF ∉ (CString.read v).bytes := fun hmem =>
    LF_not_mem_of_mem_streamIds (mem_streamIds_of_mem_committed h) (CString.mem_of_mem_read hmem)
  rw [accepted_iff, and_iff_left hlf, CString.read_bytes]

/-- **WHEN RECONNECTION IS SAFE.** The next request can be built exactly when
no committed id has a CR before its first NUL. -/
theorem canReconnect_iff (conn : SSEDesktopConnection) (queue : QueueAnswers)
    (pieces : List Bytes) :
    CanReconnect ((start conn queue).feedAll pieces)
      ↔ ∀ v ∈ committed queue.message pieces.flatten, CR ∉ v.takeWhile (· != NUL) := by
  rw [feedAll_eq]
  have hstored := stored_feed conn queue pieces.flatten
  have hlast := (feed_does conn queue pieces.flatten).lastEventId
  generalize (start conn queue).feed pieces.flatten = a at hstored hlast
  constructor
  · intro h v hv
    refine (accepted_committed_iff hv).mp (h.accepted _ ?_)
    rw [hstored]
    exact List.mem_map_of_mem hv
  · intro h
    have hacc : ∀ id ∈ stored a.trace, Accepted id := by
      intro id hid
      rw [hstored] at hid
      obtain ⟨v, hv, rfl⟩ := List.mem_map.mp hid
      exact (accepted_committed_iff hv).mpr (h v hv)
    refine ⟨hacc, fun hne hcustom url => ?_⟩
    -- the id the connection holds is the last one stored
    have hid : a.conn.lastEventId = (stored a.trace).getLast? := by
      rw [hlast, hstored]
      rw [hstored] at hne
      exact Option.or_of_isSome (List.getLast?_isSome.mpr hne)
    rw [List.getLast?_eq_some_getLast hne] at hid
    exact exists_request (hacc _ (List.getLast_mem hne)) hid hcustom url

/-- An id line with a CR inside: the next request cannot be built. -/
theorem id_breaks_reconnection :
    let pieces := [ascii "id: a" ++ [CR] ++ ascii "b\n\n"]
    let a := (start {} ⟨fun _ => true, fun _ => true⟩).feedAll pieces
    ¬ CanReconnect a
      ∧ ∀ url : SSEDMUrl, buildRequest a.conn url = .error "invalid SSE request header" := by
  intro pieces a
  have hstored : stored a.trace = [.read (ascii "a" ++ [CR] ++ ascii "b")] := by decide
  have hconn : a.conn = { lastEventId := some (.read (ascii "a" ++ [CR] ++ ascii "b")),
                          parser := a.conn.parser } := by decide
  constructor
  · intro h
    have hacc := h.accepted (.read (ascii "a" ++ [CR] ++ ascii "b"))
      (by rw [hstored]; exact List.mem_singleton_self _)
    have hcr := ((accepted_iff _).mp hacc).1
    revert hcr
    decide
  · intro url
    rw [hconn]
    rfl

end Adapter

end DefoldSSE
