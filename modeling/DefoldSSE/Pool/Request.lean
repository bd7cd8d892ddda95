/-
  DefoldSSE.Pool.Request — the request of the connection-pool backend.

  `SSEDM_AppendHeader` checks names and values for CR and LF; the pieces of the
  URL go into the request as they are.  So whether a request can be built at all
  depends on the header strings alone, and then it is its lines
  (`buildRequest_ok_iff`).
-/
import DefoldSSE.Desktop.Adapter
import DefoldSSE.Pool.Url

namespace DefoldSSE

open CLib

/-! ## §1. `SSEDM_AppendHeader` and `SSEDM_BuildRequest`. -/

/-- `"\r\n"`. -/
def crlf : Bytes := [CR, LF]

/-- `SSEDM_HasControlChars`. -/
def hasControlChars (value : CString) : Bool :=
  value.bytes.any (fun c => c == CR || c == LF)

/-- `SSEDM_AppendHeader`. -/
def appendHeader (request : Bytes) (name value : Option CString) : Except String Bytes :=
  match name, value with
  | some name, some value =>
      if name.bytes = [] || hasControlChars name || hasControlChars value
          || decide (COLON ∈ name.bytes) then
        .error "invalid SSE request header"
      else .ok (request ++ name.bytes ++ ascii ": " ++ value.bytes ++ crlf)
  | _, _ => .ok request

/-- The loop over `m_Headers`. -/
def appendHeaders : Bytes → List SSEHeader → Except String Bytes
  | request, [] => .ok request
  | request, header :: headers =>
      match appendHeader request header.name header.value with
      | .error error => .error error
      | .ok request => appendHeaders request headers

/-- The four fixed header lines. -/
def fixedHeaders : List Bytes :=
  [ascii "Accept: text/event-stream", ascii "Cache-Control: no-cache",
    ascii "Connection: keep-alive", ascii "User-Agent: defold-extension-sse/0.2"]

/-- What `SSEDM_BuildRequest` writes before the custom headers. -/
def requestHead (url : SSEDMUrl) : Bytes :=
  ascii "GET " ++ url.path ++ ascii " HTTP/1.1" ++ crlf
    ++ ascii "Host: " ++ url.hostHeader ++ crlf
    ++ fixedHeaders.flatMap (fun line => line ++ crlf)

/-- `connection->m_LastEventId && connection->m_LastEventId[0]`. -/
def sentLastEventId (conn : SSEDesktopConnection) : Option CString :=
  conn.lastEventId.filter (fun id => id.bytes ≠ [])

/-- `SSEDM_BuildRequest`. -/
def buildRequest (conn : SSEDesktopConnection) (url : SSEDMUrl) : Except String Bytes :=
  match appendHeaders (requestHead url) conn.headers with
  | .error error => .error error
  | .ok request =>
      match sentLastEventId conn with
      | none => .ok (request ++ crlf)
      | some id =>
          match appendHeader request (some (.lit "Last-Event-ID")) (some id) with
          | .error error => .error error
          | .ok request => .ok (request ++ crlf)

/-! ## §2. What is accepted. -/

/-- A header name and value that can be sent. -/
structure Sendable (name value : CString) : Prop where
  named : name.bytes ≠ []
  noColon : COLON ∉ name.bytes
  name : CR ∉ name.bytes ∧ LF ∉ name.bytes
  value : CR ∉ value.bytes ∧ LF ∉ value.bytes

/-- The header's line. -/
def headerLine (name value : CString) : Bytes := name.bytes ++ ascii ": " ++ value.bytes

theorem hasControlChars_eq_false_iff (value : CString) :
    hasControlChars value = false ↔ CR ∉ value.bytes ∧ LF ∉ value.bytes := by
  unfold hasControlChars
  rw [List.any_eq_false]
  constructor
  · intro h
    exact ⟨fun hm => h CR hm (by decide), fun hm => h LF hm (by decide)⟩
  · rintro ⟨hcr, hlf⟩ c hc hor
    rcases Bool.or_eq_true _ _ |>.mp hor with h | h
    · exact hcr (eq_of_beq h ▸ hc)
    · exact hlf (eq_of_beq h ▸ hc)

/-- A header with both strings is appended exactly when it can be sent. -/
theorem appendHeader_ok_iff {request request' : Bytes} {name value : CString} :
    appendHeader request (some name) (some value) = .ok request'
      ↔ Sendable name value ∧ request' = request ++ (headerLine name value ++ crlf) := by
  have hcond : (name.bytes = [] || hasControlChars name || hasControlChars value
      || decide (COLON ∈ name.bytes)) = false ↔ Sendable name value := by
    rw [Bool.or_eq_false_iff, Bool.or_eq_false_iff, Bool.or_eq_false_iff,
      hasControlChars_eq_false_iff, hasControlChars_eq_false_iff, decide_eq_false_iff_not,
      decide_eq_false_iff_not]
    exact ⟨fun h => ⟨h.1.1.1, h.2, h.1.1.2, h.1.2⟩, fun h => ⟨⟨⟨h.named, h.name⟩, h.value⟩, h.noColon⟩⟩
  unfold appendHeader headerLine
  simp only
  split
  · next h =>
      constructor
      · intro hok
        cases hok
      · rintro ⟨hs, -⟩
        rw [hcond.mpr hs] at h
        exact absurd h Bool.false_ne_true
  · next h =>
      rw [Bool.not_eq_true] at h
      have hassoc : request ++ name.bytes ++ ascii ": " ++ value.bytes ++ crlf
          = request ++ (name.bytes ++ ascii ": " ++ value.bytes ++ crlf) := by
        simp only [List.append_assoc]
      rw [hassoc]
      constructor
      · intro hok
        exact ⟨hcond.mp h, (Except.ok.inj hok).symm⟩
      · rintro ⟨-, rfl⟩
        rfl

/-- The custom headers: the entries that have both strings. -/
def customHeaders (headers : List SSEHeader) : List (CString × CString) :=
  headers.filterMap (fun h =>
    match h.name, h.value with
    | some name, some value => some (name, value)
    | _, _ => none)

/-- The lines of the custom headers. -/
def customLines (headers : List SSEHeader) : List Bytes :=
  (customHeaders headers).map (fun h => headerLine h.1 h.2)

theorem appendHeaders_ok_iff {headers : List SSEHeader} {request request' : Bytes} :
    appendHeaders request headers = .ok request'
      ↔ (∀ h ∈ customHeaders headers, Sendable h.1 h.2)
        ∧ request' = request ++ (customLines headers).flatMap (fun line => line ++ crlf) := by
  induction headers generalizing request with
  | nil => simp [appendHeaders, customHeaders, customLines, eq_comm]
  | cons header headers ih =>
    obtain ⟨name, value⟩ := header
    -- a header without a name or a value leaves the request as it is
    have hskip : name = none ∨ value = none →
        (appendHeaders request (⟨name, value⟩ :: headers) = .ok request'
          ↔ (∀ h ∈ customHeaders (⟨name, value⟩ :: headers), Sendable h.1 h.2)
            ∧ request' = request
              ++ (customLines (⟨name, value⟩ :: headers)).flatMap (fun line => line ++ crlf)) := by
      intro hnull
      have hsame : appendHeaders request (⟨name, value⟩ :: headers)
          = appendHeaders request headers := by
        rcases hnull with rfl | rfl
        · rfl
        · cases name with
          | none => rfl
          | some name => rfl
      have hcustom : customHeaders (⟨name, value⟩ :: headers) = customHeaders headers := by
        rcases hnull with rfl | rfl
        · rfl
        · cases name with
          | none => rfl
          | some name => rfl
      rw [hsame, customLines, hcustom, ih, customLines]
    cases name with
    | none => exact hskip (.inl rfl)
    | some name =>
      cases value with
      | none => exact hskip (.inr rfl)
      | some value =>
        have hcustom : customHeaders (⟨some name, some value⟩ :: headers)
            = (name, value) :: customHeaders headers := rfl
        rw [customLines, hcustom, List.forall_mem_cons, List.map_cons, List.flatMap_cons,
          ← List.append_assoc]
        cases happ : appendHeader request (some name) (some value) with
        | error e =>
            have hno : ¬ Sendable name value := by
              intro hs
              have hok : appendHeader request (some name) (some value) = .ok _ :=
                appendHeader_ok_iff.mpr ⟨hs, rfl⟩
              rw [happ] at hok
              cases hok
            simp only [appendHeaders, happ]
            constructor
            · intro h
              cases h
            · rintro ⟨⟨hs, -⟩, -⟩
              exact absurd hs hno
        | ok r =>
            obtain ⟨hs, rfl⟩ := appendHeader_ok_iff.mp happ
            simp only [appendHeaders, happ]
            rw [ih, customLines]
            exact ⟨fun h => ⟨⟨hs, h.1⟩, h.2⟩, fun h => ⟨h.1.2, h.2⟩⟩

/-- `Last-Event-ID` itself is a fine name. -/
theorem sendable_lastEventId_iff (id : CString) :
    Sendable (.lit "Last-Event-ID") id ↔ CR ∉ id.bytes ∧ LF ∉ id.bytes :=
  ⟨fun h => h.value, fun h => ⟨by decide, by decide, by decide, h⟩⟩

/-- The line of the id, if one is sent. -/
def lastEventIdLines (conn : SSEDesktopConnection) : List Bytes :=
  (sentLastEventId conn).toList.map (headerLine (.lit "Last-Event-ID"))

/-- The lines of a request. -/
def requestLines (conn : SSEDesktopConnection) (url : SSEDMUrl) : List Bytes :=
  [ascii "GET " ++ url.path ++ ascii " HTTP/1.1", ascii "Host: " ++ url.hostHeader]
    ++ fixedHeaders ++ customLines conn.headers ++ lastEventIdLines conn ++ [[]]

/-- **When a request can be built**, and that it then is its lines. -/
theorem buildRequest_ok_iff {conn : SSEDesktopConnection} {url : SSEDMUrl} {request : Bytes} :
    buildRequest conn url = .ok request
      ↔ (∀ h ∈ customHeaders conn.headers, Sendable h.1 h.2)
        ∧ (∀ id ∈ sentLastEventId conn, CR ∉ id.bytes ∧ LF ∉ id.bytes)
        ∧ request = (requestLines conn url).flatMap (fun line => line ++ crlf) := by
  have hhead : ∀ lines : List Bytes,
      requestHead url ++ lines.flatMap (fun line => line ++ crlf)
        = ([ascii "GET " ++ url.path ++ ascii " HTTP/1.1", ascii "Host: " ++ url.hostHeader]
            ++ fixedHeaders ++ lines).flatMap (fun line => line ++ crlf) := by
    intro lines
    simp [requestHead, List.flatMap_append, List.append_assoc]
  unfold buildRequest requestLines lastEventIdLines
  cases happ : appendHeaders (requestHead url) conn.headers with
  | error e =>
      -- had all headers been sendable, this would be no error
      constructor
      · intro h
        cases h
      · rintro ⟨hs, -, -⟩
        have hok : appendHeaders (requestHead url) conn.headers = .ok _ :=
          appendHeaders_ok_iff.mpr ⟨hs, rfl⟩
        rw [happ] at hok
        cases hok
  | ok r =>
      obtain ⟨hs, rfl⟩ := appendHeaders_ok_iff.mp happ
      simp only
      cases hid : sentLastEventId conn with
      | none =>
          have hlines : requestHead url
                ++ (customLines conn.headers).flatMap (fun line => line ++ crlf) ++ crlf
              = ([ascii "GET " ++ url.path ++ ascii " HTTP/1.1", ascii "Host: " ++ url.hostHeader]
                  ++ fixedHeaders ++ customLines conn.headers ++ [] ++ [[]]).flatMap
                    (fun line => line ++ crlf) := by
            rw [hhead]
            simp
          constructor
          · intro h
            exact ⟨hs, fun id hid => absurd hid (Option.not_mem_none id),
              (Except.ok.inj h).symm.trans hlines⟩
          · rintro ⟨-, -, h⟩
            exact congrArg Except.ok (hlines.trans h.symm)
      | some id =>
          simp only [Option.mem_def, Option.some_inj, forall_eq']
          rw [← sendable_lastEventId_iff]
          cases hlast : appendHeader (requestHead url
              ++ (customLines conn.headers).flatMap (fun line => line ++ crlf))
              (some (.lit "Last-Event-ID")) (some id) with
          | error e =>
              constructor
              · intro h
                cases h
              · rintro ⟨-, hsend, -⟩
                have hok : appendHeader (requestHead url
                    ++ (customLines conn.headers).flatMap (fun line => line ++ crlf))
                    (some (.lit "Last-Event-ID")) (some id) = .ok _ :=
                  appendHeader_ok_iff.mpr ⟨hsend, rfl⟩
                rw [hlast] at hok
                cases hok
          | ok r =>
              obtain ⟨hsend, rfl⟩ := appendHeader_ok_iff.mp hlast
              have hlines : requestHead url
                    ++ (customLines conn.headers).flatMap (fun line => line ++ crlf)
                    ++ (headerLine (.lit "Last-Event-ID") id ++ crlf) ++ crlf
                  = ([ascii "GET " ++ url.path ++ ascii " HTTP/1.1",
                        ascii "Host: " ++ url.hostHeader]
                      ++ fixedHeaders ++ customLines conn.headers
                      ++ [headerLine (.lit "Last-Event-ID") id] ++ [[]]).flatMap
                        (fun line => line ++ crlf) := by
                rw [hhead]
                simp
              constructor
              · intro h
                exact ⟨hs, hsend, (Except.ok.inj h).symm.trans hlines⟩
              · rintro ⟨-, -, h⟩
                exact congrArg Except.ok (hlines.trans h.symm)

end DefoldSSE
