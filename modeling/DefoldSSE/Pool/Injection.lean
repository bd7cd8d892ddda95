/-
  DefoldSSE.Pool.Injection — what a server reads out of a request.

  Headers are checked where they are appended; the URL's pieces are not.  So a
  request reads as it was meant exactly when the URL's own text is harmless.
-/
import DefoldSSE.Pool.Request

namespace DefoldSSE

open CLib

/-- The tokens of a line: its pieces between spaces. -/
def tokens (line : Bytes) : List Bytes := (cut SP line).1 ++ [(cut SP line).2]

/-- **The request as it is meant.** Cut at CRLF it has exactly these lines, the
first one of three tokens, and no line has a CR or an LF of its own. -/
structure ReadsAsMeant (conn : SSEDesktopConnection) (url : SSEDMUrl) (request : Bytes) :
    Prop where
  lines : cutPair CR LF request = (requestLines conn url, [])
  requestLine : (cutPair CR LF request).1.head?.map tokens
    = some [ascii "GET", url.path, ascii "HTTP/1.1"]
  clean : ∀ line ∈ (cutPair CR LF request).1, CR ∉ line ∧ LF ∉ line

/-- The request line has three tokens exactly when the path has no space. -/
theorem tokens_requestLine {path : Bytes} :
    tokens (ascii "GET " ++ path ++ ascii " HTTP/1.1") = [ascii "GET", path, ascii "HTTP/1.1"]
      ↔ SP ∉ path := by
  constructor
  · intro h hsp
    have hpath : path ∈ tokens (ascii "GET " ++ path ++ ascii " HTTP/1.1") := by
      rw [h]
      simp
    obtain ⟨hitems, htail⟩ := not_mem_of_mem_cut SP (ascii "GET " ++ path ++ ascii " HTTP/1.1")
    rcases List.mem_append.mp hpath with hmem | hmem
    · exact hitems path hmem hsp
    · rw [← List.mem_singleton.mp hmem] at htail
      exact htail hsp
  · intro h
    have hline : ascii "GET " ++ path ++ ascii " HTTP/1.1"
        = ascii "GET" ++ SP :: (path ++ SP :: ascii "HTTP/1.1") := by
      simp [ascii]
    rw [tokens, hline, cut_append_cons (by decide), cut_append_cons h, cut_of_not_mem (by decide)]
    rfl

/-- A sendable header's line is clean. -/
theorem Sendable.line_clean {name value : CString} (h : Sendable name value) :
    CR ∉ headerLine name value ∧ LF ∉ headerLine name value := by
  have hsep : CR ∉ ascii ": " ∧ LF ∉ ascii ": " := by decide
  simp only [headerLine, List.mem_append, not_or]
  exact ⟨⟨⟨h.name.1, hsep.1⟩, h.value.1⟩, ⟨⟨h.name.2, hsep.2⟩, h.value.2⟩⟩

/-- The lines that the URL has no part in are clean. -/
theorem otherLines_clean {conn : SSEDesktopConnection}
    (hcustom : ∀ h ∈ customHeaders conn.headers, Sendable h.1 h.2)
    (hid : ∀ id ∈ sentLastEventId conn, CR ∉ id.bytes ∧ LF ∉ id.bytes) :
    ∀ line ∈ fixedHeaders ++ customLines conn.headers ++ lastEventIdLines conn ++ [[]],
      CR ∉ line ∧ LF ∉ line := by
  intro line hline
  simp only [List.mem_append, or_assoc] at hline
  rcases hline with h | h | h | h
  · revert line
    decide
  · obtain ⟨header, hheader, rfl⟩ := List.mem_map.mp h
    exact (hcustom header hheader).line_clean
  · obtain ⟨id, hmem, rfl⟩ := List.mem_map.mp h
    exact ((sendable_lastEventId_iff id).mpr (hid id (Option.mem_toList.mp hmem))).line_clean
  · rw [List.mem_singleton.mp h]
    decide

/-- A request that was built reads as meant exactly when the URL's path and
host header are clean. -/
theorem readsAsMeant_iff_url {conn : SSEDesktopConnection} {url : SSEDMUrl} {request : Bytes}
    (hreq : buildRequest conn url = .ok request) :
    ReadsAsMeant conn url request
      ↔ (SP ∉ url.path ∧ CR ∉ url.path ∧ LF ∉ url.path)
        ∧ CR ∉ url.hostHeader ∧ LF ∉ url.hostHeader := by
  obtain ⟨hcustom, hid, rfl⟩ := buildRequest_ok_iff.mp hreq
  have hlines : requestLines conn url
      = (ascii "GET " ++ url.path ++ ascii " HTTP/1.1") :: (ascii "Host: " ++ url.hostHeader)
        :: (fixedHeaders ++ customLines conn.headers ++ lastEventIdLines conn ++ [[]]) := by
    simp [requestLines]
  have hclean : (∀ line ∈ requestLines conn url, CR ∉ line ∧ LF ∉ line)
      ↔ (CR ∉ url.path ∧ LF ∉ url.path) ∧ CR ∉ url.hostHeader ∧ LF ∉ url.hostHeader := by
    have hfixed : (CR ∉ ascii "GET " ∧ LF ∉ ascii "GET ")
        ∧ (CR ∉ ascii " HTTP/1.1" ∧ LF ∉ ascii " HTTP/1.1")
        ∧ CR ∉ ascii "Host: " ∧ LF ∉ ascii "Host: " := by decide
    obtain ⟨⟨hg, hg'⟩, ⟨hv, hv'⟩, hh, hh'⟩ := hfixed
    rw [hlines, List.forall_mem_cons, List.forall_mem_cons,
      and_iff_left (otherLines_clean hcustom hid)]
    simp only [List.mem_append, hg, hg', hv, hv', hh, hh', false_or, or_false]
  constructor
  · rintro ⟨hcut, htok, hall⟩
    rw [hcut] at htok hall
    rw [hlines, List.head?_cons, Option.map_some, Option.some_inj, tokens_requestLine] at htok
    obtain ⟨hpath, hhost⟩ := hclean.mp hall
    exact ⟨⟨htok, hpath⟩, hhost⟩
  · rintro ⟨⟨hsp, hpath⟩, hhost⟩
    have hall := hclean.mpr ⟨hpath, hhost⟩
    have hcut : cutPair CR LF ((requestLines conn url).flatMap (fun line => line ++ crlf))
        = (requestLines conn url, []) := cutPair_flatMap (fun line hline => (hall line hline).1)
    refine ⟨hcut, ?_, ?_⟩
    · rw [hcut, hlines, List.head?_cons, Option.map_some, tokens_requestLine.mpr hsp]
    · rw [hcut]
      exact hall

/-- **WHEN THERE IS NO INJECTION.** For an accepted URL and a request that was
built, the request reads as meant exactly when the URL's target has no space,
CR or LF and its host has no CR or LF. -/
theorem readsAsMeant_iff {conn : SSEDesktopConnection} {url : CString} {u : SSEDMUrl}
    {request : Bytes} (hurl : parseUrl (some url) = .ok u)
    (hreq : buildRequest conn u = .ok request) :
    ReadsAsMeant conn u request
      ↔ (SP ∉ targetText url.bytes ∧ CR ∉ targetText url.bytes ∧ LF ∉ targetText url.bytes)
        ∧ CR ∉ hostText (authorityText url.bytes) ∧ LF ∉ hostText (authorityText url.bytes) := by
  obtain ⟨hhost, -, hpath, hheader⟩ := parseUrl_ok hurl
  rw [readsAsMeant_iff_url hreq, hpath, hheader, mem_hostHeaderOf_iff (.inl rfl),
    mem_hostHeaderOf_iff (.inr rfl), hhost, mem_pathOf_iff (by decide), mem_pathOf_iff (by decide),
    mem_pathOf_iff (by decide)]

/-- An ordinary URL: query, fragment and port, one header and an id. -/
theorem readsAsMeant_ordinary :
    let conn : SSEDesktopConnection :=
      { headers := [⟨some (.lit "X-Token"), some (.lit "a b")⟩], lastEventId := some (.lit "7") }
    let u : SSEDMUrl := ⟨ascii "h.io", ascii "/e?x=1", ascii "h.io:8443", 8443, true⟩
    ReadsAsMeant conn u ((requestLines conn u).flatMap (fun line => line ++ crlf)) := by
  intro conn u
  have hurl : parseUrl (some (.lit "https://h.io:8443/e?x=1#top")) = .ok u := by decide +kernel
  have hreq : buildRequest conn u
      = .ok ((requestLines conn u).flatMap (fun line => line ++ crlf)) := by decide +kernel
  exact (readsAsMeant_iff hurl hreq).mpr (by decide)

/-- A URL with a CRLF in its path sends a header of its own. -/
theorem url_injects_header :
    ∃ (url : CString) (u : SSEDMUrl) (request : Bytes),
      parseUrl (some url) = .ok u ∧ buildRequest {} u = .ok request
        ∧ ascii "X-Admin: 1" ∈ (cutPair CR LF request).1 ∧ ¬ ReadsAsMeant {} u request := by
  refine ⟨.read (ascii "http://h/ HTTP/1.1" ++ crlf ++ ascii "X-Admin: 1" ++ crlf ++ ascii "Y: "),
    ⟨ascii "h", ascii "/ HTTP/1.1" ++ crlf ++ ascii "X-Admin: 1" ++ crlf ++ ascii "Y: ",
      ascii "h", 80, false⟩, _, by decide +kernel, rfl, by decide +kernel, ?_⟩
  intro h
  have hreq := h.requestLine
  revert hreq
  decide +kernel

end DefoldSSE
