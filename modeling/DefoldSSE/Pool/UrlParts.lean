/-
  DefoldSSE.Pool.UrlParts — the parts of a URL, written and parsed.

  `UrlParts` is a URL before it is written down: a scheme, a host, and what may
  follow them, each with the characters it may not contain as FIELDS.  `text`
  writes it; `parsed` says what a connection needs to know of it.

  `parseUrl_text`: `SSEDM_ParseUrl` reads exactly that back.  Nothing is asked of
  a fragment, which may look like any other part.
-/
import DefoldSSE.Pool.Url

namespace DefoldSSE

open CLib

/-! ## §1. The parts. -/

/-- A host name, or an address that is written in brackets. -/
inductive UrlHost where
  | name (bytes : Bytes) (nonempty : bytes ≠ [])
      (plain : ∀ c ∈ bytes, c ∉ [COLON, SLASH, QUESTION, HASH, AT, LBRACKET, RBRACKET])
  | literal (bytes : Bytes) (colon : COLON ∈ bytes)
      (plain : ∀ c ∈ bytes, c ∉ [SLASH, QUESTION, HASH, AT, LBRACKET, RBRACKET])

namespace UrlHost

/-- The host without brackets. -/
def bytes : UrlHost → Bytes
  | .name bytes _ _ => bytes
  | .literal bytes _ _ => bytes

def text : UrlHost → Bytes
  | .name bytes _ _ => bytes
  | .literal bytes _ _ => LBRACKET :: bytes ++ [RBRACKET]

end UrlHost

/-- The digits of a port number, leading zeros allowed. -/
structure UrlPort where
  digits : Bytes
  isDigits : ∀ c ∈ digits, isDigit c = true
  positive : 0 < decimalValue digits
  small : decimalValue digits ≤ 65535

structure UrlParts where
  scheme : Bytes
  /-- `http` or `https`, in any letter case. -/
  isHttp : lowerASCII scheme = ascii "http" ∨ lowerASCII scheme = ascii "https"
  host : UrlHost
  port : Option UrlPort
  path : Bytes
  path_slash : path = [] ∨ path.head? = some SLASH
  path_plain : QUESTION ∉ path ∧ HASH ∉ path
  query : Option Bytes
  query_plain : ∀ q, query = some q → HASH ∉ q
  fragment : Option Bytes

namespace UrlParts

variable (u : UrlParts)

/-- `:port`, if there is one. -/
def portText : Bytes := u.port.elim [] (fun p => COLON :: p.digits)

/-- `?query`, if there is one. -/
def queryText : Bytes := u.query.elim [] (fun q => QUESTION :: q)

/-- `#fragment`, if there is one. -/
def fragmentText : Bytes := u.fragment.elim [] (fun f => HASH :: f)

/-- `scheme://host[:port]path[?query][#fragment]`. -/
def text : Bytes :=
  u.scheme ++ ascii "://"
    ++ (u.host.text ++ u.portText ++ (u.path ++ u.queryText ++ u.fragmentText))

/-- The scheme is `https`. -/
def secure : Bool := decide (lowerASCII u.scheme = ascii "https")

/-- The port that goes without saying. -/
def defaultPort : Nat := if u.secure then 443 else 80

/-- The port, or the scheme's default. -/
def portNumber : Nat := u.port.elim u.defaultPort (fun p => decimalValue p.digits)

/-- What is to be known of the URL. -/
def parsed : SSEDMUrl where
  host := u.host.bytes
  port := u.portNumber
  secure := u.secure
  path := (if u.path = [] then [SLASH] else u.path) ++ u.queryText
  hostHeader :=
    (if COLON ∈ u.host.bytes then LBRACKET :: u.host.bytes ++ [RBRACKET] else u.host.bytes)
      ++ if u.portNumber = u.defaultPort then [] else COLON :: decimal u.portNumber

/-! ## §2. The scheme and the authority. -/

/-- The scheme is one of the two words, its letters in either case. -/
theorem scheme_noCase : List.Forall₂ EqualNoCase u.scheme (ascii "http")
    ∨ List.Forall₂ EqualNoCase u.scheme (ascii "https") := by
  rw [← lowerASCII_eq_iff (by decide), ← lowerASCII_eq_iff (by decide)]
  exact u.isHttp

theorem secure_iff : u.secure = true ↔ List.Forall₂ EqualNoCase u.scheme (ascii "https") := by
  rw [secure, decide_eq_true_eq, lowerASCII_eq_iff (by decide)]

/-- Lower case does not make a colon. -/
theorem colon_not_mem_of_lowerASCII {s : Bytes} (h : COLON ∉ lowerASCII s) : COLON ∉ s := by
  intro hmem
  exact h (List.mem_map.mpr ⟨COLON, hmem, rfl⟩)

theorem colon_not_mem_scheme : COLON ∉ u.scheme := by
  apply colon_not_mem_of_lowerASCII
  rcases u.isHttp with h | h <;> rw [h] <;> decide

/-- What is in neither the host nor the port. -/
theorem UrlHost.text_plain (h : UrlHost) : ∀ c ∈ h.text, c ∉ [SLASH, QUESTION, HASH, AT] := by
  intro c hc
  cases h with
  | name bytes _ plain =>
      have hnot := plain c hc
      simp only [List.mem_cons, List.not_mem_nil, or_false, not_or] at hnot ⊢
      exact ⟨hnot.2.1, hnot.2.2.1, hnot.2.2.2.1, hnot.2.2.2.2.1⟩
  | literal bytes _ plain =>
      simp only [UrlHost.text, List.cons_append, List.mem_cons, List.mem_append,
        List.not_mem_nil, or_false] at hc
      rcases hc with rfl | hc | rfl
      · decide
      · have hnot := plain c hc
        simp only [List.mem_cons, List.not_mem_nil, or_false, not_or] at hnot ⊢
        exact ⟨hnot.1, hnot.2.1, hnot.2.2.1, hnot.2.2.2.1⟩
      · decide

theorem portText_plain : ∀ c ∈ u.portText, c ∉ [SLASH, QUESTION, HASH, AT] := by
  have hdigit : ∀ d ∈ [SLASH, QUESTION, HASH, AT], isDigit d = false := by
    intro d hd
    simp only [List.mem_cons, List.not_mem_nil, or_false] at hd
    rcases hd with rfl | rfl | rfl | rfl <;> rfl
  intro c hc hmem
  unfold portText at hc
  cases hport : u.port with
  | none =>
      rw [hport] at hc
      cases hc
  | some p =>
      rw [hport] at hc
      rcases List.mem_cons.mp hc with rfl | hc
      · revert hmem
        decide
      · have hd := p.isDigits c hc
        rw [hdigit c hmem] at hd
        cases hd

/-- The authority ends where host and port end. -/
theorem authority_plain : ∀ c ∈ u.host.text ++ u.portText,
    c ≠ AT ∧ endsAuthority c = false := by
  intro c hc
  have hnot : c ∉ [SLASH, QUESTION, HASH, AT] := by
    rcases List.mem_append.mp hc with hc | hc
    · exact UrlHost.text_plain u.host c hc
    · exact u.portText_plain c hc
  simp only [List.mem_cons, List.not_mem_nil, or_false, not_or] at hnot
  refine ⟨hnot.2.2.2, ?_⟩
  simp [endsAuthority, hnot]

/-- What follows the authority is nothing, or starts with what ends it. -/
theorem afterAuthority_head :
    ∀ c, (u.path ++ u.queryText ++ u.fragmentText).head? = some c → endsAuthority c = true := by
  intro c hc
  rcases u.path_slash with hpath | hpath
  · -- without a path: the question mark, the hash, or the end of the URL
    rw [hpath, List.nil_append] at hc
    unfold queryText fragmentText at hc
    cases hquery : u.query with
    | some q =>
        rw [hquery] at hc
        obtain rfl : QUESTION = c := Option.some.inj hc
        rfl
    | none =>
        rw [hquery] at hc
        cases hfragment : u.fragment with
        | some f =>
            rw [hfragment] at hc
            obtain rfl : HASH = c := Option.some.inj hc
            rfl
        | none =>
            rw [hfragment] at hc
            cases hc
  · obtain ⟨rest, hrest⟩ : ∃ rest, u.path = SLASH :: rest := List.head?_eq_some_iff.mp hpath
    rw [hrest] at hc
    obtain rfl : SLASH = c := Option.some.inj hc
    rfl

/-- **A port of digits is read as its number**, whatever its zeros. -/
theorem parsePort_digits (p : UrlPort) : parsePort p.digits = some (decimalValue p.digits) := by
  have hne : p.digits ≠ [] := by
    intro hnil
    have hpositive := p.positive
    rw [hnil] at hpositive
    cases hpositive
  have hpositive := p.positive
  have hsmall := p.small
  have hlong : ¬ LONG_MAX < decimalValue p.digits := by
    unfold LONG_MAX
    omega
  unfold parsePort
  rw [if_neg hne, strtol_digits LONG_MAX hne p.isDigits, if_neg hlong]
  simp only [Bool.false_or, ne_eq, not_true_eq_false, decide_false, Bool.or_eq_true,
    decide_eq_true_eq]
  rw [if_neg (by omega)]
  rfl

/-- **The authority gives the host without brackets, and the port.** -/
theorem parseAuthority_text (defaultPort : Nat) :
    parseAuthority (u.host.text ++ u.portText) defaultPort
      = .ok (u.host.bytes, u.port.elim defaultPort (fun p => decimalValue p.digits)) := by
  unfold portText
  cases hhost : u.host with
  | literal bytes colon plain =>
      -- the host ends at the first closing bracket, and a colon in it is no port's
      have hbracket : RBRACKET ∉ bytes := fun hmem => plain RBRACKET hmem (by decide)
      have hne : bytes ≠ [] := List.ne_nil_of_mem colon
      generalize hport : u.port.elim [] (fun p => COLON :: p.digits) = port
      have htext : (UrlHost.literal bytes colon plain).text ++ port
          = LBRACKET :: (bytes ++ RBRACKET :: port) := by
        simp [UrlHost.text]
      unfold parseAuthority
      rw [htext, if_pos (by rfl)]
      simp only [List.drop_succ_cons, List.drop_zero, takeWhile_bne hbracket,
        dropWhile_bne hbracket]
      rw [if_neg (by simp [hne])]
      cases hp : u.port with
      | none =>
          rw [hp] at hport
          subst hport
          rfl
      | some p =>
          rw [hp] at hport
          subst hport
          simp only [Option.elim_some, ne_eq, not_true_eq_false, if_false, parsePort_digits]
          rfl
  | name bytes nonempty plain =>
      -- a name has no colon, so the first one is the port's
      have hcolon : COLON ∉ bytes := fun hmem => plain COLON hmem (by decide)
      have hhead : ∀ rest : Bytes, (bytes ++ rest).head? ≠ some LBRACKET := by
        intro rest hhead
        rw [List.head?_append_of_ne_nil _ nonempty] at hhead
        have hnot := plain LBRACKET (List.mem_of_head? hhead)
        revert hnot
        decide
      show parseAuthority (bytes ++ _) defaultPort = .ok (bytes, _)
      unfold parseAuthority
      rw [if_neg (hhead _)]
      cases hp : u.port with
      | none =>
          rw [Option.elim_none, List.append_nil, dropWhile_bne_of_not_mem hcolon]
          rfl
      | some p =>
          have hdigits : COLON ∉ p.digits := by
            intro hmem
            have hdigit := p.isDigits COLON hmem
            revert hdigit
            decide
          rw [Option.elim_some, dropWhile_bne hcolon, takeWhile_bne hcolon]
          simp only [hdigits, if_false, parsePort_digits]
          rfl

/-! ## §3. The path. -/

/-- `m_Path` is what comes before the fragment, after a slash if it has none. -/
theorem pathOf_eq (after : Bytes) :
    pathOf after
      = if after.head? = some SLASH then after.takeWhile (· != HASH)
        else SLASH :: after.takeWhile (· != HASH) := by
  have hslash : ∀ s : Bytes,
      (SLASH :: s).takeWhile (· != HASH) = SLASH :: s.takeWhile (· != HASH) :=
    fun s => List.takeWhile_cons_of_pos (by decide)
  unfold pathOf
  cases after with
  | nil => rfl
  | cons c rest =>
      by_cases hc : c = SLASH
      · subst hc
        simp [hslash]
      · simp [hc, hslash]

theorem pathOf_text : pathOf (u.path ++ u.queryText ++ u.fragmentText) = u.parsed.path := by
  have hbefore : HASH ∉ u.path ++ u.queryText := by
    intro hc
    rcases List.mem_append.mp hc with hc | hc
    · exact u.path_plain.2 hc
    · unfold queryText at hc
      cases hquery : u.query with
      | none =>
          rw [hquery] at hc
          cases hc
      | some q =>
          rw [hquery] at hc
          rcases List.mem_cons.mp hc with hc | hc
          · revert hc
            decide
          · exact u.query_plain q hquery hc
  have htake : (u.path ++ u.queryText ++ u.fragmentText).takeWhile (· != HASH)
      = u.path ++ u.queryText := by
    rw [List.takeWhile_append_of_pos (bne_of_not_mem hbefore)]
    unfold fragmentText
    cases u.fragment with
    | none => simp
    | some f =>
        rw [Option.elim_some, List.takeWhile_cons_of_neg (by decide), List.append_nil]
  rw [pathOf_eq, htake]
  show _ = (if u.path = [] then [SLASH] else u.path) ++ u.queryText
  by_cases hpath : u.path = []
  · -- without a path the query or the fragment comes first
    have hhead : ([] ++ u.queryText ++ u.fragmentText).head? ≠ some SLASH := by
      have hne : QUESTION ≠ SLASH ∧ HASH ≠ SLASH := by decide
      unfold queryText fragmentText
      cases u.query <;> cases u.fragment <;> simp [hne]
    rw [hpath, if_neg hhead, if_pos rfl]
    rfl
  · have hhead : (u.path ++ u.queryText ++ u.fragmentText).head? = some SLASH := by
      rw [List.append_assoc, List.head?_append_of_ne_nil _ hpath]
      exact u.path_slash.resolve_left hpath
    rw [if_pos hhead, if_neg hpath]

/-! ## §4. The URL. -/

/-- The host header names the port when it is not the default. -/
theorem hostHeaderOf_parsed :
    hostHeaderOf u.host.bytes u.portNumber u.secure = u.parsed.hostHeader := by
  have hdefault : isDefaultPort u.secure u.portNumber = decide (u.portNumber = u.defaultPort) := by
    unfold isDefaultPort defaultPort
    cases u.secure <;> simp [Bool.beq_eq_decide_eq]
  unfold hostHeaderOf parsed
  rw [hdefault]
  by_cases hport : u.portNumber = u.defaultPort
  · simp [hport]
  · simp [hport]

theorem host_nonempty : u.host.bytes ≠ [] := by
  cases u.host with
  | name bytes nonempty _ => exact nonempty
  | literal bytes colon _ => exact List.ne_nil_of_mem colon

theorem parseAfterScheme_text :
    parseAfterScheme u.secure u.defaultPort
        (u.host.text ++ u.portText ++ (u.path ++ u.queryText ++ u.fragmentText))
      = .ok u.parsed := by
  have hplain : ∀ c ∈ u.host.text ++ u.portText, (!endsAuthority c) = true := by
    intro c hc
    rw [(u.authority_plain c hc).2]
    rfl
  have hstop : ∀ c, (u.path ++ u.queryText ++ u.fragmentText).head? = some c →
      (!endsAuthority c) = false := by
    intro c hc
    rw [u.afterAuthority_head c hc]
    rfl
  obtain ⟨hauthority, hafter⟩ := takeWhile_dropWhile_append hplain hstop
  have hne : u.host.text ++ u.portText ≠ [] := by
    apply List.append_ne_nil_of_left_ne_nil
    cases u.host with
    | name bytes nonempty _ => exact nonempty
    | literal bytes _ _ => exact List.cons_ne_nil _ _
  have hok : ¬ (u.host.text ++ u.portText = [] ∨ AT ∈ u.host.text ++ u.portText) := by
    rintro (hnil | hat)
    · exact hne hnil
    · exact (u.authority_plain AT hat).1 rfl
  unfold parseAfterScheme
  simp only [hauthority, hafter]
  rw [if_neg hok, u.parseAuthority_text]
  simp only [u.pathOf_text]
  rw [if_neg u.host_nonempty]
  show Except.ok (SSEDMUrl.mk u.host.bytes u.parsed.path
    (hostHeaderOf u.host.bytes u.portNumber u.secure) u.portNumber u.secure) = _
  rw [u.hostHeaderOf_parsed]
  rfl

/-- **URL components survive `SSEDM_ParseUrl`.** -/
theorem parseUrl_text {url : CString} (hurl : url.bytes = u.text) :
    parseUrl (some url) = .ok u.parsed := by
  -- the scheme has no colon, so no earlier place can match
  have hfind : find (ascii "://") u.text = some u.scheme.length := by
    unfold text
    rw [List.append_assoc]
    exact find_append_of_not_mem u.colon_not_mem_scheme [SLASH, SLASH] _
  have htake : u.text.take u.scheme.length = u.scheme := by
    unfold text
    rw [List.append_assoc, List.take_left]
  have hdrop : u.text.drop (u.scheme.length + 3)
      = u.host.text ++ u.portText ++ (u.path ++ u.queryText ++ u.fragmentText) := by
    have hlength : u.scheme.length + 3 = (u.scheme ++ ascii "://").length := by
      rw [List.length_append]
      rfl
    unfold text
    rw [hlength, List.drop_left]
  have hne : u.text ≠ [] := by
    intro hnil
    rw [hnil] at hfind
    cases hfind
  have hrest := u.parseAfterScheme_text
  unfold parseUrl
  simp only [hurl, if_neg hne, hfind, htake, hdrop]
  rcases u.isHttp with hhttp | hhttps
  · have hsecure : u.secure = false := by
      unfold secure
      rw [hhttp]
      decide
    rw [defaultPort, hsecure] at hrest
    rw [if_pos hhttp]
    exact hrest
  · have hsecure : u.secure = true := decide_eq_true hhttps
    have hnot : lowerASCII u.scheme ≠ ascii "http" := by
      rw [hhttps]
      decide
    rw [defaultPort, hsecure] at hrest
    rw [if_neg hnot, if_pos hhttps]
    exact hrest

/-- A bracketed host, a port with zeros, a query without a path, and a fragment
that looks like another URL. -/
theorem parseUrl_text_fragment :
    parseUrl (some (.lit "HttpS://[::1]:00080?a=/b#http://u@h:1/?#"))
      = .ok ⟨ascii "::1", ascii "/?a=/b", ascii "[::1]:80", 80, true⟩ := by
  have hparsed := @parseUrl_text
    { scheme := ascii "HttpS"
      isHttp := .inr (by decide)
      host := .literal (ascii "::1") (by decide) (@of_decide_eq_true _ (List.decidableBAll _ _) rfl)
      port := some
        { digits := ascii "00080"
          isDigits := @of_decide_eq_true _ (List.decidableBAll _ _) rfl
          positive := by decide
          small := by decide }
      path := []
      path_slash := .inl rfl
      path_plain := by decide
      query := some (ascii "a=/b")
      query_plain := by
        intro q hq
        cases hq
        decide
      fragment := some (ascii "http://u@h:1/?#") }
    (.lit "HttpS://[::1]:00080?a=/b#http://u@h:1/?#") (by decide)
  rw [hparsed]
  decide

end UrlParts

end DefoldSSE
