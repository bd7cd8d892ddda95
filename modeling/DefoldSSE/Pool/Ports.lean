/-
  DefoldSSE.Pool.Ports — what `SSEDM_ParseUrl` takes for a port.

  The text after the host's colon goes to `strtol`, which has a grammar of its
  own: it skips blanks and a `+`.  `SSEDM_ParsePort` looks at `errno`, at the
  end pointer and at the range, and none of these shows what was skipped
  (`parsePort_eq_some_iff`).  And where the text has a further colon, the whole
  authority is taken for an IPv6 address without brackets.

  `ports_iff` says that these are the only ways to have a port that is not the
  decimal number in its place.
-/
import DefoldSSE.Pool.Url

namespace DefoldSSE

open CLib

/-! ## §1. Authorities with a port. -/

/-- An authority with a colon behind its host: `host:text`, or
`[literal]:text`. -/
inductive HostPort where
  | name (host text : Bytes) (noColon : COLON ∉ host) (plain : host.head? ≠ some LBRACKET)
  | literal (host text : Bytes) (closed : RBRACKET ∉ host)

/-- The digits of a port number, however many. -/
def IsPort (text : Bytes) : Prop :=
  text ≠ [] ∧ (∀ c ∈ text, isDigit c = true) ∧ 1 ≤ decimalValue text ∧ decimalValue text ≤ 65535

/-- A port behind blanks, a `+`, or both. -/
def IsPaddedPort (text : Bytes) : Prop :=
  ∃ blanks sign digits, text = blanks ++ (sign ++ digits)
    ∧ (∀ c ∈ blanks, isSpace c = true) ∧ (sign = [] ∨ sign = [43])
    ∧ blanks ++ sign ≠ [] ∧ IsPort digits

namespace HostPort

def host : HostPort → Bytes
  | .name host _ _ _ => host
  | .literal host _ _ => host

/-- What stands in the port's place. -/
def port : HostPort → Bytes
  | .name _ text _ _ => text
  | .literal _ text _ => text

def bytes : HostPort → Bytes
  | .name host text _ _ => host ++ COLON :: text
  | .literal host text _ => LBRACKET :: (host ++ RBRACKET :: COLON :: text)

/-- A host that is not bracketed is taken together with its text for an IPv6
address. -/
def ReadAsAddress : HostPort → Prop
  | .name _ text _ _ => COLON ∈ text
  | .literal _ _ _ => False

/-- The port is not the decimal number in its place: it is padded, or there is
none for the code. -/
def Misread (a : HostPort) : Prop := a.ReadAsAddress ∨ (a.host ≠ [] ∧ IsPaddedPort a.port)

end HostPort

/-- The URL has a scheme that is `http` or `https`. -/
def HttpScheme (url : Bytes) : Prop :=
  ∃ schemeEnd, find (ascii "://") url = some schemeEnd
    ∧ (lowerASCII (url.take schemeEnd) = ascii "http"
      ∨ lowerASCII (url.take schemeEnd) = ascii "https")

/-! ## §2. `SSEDM_ParsePort`. -/

theorem parsePort_of_port {digits : Bytes} (h : IsPort digits) {blanks sign : Bytes}
    (hblanks : ∀ c ∈ blanks, isSpace c = true) (hsign : sign = [] ∨ sign = [43]) :
    parsePort (blanks ++ (sign ++ digits)) = some (decimalValue digits) := by
  obtain ⟨hne, hdigits, hlo, hhi⟩ := h
  have htext : blanks ++ (sign ++ digits) ≠ [] := by simp [hne]
  have hlong : ¬ LONG_MAX < decimalValue digits := by
    unfold LONG_MAX
    omega
  unfold parsePort
  rw [if_neg htext, strtol_skips LONG_MAX hblanks hsign hne hdigits,
    strtol_digits LONG_MAX hne hdigits, if_neg hlong]
  simp only [Bool.false_or, ne_eq, not_true_eq_false, decide_false, Bool.or_eq_true,
    decide_eq_true_eq]
  rw [if_neg (by omega)]
  rfl

/-- **What `SSEDM_ParsePort` accepts.** -/
theorem parsePort_eq_some_iff (text : Bytes) (p : Nat) :
    parsePort text = some p
      ↔ ∃ blanks sign digits, text = blanks ++ (sign ++ digits)
          ∧ (∀ c ∈ blanks, isSpace c = true) ∧ (sign = [] ∨ sign = [43])
          ∧ IsPort digits ∧ decimalValue digits = p := by
  constructor
  · intro h
    unfold parsePort at h
    split at h
    · cases h
    dsimp only at h
    split at h
    · cases h
    next hchecks =>
      simp only [Bool.or_eq_true, decide_eq_true_eq, not_or] at hchecks
      obtain ⟨⟨⟨herange, hrest⟩, hlo⟩, hhi⟩ := hchecks
      obtain ⟨blanks, sign, digits, rfl, hblanks, hsign, hne, hdigits⟩ :=
        strtol_full (not_not.mp hrest) (Int.lt_of_not_ge hlo)
      rw [strtol_skips LONG_MAX hblanks hsign hne hdigits,
        strtol_digits LONG_MAX hne hdigits] at h herange hlo hhi
      -- a number that saturates sets ERANGE
      have hlong : ¬ LONG_MAX < decimalValue digits := by
        intro hlong
        rw [if_pos hlong] at herange
        exact herange rfl
      rw [if_neg hlong] at h hlo hhi
      have hvalue : decimalValue digits = p := Option.some.inj h
      refine ⟨blanks, sign, digits, rfl, hblanks, hsign, ⟨hne, hdigits, ?_, ?_⟩, hvalue⟩
      · dsimp only at hlo
        omega
      · dsimp only at hhi
        omega
  · intro h
    obtain ⟨blanks, sign, digits, rfl, hblanks, hsign, hport, rfl⟩ := h
    exact parsePort_of_port hport hblanks hsign

/-- A text that is not padded is a port number, or refused. -/
theorem parsePort_unpadded {text : Bytes} (hpadded : ¬ IsPaddedPort text) {p : Nat}
    (h : parsePort text = some p) : IsPort text ∧ p = decimalValue text := by
  obtain ⟨blanks, sign, digits, htext, hblanks, hsign, hport, hvalue⟩ :=
    (parsePort_eq_some_iff text p).mp h
  by_cases hnone : blanks ++ sign = []
  · have hsame : text = digits := by
      rw [htext, ← List.append_assoc, hnone, List.nil_append]
    rw [hsame]
    exact ⟨hport, hvalue.symm⟩
  · exact absurd ⟨blanks, sign, digits, htext, hblanks, hsign, hnone, hport⟩ hpadded

/-- A padded text is accepted, and it is no port number. -/
theorem parsePort_padded {text : Bytes} (h : IsPaddedPort text) :
    (∃ p, parsePort text = some p) ∧ ¬ IsPort text := by
  obtain ⟨blanks, sign, digits, rfl, hblanks, hsign, hsome, hport⟩ := h
  refine ⟨⟨_, parsePort_of_port hport hblanks hsign⟩, ?_⟩
  intro htext
  rw [← List.append_assoc] at htext
  obtain ⟨c, cs, hcons⟩ := List.exists_cons_of_ne_nil hsome
  have hmem : c ∈ blanks ++ sign := by
    rw [hcons]
    exact List.mem_cons_self
  have hdigit : isDigit c = true := htext.2.1 c (List.mem_append_left _ hmem)
  rcases List.mem_append.mp hmem with hblank | hplus
  · have hspace := hblanks c hblank
    rw [isSpace_of_isDigit hdigit] at hspace
    cases hspace
  · rcases hsign with rfl | rfl
    · cases hplus
    · obtain rfl := List.mem_singleton.mp hplus
      exact (ne_sign_of_isDigit hdigit).1 rfl

/-! ## §3. The authority. -/

namespace HostPort

/-- In brackets, only the text behind the second colon is a port. -/
theorem parseAuthority_literal {host text : Bytes} (closed : RBRACKET ∉ host) (defaultPort : Nat) :
    parseAuthority (literal host text closed).bytes defaultPort
      = if host = [] then .error "SSE URL IPv6 host is invalid"
        else
          match parsePort text with
          | none => .error "SSE URL port is invalid"
          | some port => .ok (host, port) := by
  unfold parseAuthority
  show (if (LBRACKET :: (host ++ RBRACKET :: COLON :: text)).head? = some LBRACKET then _
    else _) = _
  rw [if_pos (by rfl)]
  simp only [bytes, List.drop_succ_cons, List.drop_zero, takeWhile_bne closed,
    dropWhile_bne closed]
  by_cases hhost : host = []
  · rw [if_pos (.inr hhost), if_pos hhost]
  · cases parsePort text with
    | none => simp only [hhost, or_false, List.cons_ne_nil, if_false, ne_eq, not_true_eq_false]
    | some port => simp only [hhost, or_false, List.cons_ne_nil, if_false, ne_eq, not_true_eq_false]

/-- Without brackets, the first colon ends the host if it is the only one. -/
theorem parseAuthority_name {host text : Bytes} (noColon : COLON ∉ host)
    (plain : host.head? ≠ some LBRACKET) (defaultPort : Nat) :
    parseAuthority (name host text noColon plain).bytes defaultPort
      = if COLON ∈ text then .ok (host ++ COLON :: text, defaultPort)
        else
          match parsePort text with
          | none => .error "SSE URL port is invalid"
          | some port => .ok (host, port) := by
  have hhead : (host ++ COLON :: text).head? ≠ some LBRACKET := by
    cases host with
    | nil =>
        show some COLON ≠ some LBRACKET
        decide
    | cons c host => exact plain
  unfold parseAuthority
  cases hport : parsePort text with
  | none => simp only [bytes, if_neg hhead, dropWhile_bne noColon, hport]
  | some port =>
      simp only [bytes, if_neg hhead, dropWhile_bne noColon, takeWhile_bne noColon, hport]

theorem bytes_ne_nil (a : HostPort) : a.bytes ≠ [] := by
  cases a with
  | name host text noColon plain => exact List.append_ne_nil_of_right_ne_nil _ (by simp)
  | literal host text closed => exact List.cons_ne_nil _ _

/-- A host and a port: either the whole authority is the host, or the text gave
the port. -/
theorem parseAuthority_ok {a : HostPort} {defaultPort p : Nat} {host : Bytes}
    (h : parseAuthority a.bytes defaultPort = .ok (host, p)) (hhost : host ≠ []) :
    a.ReadAsAddress ∨ (a.host ≠ [] ∧ parsePort a.port = some p) := by
  cases a with
  | name name text noColon plain =>
      rw [parseAuthority_name] at h
      split at h
      · next hmem => exact .inl hmem
      · split at h
        · cases h
        · next port hport =>
            have hpair := Prod.mk.inj (Except.ok.inj h)
            obtain ⟨rfl, rfl⟩ := hpair
            exact .inr ⟨hhost, hport⟩
  | literal name text closed =>
      rw [parseAuthority_literal] at h
      split at h
      · cases h
      · split at h
        · cases h
        · next hne _ port hport =>
            have hpair := Prod.mk.inj (Except.ok.inj h)
            obtain ⟨rfl, rfl⟩ := hpair
            exact .inr ⟨hhost, hport⟩

theorem parseAuthority_of_address {a : HostPort} (h : a.ReadAsAddress) (defaultPort : Nat) :
    parseAuthority a.bytes defaultPort = .ok (a.bytes, defaultPort) := by
  cases a with
  | name name text noColon plain =>
      have h : COLON ∈ text := h
      rw [parseAuthority_name, if_pos h]
      rfl
  | literal name text closed => cases h

theorem parseAuthority_of_port {a : HostPort} (h : ¬ a.ReadAsAddress) (hhost : a.host ≠ [])
    {p : Nat} (hport : parsePort a.port = some p) (defaultPort : Nat) :
    parseAuthority a.bytes defaultPort = .ok (a.host, p) := by
  cases a with
  | name name text noColon plain =>
      have h : COLON ∉ text := h
      have hport : parsePort text = some p := hport
      rw [parseAuthority_name, if_neg h, hport]
      rfl
  | literal name text closed =>
      have hhost : name ≠ [] := hhost
      have hport : parsePort text = some p := hport
      rw [parseAuthority_literal, if_neg hhost, hport]
      rfl

end HostPort

/-! ## §4. The URL. -/

theorem parseAfterScheme_ok {secure : Bool} {defaultPort : Nat} {rest : Bytes} {u : SSEDMUrl}
    (h : parseAfterScheme secure defaultPort rest = .ok u) :
    AT ∉ rest.takeWhile (fun c => !endsAuthority c) ∧ u.host ≠ []
      ∧ parseAuthority (rest.takeWhile (fun c => !endsAuthority c)) defaultPort
          = .ok (u.host, u.port) := by
  unfold parseAfterScheme at h
  dsimp only at h
  split at h
  · cases h
  · next hauthority =>
      split at h
      · cases h
      · next host port hhost =>
          split at h
          · cases h
          · next hne =>
              obtain rfl := Except.ok.inj h
              exact ⟨fun hat => hauthority (.inr hat), hne, hhost⟩

theorem parseAfterScheme_of_ok {secure : Bool} {defaultPort p : Nat} {rest host : Bytes}
    (hne : rest.takeWhile (fun c => !endsAuthority c) ≠ [])
    (hat : AT ∉ rest.takeWhile (fun c => !endsAuthority c)) (hhost : host ≠ [])
    (h : parseAuthority (rest.takeWhile (fun c => !endsAuthority c)) defaultPort
      = .ok (host, p)) :
    ∃ u, parseAfterScheme secure defaultPort rest = .ok u ∧ u.port = p := by
  unfold parseAfterScheme
  dsimp only
  rw [if_neg (not_or.mpr ⟨hne, hat⟩), h]
  dsimp only
  rw [if_neg hhost]
  exact ⟨_, rfl, rfl⟩

/-- Past its scheme, a URL is parsed as what follows the scheme. -/
theorem parseUrl_of_scheme {url : CString} (hscheme : HttpScheme url.bytes) :
    ∃ secure defaultPort,
      parseUrl (some url) = parseAfterScheme secure defaultPort (afterScheme url.bytes) := by
  obtain ⟨schemeEnd, hfind, hname⟩ := hscheme
  have hne : url.bytes ≠ [] := by
    intro hnil
    rw [hnil] at hfind
    cases hfind
  unfold parseUrl afterScheme
  simp only [if_neg hne, hfind]
  rcases hname with hhttp | hhttps
  · rw [if_pos hhttp]
    exact ⟨false, 80, rfl⟩
  · have hother : ascii "https" ≠ ascii "http" := by decide
    rw [hhttps, if_neg hother, if_pos rfl]
    exact ⟨true, 443, rfl⟩

theorem httpScheme_of_ok {url : CString} {u : SSEDMUrl} (h : parseUrl (some url) = .ok u) :
    HttpScheme url.bytes := by
  unfold parseUrl at h
  dsimp only at h
  split at h
  · cases h
  · split at h
    · cases h
    · next schemeEnd hfind =>
        split at h
        · next hhttp => exact ⟨schemeEnd, hfind, .inl hhttp⟩
        · split at h
          · next hhttps => exact ⟨schemeEnd, hfind, .inr hhttps⟩
          · cases h

/-- **PORTS ARE DIGITS ONLY, AND WHEN.** A URL with a colon behind its host is
accepted only with a decimal number from 1 to 65535 there, which is then its
port, exactly if it is not misread. -/
theorem ports_iff (url : CString) (a : HostPort) (ha : authorityText url.bytes = a.bytes) :
    (∀ u, parseUrl (some url) = .ok u → IsPort a.port ∧ u.port = decimalValue a.port)
      ↔ ¬ (HttpScheme url.bytes ∧ AT ∉ a.bytes ∧ a.Misread) := by
  constructor
  · intro hall hmisread
    obtain ⟨hscheme, hat, hmisread⟩ := hmisread
    obtain ⟨secure, defaultPort, hurl⟩ := parseUrl_of_scheme hscheme
    rw [← ha] at hat
    have hne : authorityText url.bytes ≠ [] := by
      rw [ha]
      exact a.bytes_ne_nil
    -- accepted, with whatever host and port the authority gives
    have haccepts : ∀ host p, host ≠ [] →
        parseAuthority a.bytes defaultPort = .ok (host, p) → IsPort a.port := by
      intro host p hhost hok
      rw [← ha] at hok
      obtain ⟨u, hu, -⟩ := parseAfterScheme_of_ok hne hat hhost hok
      exact (hall u (hurl.trans hu)).1
    by_cases haddress : a.ReadAsAddress
    · have hport := haccepts _ _ a.bytes_ne_nil (a.parseAuthority_of_address haddress defaultPort)
      cases a with
      | name host text noColon plain =>
          have hdigit := hport.2.1 COLON haddress
          revert hdigit
          decide
      | literal host text closed => cases haddress
    · obtain ⟨hhost, hpadded⟩ := hmisread.resolve_left haddress
      obtain ⟨⟨p, hp⟩, hnot⟩ := parsePort_padded hpadded
      exact hnot (haccepts _ _ hhost (a.parseAuthority_of_port haddress hhost hp defaultPort))
  · intro hnot u hu
    have hscheme := httpScheme_of_ok hu
    obtain ⟨secure, defaultPort, hurl⟩ := parseUrl_of_scheme hscheme
    rw [hurl] at hu
    obtain ⟨hat, hhost, hok⟩ := parseAfterScheme_ok hu
    change AT ∉ authorityText url.bytes at hat
    change parseAuthority (authorityText url.bytes) defaultPort = _ at hok
    rw [ha] at hat hok
    rcases HostPort.parseAuthority_ok hok hhost with haddress | ⟨hname, hport⟩
    · exact absurd ⟨hscheme, hat, .inl haddress⟩ hnot
    · exact parsePort_unpadded (fun hpadded => hnot ⟨hscheme, hat, .inr ⟨hname, hpadded⟩⟩) hport

/-- Leading zeros beyond the digits of any integer type, behind an address in
brackets. -/
theorem ports_iff_zeros :
    authorityText (ascii "http://[::1]:00000000000000000000443/")
        = (HostPort.literal (ascii "::1") (ascii "00000000000000000000443") (by decide)).bytes
      ∧ ∀ u, parseUrl (some (.lit "http://[::1]:00000000000000000000443/")) = .ok u →
          u.port = 443 := by
  have htext : authorityText (ascii "http://[::1]:00000000000000000000443/")
      = (HostPort.literal (ascii "::1") (ascii "00000000000000000000443") (by decide)).bytes := by
    decide
  refine ⟨htext, fun u hu => ?_⟩
  have hiff := ports_iff (.lit "http://[::1]:00000000000000000000443/") _ htext
  refine (hiff.mpr ?_ u hu).2
  rintro ⟨-, -, haddress | ⟨-, blanks, sign, digits, hsplit, hblanks, hsign, hsome, hport⟩⟩
  · exact haddress
  · exact (parsePort_padded ⟨blanks, sign, digits, hsplit, hblanks, hsign, hsome, hport⟩).2
      ⟨by decide, by decide +kernel, by decide, by decide⟩

/-- `http://h:+80` is accepted, with port 80. -/
theorem ports_padded :
    parseUrl (some (.lit "http://h:+80/"))
        = .ok ⟨ascii "h", ascii "/", ascii "h", 80, false⟩
      ∧ ¬ ∀ (url : CString) (a : HostPort), authorityText url.bytes = a.bytes →
          ∀ u, parseUrl (some url) = .ok u → IsPort a.port ∧ u.port = decimalValue a.port := by
  have haccepted : parseUrl (some (.lit "http://h:+80/"))
      = .ok ⟨ascii "h", ascii "/", ascii "h", 80, false⟩ := by decide
  refine ⟨haccepted, fun hall => ?_⟩
  have hport := (hall (.lit "http://h:+80/") (.name (ascii "h") (ascii "+80") (by decide)
    (by decide)) (by decide) _ haccepted).1
  exact absurd (hport.2.1 43 (by decide)) (by decide)

end DefoldSSE
