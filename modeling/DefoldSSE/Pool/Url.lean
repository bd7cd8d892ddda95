/-
  DefoldSSE.Pool.Url — `SSEDM_ParseUrl` of the connection-pool backend, and what
  of the URL's text ends up in its host and its path.

  The code works with indices into a `std::string`; a piece between two indices
  is written here as the piece.
-/
import Mathlib.Data.List.Forall2
import DefoldSSE.Lib.CStdlib
import DefoldSSE.Lib.Search

namespace DefoldSSE

open CLib

/-- `/`. -/
abbrev SLASH : UInt8 := 47
/-- `?`. -/
abbrev QUESTION : UInt8 := 63
/-- `#`. -/
abbrev HASH : UInt8 := 35
/-- `@`. -/
abbrev AT : UInt8 := 64
/-- `[`. -/
abbrev LBRACKET : UInt8 := 91
/-- `]`. -/
abbrev RBRACKET : UInt8 := 93

/-- `SSEDMUrl`. -/
structure SSEDMUrl where
  host : Bytes
  path : Bytes
  hostHeader : Bytes
  port : Nat
  secure : Bool
  deriving DecidableEq, Repr

/-! ## §1. The pieces. -/

/-- `SSEDM_LowerASCII`. -/
def lowerASCII (value : Bytes) : Bytes := value.map toLower

/-- **A word in lower case** is met by itself with letters in either case. -/
theorem lowerASCII_eq_iff {value word : Bytes} (hword : lowerASCII word = word) :
    lowerASCII value = word ↔ List.Forall₂ EqualNoCase value word := by
  unfold lowerASCII at hword ⊢
  induction word generalizing value with
  | nil => cases value <;> simp
  | cons d word ih =>
      obtain ⟨hd, hword⟩ := List.cons.inj hword
      cases value with
      | nil => simp
      | cons c value =>
          rw [List.map_cons, List.cons.injEq, List.forall₂_cons, toLower_eq_iff hd, ih hword]

/-- `SSEDM_IsDefaultPort`. -/
def isDefaultPort (secure : Bool) (port : Nat) : Bool :=
  (!secure && port == 80) || (secure && port == 443)

/-- `SSEDM_ParsePort`.  No digits give the value 0, whatever `errno` says. -/
def parsePort (port : Bytes) : Option Nat :=
  if port = [] then none
  else
    let r := strtol LONG_MAX port
    if r.erange || decide (r.rest ≠ []) || decide (r.value ≤ 0) || decide (r.value > 65535)
    then none
    else some r.value.toNat

/-- `find_first_of("/?#")`: where the authority ends. -/
def endsAuthority (c : UInt8) : Bool := c == SLASH || c == QUESTION || c == HASH

/-- `m_Path`, from the text that follows the authority. -/
def pathOf (afterAuthority : Bytes) : Bytes :=
  let path :=
    match afterAuthority with
    | [] => [SLASH]
    | c :: rest => if c = SLASH then c :: rest else SLASH :: c :: rest
  let path := path.takeWhile (· != HASH)
  if path = [] then [SLASH] else path

/-- The host and the port of a non-empty authority without `@`. -/
def parseAuthority (authority : Bytes) (defaultPort : Nat) : Except String (Bytes × Nat) :=
  if authority.head? = some LBRACKET then
    let host := (authority.drop 1).takeWhile (· != RBRACKET)
    let fromBracket := (authority.drop 1).dropWhile (· != RBRACKET)
    if fromBracket = [] ∨ host = [] then .error "SSE URL IPv6 host is invalid"
    else
      match fromBracket.drop 1 with
      | [] => .ok (host, defaultPort)
      | c :: port =>
          if c ≠ COLON then .error "SSE URL host is invalid"
          else
            match parsePort port with
            | none => .error "SSE URL port is invalid"
            | some port => .ok (host, port)
  else
    match authority.dropWhile (· != COLON) with
    | [] => .ok (authority, defaultPort)
    | _ :: port =>
        -- more than one colon: an IPv6 address without brackets
        if COLON ∈ port then .ok (authority, defaultPort)
        else
          match parsePort port with
          | none => .error "SSE URL port is invalid"
          | some port => .ok (authority.takeWhile (· != COLON), port)

/-- `m_HostHeader`. -/
def hostHeaderOf (host : Bytes) (port : Nat) (secure : Bool) : Bytes :=
  let hostHeader := if COLON ∈ host then [LBRACKET] ++ host ++ [RBRACKET] else host
  if isDefaultPort secure port then hostHeader else hostHeader ++ [COLON] ++ decimal port

/-! ## §2. `SSEDM_ParseUrl`. -/

/-- What follows the scheme's check. -/
def parseAfterScheme (secure : Bool) (defaultPort : Nat) (rest : Bytes) :
    Except String SSEDMUrl :=
  let authority := rest.takeWhile (fun c => !endsAuthority c)
  let path := pathOf (rest.dropWhile (fun c => !endsAuthority c))
  if authority = [] ∨ AT ∈ authority then .error "SSE URL host is invalid"
  else
    match parseAuthority authority defaultPort with
    | .error error => .error error
    | .ok (host, port) =>
        if host = [] then .error "SSE URL host is empty"
        else .ok ⟨host, path, hostHeaderOf host port secure, port, secure⟩

/-- `SSEDM_ParseUrl`. -/
def parseUrl (url : Option CString) : Except String SSEDMUrl :=
  match url with
  | none => .error "SSE URL is empty"
  | some url =>
      if url.bytes = [] then .error "SSE URL is empty"
      else
        match find (ascii "://") url.bytes with
        | none => .error "SSE URL must include http:// or https://"
        | some schemeEnd =>
            let scheme := lowerASCII (url.bytes.take schemeEnd)
            let rest := url.bytes.drop (schemeEnd + 3)
            if scheme = ascii "http" then parseAfterScheme false 80 rest
            else if scheme = ascii "https" then parseAfterScheme true 443 rest
            else .error "SSE URL must use http or https"

/-! ## §3. The text of a URL. -/

/-- The text after the first `://`. -/
def afterScheme (url : Bytes) : Bytes :=
  match find (ascii "://") url with
  | none => []
  | some i => url.drop (i + 3)

/-- The text between `://` and the first of `/`, `?` and `#`. -/
def authorityText (url : Bytes) : Bytes := (afterScheme url).takeWhile (fun c => !endsAuthority c)

/-- The text from there to the fragment. -/
def targetText (url : Bytes) : Bytes :=
  ((afterScheme url).dropWhile (fun c => !endsAuthority c)).takeWhile (· != HASH)

/-- The host of an authority: what stands in brackets, or before the only
colon, or all of it. -/
def hostText (authority : Bytes) : Bytes :=
  if authority.head? = some LBRACKET then (authority.drop 1).takeWhile (· != RBRACKET)
  else if authority.count COLON = 1 then authority.takeWhile (· != COLON)
  else authority

/-- Before the first colon there is none; so the others are all after it. -/
theorem count_dropWhile_colon (s : Bytes) :
    (s.dropWhile (· != COLON)).count COLON = s.count COLON := by
  induction s with
  | nil => rfl
  | cons c s ih =>
    by_cases hc : c = COLON
    · simp [hc]
    · simp [hc, ih]

theorem parseAuthority_host {authority host : Bytes} {defaultPort port : Nat}
    (h : parseAuthority authority defaultPort = .ok (host, port)) :
    host = hostText authority := by
  unfold parseAuthority at h
  unfold hostText
  by_cases hb : authority.head? = some LBRACKET
  · rw [if_pos hb] at h ⊢
    simp only at h
    split at h
    · cases h
    · split at h
      · exact (congrArg Prod.fst (Except.ok.inj h)).symm
      · split at h
        · cases h
        · split at h
          · cases h
          · exact (congrArg Prod.fst (Except.ok.inj h)).symm
  · rw [if_neg hb] at h ⊢
    have hcount := count_dropWhile_colon authority
    cases hd : authority.dropWhile (· != COLON) with
    | nil =>
        rw [hd] at h hcount
        rw [if_neg (by rw [← hcount]; simp)]
        exact (congrArg Prod.fst (Except.ok.inj h)).symm
    | cons c rest =>
        have hc : c = COLON := by
          have := List.head?_dropWhile_not (· != COLON) authority
          rw [hd] at this
          simpa using this
        rw [hd] at h hcount
        subst hc
        simp only at h
        by_cases hmem : COLON ∈ rest
        · have hpos : 0 < rest.count COLON := List.count_pos_iff.mpr hmem
          rw [if_pos hmem] at h
          rw [if_neg (by rw [← hcount, List.count_cons_self]; omega)]
          exact (congrArg Prod.fst (Except.ok.inj h)).symm
        · have hzero : rest.count COLON = 0 := List.count_eq_zero.mpr hmem
          rw [if_neg hmem] at h
          rw [if_pos (by rw [← hcount, List.count_cons_self, hzero])]
          split at h
          · cases h
          · exact (congrArg Prod.fst (Except.ok.inj h)).symm

/-- **What an accepted URL is made of.** -/
theorem parseUrl_ok {url : CString} {u : SSEDMUrl} (h : parseUrl (some url) = .ok u) :
    u.host = hostText (authorityText url.bytes) ∧ u.host ≠ []
      ∧ u.path = pathOf ((afterScheme url.bytes).dropWhile (fun c => !endsAuthority c))
      ∧ u.hostHeader = hostHeaderOf u.host u.port u.secure := by
  have hrest : ∀ (secure : Bool) (defaultPort : Nat) (rest : Bytes),
      parseAfterScheme secure defaultPort rest = .ok u →
        u.host = hostText (rest.takeWhile (fun c => !endsAuthority c)) ∧ u.host ≠ []
          ∧ u.path = pathOf (rest.dropWhile (fun c => !endsAuthority c))
          ∧ u.hostHeader = hostHeaderOf u.host u.port u.secure := by
    intro secure defaultPort rest h
    unfold parseAfterScheme at h
    simp only at h
    split at h
    · cases h
    · split at h
      · cases h
      · next host port hauth =>
          split at h
          · cases h
          · next hne =>
              obtain rfl := Except.ok.inj h
              exact ⟨parseAuthority_host hauth, hne, rfl, rfl⟩
  unfold parseUrl at h
  unfold authorityText afterScheme
  simp only at h
  split at h
  · cases h
  · split at h
    · cases h
    · split at h
      · exact hrest _ _ _ h
      · split at h
        · exact hrest _ _ _ h
        · cases h

/-- The path is the target text, after a slash if it has none. -/
theorem mem_pathOf_iff {url : Bytes} {c : UInt8} (hc : c ≠ SLASH) :
    c ∈ pathOf ((afterScheme url).dropWhile (fun c => !endsAuthority c)) ↔ c ∈ targetText url := by
  have hslash : ∀ s : Bytes,
      (SLASH :: s).takeWhile (· != HASH) = SLASH :: s.takeWhile (· != HASH) :=
    fun s => List.takeWhile_cons_of_pos (by decide)
  unfold targetText pathOf
  cases hrest : (afterScheme url).dropWhile (fun c => !endsAuthority c) with
  | nil => simp [hslash, hc]
  | cons d rest =>
      by_cases hd : d = SLASH
      · subst hd
        simp [hslash]
      · simp [hd, hslash, hc]

/-- The host header adds nothing to the host but brackets and a port. -/
theorem mem_hostHeaderOf_iff {host : Bytes} {port : Nat} {secure : Bool} {c : UInt8}
    (hc : c = CR ∨ c = LF) : c ∈ hostHeaderOf host port secure ↔ c ∈ host := by
  have hdec : c ∉ decimal port := by
    intro hmem
    have hdigit := isDigit_of_mem_decimal hmem
    rcases hc with rfl | rfl <;> revert hdigit <;> decide
  have hbr : c ≠ LBRACKET ∧ c ≠ RBRACKET ∧ c ≠ COLON := by
    rcases hc with rfl | rfl <;> decide
  unfold hostHeaderOf
  by_cases hcolon : COLON ∈ host <;> cases isDefaultPort secure port <;>
    simp [hcolon, hdec, hbr]

end DefoldSSE
