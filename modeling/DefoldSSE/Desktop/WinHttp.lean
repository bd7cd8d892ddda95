/-
  DefoldSSE.Desktop.WinHttp — an attempt of the WinHTTP backend.

  Every call of WinHTTP is answered from outside: it fails with a `GetLastError`,
  or it gives what the code goes on with.  The flag is looked at after each handle,
  and around each read.

  Main results:
    • `winHttp` — the attempt with what the worker asks of it;
    • `exchange_headers` — a request that was answered was sent with the connection's
      headers and with the id that is resumed from.
-/
import Mathlib.Data.List.Forall2
import DefoldSSE.Desktop.EventOrder
import DefoldSSE.Desktop.Worker
import DefoldSSE.Lib.Utf
import DefoldSSE.Pool.Request

namespace DefoldSSE

open CLib

/-! ## §1. Errors and the URL. -/

/-- `GetLastError`, and what `FormatMessageA` writes for it. -/
structure LastError where
  code : UInt32
  message : CString

/-- `SSEWinHTTP_FormatLastError`. -/
def formatLastError (call : String) (e : LastError) : CString :=
  let message := e.message.bytes.rdropWhile (fun c => c == CR || c == LF || c == SP)
  let message := if message ≠ [] then message else ascii "WinHTTP error"
  errorBuffer (ascii call ++ ascii " failed: " ++ message ++ ascii " (" ++ decimal e.code.toNat
    ++ ascii ")")

/-- `INTERNET_SCHEME`. -/
inductive UrlScheme where
  | http
  | https
  | other
  deriving DecidableEq

/-- `URL_COMPONENTS`, as far as it is read. -/
structure UrlComponents where
  scheme : UrlScheme
  host : Utf16
  port : UInt16
  path : Utf16
  extra : Utf16

/-- `SSEWinHTTPUrl`. -/
structure SSEWinHTTPUrl where
  host : Utf16
  path : Utf16
  port : UInt16
  secure : Bool

/-! ## §2. What WinHTTP answers. -/

/-- `WinHttpReadData`. -/
inductive ReadAnswer where
  | failed (e : LastError)
  /-- Of these bytes no more than were asked for. -/
  | data (bytes : Bytes)

/-- `WinHttpQueryDataAvailable`, and the reads that follow it. -/
inductive QueryAnswer where
  | failed (e : LastError)
  | available (count : UInt32) (reads : List ReadAnswer)

/-- What is given from outside for an attempt. -/
structure WinHttpAttempt where
  /-- `MultiByteToWideChar`, twice. -/
  toWide : CString → Option Utf16
  crackUrl : Utf16 → Except LastError UrlComponents
  openSession : Option LastError
  connect : SSEWinHTTPUrl → Option LastError
  openRequest : SSEWinHTTPUrl → Option LastError
  /-- `WinHttpAddRequestHeaders`, by the headers added so far. -/
  addRequestHeaders : List Utf16 → Utf16 → Option LastError
  sendRequest : Option LastError
  receiveResponse : Option LastError
  /-- `WinHttpQueryHeaders`. -/
  status : Option UInt32
  /-- After these, and after the reads of one of them, the body is over. -/
  stream : List QueryAnswer
  queue : QueueAnswers
  clock : Nat

/-! ## §3. Sending the request. -/

/-- A handle is opened, stored, and the flag looked at. -/
def openHandle (s : StopFlag) (call : String) (answer : Option LastError) :
    Except (Option CString × StopFlag) StopFlag :=
  match answer with
  | some e => .error (some (formatLastError call e), s)
  | none => if s.raised then .error (none, s.next) else .ok s.next

namespace WinHttpAttempt

variable (o : WinHttpAttempt)

/-- `SSEWinHTTP_ParseUrl`. -/
def parseUrl (url : Option CString) : Except CString SSEWinHTTPUrl :=
  match url.bind o.toWide with
  | none => .error (errorBuffer (ascii "failed to convert SSE URL to UTF-16"))
  | some wide =>
      match o.crackUrl wide with
      | .error e => .error (formatLastError "WinHttpCrackUrl" e)
      | .ok components =>
          if components.scheme = .other then
            .error (errorBuffer (ascii "SSE URL must use http or https"))
          else
            .ok {
              host := components.host
              path := (if components.path ≠ [] then components.path else units "/")
                ++ components.extra
              port := components.port
              secure := components.scheme = .https }

/-- `SSEWinHTTP_AddHeader`. -/
def addHeader (added : List Utf16) (name value : Option CString) :
    Except CString (List Utf16) :=
  match name, value with
  | some name, some value =>
      match o.toWide (.read (headerLine name value)) with
      | none => .error (errorBuffer (ascii "failed to convert request header to UTF-16"))
      | some wide =>
          match o.addRequestHeaders added wide with
          | some e => .error (formatLastError "WinHttpAddRequestHeaders" e)
          | none => .ok (added ++ [wide])
  | _, _ => .ok added

/-- The headers of a request: those of the two fixed ones, of the connection's and
of the id. -/
def requestHeaders (conn : SSEDesktopConnection) : List SSEHeader :=
  [⟨some (.lit "Accept"), some (.lit "text/event-stream")⟩,
    ⟨some (.lit "Cache-Control"), some (.lit "no-cache")⟩]
    ++ conn.headers
    ++ (sentLastEventId conn).toList.map (fun id => ⟨some (.lit "Last-Event-ID"), some id⟩)

/-- The headers are added, the request is sent, and the response received: the
error if one of these fails. -/
def exchange (conn : SSEDesktopConnection) : Option CString :=
  match (requestHeaders conn).foldlM (fun added h => o.addHeader added h.name h.value) [] with
  | .error error => some error
  | .ok _ =>
      match o.sendRequest with
      | some e => some (formatLastError "WinHttpSendRequest" e)
      | none => o.receiveResponse.map (formatLastError "WinHttpReceiveResponse")

/-- The headers that were added are the lines, each in UTF-16. -/
theorem addHeaders_ok {headers : List SSEHeader} {added added' : List Utf16}
    (h : headers.foldlM (fun added h => o.addHeader added h.name h.value) added = .ok added') :
    ∃ wides, added' = added ++ wides
      ∧ List.Forall₂ (fun line wide => o.toWide (.read line) = some wide)
          (customLines headers) wides := by
  induction headers generalizing added with
  | nil =>
      cases h
      exact ⟨[], (List.append_nil _).symm, .nil⟩
  | cons header headers ih =>
      obtain ⟨name, value⟩ := header
      rw [List.foldlM_cons] at h
      unfold WinHttpAttempt.addHeader at h
      match name, value with
      -- an entry without both strings adds nothing
      | none, _ => exact ih h
      | some _, none => exact ih h
      | some name, some value =>
          dsimp only at h
          cases hwide : o.toWide (.read (headerLine name value)) with
          | none =>
              rw [hwide] at h
              cases h
          | some wide =>
              rw [hwide] at h
              dsimp only at h
              cases hadd : o.addRequestHeaders added wide with
              | some e =>
                  rw [hadd] at h
                  cases h
              | none =>
                  rw [hadd] at h
                  obtain ⟨wides, rfl, hwides⟩ := ih h
                  exact ⟨wide :: wides, by simp, .cons hwide hwides⟩

/-- The lines that are to be added, as in the other backends' requests. -/
theorem customLines_requestHeaders (conn : SSEDesktopConnection) :
    customLines (requestHeaders conn)
      = [ascii "Accept: text/event-stream", ascii "Cache-Control: no-cache"]
        ++ customLines conn.headers ++ lastEventIdLines conn := by
  unfold customLines customHeaders requestHeaders lastEventIdLines
  rw [List.filterMap_append, List.map_append, List.filterMap_append, List.map_append]
  congr 1
  cases sentLastEventId conn <;> rfl

/-- **A request that was answered** was sent with all of its lines. -/
theorem exchange_headers {conn : SSEDesktopConnection} (h : o.exchange conn = none) :
    ∃ added, (requestHeaders conn).foldlM (fun added h => o.addHeader added h.name h.value) []
        = .ok added
      ∧ List.Forall₂ (fun line wide => o.toWide (.read line) = some wide)
          ([ascii "Accept: text/event-stream", ascii "Cache-Control: no-cache"]
            ++ customLines conn.headers ++ lastEventIdLines conn) added := by
  unfold exchange at h
  split at h
  · cases h
  · next added hadded =>
      obtain ⟨wides, hsame, hwides⟩ := o.addHeaders_ok hadded
      rw [List.nil_append] at hsame
      subst hsame
      rw [customLines_requestHeaders] at hwides
      exact ⟨_, hadded, hwides⟩

/-- Everything up to the response, for a URL that was parsed: what
`SSEDesktop_PerformOnce` returns, if it returns here. -/
def sendRequestFor (s : StopFlag) (conn : SSEDesktopConnection) (url : SSEWinHTTPUrl) :
    Except (Option CString × StopFlag) StopFlag := do
  let s ← openHandle s "WinHttpOpen" o.openSession
  let s ← openHandle s "WinHttpConnect" (o.connect url)
  let s ← openHandle s "WinHttpOpenRequest" (o.openRequest url)
  match o.exchange conn with
  | some error => .error (some error, s)
  | none => .ok s

end WinHttpAttempt

/-! ## §4. Reading the body. -/

/-- `SSEWinHTTP_ReadStream` so far. -/
structure WinHttpRead where
  adapter : Adapter
  stop : StopFlag
  /-- What the parser was fed. -/
  fed : Bytes

namespace WinHttpRead

def look (t : WinHttpRead) : WinHttpRead := { t with stop := t.stop.next }

/-- `connection->m_Parser.Feed(buffer, read, &callbacks, connection)`. -/
def feed (t : WinHttpRead) (bytes : Bytes) : WinHttpRead :=
  { t with adapter := t.adapter.feed bytes, fed := t.fed ++ bytes }

/-- The same, had no stop been requested. -/
def never (t : WinHttpRead) : WinHttpRead := { t with stop := t.stop.never }

/-- A call has failed: the error to return, unless the flag is up. -/
def failedCall (t : WinHttpRead) (call : String) (e : LastError) : Option CString :=
  if t.stop.raised then none else some (formatLastError call e)

end WinHttpRead

/-- `sizeof(buffer)`. -/
def BUFFER_SIZE : UInt32 := 8192

/-- The size of the next read. -/
def chunkSize (available : UInt32) : Nat :=
  if available > BUFFER_SIZE then BUFFER_SIZE.toNat else available.toNat

/-- The inner loop of `SSEWinHTTP_ReadStream`: what the function returns, if it
returns there. -/
def readAvailable (t : WinHttpRead) (available : UInt32) :
    List ReadAnswer → Option (Option CString) × WinHttpRead
  | [] =>
      if available = 0 then (none, t)
      else if t.stop.raised then (none, t.look)
      else (some none, t.look)
  | answer :: answers =>
      if available = 0 then (none, t)
      else if t.stop.raised then (none, t.look)
      else
        match answer with
        | .failed e => (some (t.look.failedCall "WinHttpReadData" e), t.look.look)
        | .data bytes =>
            let read := bytes.take (chunkSize available)
            if read = [] then (some none, t.look)
            else readAvailable (t.look.feed read) (available - UInt32.ofNat read.length) answers

/-- `SSEWinHTTP_ReadStream`: the error it returns false with, if it does. -/
def winHttpReadStream (t : WinHttpRead) : List QueryAnswer → Option CString × WinHttpRead
  | [] => (none, t.look)
  | answer :: answers =>
      if t.stop.raised then (none, t.look)
      else
        match answer with
        | .failed e => (t.look.failedCall "WinHttpQueryDataAvailable" e, t.look.look)
        | .available count reads =>
            if count = 0 then (none, t.look)
            else
              match readAvailable t.look count reads with
              | (some error, t) => (error, t)
              | (none, t) => winHttpReadStream t answers

/-! ## §5. The attempt. -/

namespace WinHttpAttempt

/-- The adapter of an attempt once the response is there. -/
def responded (conn : SSEDesktopConnection) (o : WinHttpAttempt) : Adapter :=
  let a := Adapter.start conn o.queue
  match o.status with
  | some status => a.setStatus (toInt32 status.toNat)
  | none => a

/-- The stream of an attempt that was accepted, read from this look on. -/
def streamed (s : StopFlag) (conn : SSEDesktopConnection) (o : WinHttpAttempt) :
    Option CString × WinHttpRead :=
  winHttpReadStream ⟨(responded conn o).openConnection, s, []⟩ o.stream

/-- `SSEDesktop_PerformOnce`. -/
def performOnce (s : StopFlag) (conn : SSEDesktopConnection) (o : WinHttpAttempt) : Performed :=
  match o.parseUrl conn.url with
  | .error error => ⟨some error, ⟨conn, o.queue, []⟩, s⟩
  | .ok url =>
      match o.sendRequestFor s conn url with
      | .error (error, s) => ⟨error, .start conn o.queue, s⟩
      | .ok s =>
          let a := responded conn o
          if accepted a.conn.status then
            let (error, t) := streamed s conn o
            ⟨if t.stop.raised then none else error, t.adapter, t.stop.next⟩
          else ⟨some (statusError a.conn.status), a, s⟩

/-- The part of the body that reached the parser. -/
def body (s : StopFlag) (conn : SSEDesktopConnection) (o : WinHttpAttempt) : Bytes :=
  match o.parseUrl conn.url with
  | .error _ => []
  | .ok url =>
      match o.sendRequestFor s conn url with
      | .error _ => []
      | .ok s =>
          if accepted (responded conn o).conn.status then (streamed s conn o).2.fed else []

end WinHttpAttempt

/-! ## §6. What reading keeps. -/

section Keeps

variable {P : WinHttpRead → Prop} (hlook : ∀ t, P t → P t.look)
  (hfeed : ∀ t bytes, P t → P (t.feed bytes))

include hlook hfeed

theorem readAvailable_keeps (answers : List ReadAnswer) :
    ∀ {t : WinHttpRead} (available : UInt32), P t → P (readAvailable t available answers).2 := by
  induction answers with
  | nil =>
      intro t available h
      unfold readAvailable
      split
      · exact h
      · split <;> exact hlook t h
  | cons answer answers ih =>
      intro t available h
      unfold readAvailable
      split
      · exact h
      · split
        · exact hlook t h
        · cases answer with
          | failed e => exact hlook _ (hlook t h)
          | data bytes =>
              simp only
              split
              · exact hlook t h
              · exact ih _ (hfeed _ _ (hlook t h))

theorem winHttpReadStream_keeps (answers : List QueryAnswer) : ∀ {t : WinHttpRead},
    P t → P (winHttpReadStream t answers).2 := by
  induction answers with
  | nil => exact fun h => hlook _ h
  | cons answer answers ih =>
      intro t h
      unfold winHttpReadStream
      split
      · exact hlook t h
      · cases answer with
        | failed e => exact hlook _ (hlook t h)
        | available count reads =>
            simp only
            split
            · exact hlook t h
            · have hread := readAvailable_keeps hlook hfeed reads count (hlook t h)
              generalize readAvailable t.look count reads = r at hread ⊢
              obtain ⟨error, t'⟩ := r
              cases error with
              | some error => exact hread
              | none => exact ih hread

end Keeps

/-- The adapter was fed what was read. -/
theorem winHttpReadStream_adapter (a : Adapter) (s : StopFlag) (answers : List QueryAnswer) :
    (winHttpReadStream ⟨a, s, []⟩ answers).2.adapter
      = a.feed (winHttpReadStream ⟨a, s, []⟩ answers).2.fed := by
  refine winHttpReadStream_keeps (P := fun t => t.adapter = a.feed t.fed) (fun _ h => h) ?_ answers
    (t := ⟨a, s, []⟩) rfl
  intro t bytes h
  show t.adapter.feed bytes = a.feed (t.fed ++ bytes)
  rw [h, Adapter.feed_feed]

theorem readAvailable_looked (t : WinHttpRead) (available : UInt32) (answers : List ReadAnswer) :
    t.stop.Looked (readAvailable t available answers).2.stop :=
  readAvailable_keeps (P := fun t' => t.stop.Looked t'.stop) (fun _ h => h.trans (.next _))
    (fun _ _ h => h) answers available (.refl _)

theorem winHttpReadStream_looked (t : WinHttpRead) (answers : List QueryAnswer) :
    t.stop.Looked (winHttpReadStream t answers).2.stop :=
  winHttpReadStream_keeps (P := fun t' => t.stop.Looked t'.stop) (fun _ h => h.trans (.next _))
    (fun _ _ h => h) answers (.refl _)

theorem readAvailable_fed (t : WinHttpRead) (available : UInt32) (answers : List ReadAnswer) :
    t.fed <+: (readAvailable t available answers).2.fed :=
  readAvailable_keeps (P := fun t' => t.fed <+: t'.fed) (fun _ h => h)
    (fun _ _ h => h.trans (List.prefix_append _ _)) answers available List.prefix_rfl

theorem winHttpReadStream_fed (t : WinHttpRead) (answers : List QueryAnswer) :
    t.fed <+: (winHttpReadStream t answers).2.fed :=
  winHttpReadStream_keeps (P := fun t' => t.fed <+: t'.fed) (fun _ h => h)
    (fun _ _ h => h.trans (List.prefix_append _ _)) answers List.prefix_rfl

/-! ## §7. The stop flag. -/

/-- With the flag down all the time, reading does not know that it might be up. -/
theorem readAvailable_unaware (answers : List ReadAnswer) :
    ∀ (t : WinHttpRead) (available : UInt32),
      (readAvailable t available answers).2.stop.raised = false →
      readAvailable t.never available answers
        = ((readAvailable t available answers).1, (readAvailable t available answers).2.never) := by
  induction answers with
  | nil =>
      intro t available h
      have hdown := (readAvailable_looked t available []).notRaised h
      have hnever : t.never.stop.raised = false := rfl
      simp only [readAvailable, hdown, hnever, Bool.false_eq_true, if_false]
      split <;> rfl
  | cons answer answers ih =>
      intro t available h
      have hdown := (readAvailable_looked t available (answer :: answers)).notRaised h
      have hnever : t.never.stop.raised = false := rfl
      simp only [readAvailable, hdown, hnever, Bool.false_eq_true, if_false] at h ⊢
      split at h
      · next hzero => rw [if_pos hzero, if_pos hzero]
      · next hzero =>
          rw [if_neg hzero, if_neg hzero]
          cases answer with
          | failed e =>
              have hlook : t.look.stop.raised = false :=
                (StopFlag.Looked.next t.look.stop).notRaised h
              have hlook' : t.never.look.stop.raised = false := rfl
              simp only [WinHttpRead.failedCall, hlook, hlook', Bool.false_eq_true, if_false]
              rfl
          | data bytes =>
              simp only at h ⊢
              split at h
              · next hnone =>
                  rw [if_pos hnone, if_pos hnone]
                  rfl
              · next hsome =>
                  rw [if_neg hsome, if_neg hsome]
                  exact ih _ _ h

theorem winHttpReadStream_unaware (answers : List QueryAnswer) : ∀ (t : WinHttpRead),
    (winHttpReadStream t answers).2.stop.raised = false →
    winHttpReadStream t.never answers
      = ((winHttpReadStream t answers).1, (winHttpReadStream t answers).2.never) := by
  induction answers with
  | nil => exact fun _ _ => rfl
  | cons answer answers ih =>
      intro t h
      have hdown := (winHttpReadStream_looked t (answer :: answers)).notRaised h
      have hnever : t.never.stop.raised = false := rfl
      simp only [winHttpReadStream, hdown, hnever, Bool.false_eq_true, if_false] at h ⊢
      cases answer with
      | failed e =>
          have hlook : t.look.stop.raised = false :=
            (StopFlag.Looked.next t.look.stop).notRaised h
          have hlook' : t.never.look.stop.raised = false := rfl
          simp only [WinHttpRead.failedCall, hlook, hlook', Bool.false_eq_true, if_false]
          rfl
      | available count reads =>
          simp only at h ⊢
          split at h
          · next hzero =>
              rw [if_pos hzero, if_pos hzero]
              rfl
          · next hzero =>
              rw [if_neg hzero, if_neg hzero]
              have hread : (readAvailable t.look count reads).2.stop.raised = false := by
                generalize readAvailable t.look count reads = r at h ⊢
                obtain ⟨error, t'⟩ := r
                cases error with
                | some error => exact h
                | none => exact (winHttpReadStream_looked t' answers).notRaised h
              have hsame := readAvailable_unaware reads t.look count hread
              rw [show t.never.look = t.look.never from rfl, hsame]
              generalize readAvailable t.look count reads = r at h ⊢
              obtain ⟨error, t'⟩ := r
              cases error with
              | some error => rfl
              | none => exact ih t' h

/-- What was read before a stop is read without it too. -/
theorem readAvailable_cut (answers : List ReadAnswer) :
    ∀ (t : WinHttpRead) (available : UInt32), (readAvailable t available answers).2.fed
      <+: (readAvailable t.never available answers).2.fed := by
  induction answers with
  | nil =>
      intro t available
      have hfed : (readAvailable t available []).2.fed = t.fed := by
        unfold readAvailable
        split
        · rfl
        · split <;> rfl
      rw [hfed]
      exact readAvailable_fed t.never available []
  | cons answer answers ih =>
      intro t available
      cases hraised : t.stop.raised with
      | true =>
          have hfed : (readAvailable t available (answer :: answers)).2.fed = t.fed := by
            unfold readAvailable
            rw [if_pos hraised]
            split <;> rfl
          rw [hfed]
          exact readAvailable_fed t.never available (answer :: answers)
      | false =>
          have hnever : t.never.stop.raised = false := rfl
          simp only [readAvailable, hraised, hnever, Bool.false_eq_true, if_false]
          split
          · exact List.prefix_rfl
          · cases answer with
            | failed e => exact List.prefix_rfl
            | data bytes =>
                simp only
                split
                · exact List.prefix_rfl
                · exact ih _ _

/-- A flag that is up is the end of the reading. -/
theorem winHttpReadStream_raised {t : WinHttpRead} (h : t.stop.raised = true)
    (answers : List QueryAnswer) : winHttpReadStream t answers = (none, t.look) := by
  cases answers with
  | nil => rfl
  | cons answer answers =>
      unfold winHttpReadStream
      rw [if_pos h]

theorem winHttpReadStream_cut (answers : List QueryAnswer) : ∀ (t : WinHttpRead),
    (winHttpReadStream t answers).2.fed <+: (winHttpReadStream t.never answers).2.fed := by
  induction answers with
  | nil => exact fun _ => List.prefix_rfl
  | cons answer answers ih =>
      intro t
      cases hraised : t.stop.raised with
      | true =>
          rw [winHttpReadStream_raised hraised]
          exact winHttpReadStream_fed t.never (answer :: answers)
      | false =>
          have hnever : t.never.stop.raised = false := rfl
          simp only [winHttpReadStream, hraised, hnever, Bool.false_eq_true, if_false]
          cases answer with
          | failed e => exact List.prefix_rfl
          | available count reads =>
              simp only
              split
              · exact List.prefix_rfl
              · have hcut := readAvailable_cut reads t.look count
                have hsame := readAvailable_unaware reads t.look count
                rw [show t.never.look = t.look.never from rfl]
                generalize readAvailable t.look count reads = r at hcut hsame ⊢
                generalize readAvailable t.look.never count reads = r' at hcut hsame ⊢
                obtain ⟨error, t'⟩ := r
                obtain ⟨error', t''⟩ := r'
                have hmore : t''.fed
                    <+: (match (error', t'') with
                      | (some error, t) => (error, t)
                      | (none, t) => winHttpReadStream t answers).2.fed := by
                  cases error' with
                  | some error' => exact List.prefix_rfl
                  | none => exact winHttpReadStream_fed t'' answers
                cases hstop : t'.stop.raised with
                | true =>
                    -- stopped in the inner loop: the outer one reads no more
                    have hnone : (match (error, t') with
                        | (some error, t) => (error, t)
                        | (none, t) => winHttpReadStream t answers).2.fed = t'.fed := by
                      cases error with
                      | some error => rfl
                      | none =>
                          show (winHttpReadStream t' answers).2.fed = t'.fed
                          rw [winHttpReadStream_raised hstop]
                          rfl
                    rw [hnone]
                    exact hcut.trans hmore
                | false =>
                    have hsame := hsame hstop
                    obtain ⟨rfl, rfl⟩ := Prod.mk.inj hsame
                    cases error' with
                    | some error' => exact List.prefix_rfl
                    | none => exact ih t'

/-- A part of an attempt that may return: stopped, or unaware that it might have
been. -/
structure Interruptible (f : StopFlag → Except (Option CString × StopFlag) StopFlag) : Prop where
  looked : ∀ s, match f s with
    | .ok s' => s.Looked s'
    | .error (_, s') => s.Looked s'
  ok : ∀ s s', f s = .ok s' → f s.never = .ok s'.never
  error : ∀ s error s', f s = .error (error, s') → s'.raised = false →
    f s.never = .error (error, s'.never)

theorem openHandle_interruptible (call : String) (answer : Option LastError) :
    Interruptible (fun s => openHandle s call answer) where
  looked s := by
    unfold openHandle
    cases answer with
    | some e => exact .refl s
    | none =>
        simp only
        cases s.raised with
        | true => exact .next s
        | false => exact .next s
  ok s s' h := by
    unfold openHandle at h ⊢
    cases answer with
    | some e => cases h
    | none =>
        simp only at h ⊢
        split at h
        · cases h
        · cases h
          rfl
  error s error s' h hdown := by
    unfold openHandle at h ⊢
    cases answer with
    | some e =>
        cases h
        rfl
    | none =>
        simp only at h
        split at h
        · next hraised =>
            cases h
            rw [(StopFlag.Looked.next s).raised hraised] at hdown
            cases hdown
        · cases h

theorem Interruptible.bind {f g : StopFlag → Except (Option CString × StopFlag) StopFlag}
    (hf : Interruptible f) (hg : Interruptible g) : Interruptible (fun s => f s >>= g) where
  looked s := by
    have hs := hf.looked s
    cases hfs : f s with
    | error e =>
        rw [hfs] at hs
        exact hs
    | ok t =>
        have hbind : (.ok t >>= g : Except (Option CString × StopFlag) StopFlag) = g t := rfl
        have ht := hg.looked t
        rw [hfs] at hs
        rw [hbind]
        cases hgt : g t with
        | error e =>
            rw [hgt] at ht
            exact hs.trans ht
        | ok t' =>
            rw [hgt] at ht
            exact hs.trans ht
  ok s s' h := by
    cases hfs : f s with
    | error e =>
        simp only [hfs] at h
        cases h
    | ok t =>
        simp only [hfs] at h
        simp only [hf.ok s t hfs]
        exact hg.ok t s' h
  error s error s' h hdown := by
    cases hfs : f s with
    | error e =>
        simp only [hfs] at h
        cases h
        simp only [hf.error s error s' hfs hdown]
        rfl
    | ok t =>
        simp only [hfs] at h
        simp only [hf.ok s t hfs]
        exact hg.error t error s' h hdown

/-- What does not look at the flag. -/
theorem interruptible_of_unwatched (answer : Option CString) :
    Interruptible (fun s => match answer with
      | some error => .error (some error, s)
      | none => .ok s) where
  looked s := by
    cases answer with
    | some error => exact .refl s
    | none => exact .refl s
  ok s s' h := by
    cases answer with
    | some error => cases h
    | none =>
        cases h
        rfl
  error s error s' h _ := by
    cases answer with
    | some error =>
        cases h
        rfl
    | none => cases h

theorem WinHttpAttempt.sendRequestFor_interruptible (o : WinHttpAttempt)
    (conn : SSEDesktopConnection) (url : SSEWinHTTPUrl) :
    Interruptible (fun s => o.sendRequestFor s conn url) :=
  (openHandle_interruptible _ _).bind ((openHandle_interruptible _ _).bind
    ((openHandle_interruptible _ _).bind (interruptible_of_unwatched (o.exchange conn))))

/-! ## §8. The backend. -/

namespace WinHttpAttempt

/-- How an attempt goes: no response, one that is refused, or a stream. -/
inductive Went (s : StopFlag) (conn : SSEDesktopConnection) (o : WinHttpAttempt) :
    Performed → Bytes → Prop where
  | unparsed (error : CString) (hurl : o.parseUrl conn.url = .error error) :
      Went s conn o ⟨some error, ⟨conn, o.queue, []⟩, s⟩ []
  | unanswered (url : SSEWinHTTPUrl) (error : Option CString) (s' : StopFlag)
      (hurl : o.parseUrl conn.url = .ok url)
      (hsent : o.sendRequestFor s conn url = .error (error, s')) :
      Went s conn o ⟨error, .start conn o.queue, s'⟩ []
  | refused (url : SSEWinHTTPUrl) (s' : StopFlag) (hurl : o.parseUrl conn.url = .ok url)
      (hsent : o.sendRequestFor s conn url = .ok s')
      (hstatus : ¬accepted (responded conn o).conn.status) :
      Went s conn o ⟨some (statusError (responded conn o).conn.status), responded conn o, s'⟩ []
  | streamed (url : SSEWinHTTPUrl) (s' : StopFlag) (hurl : o.parseUrl conn.url = .ok url)
      (hsent : o.sendRequestFor s conn url = .ok s')
      (hstatus : accepted (responded conn o).conn.status) :
      Went s conn o
        ⟨if (streamed s' conn o).2.stop.raised then none else (streamed s' conn o).1,
          (streamed s' conn o).2.adapter, (streamed s' conn o).2.stop.next⟩
        (streamed s' conn o).2.fed

theorem performOnce_went (s : StopFlag) (conn : SSEDesktopConnection) (o : WinHttpAttempt) :
    Went s conn o (performOnce s conn o) (body s conn o) := by
  unfold performOnce body
  cases hurl : o.parseUrl conn.url with
  | error error => exact .unparsed error hurl
  | ok url =>
      simp only
      cases hsent : o.sendRequestFor s conn url with
      | error e =>
          obtain ⟨error, s'⟩ := e
          exact .unanswered url error s' hurl hsent
      | ok s' =>
          simp only
          split
          · next hstatus => exact .streamed url s' hurl hsent hstatus
          · next hstatus => exact .refused url s' hurl hsent hstatus

variable (conn : SSEDesktopConnection) (o : WinHttpAttempt)

theorem responded_view : (responded conn o).conn.parser = .reset
    ∧ (responded conn o).view = (Adapter.start conn o.queue).view := by
  unfold responded
  cases o.status with
  | none => exact ⟨rfl, rfl⟩
  | some status => exact ⟨rfl, (Adapter.start conn o.queue).setStatus_view _⟩

theorem responded_trace : (responded conn o).trace = [] := by
  unfold responded
  cases o.status <;> rfl

/-- The stream is fed to the connection as it was opened. -/
theorem streamed_adapter (s : StopFlag) : (streamed s conn o).2.adapter
    = (responded conn o).openConnection.feed (streamed s conn o).2.fed :=
  winHttpReadStream_adapter _ _ _

end WinHttpAttempt

/-- The WinHTTP backend. -/
def winHttp : DesktopBackend WinHttpAttempt where
  performOnce := WinHttpAttempt.performOnce
  queue := WinHttpAttempt.queue
  clock := WinHttpAttempt.clock
  body := WinHttpAttempt.body
  reads s conn o := by
    have hwent := WinHttpAttempt.performOnce_went s conn o
    generalize WinHttpAttempt.performOnce s conn o = p at hwent ⊢
    generalize WinHttpAttempt.body s conn o = body at hwent ⊢
    cases hwent with
    | unparsed error hurl => rfl
    | unanswered url error s' hurl hsent => rfl
    | refused url s' hurl hsent hstatus => exact (WinHttpAttempt.responded_view conn o).2
    | streamed url s' hurl hsent hstatus =>
        obtain ⟨hparser, hview⟩ := WinHttpAttempt.responded_view conn o
        have hopened := (WinHttpAttempt.responded conn o).openConnection_view
        have hfed := ((WinHttpAttempt.responded conn o).openConnection).feed_view
          (WinHttpAttempt.streamed s' conn o).2.fed
        have hstart := (Adapter.start conn o.queue).feed_view
          (WinHttpAttempt.streamed s' conn o).2.fed
        show (WinHttpAttempt.streamed s' conn o).2.adapter.view = _
        rw [WinHttpAttempt.streamed_adapter]
        rw [hopened, hview] at hfed
        refine (congrArg Prod.snd hfed).trans (Eq.trans ?_ (congrArg Prod.snd hstart).symm)
        rw [show (WinHttpAttempt.responded conn o).openConnection.conn.parser
          = (Adapter.start conn o.queue).conn.parser from hparser]
  looked s conn o := by
    have hwent := WinHttpAttempt.performOnce_went s conn o
    generalize WinHttpAttempt.performOnce s conn o = p at hwent ⊢
    generalize WinHttpAttempt.body s conn o = body at hwent
    cases hwent with
    | unparsed error hurl => exact .refl s
    | unanswered url error s' hurl hsent =>
        have hlooked := (o.sendRequestFor_interruptible conn url).looked s
        simp only [hsent] at hlooked
        exact hlooked
    | refused url s' hurl hsent hstatus =>
        have hlooked := (o.sendRequestFor_interruptible conn url).looked s
        simp only [hsent] at hlooked
        exact hlooked
    | streamed url s' hurl hsent hstatus =>
        have hlooked := (o.sendRequestFor_interruptible conn url).looked s
        simp only [hsent] at hlooked
        exact (hlooked.trans (winHttpReadStream_looked
          ⟨(WinHttpAttempt.responded conn o).openConnection, s', []⟩ o.stream)).trans (.next _)
  unaware s conn o h := by
    have hwent := WinHttpAttempt.performOnce_went s conn o
    generalize WinHttpAttempt.performOnce s conn o = p at hwent h ⊢
    generalize WinHttpAttempt.body s conn o = body at hwent
    unfold WinHttpAttempt.performOnce
    cases hwent with
    | unparsed error hurl =>
        rw [hurl]
    | unanswered url error s' hurl hsent =>
        have hnever := (o.sendRequestFor_interruptible conn url).error s error s' hsent h
        rw [hurl]
        simp only [hnever]
    | refused url s' hurl hsent hstatus =>
        have hnever := (o.sendRequestFor_interruptible conn url).ok s s' hsent
        rw [hurl]
        simp only [hnever, if_neg hstatus]
    | streamed url s' hurl hsent hstatus =>
        have hnever := (o.sendRequestFor_interruptible conn url).ok s s' hsent
        have hdown : (WinHttpAttempt.streamed s' conn o).2.stop.raised = false :=
          (StopFlag.Looked.next _).notRaised h
        have hsame : WinHttpAttempt.streamed s'.never conn o
            = ((WinHttpAttempt.streamed s' conn o).1,
              (WinHttpAttempt.streamed s' conn o).2.never) :=
          winHttpReadStream_unaware o.stream _ hdown
        rw [hurl]
        simp only [hnever, if_pos hstatus, hsame, hdown, Bool.false_eq_true, if_false]
        rfl
  cut s conn o := by
    have hwent := WinHttpAttempt.performOnce_went s conn o
    generalize WinHttpAttempt.performOnce s conn o = p at hwent ⊢
    generalize WinHttpAttempt.body s conn o = body at hwent
    cases hwent with
    | unparsed error hurl => exact List.nil_prefix
    | unanswered url error s' hurl hsent => exact List.nil_prefix
    | refused url s' hurl hsent hstatus =>
        rw [WinHttpAttempt.responded_trace]
        exact List.nil_prefix
    | streamed url s' hurl hsent hstatus =>
        have hnever := (o.sendRequestFor_interruptible conn url).ok s s' hsent
        have hcut : (WinHttpAttempt.streamed s' conn o).2.fed
            <+: (WinHttpAttempt.streamed s'.never conn o).2.fed := winHttpReadStream_cut o.stream _
        obtain ⟨more, hmore⟩ := hcut
        unfold WinHttpAttempt.performOnce
        rw [hurl]
        simp only [hnever, if_pos hstatus]
        rw [WinHttpAttempt.streamed_adapter, WinHttpAttempt.streamed_adapter, ← hmore,
          ← Adapter.feed_feed]
        exact Adapter.feed_extends _ more
  unclosed s conn o := by
    have hwent := WinHttpAttempt.performOnce_went s conn o
    generalize WinHttpAttempt.performOnce s conn o = p at hwent ⊢
    generalize WinHttpAttempt.body s conn o = body at hwent
    cases hwent with
    | unparsed error hurl => exact Adapter.unclosed_nil
    | unanswered url error s' hurl hsent => exact Adapter.unclosed_nil
    | refused url s' hurl hsent hstatus =>
        rw [WinHttpAttempt.responded_trace]
        exact Adapter.unclosed_nil
    | streamed url s' hurl hsent hstatus =>
        rw [WinHttpAttempt.streamed_adapter]
        have hnil : Adapter.Unclosed (WinHttpAttempt.responded conn o).trace := by
          rw [WinHttpAttempt.responded_trace]
          exact Adapter.unclosed_nil
        exact hnil.openConnection.feed _

end DefoldSSE
