/-
  DefoldSSE.Pool.Silence — which attempts end without a word.

  An attempt that returns true is reported by nobody.  Its exits with true are
  the end of the stream, the end of a chunked body and a stop; the last two come
  after the OPEN or after a stop, the first may come before the headers.

    (1) `sendLoop_ok_iff`     — when the whole request is sent;
    (2) `readResponse_true`   — a response that ended well was opened, or closed
                                before its headers were complete;
    (3) `noSilentFailure_iff` — so an attempt fails silently exactly when its
                                connection is closed before the headers.
-/
import DefoldSSE.Pool.Segmentation
import DefoldSSE.Pool.Worker

namespace DefoldSSE

open CLib

/-! ## §1. Waiting and sending, with no stop. -/

/-- No stop is requested; `looks` is how often that was found so far. -/
abbrev noStop (looks : Nat) : StopFlag := ⟨none, looks⟩

@[simp] theorem noStop_raised (looks : Nat) : (noStop looks).raised = false := rfl
@[simp] theorem noStop_next (looks : Nat) : (noStop looks).next = noStop (looks + 1) := rfl

/-- The `Select` calls of a wait end in `RESULT_OK`. -/
def WaitsOk (selects : List SocketResult) : Prop :=
  selects.find? (fun result => !result.retry) = some .ok

/-- A wait without a stop ends in the first result that is no retry. -/
theorem waitForSocket_noStop (selects : List SocketResult) :
    ∀ looks, ∃ looks', waitForSocket (noStop looks) selects
      = (selects.find? (fun result => !result.retry)).map (fun result => (result, noStop looks')) := by
  induction selects with
  | nil => intro looks; exact ⟨0, rfl⟩
  | cons result selects ih =>
    intro looks
    rw [waitForSocket, noStop_raised, noStop_next]
    cases hretry : result.retry with
    | true =>
        obtain ⟨looks', h⟩ := ih (looks + 1)
        refine ⟨looks', ?_⟩
        rw [List.find?_cons_of_neg (by simp [hretry]), ← h]
        rfl
    | false =>
        refine ⟨looks + 1, ?_⟩
        rw [List.find?_cons_of_pos (by simp [hretry])]
        rfl

/-- The calls a wait succeeds in. -/
theorem waitForSocket_ok {selects : List SocketResult} (h : WaitsOk selects) (looks : Nat) :
    ∃ looks', waitForSocket (noStop looks) selects = some (.ok, noStop looks') := by
  obtain ⟨looks', hwait⟩ := waitForSocket_noStop selects looks
  exact ⟨looks', by rw [hwait, h]; rfl⟩

theorem waitsOk_of_waitForSocket {selects : List SocketResult} {looks : Nat} {s : StopFlag}
    (h : waitForSocket (noStop looks) selects = some (.ok, s)) :
    WaitsOk selects ∧ ∃ looks', s = noStop looks' := by
  obtain ⟨looks', hwait⟩ := waitForSocket_noStop selects looks
  rw [hwait] at h
  obtain ⟨result, hfind, hpair⟩ := Option.map_eq_some_iff.mp h
  cases hpair
  exact ⟨hfind, looks', rfl⟩

/-- The calls that let the sending go on. -/
def Send.Fine : Send → Prop
  | .sent count selects => 0 < count ∨ WaitsOk selects
  | .again selects => WaitsOk selects
  | .failed _ => False

/-- The bytes a call has sent. -/
def Send.bytes : Send → Int
  | .sent count _ => max count 0
  | _ => 0

/-- Some first calls send `remaining` bytes. -/
def SendsAll (remaining : Int) (sends : List Send) : Prop :=
  ∃ before after, sends = before ++ after ∧ (∀ x ∈ before, x.Fine)
    ∧ remaining ≤ (before.map Send.bytes).sum

theorem SendsAll.of_nonpos {remaining : Int} (h : remaining ≤ 0) (sends : List Send) :
    SendsAll remaining sends := ⟨[], sends, rfl, by simp, by simpa using h⟩

/-- One call less. -/
theorem sendsAll_cons {remaining : Int} (hpos : ¬ remaining ≤ 0) (x : Send) (sends : List Send) :
    SendsAll remaining (x :: sends) ↔ x.Fine ∧ SendsAll (remaining - x.bytes) sends := by
  constructor
  · rintro ⟨before, after, hsplit, hfine, hsum⟩
    cases before with
    | nil => exact absurd (by simpa using hsum) hpos
    | cons y before =>
        obtain ⟨rfl, rfl⟩ := List.cons.inj hsplit
        refine ⟨hfine x List.mem_cons_self, before, after, rfl,
          fun y hy => hfine y (List.mem_cons_of_mem _ hy), ?_⟩
        rw [List.map_cons, List.sum_cons] at hsum
        omega
  · rintro ⟨hx, before, after, rfl, hfine, hsum⟩
    refine ⟨x :: before, after, rfl, ?_, ?_⟩
    · intro y hy
      rcases List.mem_cons.mp hy with rfl | hy
      · exact hx
      · exact hfine y hy
    · rw [List.map_cons, List.sum_cons]
      omega

theorem not_sendsAll_nil {remaining : Int} (hpos : ¬ remaining ≤ 0) : ¬ SendsAll remaining [] := by
  rintro ⟨before, after, hsplit, -, hsum⟩
  obtain ⟨rfl, -⟩ := List.append_eq_nil_iff.mp hsplit.symm
  exact hpos (by simpa using hsum)

section Silence

variable (resultToString : SocketResult → String)

/-- A wait for the socket, and the loop after it. -/
def sendWaited (s : StopFlag) (handed data : Bytes) (remaining : Int) (sends : List Send)
    (selects : List SocketResult) : Option (Option String × Bytes × StopFlag) :=
  match waitForSocket s selects with
  | none => none
  | some (.ok, s) => sendLoop resultToString s handed data remaining sends
  | some (result, s) =>
      some (some ("socket send wait failed: " ++ resultToString result), handed, s)

theorem sendWaited_ok {s s' : StopFlag} {selects : List SocketResult}
    (h : waitForSocket s selects = some (.ok, s')) (handed data : Bytes) (remaining : Int)
    (sends : List Send) :
    sendWaited resultToString s handed data remaining sends selects
      = sendLoop resultToString s' handed data remaining sends := by
  unfold sendWaited
  rw [h]

/-- The loop goes on after the wait, or the wait has failed. -/
theorem sendWaited_cases {s : StopFlag} {handed data : Bytes} {remaining : Int}
    {sends : List Send} {selects : List SocketResult} {r : Option String × Bytes × StopFlag}
    (h : sendWaited resultToString s handed data remaining sends selects = some r) :
    (∃ s', waitForSocket s selects = some (.ok, s')
        ∧ sendLoop resultToString s' handed data remaining sends = some r)
      ∨ ∃ result s', result ≠ .ok ∧ waitForSocket s selects = some (result, s')
        ∧ r = (some ("socket send wait failed: " ++ resultToString result), handed, s') := by
  unfold sendWaited at h
  split at h
  · cases h
  · next s' hok => exact .inl ⟨s', hok, h⟩
  · next result s' hne hfailed =>
      exact .inr ⟨result, s', hne, hfailed, (Option.some.inj h).symm⟩

/-- **The request is sent** exactly when the calls add up to it before any of
them fails. -/
theorem sendLoop_ok_iff (sends : List Send) :
    ∀ (looks : Nat) (handed data : Bytes) (remaining : Int),
      (∃ handed' looks', sendLoop resultToString (noStop looks) handed data remaining sends
          = some (none, handed', noStop looks'))
        ↔ SendsAll remaining sends := by
  induction sends with
  | nil =>
    intro looks handed data remaining
    unfold sendLoop
    by_cases hpos : remaining ≤ 0
    · rw [if_pos hpos]
      exact iff_of_true ⟨handed, looks, rfl⟩ (.of_nonpos hpos [])
    · rw [if_neg hpos]
      refine iff_of_false ?_ (not_sendsAll_nil hpos)
      rintro ⟨handed', looks', h⟩
      cases h
  | cons x sends ih =>
    intro looks handed data remaining
    by_cases hpos : remaining ≤ 0
    · unfold sendLoop
      rw [if_pos hpos]
      exact iff_of_true ⟨handed, looks, rfl⟩ (.of_nonpos hpos _)
    · rw [sendsAll_cons hpos]
      -- a call that has to wait first
      have hwait : ∀ selects : List SocketResult, x.bytes = 0 → (x.Fine ↔ WaitsOk selects) →
          ((∃ handed' looks', sendWaited resultToString (noStop (looks + 1)) handed data remaining
              sends selects = some (none, handed', noStop looks'))
            ↔ x.Fine ∧ SendsAll (remaining - x.bytes) sends) := by
        intro selects hzero hfine
        rw [hzero, Int.sub_zero, hfine]
        constructor
        · rintro ⟨handed', looks', h⟩
          rcases sendWaited_cases resultToString h with ⟨s, hok, h⟩ | ⟨result, s, -, -, hr⟩
          · obtain ⟨hsel, looks₂, rfl⟩ := waitsOk_of_waitForSocket hok
            exact ⟨hsel, (ih looks₂ handed data remaining).mp ⟨handed', looks', h⟩⟩
          · cases hr
        · rintro ⟨hsel, hall⟩
          obtain ⟨looks₂, hok⟩ := waitForSocket_ok hsel (looks + 1)
          rw [sendWaited_ok resultToString hok]
          exact (ih looks₂ handed data remaining).mpr hall
      unfold sendLoop
      rw [if_neg hpos, noStop_raised, if_neg Bool.false_ne_true, noStop_next]
      cases x with
      | failed code =>
          refine iff_of_false ?_ (fun h => h.1)
          rintro ⟨handed', looks', h⟩
          cases h
      | again selects => exact hwait selects rfl Iff.rfl
      | sent count selects =>
          by_cases hcount : count ≤ 0
          · simp only [if_pos hcount]
            refine hwait selects (show max count 0 = 0 by omega) ?_
            exact ⟨fun h => h.resolve_left (by omega), .inr⟩
          · simp only [if_neg hcount]
            rw [ih (looks + 1)]
            have hbytes : (Send.sent count selects).bytes = count := by
              show max count 0 = count
              omega
            rw [hbytes]
            exact ⟨fun h => ⟨.inl (by omega), h⟩, fun h => h.2⟩

/-! ## §2. Receiving, with no stop. -/

/-- The bytes that some calls have received. -/
def received (receives : List Receive) : Bytes :=
  receives.flatMap (fun | .data bytes => bytes | _ => [])

/-- What arrives is appended to what is there. -/
theorem append_received_data (b bytes : Bytes) (receives : List Receive) :
    b ++ received (.data bytes :: receives) = (b ++ bytes) ++ received receives := by
  rw [List.append_assoc]
  rfl

/-- A call that neither fails nor ends the stream. -/
def Receive.Fine : Receive → Prop
  | .data bytes => bytes ≠ []
  | .again selects => WaitsOk selects
  | .failed _ => False

/-- The connection is closed, by a call that received nothing, before the
headers that began with `b` are complete, within the cap. -/
def ClosedFrom (b : Bytes) (receives : List Receive) : Prop :=
  ∃ before after, receives = before ++ .data [] :: after ∧ (∀ x ∈ before, x.Fine)
    ∧ (b ++ received before).length ≤ 65536 ∧ findHeaderEnd (b ++ received before) = none

/-- From `a` to `a'` the response was accepted: its status is 2xx and one OPEN
was pushed. -/
def Opened (a a' : Adapter) : Prop :=
  a'.conn.opened = true ∧ accepted a'.conn.status
    ∧ ∃ push, Adapter.openPushes a'.trace = Adapter.openPushes a.trace ++ [push]

/-- It depends on the opening alone. -/
theorem Opened.congr {a a' a'' : Adapter} (h : Opened a a') (heq : a''.opening = a'.opening) :
    Opened a a'' := by
  obtain ⟨hopened, hstatus, push, hpush⟩ := h
  have h1 : a''.conn.status = a'.conn.status := congrArg (fun o => o.1) heq
  have h2 : a''.conn.opened = a'.conn.opened := congrArg (fun o => o.2.1) heq
  have h3 : Adapter.openPushes a''.trace = Adapter.openPushes a'.trace :=
    congrArg (fun o => o.2.2) heq
  exact ⟨h2.trans hopened, by rw [h1]; exact hstatus, push, h3.trans hpush⟩

theorem onBody_opening (r : Reader) (a : Adapter) (body : Bytes) :
    (onBody r a body).2.opening = a.opening
      ∧ ∀ r', (onBody r a body).1 = .goesOn r' → r'.headersDone = r.headersDone := by
  have hopen := feedBody_opening a r.chunked r.decoder body
  unfold onBody
  generalize feedBody a r.chunked r.decoder body = res at hopen ⊢
  obtain ⟨error, d, a'⟩ := res
  cases error with
  | some error => exact ⟨hopen, fun r' h => by cases h⟩
  | none =>
      simp only
      split
      · exact ⟨hopen, fun r' h => by cases h⟩
      · refine ⟨hopen, fun r' h => ?_⟩
        cases h
        rfl

/-- **What a pass can do while the headers are incomplete.** -/
theorem onData_cases (a : Adapter) (b p : Bytes) :
    (onData (collecting b) a p = (.goesOn (collecting (b ++ p)), a)
        ∧ (b ++ p).length ≤ 65536 ∧ findHeaderEnd (b ++ p) = none)
      ∨ (∃ error, (onData (collecting b) a p).1 = .returns (some error)
        ∧ ((b ++ p).length ≤ 65536 → findHeaderEnd (b ++ p) ≠ none))
      ∨ (findHeaderEnd (b ++ p) ≠ none ∧ Opened a (onData (collecting b) a p).2
        ∧ ∀ r, (onData (collecting b) a p).1 = .goesOn r → r.headersDone = true) := by
  rw [onData_collecting]
  by_cases hcap : (b ++ p).length > 65536
  · rw [if_pos hcap]
    exact .inr (.inl ⟨_, rfl, fun hle => absurd hcap (by omega)⟩)
  · rw [if_neg hcap]
    cases hend : findHeaderEnd (b ++ p) with
    | none => exact .inl ⟨rfl, by omega, rfl⟩
    | some hd =>
        obtain ⟨headerEnd, size⟩ := hd
        simp only
        unfold onHeaders
        cases parseResponseHeaders ((b ++ p).take headerEnd) with
        | none => exact .inr (.inl ⟨_, rfl, fun _ => by simp⟩)
        | some parsed =>
            obtain ⟨status, chunked⟩ := parsed
            simp only
            by_cases hstatus : status < 200 ∨ status ≥ 300
            · rw [if_pos hstatus]
              exact .inr (.inl ⟨_, rfl, fun _ => by simp⟩)
            · rw [if_neg hstatus]
              have hopened : Opened a (a.setStatus status).openConnection := by
                refine ⟨rfl, ⟨?_, ?_⟩, ?_⟩
                · show 200 ≤ status
                  omega
                · show status < 300
                  omega
                · exact ⟨_, by simp [Adapter.openConnection, Adapter.enqueueOpen,
                    Adapter.setConnected, Adapter.queuePush, Adapter.setStatus,
                    Adapter.openPushes, openEvent]; rfl⟩
              refine .inr (.inr ⟨by simp, ?_⟩)
              split
              · refine ⟨hopened, fun r h => ?_⟩
                cases h
                rfl
              · obtain ⟨hopen, hdone⟩ := onBody_opening
                  { headersDone := true, chunked := chunked } (a.setStatus status).openConnection
                  ((b ++ p).drop (headerEnd + size))
                exact ⟨hopened.congr hopen, fun r h => hdone r h⟩

/-- Once the headers are done, nothing opens any more. -/
theorem readResponse_opening (receives : List Receive) :
    ∀ (looks : Nat) (r : Reader) (a : Adapter) {error : Option String} {a' : Adapter}
      {s' : StopFlag}, r.headersDone = true →
      readResponse resultToString (noStop looks) r a receives = some (error, a', s') →
      a'.opening = a.opening := by
  induction receives with
  | nil =>
    intro looks r a error a' s' _ h
    cases h
  | cons x receives ih =>
    intro looks r a error a' s' hr h
    unfold readResponse at h
    rw [noStop_raised, if_neg Bool.false_ne_true, noStop_next] at h
    cases x with
    | failed code =>
        cases h
        rfl
    | again selects =>
        simp only at h
        split at h
        · cases h
        · next s hok =>
            obtain ⟨-, looks₂, rfl⟩ := waitsOk_of_waitForSocket hok
            exact ih looks₂ r a hr h
        · cases h
          rfl
    | data bytes =>
        cases bytes with
        | nil =>
            cases h
            rfl
        | cons c bytes =>
            have hpass : onData r a (c :: bytes) = onBody r a (c :: bytes) := by
              unfold onData
              rw [if_pos hr]
            obtain ⟨hopen, hdone⟩ := onBody_opening r a (c :: bytes)
            simp only [hpass] at h
            generalize onBody r a (c :: bytes) = res at h hopen hdone
            obtain ⟨pass, a₂⟩ := res
            cases pass with
            | returns error =>
                cases h
                exact hopen
            | goesOn r' =>
                have hnext := ih (looks + 1) r' a₂ ((hdone r' rfl).trans hr) h
                exact hnext.trans hopen

/-- **A response that ended well** was closed before its headers were complete,
or opened. -/
theorem readResponse_true (receives : List Receive) :
    ∀ (looks : Nat) (b : Bytes) (a : Adapter) {a' : Adapter} {s' : StopFlag},
      readResponse resultToString (noStop looks) (collecting b) a receives = some (none, a', s') →
      b.length ≤ 65536 → findHeaderEnd b = none →
      ClosedFrom b receives
        ∨ Opened a a' ∧ ∃ n, findHeaderEnd ((b ++ received receives).take n) ≠ none := by
  induction receives with
  | nil =>
    intro looks b a a' s' h _ _
    cases h
  | cons x receives ih =>
    intro looks b a a' s' h hcap hend
    unfold readResponse at h
    rw [noStop_raised, if_neg Bool.false_ne_true, noStop_next] at h
    cases x with
    | failed code => cases h
    | again selects =>
        simp only at h
        split at h
        · cases h
        · next s hok =>
            obtain ⟨hsel, looks₂, rfl⟩ := waitsOk_of_waitForSocket hok
            rcases ih looks₂ b a h hcap hend with ⟨before, after, rfl, hfine, hlen, hnone⟩ | hopen
            · refine .inl ⟨.again selects :: before, after, rfl, ?_, hlen, hnone⟩
              exact List.forall_mem_cons.mpr ⟨hsel, hfine⟩
            · exact .inr hopen
        · cases h
    | data bytes =>
        cases bytes with
        | nil =>
            refine .inl ⟨[], receives, rfl, by simp, ?_, ?_⟩
            · simpa [received] using hcap
            · simpa [received] using hend
        | cons c bytes =>
            rcases onData_cases a b (c :: bytes) with ⟨hpass, hlen, hnone⟩ | ⟨error, hpass, -⟩
              | ⟨hfound, hopen, hdone⟩
            · -- the headers go on
              simp only [hpass] at h
              rw [append_received_data]
              rcases ih (looks + 1) (b ++ c :: bytes) a h hlen hnone with
                ⟨before, after, rfl, hfine, hlen', hnone'⟩ | hopen
              · refine .inl ⟨.data (c :: bytes) :: before, after, rfl, ?_, ?_, ?_⟩
                · exact List.forall_mem_cons.mpr ⟨List.cons_ne_nil c bytes, hfine⟩
                · rw [append_received_data]
                  exact hlen'
                · rw [append_received_data]
                  exact hnone'
              · exact .inr hopen
            · -- an error is no success
              simp only at h
              generalize onData (collecting b) a (c :: bytes) = res at h hpass
              obtain ⟨pass, a₂⟩ := res
              obtain rfl : pass = .returns (some error) := hpass
              cases h
            · -- the headers are complete and accepted
              refine .inr ⟨?_, (b ++ c :: bytes).length, ?_⟩
              · simp only at h
                generalize onData (collecting b) a (c :: bytes) = res at h hopen hdone
                obtain ⟨pass, a₂⟩ := res
                cases pass with
                | returns error =>
                    cases h
                    exact hopen
                | goesOn r =>
                    exact hopen.congr
                      (readResponse_opening resultToString receives (looks + 1) r a₂ (hdone r rfl) h)
              · rw [append_received_data, List.take_left]
                exact hfound

/-- A connection that is closed before the headers ends well, with nothing done. -/
theorem readResponse_closed {receives : List Receive} :
    ∀ (looks : Nat) (b : Bytes) (a : Adapter), ClosedFrom b receives →
      ∃ looks', readResponse resultToString (noStop looks) (collecting b) a receives
        = some (none, a, noStop looks') := by
  induction receives with
  | nil =>
    rintro looks b a ⟨before, after, hsplit, -⟩
    cases before <;> cases hsplit
  | cons x receives ih =>
    rintro looks b a ⟨before, after, hsplit, hfine, hlen, hnone⟩
    unfold readResponse
    rw [noStop_raised, if_neg Bool.false_ne_true, noStop_next]
    cases before with
    | nil =>
        obtain ⟨rfl, -⟩ := List.cons.inj hsplit
        exact ⟨looks + 1, rfl⟩
    | cons y before =>
        obtain ⟨rfl, rfl⟩ := List.cons.inj hsplit
        obtain ⟨hx, hbefore⟩ := List.forall_mem_cons.mp hfine
        cases x with
        | failed code => exact absurd hx id
        | again selects =>
            obtain ⟨looks₂, hok⟩ := waitForSocket_ok hx (looks + 1)
            simp only [hok]
            exact ih looks₂ b a ⟨before, after, rfl, hbefore, hlen, hnone⟩
        | data bytes =>
            obtain ⟨c, bytes, rfl⟩ := List.exists_cons_of_ne_nil (show bytes ≠ [] from hx)
            rw [append_received_data] at hlen hnone
            -- what is incomplete in the end was incomplete on the way
            have hpre : (b ++ c :: bytes).length ≤ 65536 := by
              rw [@List.length_append _ (b ++ c :: bytes)] at hlen
              omega
            have hpend : findHeaderEnd (b ++ c :: bytes) = none :=
              findHeaderEnd_prefix_none hnone
            simp only [onData_collecting, if_neg (Nat.not_lt.mpr hpre), hpend]
            exact ih (looks + 1) (b ++ c :: bytes) a ⟨before, after, rfl, hbefore, hlen, hnone⟩

/-! ## §3. The attempt and its worker. -/

/-- The worker never touches the stop flag. -/
theorem waitForSocket_raisedAt (selects : List SocketResult) :
    ∀ (s : StopFlag) {result : SocketResult} {s' : StopFlag},
      waitForSocket s selects = some (result, s') → s'.raisedAt = s.raisedAt := by
  induction selects with
  | nil =>
    intro s result s' h
    unfold waitForSocket at h
    split at h <;> cases h
    rfl
  | cons x selects ih =>
    intro s result s' h
    unfold waitForSocket at h
    split at h
    · cases h
      rfl
    · split at h
      · exact ih s.next h
      · cases h
        rfl

theorem sendLoop_raisedAt (sends : List Send) :
    ∀ (s : StopFlag) (handed data : Bytes) (remaining : Int) {error : Option String}
      {handed' : Bytes} {s' : StopFlag},
      sendLoop resultToString s handed data remaining sends = some (error, handed', s') →
      s'.raisedAt = s.raisedAt := by
  induction sends with
  | nil =>
    intro s handed data remaining error handed' s' h
    unfold sendLoop at h
    repeat' split at h
    all_goals cases h
    all_goals rfl
  | cons x sends ih =>
    intro s handed data remaining error handed' s' h
    -- a wait, then the rest of the loop
    have hwait : ∀ selects : List SocketResult,
        sendWaited resultToString s.next handed data remaining sends selects
          = some (error, handed', s') → s'.raisedAt = s.raisedAt := by
      intro selects h
      rcases sendWaited_cases resultToString h with ⟨s₂, hw, h⟩ | ⟨result, s₂, -, hw, hr⟩
      · exact (ih s₂ _ _ _ h).trans (waitForSocket_raisedAt selects s.next hw)
      · cases hr
        exact waitForSocket_raisedAt selects s.next hw
    unfold sendLoop at h
    split at h
    · cases h
      rfl
    · split at h
      · cases h
        rfl
      · cases x with
        | failed code =>
            cases h
            rfl
        | again selects => exact hwait selects h
        | sent count selects =>
            simp only at h
            split at h
            · exact hwait selects h
            · exact ih s.next _ _ _ h

theorem readResponse_raisedAt (receives : List Receive) :
    ∀ (s : StopFlag) (r : Reader) (a : Adapter) {error : Option String} {a' : Adapter}
      {s' : StopFlag}, readResponse resultToString s r a receives = some (error, a', s') →
      s'.raisedAt = s.raisedAt := by
  induction receives with
  | nil =>
    intro s r a error a' s' h
    unfold readResponse at h
    split at h <;> cases h
    rfl
  | cons x receives ih =>
    intro s r a error a' s' h
    unfold readResponse at h
    split at h
    · cases h
      rfl
    · cases x with
      | failed code =>
          simp only at h
          split at h <;> cases h <;> rfl
      | again selects =>
          simp only at h
          split at h
          · cases h
          · next s₂ hw => exact (ih s₂ r a h).trans (waitForSocket_raisedAt selects s.next hw)
          · next result s₂ _ hw =>
              cases h
              exact waitForSocket_raisedAt selects s.next hw
      | data bytes =>
          cases bytes with
          | nil =>
              cases h
              rfl
          | cons c bytes =>
              simp only at h
              split at h
              · cases h
                rfl
              · exact ih s.next _ _ h

/-- A flag that nobody raises. -/
theorem eq_noStop {s : StopFlag} (h : s.raisedAt = none) : s = noStop s.looks := by
  obtain ⟨raisedAt, looks⟩ := s
  obtain rfl : raisedAt = none := h
  rfl

/-- The attempt received complete headers, was accepted and pushed one OPEN. -/
def OpenedFully (net : Network) (a : Adapter) : Prop :=
  (∃ n, findHeaderEnd ((received net.receives).take n) ≠ none)
    ∧ a.conn.opened = true ∧ accepted a.conn.status
    ∧ (Adapter.openPushes a.trace).length = 1

/-- The connection was made and the whole request sent, and then it was closed
before the headers of the response were complete. -/
def ClosedEarly (conn : SSEDesktopConnection) (net : Network) : Prop :=
  net.pool = true ∧ net.dial = none
    ∧ (∃ url request, parseUrl conn.url = .ok url ∧ buildRequest conn url = .ok request
        ∧ SendsAll (toInt32 request.length) net.sends)
    ∧ ClosedFrom [] net.receives

/-- `SSEDesktop_PerformOnce` that got as far as the response. -/
theorem performOnce_reads {conn : SSEDesktopConnection} {net : Network} {url : SSEDMUrl}
    {request : Bytes} (looks : Nat) (hpool : net.pool = true) (hdial : net.dial = none)
    (hurl : parseUrl conn.url = .ok url) (hreq : buildRequest conn url = .ok request)
    {handed : Bytes} {looks' : Nat}
    (hsend : sendAll resultToString (noStop (looks + 1)) request net.sends
      = some (none, handed, noStop looks')) :
    performOnce resultToString (noStop looks) conn net
      = match readResponse resultToString (noStop looks') {} (Adapter.start conn net.queue)
          net.receives with
        | none => none
        | some (error, a, s) =>
            if s.raised then some (none, a, s.next) else some (error, a, s.next) := by
  have hreq' : buildRequest (Adapter.start conn net.queue).conn url = .ok request := hreq
  unfold performOnce
  cases hread : readResponse resultToString (noStop looks') {} (Adapter.start conn net.queue)
      net.receives <;>
    simp only [hpool, hurl, hdial, hreq', noStop_raised, noStop_next, hsend, hread, Bool.not_true,
      Bool.false_eq_true, if_false]

/-- **What an attempt that returned true did.** -/
theorem performOnce_true {conn : SSEDesktopConnection} {net : Network} {looks : Nat}
    {a : Adapter} {s : StopFlag}
    (h : performOnce resultToString (noStop looks) conn net = some (none, a, s)) :
    ClosedEarly conn net ∨ OpenedFully net a := by
  have h₀ := h
  unfold performOnce at h
  split at h
  · cases h
  · next hpool =>
    split at h
    · cases h
    · next url hurl =>
      simp only at h
      split at h
      · cases h
      · next hdial =>
        rw [noStop_raised, if_neg Bool.false_ne_true, noStop_next] at h
        split at h
        · cases h
        · next request hreq =>
          split at h
          · cases h
          · cases h
          · next handed s₁ hsend =>
            have hs₁ := eq_noStop (sendLoop_raisedAt resultToString net.sends _ _ _ _ hsend)
            rw [hs₁] at h hsend
            have hpool' : net.pool = true := by simpa using hpool
            split at h
            · cases h
            · next error a₂ s₂ hread =>
              have hs₂ := eq_noStop (readResponse_raisedAt resultToString net.receives _ _ _ hread)
              rw [hs₂] at h hread
              rw [noStop_raised, if_neg Bool.false_ne_true] at h
              cases h
              rcases readResponse_true resultToString net.receives _ [] _ hread (by simp)
                (by decide) with hclosed | ⟨⟨hopened, hstatus, push, hpush⟩, n, hn⟩
              · exact .inl ⟨hpool', hdial, ⟨url, request, hurl, hreq,
                  (sendLoop_ok_iff resultToString net.sends _ _ _ _).mp ⟨handed, _, hsend⟩⟩,
                  hclosed⟩
              · exact .inr ⟨⟨n, hn⟩, hopened, hstatus, by rw [hpush]; rfl⟩

/-- An attempt that was closed early returns true, with nothing done. -/
theorem performOnce_closed {conn : SSEDesktopConnection} {net : Network}
    (h : ClosedEarly conn net) (looks : Nat) :
    ∃ looks', performOnce resultToString (noStop looks) conn net
      = some (none, Adapter.start conn net.queue, noStop looks') := by
  obtain ⟨hpool, hdial, ⟨url, request, hurl, hreq, hsends⟩, hclosed⟩ := h
  obtain ⟨handed, looks₁, hsend⟩ :=
    (sendLoop_ok_iff resultToString net.sends (looks + 1) [] request _).mpr hsends
  obtain ⟨looks₂, hread⟩ := readResponse_closed resultToString looks₁ []
    (Adapter.start conn net.queue) hclosed
  refine ⟨looks₂ + 1, ?_⟩
  rw [performOnce_reads resultToString looks hpool hdial hurl hreq hsend]
  have hread' : readResponse resultToString (noStop looks₁) {} (Adapter.start conn net.queue)
      net.receives = some (none, Adapter.start conn net.queue, noStop looks₂) := hread
  rw [hread']
  rfl

theorem performOnce_raisedAt {conn : SSEDesktopConnection} {net : Network} {looks : Nat}
    {error : Option String} {a : Adapter} {s : StopFlag}
    (h : performOnce resultToString (noStop looks) conn net = some (error, a, s)) :
    s.raisedAt = none := by
  unfold performOnce at h
  split at h
  · cases h
    rfl
  · split at h
    · cases h
      rfl
    · simp only at h
      split at h
      · cases h
        rfl
      · rw [noStop_raised, if_neg Bool.false_ne_true, noStop_next] at h
        split at h
        · cases h
          rfl
        · split at h
          · cases h
          · next hsend =>
              cases h
              exact sendLoop_raisedAt resultToString net.sends _ _ _ _ hsend
          · next handed s₁ hsend =>
              have hs₁ := sendLoop_raisedAt resultToString net.sends _ _ _ _ hsend
              split at h
              · cases h
              · next hread =>
                  have hs₂ := readResponse_raisedAt resultToString net.receives _ _ _ hread
                  split at h <;> cases h <;> exact hs₂.trans hs₁

/-- **No failure is silent**, in an attempt without a stop: if it returned true
it opened, and if it did not open the worker pushes an error. -/
structure NoSilentFailure (looks : Nat) (conn : SSEDesktopConnection) (net : Network) : Prop where
  opens : ∀ a s, performOnce resultToString (noStop looks) conn net = some (none, a, s) →
    OpenedFully net a
  reports : ∀ a s goesOn, workerPass resultToString (noStop looks) conn net = some (a, s, goesOn) →
    Adapter.openPushes a.trace = [] →
    ∃ event ok, Effect.push event ok ∈ a.trace ∧ event.type = .eventError

/-- What the worker adds to a failed attempt. -/
theorem workerPass_error {conn : SSEDesktopConnection} {net : Network} {looks : Nat}
    {error : String} {a a' : Adapter} {s s' : StopFlag} {goesOn : Bool}
    (h : performOnce resultToString (noStop looks) conn net = some (some error, a, s))
    (hpass : workerPass resultToString (noStop looks) conn net = some (a', s', goesOn)) :
    ∃ event ok, Effect.push event ok ∈ a'.trace ∧ event.type = .eventError := by
  have hs := eq_noStop (performOnce_raisedAt resultToString h)
  unfold workerPass at hpass
  rw [h, hs] at hpass
  simp only [noStop_raised, Bool.false_eq_true, if_false] at hpass
  have ha' : a' = (a.setConnected false).enqueueError (some (.lit error))
      (a.setConnected false).conn.status (a.setConnected false).conn.reconnect
      (a.setConnected false).conn.retryMs := by
    split at hpass <;> cases hpass <;> rfl
  rw [ha']
  exact ⟨_, _, List.mem_append_right _ (List.mem_singleton_self _), rfl⟩

/-- The worker opens nothing. -/
theorem workerPass_true {conn : SSEDesktopConnection} {net : Network} {looks : Nat}
    {a a' : Adapter} {s s' : StopFlag} {goesOn : Bool}
    (h : performOnce resultToString (noStop looks) conn net = some (none, a, s))
    (hpass : workerPass resultToString (noStop looks) conn net = some (a', s', goesOn)) :
    Adapter.openPushes a'.trace = Adapter.openPushes a.trace := by
  have hs := eq_noStop (performOnce_raisedAt resultToString h)
  unfold workerPass at hpass
  rw [h, hs] at hpass
  simp only [noStop_raised, Bool.false_eq_true, if_false] at hpass
  have ha' : a' = a.setConnected false := by
    split at hpass <;> cases hpass <;> rfl
  rw [ha']
  simp [Adapter.setConnected, Adapter.openPushes]

/-- **WHEN A FAILURE IS SILENT.** An attempt without a stop fails silently exactly
when its connection is closed early. -/
theorem noSilentFailure_iff (looks : Nat) (conn : SSEDesktopConnection) (net : Network) :
    NoSilentFailure resultToString looks conn net ↔ ¬ ClosedEarly conn net := by
  constructor
  · intro h hclosed
    obtain ⟨looks', hrun⟩ := performOnce_closed resultToString hclosed looks
    obtain ⟨-, hopened, -⟩ := h.opens _ _ hrun
    exact Bool.false_ne_true hopened
  · intro hopen
    have hopens : ∀ a s, performOnce resultToString (noStop looks) conn net = some (none, a, s) →
        OpenedFully net a :=
      fun a s h => (performOnce_true resultToString h).resolve_left hopen
    refine ⟨hopens, fun a' s' goesOn hpass hnone => ?_⟩
    cases hrun : performOnce resultToString (noStop looks) conn net with
    | none =>
        unfold workerPass at hpass
        rw [hrun] at hpass
        cases hpass
    | some res =>
        obtain ⟨error, a, s⟩ := res
        cases error with
        | some error => exact workerPass_error resultToString hrun hpass
        | none =>
            obtain ⟨-, -, -, hone⟩ := hopens a s hrun
            rw [← workerPass_true resultToString hrun hpass, hnone] at hone
            cases hone

end Silence

/-- A server that takes the request and closes: the attempt returns true, and
the worker says nothing but that the connection is not connected. -/
theorem closed_early_is_silent :
    ∃ (conn : SSEDesktopConnection) (net : Network),
      ¬ NoSilentFailure (fun _ => "") 0 conn net
        ∧ (workerPass (fun _ => "") (noStop 0) conn net).map (fun x => x.1.trace)
          = some [.setConnected 0 false] := by
  refine ⟨{ url := some (.lit "http://h/") },
    { sends := [.sent 141 []], receives := [.data []],
      queue := ⟨fun _ => true, fun _ => true⟩ }, ?_, by decide +kernel⟩
  intro h
  have hrun : (performOnce (fun _ => "") (noStop 0) { url := some (.lit "http://h/") }
      { sends := [.sent 141 []], receives := [.data []],
        queue := ⟨fun _ => true, fun _ => true⟩ }).map
        (fun x => (x.1, x.2.1.conn.opened)) = some (none, false) := by decide +kernel
  obtain ⟨⟨error, a, s⟩, hperform, hpair⟩ := Option.map_eq_some_iff.mp hrun
  obtain rfl : error = none := congrArg Prod.fst hpair
  have hclosed : a.conn.opened = false := congrArg Prod.snd hpair
  have hopened := (h.opens a s hperform).2.1
  rw [hclosed] at hopened
  exact Bool.false_ne_true hopened

end DefoldSSE
