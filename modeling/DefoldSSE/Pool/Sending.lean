/-
  DefoldSSE.Pool.Sending — `SSEDM_SendAll`, call by call.

  The worker's `sendLoop` says what a finished send has done.  Here the loop is a
  machine whose steps are the tests of the stop flag and the calls of the socket,
  with a stop requested between any two of them, so that a send is seen at every
  moment of every schedule, also of one that never ends.

  Main results:
    • `sendAll_exact`  — a pointer and a counter stay in step: what the socket
      has taken is a prefix of the request, the rest is what the next call is
      given, and a send that succeeds with no stop has sent all of it;
    • `sendAll_run`    — `sendAll` takes the steps of the machine.
-/
import DefoldSSE.Lib.Machine
import DefoldSSE.Pool.Silence

namespace DefoldSSE

open CLib

/-! ## §1. The machine. -/

/-- The next step of `SSEDM_SendAll`. -/
inductive SendPc where
  /-- `remaining > 0 && !SSEDesktop_ShouldStop(connection)`. -/
  | test
  /-- `SSEDM_SendRaw(connection, data, remaining, &sent)`. -/
  | sendRaw
  /-- `SSEDM_WaitForSocket`: its test, and `dmSocket::Select`. -/
  | waitTest
  | select
  /-- It has returned true, or false with this error. -/
  | returned (error : Option String)
  deriving DecidableEq, Repr

/-- The locals of `SSEDM_SendAll`, the stop flag, and the socket. -/
structure Sending where
  pc : SendPc := .test
  /-- `data - request.data()`. -/
  offset : Nat := 0
  remaining : Int
  stop : Bool := false
  /-- The bytes the socket has taken. -/
  taken : Bytes := []
  deriving DecidableEq, Repr

inductive SendStep where
  /-- `SSE_Platform_Disconnect` sets `m_Stop`. -/
  | requestStop
  | test
  /-- The result of the call, and `*sent_bytes`. -/
  | sendRaw (result : SocketResult) (sent : Int)
  | waitTest
  | select (result : SocketResult)
  deriving DecidableEq, Repr

/-- What must not happen. -/
inductive SendFault where
  /-- A call is given more bytes than there are behind `data`. -/
  | outOfBounds
  deriving DecidableEq, Repr

/-- The step is the next one; a socket takes at most what it is given. -/
def sendEnabled (s : Sending) : SendStep → Bool
  | .requestStop => true
  | .test => s.pc == .test
  | .sendRaw result sent =>
      s.pc == .sendRaw && (result != .ok || decide (0 ≤ sent ∧ sent ≤ s.remaining))
  | .waitTest => s.pc == .waitTest
  | .select _ => s.pc == .select

section Machine

-- `dmSocket::ResultToString`
variable (resultToString : SocketResult → String) (request : Bytes)

def sendStep (s : Sending) : SendStep → Except SendFault Sending
  | .requestStop => .ok { s with stop := true }
  | .test =>
      .ok { s with pc := if s.remaining > 0 ∧ s.stop = false then .sendRaw else .returned none }
  | .sendRaw result sent =>
      if s.offset + s.remaining > request.length then .error .outOfBounds
      else
        match result with
        | .ok =>
            if sent ≤ 0 then .ok { s with pc := .waitTest }
            else
              .ok { s with
                pc := .test
                offset := s.offset + sent.toNat
                remaining := s.remaining - sent
                taken := s.taken ++ (request.drop s.offset).take sent.toNat }
        | .wouldBlock => .ok { s with pc := .waitTest }
        | .tryAgain => .ok { s with pc := .waitTest }
        | .failure code =>
            .ok { s with
              pc := .returned (some ("socket send failed: " ++ resultToString (.failure code))) }
  | .waitTest =>
      -- a stop ends the wait with `RESULT_OK`
      .ok { s with pc := if s.stop then .test else .select }
  | .select result =>
      .ok { s with
        pc :=
          if result.retry then .waitTest
          else if result = .ok then .test
          else .returned (some ("socket send wait failed: " ++ resultToString result)) }

/-- `SSEDM_SendAll` of a request.  Its size goes into an `int`. -/
def sendMachine : Machine Sending SendStep SendFault where
  init := { remaining := toInt32 request.length }
  enabled := sendEnabled
  step := sendStep resultToString request

/-! ## §2. A pointer and a counter. -/

variable {request}

/-- The pointer, the counter and the socket agree. -/
structure SendInv (request : Bytes) (s : Sending) : Prop where
  inside : s.offset ≤ request.length
  counted : s.offset + s.remaining = request.length
  taken : s.taken = request.take s.offset
  /-- Only a stop ends a send early. -/
  finished : s.pc = .returned none → s.stop = true ∨ s.remaining = 0

/-- A step that moves neither the pointer nor the counter. -/
theorem SendInv.keep {s t : Sending} (h : SendInv request s) (hoffset : t.offset = s.offset)
    (hremaining : t.remaining = s.remaining) (htaken : t.taken = s.taken)
    (hfinished : t.pc = .returned none → t.stop = true ∨ t.remaining = 0) :
    SendInv request t where
  inside := by
    rw [hoffset]
    exact h.inside
  counted := by
    rw [hoffset, hremaining]
    exact h.counted
  taken := by
    rw [hoffset, htaken]
    exact h.taken
  finished := hfinished

theorem SendInv.goTo {s : Sending} (h : SendInv request s) {pc : SendPc}
    (hpc : pc ≠ .returned none) {stop : Bool} : SendInv request { s with pc := pc, stop := stop } :=
  h.keep rfl rfl rfl (fun hreturned => absurd hreturned hpc)

/-- A call that took bytes. -/
theorem SendInv.advance {s : Sending} (h : SendInv request s) {sent : Int} (hpos : ¬ sent ≤ 0)
    (hle : sent ≤ s.remaining) :
    SendInv request { s with
      pc := .test
      offset := s.offset + sent.toNat
      remaining := s.remaining - sent
      taken := s.taken ++ (request.drop s.offset).take sent.toNat } where
  inside := by
    have hcounted := h.counted
    show s.offset + sent.toNat ≤ request.length
    omega
  counted := by
    have hcounted := h.counted
    show ((s.offset + sent.toNat : Nat) : Int) + (s.remaining - sent) = request.length
    omega
  taken := by
    show s.taken ++ (request.drop s.offset).take sent.toNat = request.take (s.offset + sent.toNat)
    rw [h.taken, List.take_add]
  finished := by
    intro hpc
    cases hpc

theorem sendInv_step {s s' : Sending} {a : SendStep} (h : SendInv request s)
    (henabled : sendEnabled s a = true) (hstep : sendStep resultToString request s a = .ok s') :
    SendInv request s' := by
  cases a with
  | requestStop =>
      obtain rfl := Except.ok.inj hstep
      exact h.keep rfl rfl rfl (fun _ => .inl rfl)
  | test =>
      obtain rfl := Except.ok.inj hstep
      refine h.keep rfl rfl rfl (fun hpc => ?_)
      dsimp only at hpc ⊢
      split at hpc
      · cases hpc
      · next hends =>
          have hinside := h.inside
          have hcounted := h.counted
          cases hstop : s.stop with
          | true => exact .inl rfl
          | false =>
              have hnone : ¬ s.remaining > 0 := fun hpos => hends ⟨hpos, hstop⟩
              exact .inr (by omega)
  | sendRaw result sent =>
      unfold sendStep at hstep
      dsimp only at hstep
      split at hstep
      · cases hstep
      · cases result with
        | ok =>
            dsimp only at hstep
            split at hstep
            · obtain rfl := Except.ok.inj hstep
              exact h.goTo (by simp)
            · next hpos =>
                obtain rfl := Except.ok.inj hstep
                simp only [sendEnabled, bne_self_eq_false, Bool.false_or, Bool.and_eq_true,
                  decide_eq_true_eq] at henabled
                exact h.advance hpos henabled.2.2
        | wouldBlock =>
            obtain rfl := Except.ok.inj hstep
            exact h.goTo (by simp)
        | tryAgain =>
            obtain rfl := Except.ok.inj hstep
            exact h.goTo (by simp)
        | failure code =>
            obtain rfl := Except.ok.inj hstep
            exact h.goTo (by simp)
  | waitTest =>
      obtain rfl := Except.ok.inj hstep
      refine h.keep rfl rfl rfl (fun hpc => ?_)
      dsimp only at hpc
      split at hpc
      · cases hpc
      · cases hpc
  | select result =>
      obtain rfl := Except.ok.inj hstep
      refine h.keep rfl rfl rfl (fun hpc => ?_)
      dsimp only at hpc
      split at hpc
      · cases hpc
      · split at hpc
        · cases hpc
        · cases hpc

/-- A request that an `int` counts. -/
theorem toInt32_length (hsize : request.length < 2 ^ 31) :
    toInt32 request.length = request.length :=
  toInt32_of_fits (by omega) (by omega)

theorem sendMachine_init (hsize : request.length < 2 ^ 31) :
    (sendMachine resultToString request).init = { remaining := request.length } := by
  unfold sendMachine
  rw [toInt32_length hsize]

theorem sendInv_init (request : Bytes) : SendInv request { remaining := request.length } where
  inside := Nat.zero_le _
  counted := Int.zero_add _
  taken := rfl
  finished := fun hpc => by cases hpc

theorem sendMachine_invariant (hsize : request.length < 2 ^ 31) :
    (sendMachine resultToString request).Invariant (SendInv request) where
  init := by
    rw [sendMachine_init resultToString hsize]
    exact sendInv_init request
  step := by
    intro s a s' hinv henabled hstep
    exact sendInv_step resultToString hinv henabled hstep

/-- No call is given bytes that are not there. -/
theorem SendInv.no_fault {s : Sending} (h : SendInv request s) (a : SendStep) :
    ∃ s', sendStep resultToString request s a = .ok s' := by
  cases a with
  | sendRaw result sent =>
      have hcounted := h.counted
      unfold sendStep
      dsimp only
      rw [if_neg (by omega)]
      cases result with
      | ok =>
          dsimp only
          split
          · exact ⟨_, rfl⟩
          · exact ⟨_, rfl⟩
      | wouldBlock => exact ⟨_, rfl⟩
      | tryAgain => exact ⟨_, rfl⟩
      | failure code => exact ⟨_, rfl⟩
  | requestStop => exact ⟨_, rfl⟩
  | test => exact ⟨_, rfl⟩
  | waitTest => exact ⟨_, rfl⟩
  | select result => exact ⟨_, rfl⟩

/-- **SENDING IS EXACT.** At every moment of every schedule, the socket has
taken a prefix of the request, the next call is given the rest of it and no
more, and a send that returned true with no stop requested has sent it all. -/
theorem sendAll_exact (hsize : request.length < 2 ^ 31) {s : Sending}
    (hs : (sendMachine resultToString request).Reachable s) :
    s.taken <+: request
      ∧ s.taken ++ request.drop s.offset = request
      ∧ s.remaining = (request.drop s.offset).length
      ∧ (∀ a, ∃ s', sendStep resultToString request s a = .ok s')
      ∧ (s.pc = .returned none → s.stop = false → s.taken = request) := by
  have hinv := (sendMachine_invariant resultToString hsize).reachable hs
  have hinside := hinv.inside
  have hcounted := hinv.counted
  have hrest : s.remaining = (request.drop s.offset).length := by
    rw [List.length_drop]
    omega
  refine ⟨?_, ?_, hrest, hinv.no_fault resultToString, ?_⟩
  · rw [hinv.taken]
    exact List.take_prefix _ _
  · rw [hinv.taken]
    exact List.take_append_drop _ _
  · intro hpc hstop
    rcases hinv.finished hpc with hraised | hnone
    · rw [hstop] at hraised
      cases hraised
    · rw [hinv.taken]
      exact List.take_of_length_le (by omega)

end Machine

/-- `"abc"`: one byte, then none, a wait that would block once, and the rest. -/
theorem sendAll_exact_abc :
    (ascii "abc").length < 2 ^ 31
      ∧ ∃ s, (sendMachine (fun _ => "") (ascii "abc")).run
            (sendMachine (fun _ => "") (ascii "abc")).init
            [.test, .sendRaw .ok 1, .test, .sendRaw .ok 0, .waitTest, .select .wouldBlock,
              .waitTest, .select .ok, .test, .sendRaw .ok 2, .test] = some s
          ∧ s.pc = .returned none ∧ s.taken = ascii "abc" := by
  have hrun : (sendMachine (fun _ => "") (ascii "abc")).run
      (sendMachine (fun _ => "") (ascii "abc")).init
      [.test, .sendRaw .ok 1, .test, .sendRaw .ok 0, .waitTest, .select .wouldBlock,
        .waitTest, .select .ok, .test, .sendRaw .ok 2, .test]
      = some ⟨.returned none, 3, 0, false, ascii "abc"⟩ := by decide
  exact ⟨by decide, _, hrun, rfl,
    (sendAll_exact (fun _ => "") (by decide) ⟨_, hrun⟩).2.2.2.2 rfl rfl⟩

/-! ## §3. `sendAll` takes these steps. -/

/-- No call takes more than it was given. -/
def WithinRequest (remaining : Int) : List Send → Prop
  | [] => True
  | .sent count _ :: sends =>
      (0 ≤ count ∧ count ≤ remaining) ∧ WithinRequest (remaining - count) sends
  | .again _ :: sends => WithinRequest remaining sends
  | .failed _ :: sends => WithinRequest remaining sends

/-- A stop that was seen is seen again. -/
theorem raised_next {s : StopFlag} (h : s.raised = true) : s.next.raised = true := by
  unfold StopFlag.raised at h ⊢
  cases hraised : s.raisedAt with
  | none =>
      rw [hraised] at h
      cases h
  | some k =>
      rw [hraised] at h
      show (s.raisedAt.any fun k => decide (k ≤ s.looks + 1)) = true
      rw [hraised]
      simp only [Option.any_some, decide_eq_true_eq] at h ⊢
      omega

section Run

variable (resultToString : SocketResult → String) (request : Bytes)

/-- One step, if it is the next one. -/
theorem run_one {t t' : Sending} {a : SendStep} (henabled : sendEnabled t a = true)
    (hstep : sendStep resultToString request t a = .ok t') :
    (sendMachine resultToString request).run t [a] = some t' := by
  show ((sendMachine resultToString request).next t a).bind _ = some t'
  rw [(sendMachine resultToString request).next_eq_some.mpr ⟨henabled, hstep⟩]
  rfl

/-- Before a look that finds the flag set, it is set. -/
theorem run_look {t : Sending} {raised : Bool} (h : t.stop = true → raised = true) :
    ∃ as, (sendMachine resultToString request).run t as = some { t with stop := raised } := by
  cases raised with
  | true => exact ⟨[.requestStop], run_one resultToString request rfl rfl⟩
  | false =>
      refine ⟨[], ?_⟩
      have hstop : t.stop = false := by
        cases ht : t.stop with
        | false => rfl
        | true => exact absurd (h ht) Bool.false_ne_true
      show some t = _
      rw [← hstop]

/-- Where a wait leads to. -/
def waited (result : SocketResult) : SendPc :=
  if result = .ok then .test
  else .returned (some ("socket send wait failed: " ++ resultToString result))

/-- A wait that a stop ends. -/
theorem run_wait_raised {s s' : StopFlag} {t : Sending} {result : SocketResult}
    (hpc : t.pc = .waitTest) (hraised : s.raised = true)
    (hwait : some (SocketResult.ok, s.next) = some (result, s')) :
    ∃ as stop, (sendMachine resultToString request).run t as
        = some { t with pc := waited resultToString result, stop := stop }
      ∧ (stop = true → s'.raised = true) := by
  obtain ⟨rfl, rfl⟩ := Prod.mk.inj (Option.some.inj hwait)
  obtain ⟨as, hlook⟩ := run_look resultToString request (t := t) (fun _ => rfl)
  refine ⟨as ++ [.waitTest], true, ?_, fun _ => raised_next hraised⟩
  refine walk_trans hlook (run_one resultToString request ?_ rfl)
  show (t.pc == .waitTest) = true
  rw [hpc]
  rfl

/-- A `Select`, in a wait that goes on. -/
theorem run_select {t : Sending} (hpc : t.pc = .waitTest) (hstop : t.stop = false)
    (result : SocketResult) :
    (sendMachine resultToString request).run t [.waitTest, .select result]
      = some { t with pc := if result.retry then .waitTest else waited resultToString result } := by
  have hselect : sendStep resultToString request t .waitTest = .ok { t with pc := .select } := by
    unfold sendStep
    rw [hstop]
    rfl
  have hfirst : (sendMachine resultToString request).run t [.waitTest]
      = some { t with pc := .select } := by
    apply run_one resultToString request _ hselect
    show (t.pc == .waitTest) = true
    rw [hpc]
    rfl
  exact walk_trans hfirst (run_one resultToString request rfl rfl)

/-- `SSEDM_WaitForSocket`. -/
theorem run_wait (selects : List SocketResult) :
    ∀ {s s' : StopFlag} {t : Sending} {result : SocketResult}, t.pc = .waitTest →
      (t.stop = true → s.raised = true) → waitForSocket s selects = some (result, s') →
      ∃ as stop, (sendMachine resultToString request).run t as
          = some { t with pc := waited resultToString result, stop := stop }
        ∧ (stop = true → s'.raised = true) := by
  induction selects with
  | nil =>
      intro s s' t result hpc hstop hwait
      unfold waitForSocket at hwait
      split at hwait
      · next hraised => exact run_wait_raised resultToString request hpc hraised hwait
      · cases hwait
  | cons answer selects ih =>
      intro s s' t result hpc hstop hwait
      unfold waitForSocket at hwait
      split at hwait
      · next hraised => exact run_wait_raised resultToString request hpc hraised hwait
      · next hraised =>
          have hnever : t.stop = false := Bool.eq_false_iff.mpr (fun h => hraised (hstop h))
          have hselect := run_select resultToString request hpc hnever answer
          split at hwait
          · next hretry =>
              rw [if_pos hretry] at hselect
              obtain ⟨as, stop, hrun, hseen⟩ := ih (t := { t with pc := .waitTest }) rfl
                (fun h => by rw [hnever] at h; cases h) hwait
              exact ⟨_ ++ as, stop, walk_trans hselect hrun, hseen⟩
          · next hretry =>
              obtain ⟨rfl, rfl⟩ := Prod.mk.inj (Option.some.inj hwait)
              rw [if_neg hretry] at hselect
              refine ⟨_, t.stop, hselect, fun h => ?_⟩
              rw [hnever] at h
              cases h

/-- A look at the head of the loop. -/
theorem run_test {s : StopFlag} {t : Sending} (hpc : t.pc = .test)
    (hstop : t.stop = true → s.raised = true) :
    ∃ as, (sendMachine resultToString request).run t as
      = some { t with
          pc := if t.remaining > 0 ∧ s.raised = false then .sendRaw else .returned none
          stop := s.raised } := by
  obtain ⟨as, hlook⟩ := run_look resultToString request hstop
  refine ⟨as ++ [.test], walk_trans hlook (run_one resultToString request ?_ rfl)⟩
  show (t.pc == .test) = true
  rw [hpc]
  rfl

/-- The machine returns what `r` says it does. -/
def EndsWith (t : Sending) (r : Option String × Bytes × StopFlag) : Prop :=
  ∃ as t', (sendMachine resultToString request).run t as = some t'
    ∧ t'.pc = .returned r.1 ∧ t'.taken = r.2.1 ∧ (t'.stop = true → r.2.2.raised = true)

variable {resultToString request}

theorem EndsWith.after {t u : Sending} {r : Option String × Bytes × StopFlag}
    (h : EndsWith resultToString request u r) {as : List SendStep}
    (hrun : (sendMachine resultToString request).run t as = some u) :
    EndsWith resultToString request t r := by
  obtain ⟨rest, t', hrest, hends⟩ := h
  exact ⟨as ++ rest, t', walk_trans hrun hrest, hends⟩

/-- The call of `SSEDM_SendRaw`, which is given what there is. -/
theorem run_sendRaw (resultToString : SocketResult → String) {t t' : Sending}
    (hpc : t.pc = .sendRaw) (result : SocketResult) (sent : Int)
    (hsent : result = .ok → 0 ≤ sent ∧ sent ≤ t.remaining)
    (hstep : sendStep resultToString request t (.sendRaw result sent) = .ok t') :
    (sendMachine resultToString request).run t [.sendRaw result sent] = some t' := by
  apply run_one resultToString request _ hstep
  simp only [sendEnabled, hpc, beq_self_eq_true, Bool.true_and, Bool.or_eq_true, bne_iff_ne,
    decide_eq_true_eq]
  by_cases hok : result = .ok
  · exact .inr (hsent hok)
  · exact .inl hok

/-- After a wait the loop goes on, or the send has failed. -/
theorem endsWith_of_sendWaited {sends : List Send} {selects : List SocketResult} {s : StopFlag}
    {t : Sending} {r : Option String × Bytes × StopFlag} (hinv : SendInv request t)
    (hpc : t.pc = .waitTest) (hstop : t.stop = true → s.raised = true)
    (hloop : ∀ {s : StopFlag} {u : Sending}, SendInv request u → u.pc = .test →
      (u.stop = true → s.raised = true) → u.remaining = t.remaining →
      sendLoop resultToString s u.taken (request.drop u.offset) u.remaining sends = some r →
      EndsWith resultToString request u r)
    (hwaited : sendWaited resultToString s t.taken (request.drop t.offset) t.remaining sends
      selects = some r) :
    EndsWith resultToString request t r := by
  rcases sendWaited_cases resultToString hwaited with ⟨s', hok, hrest⟩ | ⟨result, s', hne, hr⟩
  · obtain ⟨as, stop, hrun, hseen⟩ := run_wait resultToString request selects hpc hstop hok
    have hinv' : SendInv request { t with pc := waited resultToString .ok, stop := stop } :=
      hinv.goTo (by simp [waited])
    exact (hloop hinv' rfl hseen rfl hrest).after hrun
  · obtain ⟨hfailed, rfl⟩ := hr
    obtain ⟨as, stop, hrun, hseen⟩ := run_wait resultToString request selects hpc hstop hfailed
    have hends : waited resultToString result
        = .returned (some ("socket send wait failed: " ++ resultToString result)) := if_neg hne
    rw [hends] at hrun
    exact ⟨as, _, hrun, rfl, rfl, hseen⟩

/-- A call of the socket, when the loop has come to it. -/
theorem endsWith_of_send {send : Send} {sends : List Send} {s : StopFlag} {t : Sending}
    {r : Option String × Bytes × StopFlag} (hinv : SendInv request t) (hpc : t.pc = .sendRaw)
    (hstop : t.stop = false) (hwithin : WithinRequest t.remaining (send :: sends))
    (hsome : ¬ t.remaining ≤ 0) (hquiet : ¬ s.raised = true)
    (hloop : ∀ {s : StopFlag} {u : Sending}, SendInv request u → u.pc = .test →
      (u.stop = true → s.raised = true) → WithinRequest u.remaining sends →
      sendLoop resultToString s u.taken (request.drop u.offset) u.remaining sends = some r →
      EndsWith resultToString request u r)
    (hsend : sendLoop resultToString s t.taken (request.drop t.offset) t.remaining (send :: sends)
      = some r) :
    EndsWith resultToString request t r := by
  have hcounted := hinv.counted
  have hinside : ¬ t.offset + t.remaining > request.length := by omega
  have hseen : ∀ {s : StopFlag}, t.stop = true → s.raised = true := by
    intro s h
    rw [hstop] at h
    cases h
  unfold sendLoop at hsend
  rw [if_neg hsome, if_neg hquiet] at hsend
  cases send with
  | failed code =>
      cases hsend
      have hcall := run_sendRaw resultToString hpc (.failure code) 0
        (fun h => by cases h) (if_neg hinside)
      exact ⟨_, _, hcall, rfl, rfl, hseen⟩
  | again selects =>
      have hcall := run_sendRaw resultToString hpc .wouldBlock 0
        (fun h => by cases h) (if_neg hinside)
      refine (endsWith_of_sendWaited (hinv.goTo (by simp)) rfl hseen ?_
        hsend).after hcall
      intro s u hinv hpc hstop hsame hrest
      exact hloop hinv hpc hstop (by rw [hsame]; exact hwithin) hrest
  | sent count selects =>
      obtain ⟨hcount, hwithin⟩ := hwithin
      by_cases hnone : count ≤ 0
      · have hcall := run_sendRaw resultToString hpc .ok count
          (fun _ => hcount) ((if_neg hinside).trans (if_pos hnone))
        have hzero : count = 0 := by omega
        rw [hzero, Int.sub_zero] at hwithin
        dsimp only at hsend
        rw [if_pos hnone] at hsend
        refine (endsWith_of_sendWaited (hinv.goTo (by simp)) rfl hseen ?_
          hsend).after hcall
        intro s u hinv hpc hstop hsame hrest
        exact hloop hinv hpc hstop (by rw [hsame]; exact hwithin) hrest
      · have hcall := run_sendRaw resultToString hpc .ok count
          (fun _ => hcount) ((if_neg hinside).trans (if_neg hnone))
        dsimp only at hsend
        rw [if_neg hnone] at hsend
        have hdrop : (request.drop t.offset).drop count.toNat
            = request.drop (t.offset + count.toNat) := List.drop_drop ..
        rw [hdrop] at hsend
        exact (hloop (hinv.advance hnone hcount.2) rfl hseen hwithin hsend).after hcall

/-- **The loop of `SSEDM_SendAll` takes the steps of the machine**, one call
after the other. -/
theorem endsWith_of_sendLoop (sends : List Send) :
    ∀ {s : StopFlag} {t : Sending} {r : Option String × Bytes × StopFlag},
      SendInv request t → t.pc = .test → (t.stop = true → s.raised = true) →
      WithinRequest t.remaining sends →
      sendLoop resultToString s t.taken (request.drop t.offset) t.remaining sends = some r →
      EndsWith resultToString request t r := by
  induction sends with
  | nil =>
      intro s t r hinv hpc hstop hwithin hloop
      obtain ⟨as, htest⟩ := run_test resultToString request hpc hstop
      unfold sendLoop at hloop
      split at hloop
      · next hnone =>
          cases hloop
          rw [if_neg (by omega)] at htest
          exact ⟨as, _, htest, rfl, rfl, id⟩
      · split at hloop
        · next hraised =>
            cases hloop
            rw [if_neg (by simp [hraised])] at htest
            exact ⟨as, _, htest, rfl, rfl, fun _ => raised_next hraised⟩
        · cases hloop
  | cons send sends ih =>
      intro s t r hinv hpc hstop hwithin hloop
      obtain ⟨as, htest⟩ := run_test resultToString request hpc hstop
      by_cases hnone : t.remaining ≤ 0
      · unfold sendLoop at hloop
        rw [if_pos hnone] at hloop
        cases hloop
        rw [if_neg (by omega)] at htest
        exact ⟨as, _, htest, rfl, rfl, id⟩
      by_cases hraised : s.raised = true
      · unfold sendLoop at hloop
        rw [if_neg hnone, if_pos hraised] at hloop
        cases hloop
        rw [if_neg (by simp [hraised])] at htest
        exact ⟨as, _, htest, rfl, rfl, fun _ => raised_next hraised⟩
      have hquiet : s.raised = false := Bool.eq_false_iff.mpr hraised
      rw [if_pos ⟨by omega, hquiet⟩, hquiet] at htest
      exact (endsWith_of_send (hinv.goTo (by simp)) rfl rfl hwithin hnone
        hraised ih hloop).after htest

end Run

/-- **`sendAll` returns as some run of the machine does**, if no call takes more
than it was given. -/
theorem sendAll_run (resultToString : SocketResult → String) {request : Bytes}
    (hsize : request.length < 2 ^ 31) {s s' : StopFlag} {sends : List Send}
    (hwithin : WithinRequest request.length sends) {error : Option String} {handed : Bytes}
    (h : sendAll resultToString s request sends = some (error, handed, s')) :
    ∃ t, (sendMachine resultToString request).Reachable t ∧ t.pc = .returned error
      ∧ t.taken = handed ∧ (t.stop = true → s'.raised = true) := by
  have hinit := sendMachine_init resultToString hsize
  have hloop : sendLoop resultToString s [] request request.length sends
      = some (error, handed, s') := by
    rw [← toInt32_length hsize]
    exact h
  obtain ⟨as, t, hrun, hends⟩ := endsWith_of_sendLoop sends (sendInv_init request) rfl
    (fun hstop => by cases hstop) hwithin hloop
  rw [← hinit] at hrun
  exact ⟨t, ⟨as, hrun⟩, hends⟩

end DefoldSSE
