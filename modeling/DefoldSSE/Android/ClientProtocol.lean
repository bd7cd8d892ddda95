/-
  DefoldSSE.Android.ClientProtocol — what the completions and the starts of
  `SseClient` report and ask for, over every interleaving of its threads.

  The threads share the id, the delay and `failedAttempts` without a lock around
  all of it.  That is right because either the last call or the last start runs,
  and not both (`SseClient.Proper`): whoever runs finds what the one before has
  left.  The errors of the watchdogs are not among these events; they come on
  another thread, maybe late.
-/
import DefoldSSE.Android.AttemptProtocol
import DefoldSSE.Android.Client

namespace DefoldSSE

open CLib EventStream

/-- The id that a native call commits. -/
def NativeCall.committed : NativeCall → Option Utf16
  | .onLastEventId id => some id
  | _ => none

/-- The delay that a native call tells. -/
def NativeCall.asked : NativeCall → Option Int
  | .onRetry retryMs => some retryMs
  | _ => none

/-- When an error comes; that of a restart is the one for a request that was not
made. -/
def AndroidErrorKind.comes : AttemptMode → AndroidErrorKind → Bool
  | .between, .restartFailed _ => true
  | .asked _, .requestFailed _ => true
  | .asked _, .httpStatus code => !(200 ≤ code && code < 300)
  | .opened _, .emptyBody => true
  | .opened _, .ioError _ => true
  | .opened _, .thrown _ _ => true
  | _, _ => false

/-- What is left to the Android client: an error comes before the end of its
attempt; a delay is near the target of the desktop. -/
def androidPolicy (reconnect : Bool) : AttemptPolicy Utf16 NativeCall AndroidError Int where
  committed := NativeCall.committed
  asked := NativeCall.asked
  accepts code := 200 ≤ code && code < 300
  errs mode error := (error.reconnect == reconnect) && error.kind.comes mode
  reconnect := reconnect
  delays retryMs failures delay := decide (failures < 2 ^ 31 →
    5 * |delay - targetDelay retryMs failures| ≤ targetDelay retryMs failures)

/-- `computeRetryDelayMsLocked` is the function of the desktop, with another
source of jitter. -/
theorem computeRetryDelayMsLocked_eq (retryMs : Int) (failedAttempts : Nat) (random : Fin 401) :
    computeRetryDelayMsLocked retryMs failedAttempts random
      = (if jitteredDelay (nominalDelay retryMs failedAttempts) random.val < 500 then 500
        else jitteredDelay (nominalDelay retryMs failedAttempts) random.val) := by
  have hrandom : random.val % 401 = random.val := Nat.mod_eq_of_lt random.isLt
  unfold computeRetryDelayMsLocked jitteredDelay
  dsimp only
  rw [hrandom, signedShift_eq failedAttempts androidMaxBackoffShift]
  rfl

theorem androidPolicy_delays (reconnect : Bool) (retryMs : Int) (failures : Nat)
    (random : Fin 401) :
    (androidPolicy reconnect).delays retryMs failures
      (computeRetryDelayMsLocked retryMs (toInt32 failures) random) = true := by
  obtain ⟨hlo, hhi⟩ := nominalDelay_bounds retryMs failures
  have hbounds := jitteredDelay_bounds hlo hhi random.val
  have hnear := computeRetryDelayMS_near retryMs failures random.val
  rw [computeRetryDelayMS_eq] at hnear
  refine decide_eq_true fun hcounted => ?_
  rw [toInt32_of_fits (by omega) (by omega), computeRetryDelayMsLocked_eq, if_neg (by omega),
    nominalDelay_eq]
  exact hnear

/-! ## §1. What the lines leave in the client. -/

namespace SseStream

/-- The parser has made native calls, and its client holds the last id and the
last delay of them. -/
structure Grows (s s' : SseStream) : Prop where
  calls : ∃ new, s'.calls = s.calls ++ new
    ∧ s'.lastEventId = lastOf NativeCall.committed s.lastEventId new
    ∧ s'.retryMs = lastOf NativeCall.asked s.retryMs new

variable {s s' : SseStream}

theorem Grows.refl (s : SseStream) : s.Grows s where
  calls := ⟨[], (List.append_nil _).symm, rfl, rfl⟩

/-- One more call. -/
theorem Grows.call (h : s.Grows s') {s'' : SseStream} {c : NativeCall}
    (hcalls : s''.calls = s'.calls ++ [c])
    (hid : s''.lastEventId = c.committed.getD s'.lastEventId)
    (hretry : s''.retryMs = c.asked.getD s'.retryMs) : s.Grows s'' where
  calls := by
    obtain ⟨new, hnew, hnewId, hnewRetry⟩ := h.calls
    refine ⟨new ++ [c], by rw [hcalls, hnew, List.append_assoc], ?_, ?_⟩
    · rw [hid, hnewId, lastOf_concat]
    · rw [hretry, hnewRetry, lastOf_concat]

theorem Grows.setParser (h : s.Grows s') (p : SseParser) : s.Grows (s'.setParser p) where
  calls := h.calls

theorem Grows.poison (h : s.Grows s') (message : String) : s.Grows (s'.poison message) := by
  have hcalled : s.Grows (s'.call (.onError (units message) 0 s'.reconnect s'.retryMs)) :=
    h.call rfl rfl rfl
  exact hcalled.setParser _

theorem Grows.commitPending (h : s.Grows s') (p : SseParser) : s.Grows (s'.commitPending p) := by
  unfold SseStream.commitPending
  split
  · split
    · exact h
    · exact h.call rfl rfl rfl
  · exact h

theorem Grows.dispatch (h : s.Grows s') : s.Grows s'.dispatch := by
  by_cases hpoisoned : s'.parser.eventPoisoned = true
  · simp only [SseStream.dispatch, if_pos hpoisoned]
    exact h.setParser _
  by_cases hdata : s'.parser.data.length = 0
  · rw [dispatch_checkpoint s' hpoisoned hdata]
    split
    · exact (h.commitPending _).setParser _
    · exact h.setParser _
  · obtain ⟨enqueued, henqueued⟩ : ∃ enqueued, s'.answers (s'.calls.countP isMessage) = enqueued :=
      ⟨_, rfl⟩
    rw [dispatch_message s' hpoisoned hdata henqueued]
    have hoffered : s.Grows (s'.call (offer s'.parser enqueued)) := h.call rfl rfl rfl
    split
    · exact (hoffered.commitPending _).setParser _
    · exact hoffered.setParser _

theorem Grows.processField (h : s.Grows s') (line : Utf16) : s.Grows (s'.processField line) := by
  unfold SseStream.processField
  dsimp only
  split
  · exact h.dispatch
  · repeat' split
    all_goals first
      | exact h
      | exact h.poison _
      | exact h.setParser _
      | exact h.call rfl rfl rfl

theorem Grows.lineItem (h : s.Grows s') (readUtf8 : Bytes → Utf16) (item : LineItem) :
    s.Grows (s'.lineItem readUtf8 item) := by
  cases item with
  | line line => exact (h.setParser _).processField _
  | oversize => exact h.poison _

end SseStream

/-! ## §2. Where the threads go. -/

namespace SseClient

variable {s : SseClient}

/-- Where the completion of call `i` goes from here. -/
def goesTo (s : SseClient) (i : Nat) (answer : ClientAnswer) : CompletionPc → CompletionPc
  | .created => .enqueued
  | .enqueued => if answer = .ok then .onResponse else .onFailure
  | .onFailure => .failureStop
  | .failureStop =>
      if s.stopped then .ended true
      else if (s.attempts i).timedOut = some true then .disconnecting else .failureError
  | .failureError => .disconnecting
  | .onResponse => if s.firstResponseTimedOut then .lateStop else .statusTest
  | .lateStop => if s.stopped then .ended true else .disconnecting
  | .statusTest => if answer = .ok then .opening else .statusError
  | .statusError => .disconnecting
  | .opening => .bodyTest
  | .bodyTest =>
      match answer with
      | .ok => .streamTest
      | .throws => .streamThrew
      | _ => .bodyError
  | .bodyError => .disconnecting
  | .streamTest => if s.stopped then .streamEnd else streamNext answer
  | .streamCall _ => streamNext answer
  | .streamEnd => if s.stopped then .ended true else .disconnecting
  | .streamThrew => if s.stopped then .ended true else .streamError
  | .streamError => .disconnecting
  | .disconnecting => .deciding
  | .deciding => .ended s.stopped
  | .ended b => .ended b

theorem scheduleReconnectOrClose_attempts (reconnect : Bool) (s : SseClient) (d : Decider) :
    (s.scheduleReconnectOrClose reconnect d).attempts = s.attempts := by
  unfold scheduleReconnectOrClose
  split
  · rfl
  · split <;> rfl

/-- **Where a completion goes.** -/
theorem attemptStep_goesTo (reconnect : Bool) {i : Nat} (answer : ClientAnswer) {pc : CompletionPc}
    (hpc : (s.attempts i).completion = pc) :
    ((s.attemptStep reconnect i answer).attempts i).completion = s.goesTo i answer pc := by
  unfold attemptStep
  rw [hpc]
  cases pc with
  | deciding =>
      show ((scheduleReconnectOrClose reconnect _ _).attempts i).completion = _
      rw [scheduleReconnectOrClose_attempts, goAttempt_self]
      rfl
  | ended b => exact hpc
  | _ => exact congrArg SseAttempt.completion (goAttempt_self ..)

/-- Only a decision changes the starts. -/
theorem attemptStep_starters (reconnect : Bool) {i : Nat} (answer : ClientAnswer)
    (hpc : (s.attempts i).completion ≠ .deciding) :
    (s.attemptStep reconnect i answer).starters = s.starters
      ∧ (s.attemptStep reconnect i answer).starts = s.starts := by
  have hcleared : (s.clearFirstResponseState i).starters = s.starters
      ∧ (s.clearFirstResponseState i).starts = s.starts := by
    obtain ⟨j, pc, -, heq⟩ := s.cancelFirstResponseWatchdogLocked_eq
    unfold clearFirstResponseState
    rw [heq]
    exact ⟨rfl, rfl⟩
  unfold attemptStep
  cases h : (s.attempts i).completion with
  | onFailure => exact hcleared
  | onResponse => exact hcleared
  | deciding => exact absurd h hpc
  | _ => exact ⟨rfl, rfl⟩

/-- Where the `k`-th call of `start` goes from here. -/
def startGoesTo (s : SseClient) (k : Nat) (answer : ClientAnswer) : StarterPc → StarterPc
  | .scheduled => .starting
  | .starting =>
      if s.stopped then .ended
      else if answer = .throws then if k = 0 then .ended else .threw
      else .ended
  | .threw => if s.stopped then .ended else .error
  | .error => .disconnecting
  | .disconnecting => .deciding
  | .deciding => .ended
  | .dropped => .dropped
  | .ended => .ended

/-- **Where a start goes.** -/
theorem starterStep_goesTo (reconnect : Bool) {k : Nat} (hk : k < s.starts)
    (answer : ClientAnswer) {pc : StarterPc} (hpc : s.starters k = pc) :
    (s.starterStep reconnect k answer).starters k = s.startGoesTo k answer pc := by
  have hself (s : SseClient) (pc : StarterPc) : (s.goStarter k pc).starters k = pc :=
    Function.update_self ..
  unfold starterStep
  rw [hpc]
  cases pc with
  | starting =>
      show SseClient.starters (if _ then _ else _) k = (if _ then _ else _)
      split
      · exact hself ..
      · split
        · exact hself ..
        · exact hself ..
  | deciding =>
      show (scheduleReconnectOrClose reconnect _ _).starters k = _
      unfold scheduleReconnectOrClose
      split
      · exact hself ..
      · split
        · show Function.update _ s.starts _ k = _
          rw [Function.update_of_ne (by omega)]
          exact hself ..
        · exact hself ..
  | dropped => exact hpc
  | ended => exact hpc
  | _ => exact hself ..

/-- Only a decision changes how many starts there are. -/
theorem starterStep_starts (reconnect : Bool) {k : Nat} (answer : ClientAnswer)
    (hpc : s.starters k ≠ .deciding) : (s.starterStep reconnect k answer).starts = s.starts := by
  unfold starterStep
  cases h : s.starters k with
  | starting =>
      show SseClient.starts (if _ then _ else _) = _
      split
      · rfl
      · split <;> rfl
  | deciding => exact absurd h hpc
  | _ => rfl

theorem watchdogStep_starters (s : SseClient) (i : Nat) :
    (s.watchdogStep i).starters = s.starters ∧ (s.watchdogStep i).starts = s.starts := by
  unfold watchdogStep
  split
  · exact ⟨rfl, rfl⟩
  · unfold onFirstResponseTimeout
    split <;> exact ⟨rfl, rfl⟩
  all_goals exact ⟨rfl, rfl⟩

/-- `shutdownNow` drops a restart that waits. -/
theorem disconnect_starters (s : SseClient) (k : Nat) :
    s.disconnect.starters k = (if s.starters k = .scheduled then .dropped else s.starters k)
      ∧ s.disconnect.starts = s.starts := by
  obtain ⟨j, pc, -, heq⟩ :=
    ({ s with stopped := true } : SseClient).cancelFirstResponseWatchdogLocked_eq
  unfold disconnect shutdownNow
  rw [heq]
  exact ⟨rfl, rfl⟩

end SseClient

/-! ## §3. Where the client stands. -/

/-- Where a completion is, as the protocol sees it. -/
def CompletionPc.within : CompletionPc → AttemptMode → Prop
  | .bodyTest, mode => mode = .opened false
  | .bodyError, mode => mode = .opened false
  | .streamTest, mode => mode = .opened false
  | .streamCall _, mode => mode = .opened false
  | .streamEnd, mode => mode = .opened false
  | .streamThrew, mode => mode = .opened false
  | .streamError, mode => mode = .opened false
  | .disconnecting, mode => ∃ told, mode = .asked told ∨ mode = .opened told
  | .deciding, mode => ∃ told, mode = .ended told
  | _, mode => mode = .asked false

/-- What its locals hold there. -/
def CompletionPc.finds : CompletionPc → AttemptLocals → Prop
  | .onFailure, l => l.exception.comes (.asked false) = true
  | .failureStop, l => l.exception.comes (.asked false) = true
  | .failureError, l => l.exception.comes (.asked false) = true
  | .statusError, l => ¬ (200 ≤ l.code ∧ l.code < 300)
  | .opening, l => 200 ≤ l.code ∧ l.code < 300
  | .streamThrew, l => l.exception.comes (.opened false) = true
  | .streamError, l => l.exception.comes (.opened false) = true
  | .streamCall _, l => l.owed ≠ []
  | _, _ => True

/-- Where a start is, as the protocol sees it. -/
def StarterPc.within : StarterPc → AttemptMode → Prop
  | .disconnecting, mode => mode = .asked true
  | .deciding, mode => mode = .ended true
  | _, mode => mode = .between

namespace AndroidClient

/-- Id and delay are those of the client, which is ahead by the calls that a line
has still to make. -/
structure Held (s : AndroidClient) (owed : List NativeCall) (st : AttemptState Utf16) : Prop where
  resume : s.lastEventId = lastOf NativeCall.committed st.resume owed
  retry : s.retryMs = lastOf NativeCall.asked st.retryMs owed

/-- The completion of call `i` runs, and is here. -/
structure At (s : AndroidClient) (st : AttemptState Utf16) (i : Nat) (pc : CompletionPc) :
    Prop where
  last : i + 1 = s.threads.calls
  at_ : (s.threads.attempts i).completion = pc
  live : ∀ b, pc ≠ .ended b
  mode : pc.within st.mode
  finds : pc.finds (s.locals i)
  owed : (∀ r, pc ≠ .streamCall r) → (s.locals i).owed = []
  held : s.Held (s.locals i).owed st

/-- The client, as the protocol sees it. -/
inductive Stands (s : AndroidClient) (st : AttemptState Utf16) : Prop where
  | attempt (i : Nat) (pc : CompletionPc) (runs : s.At st i pc)
  /-- The `k`-th start runs, or waits. -/
  | starter (k : Nat) (pc : StarterPc) (last : k + 1 = s.threads.starts)
      (at_ : s.threads.starters k = pc) (live : pc.live = true) (mode : pc.within st.mode)
      (held : s.Held [] st)
  /-- Closed, or stopped. -/
  | gone (quiet : ∀ i < s.threads.calls, (s.threads.attempts i).inFlight = false)
      (dead : ∀ k < s.threads.starts, (s.threads.starters k).live = false)

/-- The client has kept the protocol, and stands where the protocol does. -/
structure Follows (st₀ : AttemptState Utf16) (reconnect : Bool) (s : AndroidClient)
    (st : AttemptState Utf16) : Prop where
  proper : s.threads.Proper
  kept : AttemptState.Kept (androidPolicy reconnect) st₀ s.trace st
  stands : s.Stands st
  failures : s.failedAttempts = toInt32 st.failures
  reconnect : s.reconnect = reconnect

variable {st₀ st : AttemptState Utf16} {reconnect : Bool} {s : AndroidClient}

theorem inFlight_of_ne {a : SseAttempt} (h : ∀ b, a.completion ≠ .ended b) : a.inFlight = true := by
  unfold SseAttempt.inFlight
  split
  · rename_i b hb
    exact absurd hb (h b)
  · rfl

theorem ne_of_inFlight {a : SseAttempt} (h : a.inFlight = true) (b : Bool) :
    a.completion ≠ .ended b := by
  intro hb
  unfold SseAttempt.inFlight at h
  rw [hb] at h
  cases h

/-- The client follows the protocol, and the completion of call `i` runs. -/
structure Runs (st₀ : AttemptState Utf16) (reconnect : Bool) (i : Nat) (pc : CompletionPc)
    (s : AndroidClient) (st : AttemptState Utf16) : Prop extends At s st i pc where
  proper : s.threads.Proper
  kept : AttemptState.Kept (androidPolicy reconnect) st₀ s.trace st
  failures : s.failedAttempts = toInt32 st.failures
  reconnect : s.reconnect = reconnect

/-- A completion that is not over is the one that runs. -/
theorem Follows.runs (h : s.Follows st₀ reconnect st) {i : Nat} (hi : i < s.threads.calls)
    (hf : (s.threads.attempts i).inFlight = true) :
    Runs st₀ reconnect i (s.threads.attempts i).completion s st := by
  obtain ⟨hlast, hdead⟩ := h.proper.alone i hi hf
  cases h.stands with
  | attempt j pc runs =>
      have hj := runs.last
      obtain rfl : j = i := by omega
      rw [runs.at_]
      exact ⟨runs, h.proper, h.kept, h.failures, h.reconnect⟩
  | starter k pc last at_ live mode held =>
      -- a call and a start are never in flight together
      have hnot := hdead k (by omega)
      rw [at_, live] at hnot
      cases hnot
  | gone quiet dead =>
      have hnot := quiet i hi
      rw [hf] at hnot
      cases hnot

namespace Runs

variable {i : Nat} {pc : CompletionPc} {s' : AndroidClient} {st' : AttemptState Utf16}
  {answer : ClientAnswer}

theorem inFlight (h : Runs st₀ reconnect i pc s st) : (s.threads.attempts i).inFlight = true :=
  inFlight_of_ne (by rw [h.at_]; exact h.live)

theorem lt (h : Runs st₀ reconnect i pc s st) : i < s.threads.calls := by
  have hlast := h.last
  omega

theorem proper' (h : Runs st₀ reconnect i pc s st)
    (hthreads : s'.threads = s.threads.attemptStep s.reconnect i answer) :
    s'.threads.Proper := by
  rw [hthreads]
  exact h.proper.attemptStep _ h.lt h.inFlight answer

/-- It goes on. -/
theorem goes (h : Runs st₀ reconnect i pc s st)
    (hthreads : s'.threads = s.threads.attemptStep s.reconnect i answer)
    (hreconnect : s'.reconnect = s.reconnect)
    (hkept : AttemptState.Kept (androidPolicy reconnect) st₀ s'.trace st')
    (hfailures : s'.failedAttempts = toInt32 st'.failures) {pc' : CompletionPc}
    (hgoes : s.threads.goesTo i answer pc = pc') (hlive : ∀ b, pc' ≠ .ended b)
    (hmode : pc'.within st'.mode) (hfinds : pc'.finds (s'.locals i))
    (howed : (∀ r, pc' ≠ .streamCall r) → (s'.locals i).owed = [])
    (hheld : s'.Held (s'.locals i).owed st') : s'.Follows st₀ reconnect st' := by
  refine ⟨h.proper' hthreads, hkept, ?_, hfailures, hreconnect.trans h.reconnect⟩
  refine .attempt i pc' ⟨?_, ?_, hlive, hmode, hfinds, howed, hheld⟩
  · rw [hthreads, (SseClient.attemptStep_stopped ..).2]
    exact h.last
  · rw [hthreads, SseClient.attemptStep_goesTo _ _ h.at_]
    exact hgoes

/-- It goes on, and nothing was said. -/
theorem quietly (h : Runs st₀ reconnect i pc s st) (hpc : ∀ r, pc ≠ .streamCall r)
    (hthreads : s'.threads = s.threads.attemptStep s.reconnect i answer)
    (hsame : s'.trace = s.trace ∧ s'.failedAttempts = s.failedAttempts
      ∧ s'.reconnect = s.reconnect ∧ s'.lastEventId = s.lastEventId ∧ s'.retryMs = s.retryMs)
    (howed : (s'.locals i).owed = (s.locals i).owed) {pc' : CompletionPc}
    (hgoes : s.threads.goesTo i answer pc = pc') (hlive : ∀ b, pc' ≠ .ended b)
    (hmode : pc'.within st.mode) (hfinds : pc'.finds (s'.locals i)) :
    s'.Follows st₀ reconnect st := by
  obtain ⟨htrace, hfailed, hreconnect, hid, hretry⟩ := hsame
  refine h.goes hthreads hreconnect ?_ ?_ hgoes hlive hmode hfinds ?_ ?_
  · rw [htrace]
    exact h.kept
  · rw [hfailed]
    exact h.failures
  · intro _
    rw [howed]
    exact h.owed hpc
  · rw [howed]
    exact ⟨hid.trans h.held.resume, hretry.trans h.held.retry⟩

/-- It ends, and nobody runs behind it. -/
theorem ends (h : Runs st₀ reconnect i pc s st)
    (hthreads : s'.threads = s.threads.attemptStep s.reconnect i answer)
    (hreconnect : s'.reconnect = s.reconnect)
    (hkept : AttemptState.Kept (androidPolicy reconnect) st₀ s'.trace st')
    (hfailures : s'.failedAttempts = toInt32 st'.failures) {b : Bool}
    (hgoes : s.threads.goesTo i answer pc = .ended b)
    (hstarters : s'.threads.starters = s.threads.starters)
    (hstarts : s'.threads.starts = s.threads.starts) : s'.Follows st₀ reconnect st' := by
  have hproper := h.proper' hthreads
  refine ⟨hproper, hkept, .gone ?_ ?_, hfailures, hreconnect.trans h.reconnect⟩
  · intro j hj
    cases hf : (s'.threads.attempts j).inFlight with
    | false => rfl
    | true =>
        -- the last call is this one, and it has ended
        have hlast := (hproper.alone j hj hf).1
        rw [hthreads, (SseClient.attemptStep_stopped ..).2, ← h.last] at hlast
        obtain rfl : j = i := by omega
        have hended : (s'.threads.attempts j).completion = .ended b := by
          rw [hthreads, SseClient.attemptStep_goesTo _ _ h.at_]
          exact hgoes
        exact absurd hended (ne_of_inFlight hf b)
  · intro k hk
    rw [hstarters]
    rw [hstarts] at hk
    exact (h.proper.alone i h.lt h.inFlight).2 k hk

/-- It has read `stopped` as true. -/
theorem stops (h : Runs st₀ reconnect i pc s st) (hpc : pc ≠ .deciding)
    (hgoes : s.threads.goesTo i answer pc = .ended true) :
    (s.go i answer).Follows st₀ reconnect st := by
  obtain ⟨hstarters, hstarts⟩ := SseClient.attemptStep_starters s.reconnect (s := s.threads)
    answer (by rw [h.at_]; exact hpc)
  exact h.ends rfl rfl h.kept h.failures hgoes hstarters hstarts

end Runs

/-! ## §4. The steps of a completion. -/

/-- What the client reports about reconnecting is so. -/
theorem errs_of_comes (hreconnect : s.reconnect = reconnect) {mode : AttemptMode}
    {kind : AndroidErrorKind} (hkind : kind.comes mode = true) (status : Int) :
    (androidPolicy reconnect).errs mode ⟨kind, status, s.reconnect, s.retryMs⟩ = true := by
  show ((s.reconnect == reconnect) && kind.comes mode) = true
  rw [hreconnect, beq_self_eq_true, hkind]
  rfl

theorem scheduleReconnectOrClose_restarts (random : Nat → Fin 401)
    (hstopped : s.threads.stopped = false) (hreconnect : s.reconnect = true) :
    s.scheduleReconnectOrClose random
      = { s with
          failedAttempts := toInt32 (s.failedAttempts + 1)
          draws := s.draws + 1 }.emit
        (.retry (computeRetryDelayMsLocked s.retryMs (toInt32 (s.failedAttempts + 1))
          (random s.draws))) := by
  unfold AndroidClient.scheduleReconnectOrClose
  rw [if_neg (by rw [hstopped]; exact Bool.false_ne_true), if_pos hreconnect]

theorem scheduleReconnectOrClose_closes (random : Nat → Fin 401)
    (hstopped : s.threads.stopped = false) (hreconnect : s.reconnect = false) :
    s.scheduleReconnectOrClose random = s.emit .closed := by
  unfold AndroidClient.scheduleReconnectOrClose
  rw [if_neg (by rw [hstopped]; exact Bool.false_ne_true),
    if_neg (by rw [hreconnect]; exact Bool.false_ne_true)]

/-- The delay of a restart is one of the policy. -/
theorem Held.retries (hheld : s.Held [] st)
    (hkept : AttemptState.Kept (androidPolicy true) st₀ s.trace st) {told : Bool}
    (hmode : st.mode = .ended told) (hfailures : s.failedAttempts = toInt32 st.failures)
    (random : Fin 401) :
    AttemptState.Kept (androidPolicy true) st₀
      (s.trace ++ [.retry
        (computeRetryDelayMsLocked s.retryMs (toInt32 (s.failedAttempts + 1)) random)])
      { st with mode := .between, failures := st.failures + 1 } := by
  apply hkept.step
  have hdelay := androidPolicy_delays true s.retryMs (st.failures + 1) random
  have hretry : s.retryMs = st.retryMs := hheld.retry
  rw [hretry] at hdelay ⊢
  rw [toInt32_succ hfailures]
  unfold AttemptState.next
  rw [hmode]
  exact if_pos ⟨rfl, hdelay⟩

/-- A client that does not reconnect closes. -/
theorem kept_closed (hkept : AttemptState.Kept (androidPolicy false) st₀ s.trace st) {told : Bool}
    (hmode : st.mode = .ended told) :
    AttemptState.Kept (androidPolicy false) st₀ (s.trace ++ [.closed])
      { st with mode := .closed } := by
  apply hkept.step
  unfold AttemptState.next
  rw [hmode]
  rfl

namespace Runs

variable {i : Nat} {pc : CompletionPc}

/-- Between two lines no call is owed. -/
theorem rests (h : Runs st₀ reconnect i pc s st) (hpc : ∀ r, pc ≠ .streamCall r) :
    s.Held [] st := by
  have hheld := h.held
  rw [h.owed hpc] at hheld
  exact hheld

/-- An error, and the stream is over. -/
theorem reports (h : Runs st₀ reconnect i pc s st) (hpc : ∀ r, pc ≠ .streamCall r)
    (hgoes : s.threads.goesTo i .ok pc = .disconnecting) (hmode : st.mode = .asked false ∨
      st.mode = .opened false) {kind : AndroidErrorKind} (hkind : kind.comes st.mode = true)
    (status : Int) : ∃ st', ((s.report kind status).go i .ok).Follows st₀ reconnect st' := by
  have herr := errs_of_comes h.reconnect hkind status
  have howed := h.owed hpc
  rcases hmode with hmode | hmode
  · rw [hmode] at herr
    refine ⟨{ st with mode := .asked true }, h.goes rfl rfl (h.kept.error_asked hmode herr)
      h.failures hgoes (fun b hb => by cases hb) ⟨true, .inl rfl⟩ trivial (fun _ => howed) ?_⟩
    exact ⟨h.held.resume, h.held.retry⟩
  · rw [hmode] at herr
    refine ⟨{ st with mode := .opened true }, h.goes rfl rfl (h.kept.error_opened hmode herr)
      h.failures hgoes (fun b hb => by cases hb) ⟨true, .inr rfl⟩ trivial (fun _ => howed) ?_⟩
    exact ⟨h.held.resume, h.held.retry⟩

/-- `nativeOnDisconnected`. -/
theorem disconnects (h : Runs st₀ reconnect i .disconnecting s st) :
    ∃ st', ((s.emit .disconnected).go i .ok).Follows st₀ reconnect st' := by
  have howed := h.owed (fun r hr => by cases hr)
  obtain ⟨told, hmode⟩ := h.mode
  have hkept : AttemptState.Kept (androidPolicy reconnect) st₀ (s.trace ++ [.disconnected])
      { st with mode := .ended told } := by
    apply h.kept.step
    unfold AttemptState.next
    rcases hmode with hmode | hmode
    · rw [hmode]
    · rw [hmode]
  exact ⟨{ st with mode := .ended told }, h.goes rfl rfl hkept h.failures rfl
    (fun b hb => by cases hb) ⟨told, rfl⟩ trivial (fun _ => howed) ⟨h.held.resume, h.held.retry⟩⟩

/-- The synchronized block of `scheduleReconnectOrClose`. -/
theorem decides (h : Runs st₀ reconnect i .deciding s st) (random : Nat → Fin 401) :
    ∃ st', ((s.scheduleReconnectOrClose random).go i .ok).Follows st₀ reconnect st' := by
  have hheld := h.rests (fun r hr => by cases hr)
  obtain ⟨told, hmode⟩ := h.mode
  have hgoes : s.threads.goesTo i .ok .deciding = .ended s.threads.stopped := rfl
  have hstep : s.threads.attemptStep s.reconnect i .ok
      = (s.threads.goAttempt i (.ended s.threads.stopped)).scheduleReconnectOrClose s.reconnect
        (.attempt i) := by
    unfold SseClient.attemptStep
    rw [h.at_]
  cases hstopped : s.threads.stopped with
  | true =>
      rw [hstopped] at hgoes hstep
      have hsame : s.scheduleReconnectOrClose random = s := if_pos hstopped
      have hthreads : s.threads.attemptStep s.reconnect i .ok
          = s.threads.goAttempt i (.ended true) := hstep.trans (if_pos hstopped)
      -- it has read `stopped`: nothing is said, and no start is added
      rw [hsame]
      refine ⟨st, h.ends rfl rfl h.kept h.failures hgoes ?_ ?_⟩
      · show (s.threads.attemptStep s.reconnect i .ok).starters = _
        rw [hthreads]
        rfl
      · show (s.threads.attemptStep s.reconnect i .ok).starts = _
        rw [hthreads]
        rfl
  | false =>
      rw [hstopped] at hgoes hstep
      have hnot : ¬ s.threads.stopped = true := by
        rw [hstopped]
        exact Bool.false_ne_true
      have hreconnect := h.reconnect
      cases reconnect with
      | false =>
          have hthreads : s.threads.attemptStep s.reconnect i .ok
              = (s.threads.goAttempt i (.ended false)).emit (.closed (.attempt i)) := by
            rw [hstep, hreconnect]
            exact if_neg hnot
          rw [scheduleReconnectOrClose_closes random hstopped hreconnect]
          refine ⟨{ st with mode := .closed }, h.ends rfl rfl (kept_closed h.kept hmode) h.failures
            hgoes ?_ ?_⟩
          · show (s.threads.attemptStep s.reconnect i .ok).starters = _
            rw [hthreads]
            rfl
          · show (s.threads.attemptStep s.reconnect i .ok).starts = _
            rw [hthreads]
            rfl
      | true =>
          have hthreads : s.threads.attemptStep s.reconnect i .ok
              = (s.threads.goAttempt i (.ended false)).scheduleStart.emit
                (.restart (.attempt i)) := by
            rw [hstep, hreconnect]
            exact (if_neg hnot).trans (if_pos rfl)
          rw [scheduleReconnectOrClose_restarts random hstopped hreconnect]
          refine ⟨{ st with mode := .between, failures := st.failures + 1 }, h.proper' rfl,
            hheld.retries h.kept hmode h.failures (random s.draws), ?_,
            toInt32_succ h.failures, hreconnect⟩
          -- the start that was scheduled takes over
          refine .starter s.threads.starts .scheduled ?_ ?_ rfl rfl ⟨hheld.resume, hheld.retry⟩
          · exact (congrArg SseClient.starts hthreads).symm
          · show (s.threads.attemptStep s.reconnect i .ok).starters s.threads.starts = _
            rw [hthreads]
            exact Function.update_self ..

theorem quiet (h : Runs st₀ reconnect i pc s st) (hpc : ∀ r, pc ≠ .streamCall r)
    {answer : ClientAnswer} {pc' : CompletionPc} (hgoes : s.threads.goesTo i answer pc = pc')
    (hlive : ∀ b, pc' ≠ .ended b) (hmode : pc'.within st.mode) (hfinds : pc'.finds (s.locals i)) :
    ∃ st', (s.go i answer).Follows st₀ reconnect st' :=
  ⟨st, h.quietly hpc rfl ⟨rfl, rfl, rfl, rfl, rfl⟩ rfl hgoes hlive hmode hfinds⟩

/-- It notes something down, and goes on. -/
theorem notes (h : Runs st₀ reconnect i pc s st) (hpc : ∀ r, pc ≠ .streamCall r)
    (l : AttemptLocals) (howed : l.owed = (s.locals i).owed) {answer : ClientAnswer}
    {pc' : CompletionPc} (hgoes : s.threads.goesTo i answer pc = pc') (hlive : ∀ b, pc' ≠ .ended b)
    (hmode : pc'.within st.mode) (hfinds : pc'.finds l) :
    ((s.setLocals i l).go i answer).Follows st₀ reconnect st := by
  have hself : ((s.setLocals i l).go i answer).locals i = l := Function.update_self ..
  refine h.quietly hpc rfl ⟨rfl, rfl, rfl, rfl, rfl⟩ ?_ hgoes hlive hmode ?_
  · rw [hself]
    exact howed
  · rw [hself]
    exact hfinds

/-- `onResponse`, or `onFailure`. -/
theorem answered (h : Runs st₀ reconnect i .enqueued s st) {answer : AndroidAnswer}
    (hans : s.answered i answer = true) (readUtf8 : Bytes → Utf16) (random : Nat → Fin 401) :
    (s.attemptStep readUtf8 random i answer).Follows st₀ reconnect st := by
  have hpc : ∀ r, CompletionPc.enqueued ≠ .streamCall r := fun r hr => by cases hr
  unfold AndroidClient.attemptStep
  dsimp only
  rw [h.at_]
  unfold AndroidClient.answered at hans
  rw [h.at_] at hans
  cases answer with
  | response code =>
      exact h.notes hpc { s.locals i with code := code } rfl rfl (fun b hb => by cases hb)
        h.mode trivial
  | failure message =>
      exact h.notes hpc { s.locals i with exception := .requestFailed message } rfl rfl
        (fun b hb => by cases hb) h.mode rfl
  | _ => cases hans

/-- A catch clause. -/
theorem catches (h : Runs st₀ reconnect i pc s st) (hpc : ∀ r, pc ≠ .streamCall r)
    (hgoes : s.threads.goesTo i .throws pc = .streamThrew) (hmode : st.mode = .opened false)
    {kind : AndroidErrorKind} (hkind : kind.comes (.opened false) = true) :
    (s.catch_ i kind).Follows st₀ reconnect st :=
  h.notes hpc { s.locals i with exception := kind } rfl hgoes (fun b hb => by cases hb) hmode hkind

/-- `nativeOnOpen`. -/
theorem opens (h : Runs st₀ reconnect i .opening s st) :
    ∃ st', ({ s.emit (.opened (s.locals i).code) with failedAttempts := 0 }.go i .ok).Follows st₀
      reconnect st' := by
  have howed := h.owed (fun r hr => by cases hr)
  have hgood : (androidPolicy reconnect).accepts (s.locals i).code = true := by
    obtain ⟨hlo, hhi⟩ := h.finds
    show (200 ≤ (s.locals i).code && (s.locals i).code < 300) = true
    rw [decide_eq_true hlo, decide_eq_true hhi]
    rfl
  have hkept : AttemptState.Kept (androidPolicy reconnect) st₀
      (s.trace ++ [.opened (s.locals i).code])
      { st with mode := .opened false, failures := 0 } :=
    h.kept.step (if_pos ⟨h.mode, hgood⟩)
  exact ⟨_, h.goes rfl rfl hkept toInt32_zero.symm rfl (fun b hb => by cases hb) rfl trivial (fun _ => howed)
    ⟨h.held.resume, h.held.retry⟩⟩

/-- The native calls of a line, one by one. -/
theorem streamNext_cons (c : NativeCall) (owed : List NativeCall) :
    ∃ r, SseClient.streamNext (nextCall (c :: owed)) = .streamCall r := by
  cases c with
  | onMessage event data id enqueued => exact ⟨.message, rfl⟩
  | onError error status reconnect retryMs => exact ⟨.line, rfl⟩
  | onRetry retryMs => exact ⟨.line, rfl⟩
  | onLastEventId id => exact ⟨.line, rfl⟩

/-- Behind a line, or a native call of it: the next call is made, or the next
line is read. -/
theorem continues (h : Runs st₀ reconnect i pc s st) {s' : AndroidClient}
    {st' : AttemptState Utf16}
    (hthreads : s'.threads = s.threads.attemptStep s.reconnect i (nextCall (s'.locals i).owed))
    (hreconnect : s'.reconnect = s.reconnect)
    (hkept : AttemptState.Kept (androidPolicy reconnect) st₀ s'.trace st')
    (hfailures : s'.failedAttempts = toInt32 st'.failures)
    (hgoes : s.threads.goesTo i (nextCall (s'.locals i).owed) pc
      = SseClient.streamNext (nextCall (s'.locals i).owed))
    (hmode : st'.mode = .opened false) (hheld : s'.Held (s'.locals i).owed st') :
    s'.Follows st₀ reconnect st' := by
  cases howed : (s'.locals i).owed with
  | nil =>
      rw [howed] at hgoes hthreads
      exact h.goes hthreads hreconnect hkept hfailures hgoes (fun b hb => by cases hb) hmode trivial
        (fun _ => howed) hheld
  | cons c owed =>
      obtain ⟨r, hr⟩ := streamNext_cons c owed
      rw [howed, hr] at hgoes
      rw [howed] at hthreads
      refine h.goes hthreads hreconnect hkept hfailures hgoes (fun b hb => by cases hb) hmode ?_
        (fun hr => absurd rfl (hr r)) hheld
      show (s'.locals i).owed ≠ []
      rw [howed]
      exact List.cons_ne_nil c owed

/-- A line. -/
theorem takes (h : Runs st₀ reconnect i .streamTest s st) (hstopped : s.threads.stopped = false)
    (readUtf8 : Bytes → Utf16) (item : LineItem) :
    ((s.takeItem readUtf8 i item).go i
      (nextCall ((s.takeItem readUtf8 i item).locals i).owed)).Follows st₀ reconnect st := by
  obtain ⟨new, hnew, hid, hretry⟩ :=
    ((SseStream.Grows.refl (s.stream i)).lineItem readUtf8 item).calls
  have hrests := h.rests (fun r hr => by cases hr)
  have howed : ((s.takeItem readUtf8 i item).locals i).owed = new := by
    have hself : (s.takeItem readUtf8 i item).locals i
        = { s.locals i with
          parser := ((s.stream i).lineItem readUtf8 item).parser
          owed := ((s.stream i).lineItem readUtf8 item).calls.drop s.calls.length } :=
      Function.update_self ..
    rw [hself, hnew]
    exact List.drop_left
  refine h.continues rfl rfl h.kept h.failures ?_ h.mode ?_
  · exact if_neg (by rw [hstopped]; exact Bool.false_ne_true)
  · -- id and delay are ahead of what the native side was told, by the calls owed
    show Held _ ((s.takeItem readUtf8 i item).locals i).owed st
    rw [howed]
    refine ⟨hid.trans ?_, hretry.trans ?_⟩
    · exact congrArg (lastOf _ · new) hrests.resume
    · exact congrArg (lastOf _ · new) hrests.retry

/-- A native call of a line. -/
theorem calls {r : AttemptReport} (h : Runs st₀ reconnect i (.streamCall r) s st) {c : NativeCall}
    {owed : List NativeCall} (howed : (s.locals i).owed = c :: owed) :
    ∃ st', (((s.emit (.line c)).setLocals i { s.locals i with owed := owed }).go i
      (nextCall owed)).Follows st₀ reconnect st' := by
  have hkept : AttemptState.Kept (androidPolicy reconnect) st₀ (s.trace ++ [.line c])
      { st with
        resume := c.committed.getD st.resume
        retryMs := c.asked.getD st.retryMs } := h.kept.step (if_pos h.mode)
  have hself : (((s.emit (.line c)).setLocals i { s.locals i with owed := owed }).go i
      (nextCall owed)).locals i = { s.locals i with owed := owed } := Function.update_self ..
  have howed' : ((((s.emit (.line c)).setLocals i { s.locals i with owed := owed }).go i
      (nextCall owed)).locals i).owed = owed := congrArg AttemptLocals.owed hself
  have hheld := h.held
  rw [howed] at hheld
  refine ⟨_, h.continues (by rw [howed']; rfl) rfl hkept h.failures rfl h.mode ?_⟩
  rw [howed']
  refine ⟨hheld.resume.trans ?_, hheld.retry.trans ?_⟩
  · rw [lastOf_cons]
  · rw [lastOf_cons]

end Runs

/-- **One step of a completion.** -/
theorem Follows.attempt (h : s.Follows st₀ reconnect st) {i : Nat} {answer : AndroidAnswer}
    (hen : s.enabled (.attempt i answer) = true) (readUtf8 : Bytes → Utf16)
    (random : Nat → Fin 401) :
    ∃ st', (s.attemptStep readUtf8 random i answer).Follows st₀ reconnect st' := by
  obtain ⟨hthreads, hans⟩ := Bool.and_eq_true_iff.mp hen
  obtain ⟨hi, hf⟩ := Bool.and_eq_true_iff.mp hthreads
  have hruns := h.runs (of_decide_eq_true hi) hf
  unfold AndroidClient.answered at hans
  unfold AndroidClient.attemptStep
  dsimp only
  cases hpc : (s.threads.attempts i).completion with
  | created =>
      rw [hpc] at hruns
      exact hruns.quiet (fun r hr => by cases hr) rfl (fun b hb => by cases hb) hruns.mode
        trivial
  | enqueued =>
      have hstep := hruns
      rw [hpc] at hstep
      have hfollows := hstep.answered (Bool.and_eq_true_iff.mp hen).2 readUtf8 random
      unfold AndroidClient.attemptStep at hfollows
      rw [hpc] at hfollows
      exact ⟨st, hfollows⟩
  | onFailure =>
      rw [hpc] at hruns
      exact hruns.quiet (fun r hr => by cases hr) rfl (fun b hb => by cases hb) hruns.mode
        hruns.finds
  | failureStop =>
      rw [hpc] at hruns
      by_cases hstopped : s.threads.stopped = true
      · exact ⟨st, hruns.stops (fun hr => by cases hr) (if_pos hstopped)⟩
      · by_cases htimed : (s.threads.attempts i).timedOut = some true
        · exact hruns.quiet (fun r hr => by cases hr) ((if_neg hstopped).trans (if_pos htimed))
            (fun b hb => by cases hb) ⟨false, .inl hruns.mode⟩ trivial
        · exact hruns.quiet (fun r hr => by cases hr) ((if_neg hstopped).trans (if_neg htimed))
            (fun b hb => by cases hb) hruns.mode hruns.finds
  | failureError =>
      rw [hpc] at hruns
      exact hruns.reports (fun r hr => by cases hr) rfl (.inl hruns.mode)
        (by rw [show st.mode = .asked false from hruns.mode]; exact hruns.finds) 0
  | onResponse =>
      -- a response that comes after the timeout is not looked at
      rw [hpc] at hruns
      by_cases htimed : s.threads.firstResponseTimedOut = true
      · exact hruns.quiet (fun r hr => by cases hr) (if_pos htimed)
          (fun b hb => by cases hb) hruns.mode trivial
      · exact hruns.quiet (fun r hr => by cases hr) (if_neg htimed)
          (fun b hb => by cases hb) hruns.mode trivial
  | lateStop =>
      rw [hpc] at hruns
      by_cases hstopped : s.threads.stopped = true
      · exact ⟨st, hruns.stops (fun hr => by cases hr) (if_pos hstopped)⟩
      · exact hruns.quiet (fun r hr => by cases hr) (if_neg hstopped)
          (fun b hb => by cases hb) ⟨false, .inl hruns.mode⟩ trivial
  | statusTest =>
      rw [hpc] at hruns
      dsimp only
      by_cases hstatus : 200 ≤ (s.locals i).code ∧ (s.locals i).code < 300
      · have hgoes : s.threads.goesTo i .ok .statusTest = .opening := rfl
        rw [if_pos hstatus]
        exact hruns.quiet (fun r hr => by cases hr) hgoes (fun b hb => by cases hb) hruns.mode
          hstatus
      · have hgoes : s.threads.goesTo i .fails .statusTest = .statusError := rfl
        rw [if_neg hstatus]
        exact hruns.quiet (fun r hr => by cases hr) hgoes (fun b hb => by cases hb) hruns.mode
          hstatus
  | statusError =>
      rw [hpc] at hruns
      refine hruns.reports (fun r hr => by cases hr) rfl (.inl hruns.mode) ?_ _
      rw [show st.mode = .asked false from hruns.mode]
      have hstatus : ¬ (200 ≤ (s.locals i).code ∧ (s.locals i).code < 300) := hruns.finds
      show (!(decide (200 ≤ (s.locals i).code) && decide ((s.locals i).code < 300))) = true
      rw [Bool.not_eq_true', Bool.and_eq_false_iff, decide_eq_false_iff_not,
        decide_eq_false_iff_not]
      omega
  | opening =>
      rw [hpc] at hruns
      exact hruns.opens
  | bodyTest =>
      rw [hpc] at hruns hans
      cases answer with
      | body there =>
          cases there with
          | true =>
              exact ⟨st, hruns.notes (fun r hr => by cases hr) { s.locals i with parser := {} } rfl
                rfl (fun b hb => by cases hb) hruns.mode trivial⟩
          | false =>
              exact ⟨st, hruns.notes (fun r hr => by cases hr) { s.locals i with parser := {} } rfl
                rfl (fun b hb => by cases hb) hruns.mode trivial⟩
      | thrown message className =>
          exact ⟨st, hruns.catches (fun r hr => by cases hr) rfl hruns.mode rfl⟩
      | _ => cases hans
  | bodyError =>
      rw [hpc] at hruns
      refine hruns.reports (fun r hr => by cases hr) rfl (.inr hruns.mode) ?_ _
      rw [show st.mode = .opened false from hruns.mode]
      rfl
  | streamTest =>
      rw [hpc] at hruns hans
      by_cases hstopped : s.threads.stopped = true
      · dsimp only
        rw [if_pos hstopped]
        exact hruns.quiet (fun r hr => by cases hr) (if_pos hstopped) (fun b hb => by cases hb)
          hruns.mode trivial
      · dsimp only
        rw [if_neg hstopped]
        cases answer with
        | item item => exact ⟨st, hruns.takes (by simpa using hstopped) readUtf8 item⟩
        | endOfStream =>
            exact hruns.quiet (fun r hr => by cases hr) (if_neg hstopped) (fun b hb => by cases hb)
              hruns.mode trivial
        | ioError message =>
            exact ⟨st, hruns.catches (fun r hr => by cases hr) (if_neg hstopped) hruns.mode rfl⟩
        | thrown message className =>
            exact ⟨st, hruns.catches (fun r hr => by cases hr) (if_neg hstopped) hruns.mode rfl⟩
        | none => exact absurd hans hstopped
        | _ => cases hans
  | streamCall report =>
      rw [hpc] at hruns
      cases howed : (s.locals i).owed with
      | nil => exact absurd howed hruns.finds
      | cons c owed => exact hruns.calls howed
  | streamEnd =>
      rw [hpc] at hruns
      by_cases hstopped : s.threads.stopped = true
      · exact ⟨st, hruns.stops (fun hr => by cases hr) (if_pos hstopped)⟩
      · exact hruns.quiet (fun r hr => by cases hr) (if_neg hstopped)
          (fun b hb => by cases hb) ⟨false, .inr hruns.mode⟩ trivial
  | streamThrew =>
      rw [hpc] at hruns
      by_cases hstopped : s.threads.stopped = true
      · exact ⟨st, hruns.stops (fun hr => by cases hr) (if_pos hstopped)⟩
      · exact hruns.quiet (fun r hr => by cases hr) (if_neg hstopped)
          (fun b hb => by cases hb) hruns.mode hruns.finds
  | streamError =>
      rw [hpc] at hruns
      exact hruns.reports (fun r hr => by cases hr) rfl (.inr hruns.mode)
        (by rw [show st.mode = .opened false from hruns.mode]; exact hruns.finds) _
  | disconnecting =>
      rw [hpc] at hruns
      exact hruns.disconnects
  | deciding =>
      rw [hpc] at hruns
      exact hruns.decides random
  | ended b =>
      rw [hpc] at hruns
      exact absurd rfl (hruns.live b)

/-! ## §5. The steps of a start, of a watchdog, and `disconnect`. -/

/-- The client follows the protocol, and the `k`-th start runs, or waits. -/
structure Starts (st₀ : AttemptState Utf16) (reconnect : Bool) (k : Nat) (pc : StarterPc)
    (s : AndroidClient) (st : AttemptState Utf16) : Prop where
  proper : s.threads.Proper
  kept : AttemptState.Kept (androidPolicy reconnect) st₀ s.trace st
  failures : s.failedAttempts = toInt32 st.failures
  reconnect : s.reconnect = reconnect
  last : k + 1 = s.threads.starts
  at_ : s.threads.starters k = pc
  live : pc.live = true
  mode : pc.within st.mode
  held : s.Held [] st

/-- A start that is live is the one that runs. -/
theorem Follows.starts (h : s.Follows st₀ reconnect st) {k : Nat} (hk : k < s.threads.starts)
    (hlive : (s.threads.starters k).live = true) :
    Starts st₀ reconnect k (s.threads.starters k) s st := by
  have hlast := h.proper.lastStart k hk hlive
  cases h.stands with
  | attempt i pc runs =>
      have hi : i < s.threads.calls := by
        have hlast := runs.last
        omega
      have hflies := inFlight_of_ne (by rw [runs.at_]; exact runs.live)
      have hdead := (h.proper.alone i hi hflies).2 k hk
      rw [hlive] at hdead
      cases hdead
  | starter j pc last at_ live mode held =>
      obtain rfl : j = k := by omega
      rw [at_]
      exact ⟨h.proper, h.kept, h.failures, h.reconnect, last, at_, live, mode, held⟩
  | gone quiet dead =>
      have hnot := dead k hk
      rw [hlive] at hnot
      cases hnot

namespace Starts

variable {k : Nat} {pc : StarterPc} {s' : AndroidClient} {st' : AttemptState Utf16}
  {answer : ClientAnswer}

theorem lt (h : Starts st₀ reconnect k pc s st) : k < s.threads.starts := by
  have hlast := h.last
  omega

theorem proper' (h : Starts st₀ reconnect k pc s st)
    (hthreads : s'.threads = s.threads.starterStep s.reconnect k answer) : s'.threads.Proper := by
  rw [hthreads]
  exact h.proper.starterStep _ h.lt answer

/-- No completion runs beside it. -/
theorem quiet (h : Starts st₀ reconnect k pc s st) {i : Nat} (hi : i < s.threads.calls) :
    (s.threads.attempts i).inFlight = false := by
  cases hf : (s.threads.attempts i).inFlight with
  | false => rfl
  | true =>
      have hdead := (h.proper.alone i hi hf).2 k h.lt
      rw [h.at_, h.live] at hdead
      cases hdead

/-- It goes on. -/
theorem goes (h : Starts st₀ reconnect k pc s st) (hpc : pc ≠ .deciding)
    (hthreads : s'.threads = s.threads.starterStep s.reconnect k answer)
    (hreconnect : s'.reconnect = s.reconnect)
    (hkept : AttemptState.Kept (androidPolicy reconnect) st₀ s'.trace st')
    (hfailures : s'.failedAttempts = toInt32 st'.failures) {pc' : StarterPc}
    (hgoes : s.threads.startGoesTo k answer pc = pc') (hlive : pc'.live = true)
    (hmode : pc'.within st'.mode) (hheld : s'.Held [] st') : s'.Follows st₀ reconnect st' := by
  refine ⟨h.proper' hthreads, hkept, ?_, hfailures, hreconnect.trans h.reconnect⟩
  refine .starter k pc' ?_ ?_ hlive hmode hheld
  · rw [hthreads, SseClient.starterStep_starts _ _ (by rw [h.at_]; exact hpc)]
    exact h.last
  · rw [hthreads, SseClient.starterStep_goesTo _ h.lt _ h.at_]
    exact hgoes

/-- It ends without a call, and nobody runs behind it. -/
theorem ends (h : Starts st₀ reconnect k pc s st)
    (hthreads : s'.threads = s.threads.starterStep s.reconnect k answer)
    (hreconnect : s'.reconnect = s.reconnect)
    (hkept : AttemptState.Kept (androidPolicy reconnect) st₀ s'.trace st')
    (hfailures : s'.failedAttempts = toInt32 st'.failures)
    (hgoes : s.threads.startGoesTo k answer pc = .ended)
    (hattempts : s'.threads.attempts = s.threads.attempts)
    (hcalls : s'.threads.calls = s.threads.calls)
    (hstarts : s'.threads.starts = s.threads.starts) : s'.Follows st₀ reconnect st' := by
  have hproper := h.proper' hthreads
  refine ⟨hproper, hkept, .gone ?_ ?_, hfailures, hreconnect.trans h.reconnect⟩
  · intro i hi
    rw [hattempts]
    exact h.quiet (by rw [← hcalls]; exact hi)
  · intro j hj
    cases hlive : (s'.threads.starters j).live with
    | false => rfl
    | true =>
        -- the last start is this one, and it has ended
        have hlast := hproper.lastStart j hj hlive
        rw [hstarts, ← h.last] at hlast
        obtain rfl : j = k := by omega
        rw [hthreads, SseClient.starterStep_goesTo _ h.lt _ h.at_, hgoes] at hlive
        cases hlive

/-- It goes on, and nothing was said. -/
theorem quietly (h : Starts st₀ reconnect k pc s st) (hpc : pc ≠ .deciding) {pc' : StarterPc}
    (hthreads : s'.threads = s.threads.starterStep s.reconnect k answer)
    (hsame : s'.trace = s.trace ∧ s'.failedAttempts = s.failedAttempts
      ∧ s'.reconnect = s.reconnect ∧ s'.lastEventId = s.lastEventId ∧ s'.retryMs = s.retryMs)
    (hgoes : s.threads.startGoesTo k answer pc = pc') (hlive : pc'.live = true)
    (hmode : pc'.within st.mode) : s'.Follows st₀ reconnect st := by
  obtain ⟨htrace, hfailed, hreconnect, hid, hretry⟩ := hsame
  refine h.goes hpc hthreads hreconnect ?_ ?_ hgoes hlive hmode ?_
  · rw [htrace]
    exact h.kept
  · rw [hfailed]
    exact h.failures
  · exact ⟨hid.trans h.held.resume, hretry.trans h.held.retry⟩

/-- It ends, and nothing was said. -/
theorem leaves (h : Starts st₀ reconnect k pc s st)
    (hthreads : s'.threads = s.threads.starterStep s.reconnect k answer)
    (hsame : s'.trace = s.trace ∧ s'.failedAttempts = s.failedAttempts
      ∧ s'.reconnect = s.reconnect)
    (hgoes : s.threads.startGoesTo k answer pc = .ended)
    (hends : s.threads.starterStep s.reconnect k answer = s.threads.goStarter k .ended) :
    s'.Follows st₀ reconnect st := by
  obtain ⟨htrace, hfailed, hreconnect⟩ := hsame
  have hframe := hthreads.trans hends
  refine h.ends hthreads hreconnect ?_ ?_ hgoes ?_ ?_ ?_
  · rw [htrace]
    exact h.kept
  · rw [hfailed]
    exact h.failures
  · rw [hframe]
    rfl
  · rw [hframe]
    rfl
  · rw [hframe]
    rfl

/-- Its decision. -/
theorem decides (h : Starts st₀ reconnect k .deciding s st) (random : Nat → Fin 401) :
    ∃ st', ((s.scheduleReconnectOrClose random).goStart k .ok).Follows st₀ reconnect st' := by
  have hmode : st.mode = .ended true := h.mode
  have hstep : s.threads.starterStep s.reconnect k .ok
      = (s.threads.goStarter k .ended).scheduleReconnectOrClose s.reconnect (.starter k) := by
    unfold SseClient.starterStep
    rw [h.at_]
  cases hstopped : s.threads.stopped with
  | true =>
      have hsame : s.scheduleReconnectOrClose random = s := if_pos hstopped
      have hthreads : s.threads.starterStep s.reconnect k .ok
          = s.threads.goStarter k .ended := hstep.trans (if_pos hstopped)
      rw [hsame]
      refine ⟨st, h.ends rfl rfl h.kept h.failures rfl ?_ ?_ ?_⟩
      · show (s.threads.starterStep s.reconnect k .ok).attempts = _
        rw [hthreads]
        rfl
      · show (s.threads.starterStep s.reconnect k .ok).calls = _
        rw [hthreads]
        rfl
      · show (s.threads.starterStep s.reconnect k .ok).starts = _
        rw [hthreads]
        rfl
  | false =>
      have hnot : ¬ s.threads.stopped = true := by
        rw [hstopped]
        exact Bool.false_ne_true
      have hreconnect := h.reconnect
      cases reconnect with
      | false =>
          have hthreads : s.threads.starterStep s.reconnect k .ok
              = (s.threads.goStarter k .ended).emit (.closed (.starter k)) := by
            rw [hstep, hreconnect]
            exact if_neg hnot
          rw [scheduleReconnectOrClose_closes random hstopped hreconnect]
          refine ⟨{ st with mode := .closed }, h.ends rfl rfl (kept_closed h.kept hmode) h.failures
            rfl ?_ ?_ ?_⟩
          · show (s.threads.starterStep s.reconnect k .ok).attempts = _
            rw [hthreads]
            rfl
          · show (s.threads.starterStep s.reconnect k .ok).calls = _
            rw [hthreads]
            rfl
          · show (s.threads.starterStep s.reconnect k .ok).starts = _
            rw [hthreads]
            rfl
      | true =>
          have hthreads : s.threads.starterStep s.reconnect k .ok
              = (s.threads.goStarter k .ended).scheduleStart.emit (.restart (.starter k)) := by
            rw [hstep, hreconnect]
            exact (if_neg hnot).trans (if_pos rfl)
          have hheld := h.held
          rw [scheduleReconnectOrClose_restarts random hstopped hreconnect]
          refine ⟨{ st with mode := .between, failures := st.failures + 1 }, h.proper' rfl,
            hheld.retries h.kept hmode h.failures (random s.draws), ?_,
            toInt32_succ h.failures, hreconnect⟩
          refine .starter s.threads.starts .scheduled ?_ ?_ rfl rfl ⟨hheld.resume, hheld.retry⟩
          · exact (congrArg SseClient.starts hthreads).symm
          · show (s.threads.starterStep s.reconnect k .ok).starters s.threads.starts = _
            rw [hthreads]
            exact Function.update_self ..

/-- `nativeOnError` of a restart. -/
theorem fails (h : Starts st₀ reconnect k .error s st) :
    ∃ st', ((s.emit (.unsent ⟨.restartFailed (s.startThrew k), 0, s.reconnect, s.retryMs⟩)).goStart
      k .ok).Follows st₀ reconnect st' := by
  have herr := errs_of_comes h.reconnect
    (show (AndroidErrorKind.restartFailed (s.startThrew k)).comes .between = true from rfl) 0
  have hkept : AttemptState.Kept (androidPolicy reconnect) st₀
      (s.trace ++ [.unsent ⟨.restartFailed (s.startThrew k), 0, s.reconnect, s.retryMs⟩])
      { st with mode := .asked true } := h.kept.step (if_pos ⟨h.mode, herr⟩)
  exact ⟨{ st with mode := .asked true }, h.goes (fun hd => by cases hd) rfl rfl hkept h.failures
    rfl rfl rfl ⟨h.held.resume, h.held.retry⟩⟩

/-- `nativeOnDisconnected` of a restart. -/
theorem disconnects (h : Starts st₀ reconnect k .disconnecting s st) :
    ∃ st', ((s.emit .disconnected).goStart k .ok).Follows st₀ reconnect st' := by
  have hmode : st.mode = .asked true := h.mode
  have hkept : AttemptState.Kept (androidPolicy reconnect) st₀ (s.trace ++ [.disconnected])
      { st with mode := .ended true } := by
    apply h.kept.step
    unfold AttemptState.next
    rw [hmode]
  exact ⟨{ st with mode := .ended true }, h.goes (fun hd => by cases hd) rfl rfl hkept h.failures
    rfl rfl rfl ⟨h.held.resume, h.held.retry⟩⟩

/-- The request. -/
theorem requests (h : Starts st₀ reconnect k .starting s st)
    (hstopped : ¬ s.threads.stopped = true) :
    ∃ st', (((s.setLocals s.threads.calls {}).emit (.request s.lastEventId)).goStart k
      .ok).Follows st₀ reconnect st' := by
  have hthreads : s.threads.starterStep s.reconnect k .ok
      = (s.threads.goStarter k .ended).newCall := by
    unfold SseClient.starterStep
    rw [h.at_]
    exact (if_neg hstopped).trans (if_neg (fun h => by cases h))
  have hkept : AttemptState.Kept (androidPolicy reconnect) st₀
      (s.trace ++ [.request s.lastEventId]) { st with mode := .asked false } :=
    h.kept.step (if_pos ⟨h.mode, h.held.resume⟩)
  have hlocals : (s.setLocals s.threads.calls {}).locals s.threads.calls = {} :=
    Function.update_self ..
  refine ⟨{ st with mode := .asked false }, h.proper' rfl, hkept, ?_, h.failures, h.reconnect⟩
  refine .attempt s.threads.calls .created
    ⟨?_, ?_, (fun b hb => by cases hb), rfl, trivial, ?_, ?_⟩
  · exact (congrArg SseClient.calls hthreads).symm
  · have hnew : (s.threads.goStarter k .ended).newCall.attempts s.threads.calls = {} :=
      Function.update_self ..
    show ((s.threads.starterStep s.reconnect k .ok).attempts s.threads.calls).completion = _
    rw [hthreads, hnew]
  · intro _
    exact congrArg AttemptLocals.owed hlocals
  · show Held _ ((s.setLocals s.threads.calls {}).locals s.threads.calls).owed _
    rw [hlocals]
    exact ⟨h.held.resume, h.held.retry⟩

end Starts

/-- **One step of a start.** -/
theorem Follows.starter (h : s.Follows st₀ reconnect st) {k : Nat} {answer : AndroidAnswer}
    (hen : s.enabled (.starter k answer) = true) (random : Nat → Fin 401) :
    ∃ st', (s.starterStep random k answer).Follows st₀ reconnect st' := by
  obtain ⟨hk, hlive⟩ := Bool.and_eq_true_iff.mp hen
  have hstarts := h.starts (of_decide_eq_true hk) hlive
  unfold AndroidClient.starterStep
  cases hpc : s.threads.starters k with
  | scheduled =>
      rw [hpc] at hstarts
      exact ⟨st, hstarts.quietly (fun hd => by cases hd) rfl ⟨rfl, rfl, rfl, rfl, rfl⟩ rfl rfl
        hstarts.mode⟩
  | starting =>
      rw [hpc] at hstarts
      dsimp only
      by_cases hstopped : s.threads.stopped = true
      · rw [if_pos hstopped]
        refine ⟨st, hstarts.leaves rfl ⟨rfl, rfl, rfl⟩ (if_pos hstopped) ?_⟩
        unfold SseClient.starterStep
        rw [hpc]
        exact if_pos hstopped
      · rw [if_neg hstopped]
        have hthrows : s.threads.starterStep s.reconnect k .throws
            = s.threads.goStarter k (if k = 0 then .ended else .threw) := by
          unfold SseClient.starterStep
          rw [hpc]
          exact (if_neg hstopped).trans (if_pos rfl)
        cases answer with
        | thrown message className =>
            -- `connect` passes on what `start` throws, a restart catches it
            by_cases hk : k = 0
            · rw [if_pos hk] at hthrows
              exact ⟨st, hstarts.leaves rfl ⟨rfl, rfl, rfl⟩
                ((if_neg hstopped).trans ((if_pos rfl).trans (if_pos hk))) hthrows⟩
            · exact ⟨st, hstarts.quietly (fun hd => by cases hd) rfl ⟨rfl, rfl, rfl, rfl, rfl⟩
                ((if_neg hstopped).trans ((if_pos rfl).trans (if_neg hk))) rfl hstarts.mode⟩
        | _ => exact hstarts.requests hstopped
  | threw =>
      rw [hpc] at hstarts
      by_cases hstopped : s.threads.stopped = true
      · refine ⟨st, hstarts.leaves rfl ⟨rfl, rfl, rfl⟩ (if_pos hstopped) ?_⟩
        unfold SseClient.starterStep
        rw [hpc]
        exact congrArg (s.threads.goStarter k) (if_pos hstopped)
      · exact ⟨st, hstarts.quietly (fun hd => by cases hd) rfl ⟨rfl, rfl, rfl, rfl, rfl⟩
          (if_neg hstopped) rfl hstarts.mode⟩
  | error =>
      rw [hpc] at hstarts
      exact hstarts.fails
  | disconnecting =>
      rw [hpc] at hstarts
      exact hstarts.disconnects
  | deciding =>
      rw [hpc] at hstarts
      exact hstarts.decides random
  | dropped =>
      rw [hpc] at hlive
      cases hlive
  | ended =>
      rw [hpc] at hlive
      cases hlive

/-- A watchdog marks and tells; who runs does not change. -/
theorem Follows.watchdog (h : s.Follows st₀ reconnect st) {i : Nat}
    (hen : s.enabled (.watchdog i) = true) : (s.watchdogStep i).Follows st₀ reconnect st := by
  have hi : i < s.threads.calls := of_decide_eq_true (Bool.and_eq_true_iff.mp hen).1
  have hcalls := (s.threads.watchdogStep_stopped i).2
  obtain ⟨hstarters, hstarts⟩ := s.threads.watchdogStep_starters i
  have hcompletion := s.threads.watchdogStep_completion
  have hframe : ∃ timeouts, s.watchdogStep i
      = { s with threads := s.threads.watchdogStep i, timeouts := timeouts } := by
    unfold AndroidClient.watchdogStep
    dsimp only
    split
    · exact ⟨_, rfl⟩
    · exact ⟨s.timeouts, rfl⟩
  obtain ⟨timeouts, hframe⟩ := hframe
  rw [hframe]
  refine ⟨h.proper.watchdogStep hi, h.kept, ?_, h.failures, h.reconnect⟩
  cases h.stands with
  | attempt j pc runs =>
      exact .attempt j pc ⟨runs.last.trans hcalls.symm, (hcompletion j i).trans runs.at_, runs.live,
        runs.mode, runs.finds, runs.owed, ⟨runs.held.resume, runs.held.retry⟩⟩
  | starter k pc last at_ live mode held =>
      exact .starter k pc (last.trans hstarts.symm) ((congrFun hstarters k).trans at_) live mode
        ⟨held.resume, held.retry⟩
  | gone quiet dead =>
      refine .gone (fun j hj => ?_) (fun k hk => ?_)
      · have hquiet := quiet j (hj.trans_eq hcalls)
        unfold SseAttempt.inFlight at hquiet ⊢
        rw [hcompletion]
        exact hquiet
      · show ((s.threads.watchdogStep i).starters k).live = false
        rw [hstarters]
        exact dead k (hk.trans_eq hstarts)

/-- `disconnect` drops a restart that waits; a completion goes on to its next
test. -/
theorem Follows.disconnect (h : s.Follows st₀ reconnect st) :
    Follows st₀ reconnect { s with threads := s.threads.disconnect } st := by
  have hcalls := s.threads.disconnect_stopped.2
  have hcompletion := s.threads.disconnect_completion
  have hstarts := (s.threads.disconnect_starters 0).2
  refine ⟨h.proper.disconnect, h.kept, ?_, h.failures, h.reconnect⟩
  have hquiet (hquiet : ∀ i < s.threads.calls, (s.threads.attempts i).inFlight = false) :
      ∀ i < s.threads.disconnect.calls, (s.threads.disconnect.attempts i).inFlight = false := by
    intro i hi
    have hquiet := hquiet i (hi.trans_eq hcalls)
    unfold SseAttempt.inFlight at hquiet ⊢
    rw [hcompletion]
    exact hquiet
  cases h.stands with
  | attempt j pc runs =>
      exact .attempt j pc ⟨runs.last.trans hcalls.symm, (hcompletion j).trans runs.at_, runs.live,
        runs.mode, runs.finds, runs.owed, ⟨runs.held.resume, runs.held.retry⟩⟩
  | starter k pc last at_ live mode held =>
      have hstart : Starts st₀ reconnect k pc s st :=
        ⟨h.proper, h.kept, h.failures, h.reconnect, last, at_, live, mode, held⟩
      have hk := (s.threads.disconnect_starters k).1
      rw [at_] at hk
      by_cases hscheduled : pc = .scheduled
      · rw [if_pos hscheduled] at hk
        refine .gone (hquiet (fun i hi => hstart.quiet hi)) (fun j hj => ?_)
        cases hlive : (s.threads.disconnect.starters j).live with
        | false => rfl
        | true =>
            -- the last start is this one, and it is dropped
            have hlast := h.proper.disconnect.lastStart j hj hlive
            rw [hstarts, ← last] at hlast
            obtain rfl : j = k := by omega
            rw [hk] at hlive
            cases hlive
      · rw [if_neg hscheduled] at hk
        exact .starter k pc (last.trans hstarts.symm) hk live mode ⟨held.resume, held.retry⟩
  | gone quiet dead =>
      refine .gone (hquiet quiet) (fun k hk => ?_)
      have hdead := dead k (hk.trans_eq hstarts)
      show (s.threads.disconnect.starters k).live = false
      rw [(s.threads.disconnect_starters k).1]
      split
      · rfl
      · exact hdead

/-- **One step.** -/
theorem Follows.step (h : s.Follows st₀ reconnect st) {a : AndroidStep} (hen : s.enabled a = true)
    (readUtf8 : Bytes → Utf16) (random : Nat → Fin 401) :
    ∃ st', (s.step readUtf8 random a).Follows st₀ reconnect st' := by
  cases a with
  | attempt i answer => exact h.attempt hen readUtf8 random
  | watchdog i => exact ⟨st, h.watchdog hen⟩
  | starter k answer => exact h.starter hen random
  | disconnect => exact ⟨st, h.disconnect⟩

end AndroidClient

/-! ## §6. The protocol. -/

variable {readUtf8 : Bytes → Utf16} {random : Nat → Fin 401} {lastEventId : Utf16}
  {reconnect : Bool} {retryMs : Int} {answers : Nat → Bool} {s : AndroidClient}

theorem androidClient_follows (readUtf8 : Bytes → Utf16) (random : Nat → Fin 401)
    (lastEventId : Utf16) (reconnect : Bool) (retryMs : Int) (answers : Nat → Bool) :
    (androidClient readUtf8 random lastEventId reconnect retryMs answers).Invariant
      (fun s => ∃ st, s.Follows
        (.start lastEventId (if retryMs ≥ 0 then retryMs else 3000)) reconnect st) where
  init := ⟨_, SseClient.connecting_proper, rfl, .starter 0 .starting rfl rfl rfl rfl ⟨rfl, rfl⟩,
    toInt32_zero.symm, rfl⟩
  step s a s' h hen hok := by
    obtain ⟨st, h⟩ := h
    cases hok
    exact h.step hen readUtf8 random

/-- **THE PROTOCOL IS KEPT** by the completions and the starts, whatever the
server, the scheduler and the threads do, and in whatever order: one stream at a
time; an open only of an accepted status, and lines only from it on; at most one
error for an attempt, before its end; each request with the id that was committed
last, also where `start` threw in between; each restart with a delay for the
failures since a stream was last open, while there are fewer than `2 ^ 31`; nothing
after CLOSED. -/
theorem androidClient_protocol
    (h : (androidClient readUtf8 random lastEventId reconnect retryMs answers).Reachable s) :
    ∃ st, AttemptState.Kept (androidPolicy reconnect)
      (.start lastEventId (if retryMs ≥ 0 then retryMs else 3000)) s.trace st := by
  obtain ⟨st, hfollows⟩ :=
    (androidClient_follows readUtf8 random lastEventId reconnect retryMs answers).reachable h
  exact ⟨st, hfollows.kept⟩

/-- A stream whose id is committed and that is lost, a restart that throws, and the
request that resumes the stream. -/
theorem androidClient_protocol_threw :
    ∃ s, (androidClient widen (fun _ => 200) (units "3") true 1000 fun _ => true).Reachable s
      ∧ s.trace = [.request (units "3"), .opened 200,
        .line (.onMessage (units "message") (units "x") (units "4") true),
        .line (.onLastEventId (units "4")), .error ⟨.ioError none, 200, true, 1000⟩, .disconnected,
        .retry 1000, .unsent ⟨.restartFailed none, 0, true, 1000⟩, .disconnected, .retry 2000,
        .request (units "4")]
      ∧ ∃ st, AttemptState.Kept (androidPolicy true) (.start (units "3") 1000) s.trace st := by
  have hruns : ∃ s,
      (androidClient widen (fun _ => 200) (units "3") true 1000 fun _ => true).run
        (androidClient widen (fun _ => 200) (units "3") true 1000 fun _ => true).init
          [.starter 0 .none, .attempt 0 .none, .attempt 0 (.response 200), .attempt 0 .none,
            .attempt 0 .none, .attempt 0 .none, .attempt 0 (.body true),
            .attempt 0 (.item (.line (ascii "id: 4"))), .attempt 0 (.item (.line (ascii "data: x"))),
            .attempt 0 (.item (.line [])), .attempt 0 .none, .attempt 0 .none,
            .attempt 0 (.ioError none), .attempt 0 .none, .attempt 0 .none, .attempt 0 .none,
            .attempt 0 .none, .starter 1 .none, .starter 1 (.thrown none []), .starter 1 .none,
            .starter 1 .none, .starter 1 .none, .starter 1 .none, .starter 2 .none,
            .starter 2 .none] = some s
      ∧ s.trace = [.request (units "3"), .opened 200,
        .line (.onMessage (units "message") (units "x") (units "4") true),
        .line (.onLastEventId (units "4")), .error ⟨.ioError none, 200, true, 1000⟩, .disconnected,
        .retry 1000, .unsent ⟨.restartFailed none, 0, true, 1000⟩, .disconnected, .retry 2000,
        .request (units "4")] :=
    ⟨_, rfl, by decide +kernel⟩
  obtain ⟨s, hrun, htrace⟩ := hruns
  exact ⟨s, ⟨_, hrun⟩, htrace, androidClient_protocol ⟨_, hrun⟩⟩

end DefoldSSE
