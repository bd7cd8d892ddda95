/-
  DefoldSSE.Ios.ClientProtocol — what `SseIOSClient` reports and asks for, over
  every order of its blocks, its delegate's calls and `disconnect`.

  The delegate's methods read and write the properties of the client without a
  look at the task they are called for.  That is right because no two tasks are
  ever alive (`Alone`), and the properties are those of the one that is.
-/
import DefoldSSE.Ios.Client

namespace DefoldSSE

open CLib

/-- What is left to the iOS client: the errors of its watchdog and of a status
come while it waits for the response, the error of a task after its end; a delay
is near the target of the desktop, as long as the failures can be counted. -/
def iosPolicy (reconnect : Bool) : AttemptPolicy Utf16 IosCall IosError Int where
  committed := IosCall.committed
  asked := IosCall.asked
  accepts status := 200 ≤ status && status < 300
  errs mode error :=
    (error.reconnecting == reconnect) &&
      match mode, error.kind with
      | .asked _, .timedOut => true
      | .asked _, .httpStatus status => status < 200 || status ≥ 300
      | .ended _, .failed _ => true
      | _, _ => false
  reconnect := reconnect
  delays retryMs failures delay := decide (failures < 2 ^ 31 →
    5 * |delay - targetDelay retryMs failures| ≤ targetDelay retryMs failures)

/-! ## §1. Where the client stands. -/

namespace SseIOSClient

/-- Task `n` is the last, the others are over, and no start waits. -/
structure Alone (s : SseIOSClient) (n : Nat) : Prop where
  requests : s.requests = n + 1
  others : ∀ i < n, s.tasks i = .completed
  starts : s.starts = 0
  task : ∀ i, s.task = some i → i = n

/-- Every task is over. -/
def Over (s : SseIOSClient) : Prop := ∀ i < s.requests, s.tasks i = .completed

/-- Id and delay are those of the client, as its parser has moved them on. -/
structure Reading (s : SseIOSClient) (st : AttemptState Utf16) : Prop where
  recorded : s.parser.Recorded [] s.retryMs
  resume : st.resume = lastOf IosCall.committed s.lastEventId s.parser.calls
  retry : st.retryMs = lastOf IosCall.asked s.retryMs s.parser.calls

/-- Id and delay are those of the client. -/
structure Resting (s : SseIOSClient) (st : AttemptState Utf16) : Prop where
  resume : st.resume = s.lastEventId
  retry : st.retryMs = s.retryMs

/-- The client, as the protocol sees it. -/
inductive Stands (s : SseIOSClient) (st : AttemptState Utf16) : Prop where
  | between (mode : st.mode = .between) (finished : s.Over) (resting : s.Resting st)
      (task : s.task = none)
      (block : s.block = .idle ∧ s.starts ≤ 1 ∨ s.block = .startRequest ∧ s.starts = 0)
  | asked (n : Nat) (alone : s.Alone n) (reading : s.Reading st) (mode : st.mode = .asked false)
      (received : s.receivedResponse = false) (failed : s.failedResponse = false)
      (timedOut : s.firstResponseTimedOut = false)
      (block : s.block = .idle ∧ (s.tasks n = .resumed ∨ s.tasks n = .refused)
        ∨ s.block = .timedOut n ∧ (s.tasks n = .resumed ∨ s.tasks n = .refused)
          ∧ s.watchdogs n = false
        ∨ ∃ status, s.block = .didReceiveResponse n status)
  | told (n : Nat) (alone : s.Alone n) (reading : s.Reading st) (mode : st.mode = .asked true)
      (block : s.block = .idle)
      (why : s.firstResponseTimedOut = true ∧ s.watchdogs n = false
          ∧ (s.tasks n = .resumed ∨ s.tasks n = .refused)
        ∨ s.failedResponse = true ∧ s.receivedResponse = true ∧ s.tasks n = .refused)
  | opened (n : Nat) (alone : s.Alone n) (reading : s.Reading st) (mode : st.mode = .opened false)
      (block : s.block = .idle) (task : s.tasks n = .allowed)
      (received : s.receivedResponse = true) (failed : s.failedResponse = false)
      (timedOut : s.firstResponseTimedOut = false)
  | completing (finished : s.Over) (reading : s.Reading st) (starts : s.starts = 0)
      (mode : st.mode = .ended (s.failedResponse || s.firstResponseTimedOut))
      (n : Nat) (error : Option Utf16) (block : s.block = .didComplete n error)
  | deciding (finished : s.Over) (resting : s.Resting st) (starts : s.starts = 0)
      (told : Bool) (mode : st.mode = .ended told) (task : s.task = none)
      (block : s.block = .schedule ∨ s.block = .reconnectOrClose)
  | left (finished : s.Over) (starts : s.starts = 0) (told : Bool) (mode : st.mode = .ended told)
      (block : s.block = .idle) (stopped : s.stopped = true)
  | closed (finished : s.Over) (starts : s.starts = 0) (mode : st.mode = .closed)
      (block : s.block = .idle) (task : s.task = none)

/-- The client has kept the protocol, and stands where the protocol does. -/
structure Follows (st₀ : AttemptState Utf16) (reconnect : Bool) (s : SseIOSClient)
    (st : AttemptState Utf16) : Prop where
  kept : AttemptState.Kept (iosPolicy reconnect) st₀ s.trace st
  stands : s.Stands st
  failures : s.failedAttempts = toInt32 st.failures
  reconnect : s.reconnect = reconnect

/-! ## §2. Steps that say nothing. -/

variable {st₀ st : AttemptState Utf16} {reconnect : Bool} {s : SseIOSClient}

/-- `disconnect` may come anywhere. -/
theorem Stands.disconnect (h : s.Stands st) :
    Stands { s with stopped := true, teardown := true } st := by
  cases h with
  | between mode finished resting task block =>
      exact .between mode finished ⟨resting.1, resting.2⟩ task block
  | asked n alone reading mode received failed timedOut block =>
      exact .asked n ⟨alone.1, alone.2, alone.3, alone.4⟩ ⟨reading.1, reading.2, reading.3⟩ mode
        received failed timedOut block
  | told n alone reading mode block why =>
      exact .told n ⟨alone.1, alone.2, alone.3, alone.4⟩ ⟨reading.1, reading.2, reading.3⟩ mode
        block why
  | opened n alone reading mode block task received failed timedOut =>
      exact .opened n ⟨alone.1, alone.2, alone.3, alone.4⟩ ⟨reading.1, reading.2, reading.3⟩ mode
        block task received failed timedOut
  | completing finished reading starts mode n error block =>
      exact .completing finished ⟨reading.1, reading.2, reading.3⟩ starts mode n error block
  | deciding finished resting starts told mode task block =>
      exact .deciding finished ⟨resting.1, resting.2⟩ starts told mode task block
  | left finished starts told mode block stopped => exact .left finished starts told mode block rfl
  | closed finished starts mode block task => exact .closed finished starts mode block task

/-- The block of `disconnect` takes the task away. -/
theorem Stands.teardown (h : s.Stands st) (hidle : s.block = .idle) :
    Stands { s with
      teardown := false
      cancelled := s.cancelled ++ s.task.toList }.invalidate st := by
  cases h with
  | between mode finished resting task block =>
      exact .between mode finished ⟨resting.1, resting.2⟩ rfl block
  | asked n alone reading mode received failed timedOut block =>
      exact .asked n ⟨alone.1, alone.2, alone.3, fun i h => by cases h⟩
        ⟨reading.1, reading.2, reading.3⟩ mode received failed timedOut block
  | told n alone reading mode block why =>
      exact .told n ⟨alone.1, alone.2, alone.3, fun i h => by cases h⟩
        ⟨reading.1, reading.2, reading.3⟩ mode block why
  | opened n alone reading mode block task received failed timedOut =>
      exact .opened n ⟨alone.1, alone.2, alone.3, fun i h => by cases h⟩
        ⟨reading.1, reading.2, reading.3⟩ mode block task received failed timedOut
  | completing finished reading starts mode n error block =>
      rw [hidle] at block
      cases block
  | deciding finished resting starts told mode task block =>
      rw [hidle] at block
      rcases block with block | block <;> cases block
  | left finished starts told mode block stopped =>
      exact .left finished starts told mode block stopped
  | closed finished starts mode block task => exact .closed finished starts mode block rfl

/-- A task that is not over is the one that is alive. -/
theorem Alone.eq {n i : Nat} (h : s.Alone n) (hi : i < s.requests)
    (htask : s.tasks i ≠ .completed) : i = n := by
  have hlast := h.requests
  by_cases hlt : i < n
  · exact absurd (h.others i hlt) htask
  · omega

/-- Another place of the same task. -/
theorem Alone.setTask {n : Nat} (h : s.Alone n) (task : IosTask) : (s.setTask n task).Alone n where
  requests := h.requests
  others i hi := by
    show Function.update s.tasks n task i = _
    rw [Function.update_of_ne (by omega)]
    exact h.others i hi
  starts := h.starts
  task := h.task

/-- When it is completed, every task is over. -/
theorem Alone.finished {n : Nat} (h : s.Alone n) : (s.setTask n .completed).Over := by
  intro i hi
  have hlast := h.requests
  have hi : i < s.requests := hi
  show Function.update s.tasks n .completed i = _
  by_cases hin : i = n
  · rw [hin, Function.update_self]
  · rw [Function.update_of_ne hin]
    exact h.others i (by omega)

theorem setTask_self (s : SseIOSClient) (n : Nat) (task : IosTask) :
    (s.setTask n task).tasks n = task := Function.update_self ..

/-- A block with `startRequest` begins. -/
theorem Stands.start (h : s.Stands st) (hstarts : 0 < s.starts) :
    Stands { s with starts := s.starts - 1, block := if s.stopped then .idle else .startRequest }
      st := by
  -- a start is scheduled only while no task is alive
  cases h with
  | between mode finished resting task block =>
      have hone : s.starts - 1 = 0 := by
        rcases block with ⟨-, hle⟩ | ⟨-, hzero⟩ <;> omega
      refine .between mode finished ⟨resting.1, resting.2⟩ task ?_
      show (if s.stopped then IosBlock.idle else .startRequest) = .idle ∧ s.starts - 1 ≤ 1
        ∨ (if s.stopped then IosBlock.idle else .startRequest) = .startRequest ∧ s.starts - 1 = 0
      cases s.stopped with
      | true => exact .inl ⟨rfl, by omega⟩
      | false => exact .inr ⟨rfl, hone⟩
  | asked n alone => exact absurd alone.starts (by omega)
  | told n alone => exact absurd alone.starts (by omega)
  | opened n alone => exact absurd alone.starts (by omega)
  | completing finished reading starts => exact absurd starts (by omega)
  | deciding finished resting starts => exact absurd starts (by omega)
  | left finished starts => exact absurd starts (by omega)
  | closed finished starts => exact absurd starts (by omega)

/-- A watchdog barks only at its own task, while that waits for a response. -/
theorem Stands.watchdog (h : s.Stands st) (hidle : s.block = .idle) {i : Nat}
    (hwaits : s.watchdogs i = true) : (s.watchdog i).Stands st := by
  have hquiet (hcond : (!s.stopped && !s.receivedResponse && decide (s.task = some i)) = false) :
      s.watchdog i = { s with watchdogs := Function.update s.watchdogs i false } := by
    show (if !s.stopped && !s.receivedResponse && decide (s.task = some i) then _ else _)
      = SseIOSClient.mk ..
    rw [hcond]
    rfl
  have hnoTask (htask : s.task ≠ some i) :
      (!s.stopped && !s.receivedResponse && decide (s.task = some i)) = false := by
    rw [decide_eq_false htask, Bool.and_false]
  have hreceived (hreceived : s.receivedResponse = true) :
      (!s.stopped && !s.receivedResponse && decide (s.task = some i)) = false := by
    rw [hreceived, Bool.not_true, Bool.and_false, Bool.false_and]
  cases h with
  | between mode finished resting task block =>
      rw [hquiet (hnoTask (by rw [task]; exact Option.some_ne_none i |>.symm))]
      exact .between mode finished ⟨resting.1, resting.2⟩ task block
  | asked n alone reading mode received failed timedOut block =>
      have htasks : s.tasks n = .resumed ∨ s.tasks n = .refused := by
        rcases block with ⟨-, htasks⟩ | ⟨-, htasks, -⟩ | ⟨status, hblock⟩
        · exact htasks
        · exact htasks
        · rw [hidle] at hblock
          cases hblock
      cases hcond : (!s.stopped && !s.receivedResponse && decide (s.task = some i)) with
      | false =>
          rw [hquiet hcond]
          exact .asked n ⟨alone.1, alone.2, alone.3, alone.4⟩ ⟨reading.1, reading.2, reading.3⟩
            mode received failed timedOut (.inl ⟨hidle, htasks⟩)
      | true =>
          have hin : i = n := alone.task i (of_decide_eq_true (Bool.and_eq_true_iff.mp hcond).2)
          have hbarks : s.watchdog i
              = { s with watchdogs := Function.update s.watchdogs i false }.run (.timedOut i) := by
            show (if !s.stopped && !s.receivedResponse && decide (s.task = some i)
              then _ else _) = _
            rw [hcond]
            rfl
          rw [hbarks, hin]
          exact .asked n ⟨alone.1, alone.2, alone.3, alone.4⟩ ⟨reading.1, reading.2, reading.3⟩
            mode received failed timedOut (.inr (.inl ⟨rfl, htasks, Function.update_self ..⟩))
  | told n alone reading mode block why =>
      rcases why with ⟨htimed, hwatch, htasks⟩ | ⟨hfailed, hrec, htasks⟩
      · -- it has barked already
        have hin : i ≠ n := by
          rintro rfl
          rw [hwatch] at hwaits
          cases hwaits
        rw [hquiet (hnoTask (fun htask => hin (alone.task i htask)))]
        refine .told n ⟨alone.1, alone.2, alone.3, alone.4⟩ ⟨reading.1, reading.2, reading.3⟩
          mode block (.inl ⟨htimed, ?_, htasks⟩)
        show Function.update s.watchdogs i false n = false
        rw [Function.update_of_ne hin.symm]
        exact hwatch
      · -- the response that was refused keeps it silent
        rw [hquiet (hreceived hrec)]
        exact .told n ⟨alone.1, alone.2, alone.3, alone.4⟩ ⟨reading.1, reading.2, reading.3⟩
          mode block (.inr ⟨hfailed, hrec, htasks⟩)
  | opened n alone reading mode block task received failed timedOut =>
      rw [hquiet (hreceived received)]
      exact .opened n ⟨alone.1, alone.2, alone.3, alone.4⟩ ⟨reading.1, reading.2, reading.3⟩ mode
        block task received failed timedOut
  | completing finished reading starts mode n error block =>
      rw [hidle] at block
      cases block
  | deciding finished resting starts told mode task block =>
      rw [hidle] at block
      rcases block with block | block <;> cases block
  | left finished starts told mode block stopped =>
      rw [hquiet (by rw [stopped]; rfl)]
      exact .left finished starts told mode block stopped
  | closed finished starts mode block task =>
      rw [hquiet (hnoTask (by rw [task]; exact Option.some_ne_none i |>.symm))]
      exact .closed finished starts mode block task

/-- Who has a task that is not over. -/
theorem Stands.alive (h : s.Stands st) {i : Nat} (hi : i < s.requests)
    (htask : s.tasks i ≠ .completed) :
    s.Alone i ∧ s.Reading st ∧ ∃ told, (st.mode = .asked told ∨ st.mode = .opened told)
      ∧ told = (s.failedResponse || s.firstResponseTimedOut) := by
  cases h with
  | asked n alone reading mode received failed timedOut block =>
      obtain rfl := alone.eq hi htask
      exact ⟨alone, reading, false, .inl mode, by rw [failed, timedOut]; rfl⟩
  | told n alone reading mode block why =>
      obtain rfl := alone.eq hi htask
      refine ⟨alone, reading, true, .inl mode, ?_⟩
      rcases why with ⟨htimed, -⟩ | ⟨hfailed, -⟩
      · rw [htimed, Bool.or_true]
      · rw [hfailed, Bool.true_or]
  | opened n alone reading mode block task received failed timedOut =>
      obtain rfl := alone.eq hi htask
      exact ⟨alone, reading, false, .inr mode, by rw [failed, timedOut]; rfl⟩
  | between mode finished => exact absurd (finished i hi) htask
  | completing finished => exact absurd (finished i hi) htask
  | deciding finished => exact absurd (finished i hi) htask
  | left finished => exact absurd (finished i hi) htask
  | closed finished => exact absurd (finished i hi) htask

/-- `didReceiveResponse`, up to its test. -/
theorem Stands.didReceiveResponse (h : s.Stands st) (hidle : s.block = .idle) {i : Nat}
    (hi : i < s.requests) (htask : s.tasks i = .resumed) (status : Int) :
    (s.didReceiveResponse i status).Stands st := by
  have hlive : s.tasks i ≠ .completed := by
    rw [htask]
    exact fun h => by cases h
  unfold SseIOSClient.didReceiveResponse
  cases h with
  | asked n alone reading mode received failed timedOut block =>
      obtain rfl := alone.eq hi hlive
      have hmoved (task : IosTask) := alone.setTask task
      split
      · exact .asked i (hmoved _) ⟨reading.1, reading.2, reading.3⟩ mode received failed timedOut
          (.inl ⟨hidle, .inr (setTask_self ..)⟩)
      · have hmoved := hmoved .answered
        exact .asked i ⟨hmoved.1, hmoved.2, hmoved.3, hmoved.4⟩
          ⟨reading.1, reading.2, reading.3⟩ mode received failed timedOut
          (.inr (.inr ⟨status, rfl⟩))
  | told n alone reading mode block why =>
      obtain rfl := alone.eq hi hlive
      rcases why with ⟨htimed, hwatch, -⟩ | ⟨-, -, hrefused⟩
      · -- the watchdog was first, so the response is refused
        rw [htimed, Bool.or_true, if_pos rfl]
        exact .told i (alone.setTask .refused) ⟨reading.1, reading.2, reading.3⟩ mode block
          (.inl ⟨htimed, hwatch, .inr (setTask_self ..)⟩)
      · rw [htask] at hrefused
        cases hrefused
  | opened n alone reading mode block task received failed timedOut =>
      obtain rfl := alone.eq hi hlive
      rw [htask] at task
      cases task
  | between mode finished => exact absurd (finished i hi) hlive
  | completing finished => exact absurd (finished i hi) hlive
  | deciding finished => exact absurd (finished i hi) hlive
  | left finished => exact absurd (finished i hi) hlive
  | closed finished => exact absurd (finished i hi) hlive

/-! ## §3. Steps that the protocol sees. -/

/-- What is known when this runs. -/
def Running (s : SseIOSClient) (st : AttemptState Utf16) : IosBlock → Prop
  | .idle => True
  | .startRequest =>
      st.mode = .between ∧ s.Over ∧ s.Resting st ∧ s.starts = 0 ∧ s.task = none
  | .timedOut n =>
      s.Alone n ∧ s.Reading st ∧ st.mode = .asked false ∧ s.watchdogs n = false
        ∧ (s.tasks n = .resumed ∨ s.tasks n = .refused)
  | .didReceiveResponse n _ =>
      s.Alone n ∧ s.Reading st ∧ st.mode = .asked false ∧ s.failedResponse = false
        ∧ s.firstResponseTimedOut = false
  | .didComplete _ _ =>
      s.Over ∧ s.Reading st ∧ s.starts = 0
        ∧ st.mode = .ended (s.failedResponse || s.firstResponseTimedOut)
  | .schedule => s.Over ∧ s.Resting st ∧ s.starts = 0 ∧ s.task = none ∧ ∃ told, st.mode = .ended told
  | .reconnectOrClose =>
      s.Over ∧ s.Resting st ∧ s.starts = 0 ∧ s.task = none ∧ ∃ told, st.mode = .ended told

theorem Stands.running (h : s.Stands st) : s.Running st s.block := by
  cases h with
  | between mode finished resting task block =>
      rcases block with ⟨block, -⟩ | ⟨block, starts⟩
      · rw [block]
        trivial
      · rw [block]
        exact ⟨mode, finished, resting, starts, task⟩
  | asked n alone reading mode received failed timedOut block =>
      rcases block with ⟨block, -⟩ | ⟨block, tasks, watch⟩ | ⟨status, block⟩
      · rw [block]
        trivial
      · rw [block]
        exact ⟨alone, reading, mode, watch, tasks⟩
      · rw [block]
        exact ⟨alone, reading, mode, failed, timedOut⟩
  | told n alone reading mode block why =>
      rw [block]
      trivial
  | opened n alone reading mode block =>
      rw [block]
      trivial
  | completing finished reading starts mode n error block =>
      rw [block]
      exact ⟨finished, reading, starts, mode⟩
  | deciding finished resting starts told mode task block =>
      rcases block with block | block
      · rw [block]
        exact ⟨finished, resting, starts, task, told, mode⟩
      · rw [block]
        exact ⟨finished, resting, starts, task, told, mode⟩
  | left finished starts told mode block =>
      rw [block]
      trivial
  | closed finished starts mode block =>
      rw [block]
      trivial

/-- A delay that the client computes is one of its policy. -/
theorem iosPolicy_delays (reconnect : Bool) (retryMs : Int) (failures : Nat) (random : Fin 401) :
    (iosPolicy reconnect).delays retryMs failures
      (sseIosComputeRetryDelayMs retryMs (toInt32 failures) random) = true := by
  refine decide_eq_true fun hcounted => ?_
  rw [toInt32_of_fits (by omega) (by omega), sseIosComputeRetryDelayMs_eq]
  exact computeRetryDelayMS_near retryMs failures random.val

/-- `didCompleteWithError` without its error: id and delay come to the client. -/
def takeOver (s : SseIOSClient) : SseIOSClient :=
  { s with
    firstResponseTimedOut := false
    retryMs := s.parser.retryMs
    lastEventId :=
      if s.parser.hasCommittedLastEventId then s.parser.storedLastEventId
      else s.lastEventId }.invalidate

theorem takeOver_resting (hreading : s.Reading st) : s.takeOver.Resting st where
  resume := by
    have hid := hreading.recorded.id
    rw [hreading.resume]
    unfold lastOf
    rw [← hid]
    show _ = if s.parser.hasCommittedLastEventId then s.parser.storedLastEventId
      else s.lastEventId
    unfold SseIOSParser.committedId
    cases s.parser.hasCommittedLastEventId <;> rfl
  retry := hreading.retry.trans hreading.recorded.retry.symm

/-- An error is reported if there is one and none was reported before. -/
theorem complete_cases (s : SseIOSClient) (error : Option Utf16) :
    s.complete error = s.takeOver
      ∨ (s.failedResponse || s.firstResponseTimedOut) = false
        ∧ ∃ description, s.complete error
          = (s.enqueueError (.failed description) s.status).takeOver := by
  unfold complete
  cases error with
  | none => exact .inl rfl
  | some description =>
      cases hfailed : s.failedResponse with
      | true => exact .inl (by simp [takeOver])
      | false =>
          cases htimed : s.firstResponseTimedOut with
          | true => exact .inl (by simp [takeOver])
          | false => exact .inr ⟨rfl, description, by simp [takeOver]⟩

/-- `didCompleteWithError` behind its test. -/
theorem Follows.complete (h : s.Follows st₀ reconnect st) (finished : s.Over)
    (reading : s.Reading st) (starts : s.starts = 0)
    (mode : st.mode = .ended (s.failedResponse || s.firstResponseTimedOut))
    (error : Option Utf16) :
    ∃ st', ((s.complete error).run .schedule).Follows st₀ reconnect st' := by
  rcases s.complete_cases error with hquiet | ⟨hnone, description, htold⟩
  · rw [hquiet]
    have hresting := takeOver_resting reading
    exact ⟨st, h.kept, .deciding finished ⟨hresting.1, hresting.2⟩ starts _ mode rfl (.inl rfl),
      h.failures, h.reconnect⟩
  · rw [htold]
    have hresting := takeOver_resting reading
    refine ⟨{ st with mode := .ended true }, ?_, ?_, h.failures, h.reconnect⟩
    · apply h.kept.step
      unfold AttemptState.next
      rw [mode, hnone]
      simp [iosPolicy, h.reconnect]
    · exact .deciding finished ⟨hresting.1, hresting.2⟩ starts true rfl rfl (.inl rfl)

/-- What runs goes on. -/
theorem Follows.goOn (h : s.Follows st₀ reconnect st) (random : Fin 401) :
    ∃ st', (s.goOn random).Follows st₀ reconnect st' := by
  have hrunning := h.stands.running
  have hreconnect := h.reconnect
  unfold SseIOSClient.goOn
  cases hblock : s.block with
  | idle => exact ⟨st, h⟩
  | startRequest =>
      rw [hblock] at hrunning
      obtain ⟨mode, finished, resting, starts, -⟩ := hrunning
      refine ⟨{ st with mode := .asked false }, ?_, ?_, h.failures, hreconnect⟩
      · -- the header is the id that the protocol has committed
        apply h.kept.step
        show (if st.mode = .between ∧ s.lastEventId = st.resume then _ else _) = _
        exact if_pos ⟨mode, resting.resume.symm⟩
      · refine .asked s.requests ⟨rfl, ?_, starts, ?_⟩ ⟨⟨rfl, rfl, ⟨[], rfl⟩⟩, ?_, ?_⟩ rfl rfl rfl
          rfl (.inl ⟨rfl, .inl (Function.update_self ..)⟩)
        · intro i hi
          show Function.update s.tasks s.requests .resumed i = _
          rw [Function.update_of_ne (by omega)]
          exact finished i hi
        · intro i hi
          exact (Option.some.inj hi).symm
        · exact resting.resume
        · exact resting.retry
  | timedOut n =>
      rw [hblock] at hrunning
      obtain ⟨alone, reading, mode, watch, tasks⟩ := hrunning
      refine ⟨{ st with mode := .asked true }, ?_, ?_, h.failures, hreconnect⟩
      · apply h.kept.error_asked mode
        show ((s.reconnect == reconnect) && true) = true
        rw [hreconnect, beq_self_eq_true]
        rfl
      · exact .told n ⟨alone.1, alone.2, alone.3, alone.4⟩ ⟨reading.1, reading.2, reading.3⟩ rfl rfl
          (.inl ⟨rfl, watch, tasks⟩)
  | didReceiveResponse n status =>
      rw [hblock] at hrunning
      obtain ⟨alone, reading, mode, failed, timedOut⟩ := hrunning
      unfold receiveResponse
      dsimp only
      split
      · -- a status outside of 2xx is an error, and the body is refused
        rename_i hstatus
        have hmoved := alone.setTask .refused
        refine ⟨{ st with mode := .asked true }, ?_, ?_, h.failures, hreconnect⟩
        · apply h.kept.error_asked mode
          show ((s.reconnect == reconnect) && (status < 200 || status ≥ 300)) = true
          rw [hreconnect, beq_self_eq_true, Bool.true_and]
          exact hstatus
        · exact .told n ⟨hmoved.1, hmoved.2, hmoved.3, hmoved.4⟩
            ⟨reading.1, reading.2, reading.3⟩ rfl rfl (.inr ⟨rfl, rfl, setTask_self ..⟩)
      · -- an open stream ends the series of failures
        rename_i hstatus
        have hmoved := alone.setTask .allowed
        refine ⟨{ st with mode := .opened false, failures := 0 }, ?_, ?_, toInt32_zero.symm, hreconnect⟩
        · apply h.kept.step
          have hgood : (iosPolicy reconnect).accepts status = true := by
            simp only [Bool.or_eq_true, decide_eq_true_eq, not_or] at hstatus
            show (200 ≤ status && status < 300) = true
            simp only [Bool.and_eq_true, decide_eq_true_eq]
            omega
          show (if st.mode = .asked false ∧ _ then _ else _) = _
          exact if_pos ⟨mode, hgood⟩
        · exact .opened n ⟨hmoved.1, hmoved.2, hmoved.3, hmoved.4⟩
            ⟨reading.1, reading.2, reading.3⟩ rfl rfl (setTask_self ..) rfl failed timedOut
  | didComplete n error =>
      rw [hblock] at hrunning
      obtain ⟨finished, reading, starts, mode⟩ := hrunning
      exact h.complete finished reading starts mode error
  | schedule =>
      rw [hblock] at hrunning
      obtain ⟨finished, resting, starts, task, told, mode⟩ := hrunning
      refine ⟨st, h.kept, ?_, h.failures, hreconnect⟩
      -- `disconnect` may have come since the task ended
      cases hstopped : s.stopped with
      | true => exact .left finished starts told mode rfl hstopped
      | false => exact .deciding finished ⟨resting.1, resting.2⟩ starts told mode task (.inr rfl)
  | reconnectOrClose =>
      rw [hblock] at hrunning
      obtain ⟨finished, resting, starts, task, told, mode⟩ := hrunning
      show ∃ st', ((s.reconnectOrClose random).run .idle).Follows st₀ reconnect st'
      cases reconnect with
      | true =>
          have hretry : s.reconnectOrClose random
              = { s with
                  failedAttempts := toInt32 (s.failedAttempts + 1)
                  starts := s.starts + 1 }.emit
                (.retry (sseIosComputeRetryDelayMs s.retryMs (toInt32 (s.failedAttempts + 1))
                  random)) :=
            if_pos hreconnect
          have hcounted := toInt32_succ h.failures
          rw [hretry]
          refine ⟨{ st with mode := .between, failures := st.failures + 1 }, ?_, ?_, hcounted,
            hreconnect⟩
          · rw [hcounted]
            apply h.kept.step
            have hdelay := iosPolicy_delays true s.retryMs (st.failures + 1) random
            unfold AttemptState.next
            rw [mode, resting.retry]
            exact if_pos ⟨rfl, hdelay⟩
          · refine .between rfl finished ⟨resting.1, resting.2⟩ task (.inl ⟨rfl, ?_⟩)
            show s.starts + 1 ≤ 1
            omega
      | false =>
          have hclosed : s.reconnectOrClose random = s.emit .closed :=
            if_neg (by rw [hreconnect]; exact Bool.false_ne_true)
          rw [hclosed]
          refine ⟨{ st with mode := .closed }, ?_, ?_, h.failures, hreconnect⟩
          · apply h.kept.step
            unfold AttemptState.next
            rw [mode]
            rfl
          · exact .closed finished starts rfl rfl task

/-- The lines of `didReceiveData`. -/
theorem Follows.didReceiveData (h : s.Follows st₀ reconnect st) (f : Foundation)
    (hidle : s.block = .idle) {i : Nat} (hi : i < s.requests) (htask : s.tasks i = .allowed)
    (data : Bytes) : ∃ st', (s.didReceiveData f data).Follows st₀ reconnect st' := by
  have hlive : s.tasks i ≠ .completed := by
    rw [htask]
    exact fun h => by cases h
  have hnot {task : IosTask} (htask' : s.tasks i = task) (hne : task ≠ .allowed) : False :=
    hne (htask'.symm.trans htask)
  cases h.stands with
  | opened n alone reading mode block task received failed timedOut =>
      have hgrown : (s.parser.feedData f data).Recorded s.parser.calls s.retryMs :=
        SseIOSParser.Recorded.feedData
          ⟨reading.recorded.id, reading.recorded.retry, List.prefix_rfl⟩ f data
      obtain ⟨new, hnew⟩ := hgrown.calls
      have hdrop : (s.parser.feedData f data).calls.drop s.parser.calls.length = new := by
        rw [← hnew]
        exact List.drop_left
      refine ⟨{ st with
        resume := lastOf IosCall.committed st.resume new
        retryMs := lastOf IosCall.asked st.retryMs new }, ?_, ?_, h.failures, h.reconnect⟩
      · -- only the calls of this piece are new
        show AttemptState.Kept _ _ (s.trace ++ ((s.parser.feedData f data).calls.drop _).map _) _
        rw [hdrop]
        exact h.kept.lines mode new
      · refine .opened n ⟨alone.1, alone.2, alone.3, alone.4⟩
          ⟨⟨hgrown.id, hgrown.retry, List.nil_prefix⟩, ?_, ?_⟩ mode block task received failed
          timedOut
        · show lastOf IosCall.committed st.resume new
            = lastOf _ s.lastEventId (s.parser.feedData f data).calls
          rw [← hnew, lastOf_append, reading.resume]
        · show lastOf IosCall.asked st.retryMs new
            = lastOf _ s.retryMs (s.parser.feedData f data).calls
          rw [← hnew, lastOf_append, reading.retry]
  | asked n alone reading mode received failed timedOut block =>
      obtain rfl := alone.eq hi hlive
      rcases block with ⟨-, htask' | htask'⟩ | ⟨-, htask' | htask', -⟩ | ⟨status, hblock⟩
      · exact (hnot htask' fun h => by cases h).elim
      · exact (hnot htask' fun h => by cases h).elim
      · exact (hnot htask' fun h => by cases h).elim
      · exact (hnot htask' fun h => by cases h).elim
      · rw [hidle] at hblock
        cases hblock
  | told n alone reading mode block why =>
      obtain rfl := alone.eq hi hlive
      rcases why with ⟨-, -, htask' | htask'⟩ | ⟨-, -, htask'⟩
      · exact (hnot htask' fun h => by cases h).elim
      · exact (hnot htask' fun h => by cases h).elim
      · exact (hnot htask' fun h => by cases h).elim
  | between mode finished => exact absurd (finished i hi) hlive
  | completing finished => exact absurd (finished i hi) hlive
  | deciding finished => exact absurd (finished i hi) hlive
  | left finished => exact absurd (finished i hi) hlive
  | closed finished => exact absurd (finished i hi) hlive

/-- The end of a task, up to the test of `stopped`. -/
theorem Follows.didComplete (h : s.Follows st₀ reconnect st) (hidle : s.block = .idle) {i : Nat}
    (hi : i < s.requests) (htask : s.tasks i ≠ .completed) (error : Option Utf16) :
    ∃ st', (s.didComplete i error).Follows st₀ reconnect st' := by
  obtain ⟨alone, reading, told, mode, htold⟩ := h.stands.alive hi htask
  have hover := alone.finished
  have hkept : AttemptState.Kept (iosPolicy reconnect) st₀
      ((s.setTask i .completed).emit .disconnected).trace { st with mode := .ended told } := by
    apply h.kept.step
    unfold AttemptState.next
    rcases mode with mode | mode
    · rw [mode]
    · rw [mode]
  refine ⟨{ st with mode := .ended told }, ?_⟩
  unfold SseIOSClient.didComplete
  dsimp only
  split
  · rename_i hstopped
    exact ⟨hkept, .left hover alone.starts told rfl hidle hstopped, h.failures, h.reconnect⟩
  · exact ⟨hkept, .completing hover ⟨reading.1, reading.2, reading.3⟩ alone.starts
      (congrArg AttemptMode.ended htold) i error rfl, h.failures, h.reconnect⟩

/-- **One step.** -/
theorem Follows.step (h : s.Follows st₀ reconnect st) (f : Foundation) {a : IosStep}
    (hen : s.enabled a = true) : ∃ st', (s.step f a).Follows st₀ reconnect st' := by
  cases a with
  | start =>
      obtain ⟨-, hstarts⟩ := Bool.and_eq_true_iff.mp hen
      exact ⟨st, h.kept, h.stands.start (of_decide_eq_true hstarts), h.failures, h.reconnect⟩
  | watchdog i =>
      obtain ⟨hidle, hwaits⟩ := Bool.and_eq_true_iff.mp hen
      have hsame : (s.watchdog i).trace = s.trace ∧ (s.watchdog i).failedAttempts = s.failedAttempts
          ∧ (s.watchdog i).reconnect = s.reconnect := by
        unfold SseIOSClient.watchdog
        dsimp only
        split <;> exact ⟨rfl, rfl, rfl⟩
      refine ⟨st, ?_, h.stands.watchdog (of_decide_eq_true hidle) hwaits, ?_, ?_⟩
      · show AttemptState.Kept _ _ (s.watchdog i).trace _
        rw [hsame.1]
        exact h.kept
      · exact hsame.2.1.trans h.failures
      · exact hsame.2.2.trans h.reconnect
  | didReceiveResponse i status =>
      obtain ⟨hen, htask⟩ := Bool.and_eq_true_iff.mp hen
      obtain ⟨hidle, hi⟩ := Bool.and_eq_true_iff.mp hen
      have hsame : (s.didReceiveResponse i status).trace = s.trace
          ∧ (s.didReceiveResponse i status).failedAttempts = s.failedAttempts
          ∧ (s.didReceiveResponse i status).reconnect = s.reconnect := by
        unfold SseIOSClient.didReceiveResponse
        split <;> exact ⟨rfl, rfl, rfl⟩
      refine ⟨st, ?_, h.stands.didReceiveResponse (of_decide_eq_true hidle) (of_decide_eq_true hi)
        (of_decide_eq_true htask) status, ?_, ?_⟩
      · show AttemptState.Kept _ _ (s.didReceiveResponse i status).trace _
        rw [hsame.1]
        exact h.kept
      · exact hsame.2.1.trans h.failures
      · exact hsame.2.2.trans h.reconnect
  | didReceiveData i data =>
      obtain ⟨hen, htask⟩ := Bool.and_eq_true_iff.mp hen
      obtain ⟨hidle, hi⟩ := Bool.and_eq_true_iff.mp hen
      exact h.didReceiveData f (of_decide_eq_true hidle) (of_decide_eq_true hi)
        (of_decide_eq_true htask) data
  | didComplete i error =>
      obtain ⟨hen, htask⟩ := Bool.and_eq_true_iff.mp hen
      obtain ⟨hidle, hi⟩ := Bool.and_eq_true_iff.mp hen
      exact h.didComplete (of_decide_eq_true hidle) (of_decide_eq_true hi)
        (of_decide_eq_true htask) error
  | goOn random => exact h.goOn random
  | teardown =>
      obtain ⟨hidle, -⟩ := Bool.and_eq_true_iff.mp hen
      exact ⟨st, h.kept, h.stands.teardown (of_decide_eq_true hidle), h.failures, h.reconnect⟩
  | disconnect => exact ⟨st, h.kept, h.stands.disconnect, h.failures, h.reconnect⟩

end SseIOSClient

variable {f : Foundation} {lastEventId : Utf16} {reconnect : Bool} {retryMs : Int}
  {answers : Nat → Nat → Bool} {s : SseIOSClient}

theorem iosClient_follows (f : Foundation) (lastEventId : Utf16) (reconnect : Bool) (retryMs : Int)
    (answers : Nat → Nat → Bool) :
    (iosClient f lastEventId reconnect retryMs answers).Invariant
      (fun s => ∃ st, s.Follows (.start lastEventId retryMs) reconnect st) where
  init := by
    refine ⟨.start lastEventId retryMs, rfl, ?_, toInt32_zero.symm, rfl⟩
    exact .between rfl (fun i hi => absurd hi (Nat.not_lt_zero i)) ⟨rfl, rfl⟩ rfl
      (.inl ⟨rfl, Nat.le_refl 1⟩)
  step s a s' h hen hok := by
    obtain ⟨st, h⟩ := h
    cases hok
    exact h.step f hen

/-- What is heard of a task that ends anyway. -/
def quiet : IosEvent → Bool
  | .line _ => true
  | .disconnected => true
  | _ => false

/-- How much else the block may still say. -/
def IosBlock.owes : IosBlock → Nat
  | .idle => 0
  | .schedule => 0
  | _ => 1

namespace SseIOSClient

/-- What a stopped client has said since. -/
structure Silent (before : List IosEvent) (owed : Nat) (s : SseIOSClient) : Prop where
  stopped : s.stopped = true
  said : ∃ said, s.trace = before ++ said
    ∧ said.countP (fun e => !quiet e) + s.block.owes ≤ owed

variable {before : List IosEvent} {owed : Nat}

/-- More was said, within what the block owes. -/
theorem Silent.add (h : s.Silent before owed) {s' : SseIOSClient} (hstopped : s'.stopped = true)
    {more : List IosEvent} (htrace : s'.trace = s.trace ++ more)
    (howes : more.countP (fun e => !quiet e) + s'.block.owes ≤ s.block.owes) :
    s'.Silent before owed where
  stopped := hstopped
  said := by
    obtain ⟨said, hsaid, hcount⟩ := h.said
    refine ⟨said ++ more, by rw [htrace, hsaid, List.append_assoc], ?_⟩
    rw [List.countP_append]
    omega

/-- Nothing was said. -/
theorem Silent.frame (h : s.Silent before owed) {s' : SseIOSClient} (hstopped : s'.stopped = true)
    (htrace : s'.trace = s.trace) (howes : s'.block.owes ≤ s.block.owes) :
    s'.Silent before owed := by
  have hnothing : s'.trace = s.trace ++ [] := by rw [htrace, List.append_nil]
  apply h.add hstopped hnothing
  rw [List.countP_nil, Nat.zero_add]
  exact howes

theorem Silent.goOn (h : s.Silent before owed) (random : Fin 401) :
    (s.goOn random).Silent before owed := by
  unfold SseIOSClient.goOn
  cases hblock : s.block with
  | idle => exact h
  | startRequest => exact h.add h.stopped rfl (by rw [hblock]; exact Nat.le_refl 1)
  | timedOut n => exact h.add h.stopped rfl (by rw [hblock]; exact Nat.le_refl 1)
  | didReceiveResponse n status =>
      unfold receiveResponse
      dsimp only
      split
      · exact h.add h.stopped rfl (by rw [hblock]; exact Nat.le_refl 1)
      · exact h.add h.stopped rfl (by rw [hblock]; exact Nat.le_refl 1)
  | didComplete n error =>
      show ((s.complete error).run .schedule).Silent before owed
      rcases s.complete_cases error with hquiet | ⟨-, description, htold⟩
      · rw [hquiet]
        exact h.frame h.stopped rfl (Nat.zero_le _)
      · rw [htold]
        have hsaid : (s.emit (.error ⟨.failed description, s.status, s.reconnect, s.retryMs⟩)).trace
            = s.trace ++ [.error ⟨.failed description, s.status, s.reconnect, s.retryMs⟩] := rfl
        exact h.add h.stopped hsaid (by rw [hblock]; exact Nat.le_refl 1)
  | schedule =>
      show (s.run (if s.stopped then .idle else .reconnectOrClose)).Silent before owed
      rw [if_pos h.stopped]
      exact h.frame h.stopped rfl (Nat.zero_le _)
  | reconnectOrClose =>
      show ((s.reconnectOrClose random).run .idle).Silent before owed
      unfold SseIOSClient.reconnectOrClose
      dsimp only
      split
      · exact h.add h.stopped rfl (by rw [hblock]; exact Nat.le_refl 1)
      · exact h.add h.stopped rfl (by rw [hblock]; exact Nat.le_refl 1)

theorem Silent.step (h : s.Silent before owed) (f : Foundation) {a : IosStep}
    (hen : s.enabled a = true) : (s.step f a).Silent before owed := by
  have hstopped := h.stopped
  cases a with
  | start =>
      refine h.frame hstopped rfl ?_
      show (if s.stopped then IosBlock.idle else .startRequest).owes ≤ _
      rw [if_pos hstopped]
      exact Nat.zero_le _
  | watchdog i =>
      have hquiet : s.watchdog i = { s with watchdogs := Function.update s.watchdogs i false } := by
        unfold SseIOSClient.watchdog
        dsimp only
        rw [hstopped]
        rfl
      show (s.watchdog i).Silent before owed
      rw [hquiet]
      exact h.frame hstopped rfl (Nat.le_refl _)
  | didReceiveResponse i status =>
      have hrefused : s.didReceiveResponse i status = s.setTask i .refused := by
        unfold SseIOSClient.didReceiveResponse
        rw [hstopped]
        rfl
      show (s.didReceiveResponse i status).Silent before owed
      rw [hrefused]
      exact h.frame hstopped rfl (Nat.le_refl _)
  | didReceiveData i data =>
      -- `didReceiveData` does not test `stopped`
      refine h.add hstopped rfl ?_
      have hnone : ∀ lines : List IosCall,
          (lines.map AttemptEvent.line : List IosEvent).countP (fun e => !quiet e) = 0 := by
        intro lines
        rw [List.countP_map, List.countP_eq_zero]
        exact fun c _ => Bool.false_ne_true
      rw [hnone]
      exact Nat.le_of_eq (Nat.zero_add _)
  | didComplete i error =>
      have hover : s.didComplete i error = (s.setTask i .completed).emit .disconnected := by
        unfold SseIOSClient.didComplete
        exact if_pos hstopped
      show (s.didComplete i error).Silent before owed
      rw [hover]
      exact h.add hstopped rfl (Nat.le_of_eq (Nat.zero_add _))
  | goOn random => exact h.goOn random
  | teardown => exact h.frame hstopped rfl (Nat.le_refl _)
  | disconnect =>
      unfold enabled at hen
      rw [hstopped] at hen
      cases hen

end SseIOSClient

/-- **AFTER `disconnect`** the client says no more than the block that ran at that
moment still had to say, which is one thing at most; but for the lines of a task
that was open, and that it is disconnected.  In particular it sends no request,
opens no stream and reports neither an error nor CLOSED once the block is over. -/
theorem iosClient_stopped {s' : SseIOSClient} (hstopped : s.stopped = true) {as : List IosStep}
    (hrun : (iosClient f lastEventId reconnect retryMs answers).run s as = some s') :
    ∃ said, s'.trace = s.trace ++ said
      ∧ said.countP (fun e => !quiet e) + s'.block.owes ≤ s.block.owes
      ∧ s.block.owes ≤ 1 := by
  have howes : s.block.owes ≤ 1 := by
    unfold IosBlock.owes
    split <;> omega
  have hsilent : s'.Silent s.trace s.block.owes := by
    -- by induction on the run, from nothing said
    apply Machine.run_keeps _ ⟨hstopped, [], by simp, by simp⟩ hrun
    intro t a t' ht hen hok
    cases hok
    exact ht.step f hen
  obtain ⟨said, hsaid, hcount⟩ := hsilent.said
  exact ⟨said, hsaid, hcount, howes⟩

/-- A client that is stopped between `startRequest`'s test and its request. -/
theorem iosClient_stopped_starting :
    ∃ s s', (iosClient .strict [] true 3000 fun _ _ => true).run
          (iosClient .strict [] true 3000 fun _ _ => true).init [.start, .disconnect] = some s
      ∧ (iosClient .strict [] true 3000 fun _ _ => true).run s
          [.goOn 0, .teardown, .didReceiveResponse 0 200, .didComplete 0 none] = some s'
      ∧ s'.trace = [.request [], .disconnected]
      ∧ ∃ said, s'.trace = s.trace ++ said
        ∧ said.countP (fun e => !quiet e) + s'.block.owes ≤ s.block.owes
        ∧ s.block.owes ≤ 1 := by
  have hruns : ∃ s s', (iosClient .strict [] true 3000 fun _ _ => true).run
          (iosClient .strict [] true 3000 fun _ _ => true).init [.start, .disconnect] = some s
      ∧ (iosClient .strict [] true 3000 fun _ _ => true).run s
          [.goOn 0, .teardown, .didReceiveResponse 0 200, .didComplete 0 none] = some s'
      ∧ s.stopped = true ∧ s'.trace = [.request [], .disconnected] := ⟨_, _, rfl, rfl, rfl, rfl⟩
  obtain ⟨s, s', hstop, hrun, hstopped, htrace⟩ := hruns
  exact ⟨s, s', hstop, hrun, htrace, iosClient_stopped hstopped hrun⟩

/-! ## §5. The sessions. -/

namespace SseIOSClient

/-- Each session is the current one or was invalidated once; behind the block of
`disconnect` there is none. -/
structure Sessions (s : SseIOSClient) : Prop where
  task : s.session = s.task
  all : (s.invalidated ++ s.session.toList).Perm (List.range s.requests)
  tornDown : s.stopped = true → s.teardown = false → s.session = none ∧ s.block = .idle

/-- A step that leaves the sessions alone. -/
theorem Sessions.frame (h : s.Sessions) {s' : SseIOSClient} (hsession : s'.session = s.session)
    (htask : s'.task = s.task) (hinvalidated : s'.invalidated = s.invalidated)
    (hrequests : s'.requests = s.requests)
    (htorn : s'.stopped = true → s'.teardown = false →
      s.stopped = true ∧ s.teardown = false ∧ (s.block = .idle → s'.block = .idle)) :
    s'.Sessions where
  task := by rw [hsession, htask, h.task]
  all := by
    rw [hinvalidated, hsession, hrequests]
    exact h.all
  tornDown hstopped hteardown := by
    obtain ⟨hs, ht, hblock⟩ := htorn hstopped hteardown
    obtain ⟨hnone, hidle⟩ := h.tornDown hs ht
    exact ⟨hsession.trans hnone, hblock hidle⟩

/-- The session is invalidated. -/
theorem Sessions.invalidate (h : s.Sessions)
    (htorn : s.stopped = true → s.teardown = false → s.block = .idle) : s.invalidate.Sessions where
  task := rfl
  all := by
    show ((s.invalidated ++ s.session.toList) ++ []).Perm _
    rw [List.append_nil]
    exact h.all
  tornDown hstopped hteardown := ⟨rfl, htorn hstopped hteardown⟩

/-- A new session takes the place of none. -/
theorem Sessions.startRequest (h : s.Sessions) (htask : s.task = none)
    (hblock : s.block = .startRequest) : (s.startRequest.run .idle).Sessions where
  task := rfl
  all := by
    have hall := h.all
    rw [h.task, htask] at hall
    show (s.invalidated ++ [s.requests]).Perm (List.range (s.requests + 1))
    rw [List.range_succ]
    exact List.Perm.append_right _ (by simpa using hall)
  tornDown hstopped hteardown := by
    -- the block of `disconnect` waits until this one is over
    have hidle := (h.tornDown hstopped hteardown).2
    rw [hblock] at hidle
    cases hidle

theorem Sessions.goOn (h : s.Sessions) (hrunning : s.Running st s.block) (hbusy : s.block ≠ .idle)
    (random : Fin 401) : (s.goOn random).Sessions := by
  -- what runs has kept the block of `disconnect` waiting
  have hwaits : s.stopped = true → s.teardown = false → False :=
    fun hstopped hteardown => hbusy (h.tornDown hstopped hteardown).2
  unfold SseIOSClient.goOn
  cases hblock : s.block with
  | idle => exact absurd hblock hbusy
  | startRequest =>
      rw [hblock] at hrunning
      exact h.startRequest hrunning.2.2.2.2 hblock
  | timedOut n => exact h.frame rfl rfl rfl rfl (fun hs ht => (hwaits hs ht).elim)
  | didReceiveResponse n status =>
      unfold receiveResponse
      dsimp only
      split
      · exact h.frame rfl rfl rfl rfl (fun hs ht => (hwaits hs ht).elim)
      · exact h.frame rfl rfl rfl rfl (fun hs ht => (hwaits hs ht).elim)
  | didComplete n error =>
      have hover (t : SseIOSClient) (ht : t.Sessions)
          (htorn : t.stopped = true → t.teardown = false → False) :
          (t.takeOver.run .schedule).Sessions :=
        Sessions.invalidate
          (s := { t with
            firstResponseTimedOut := false
            retryMs := t.parser.retryMs
            lastEventId :=
              if t.parser.hasCommittedLastEventId then t.parser.storedLastEventId
              else t.lastEventId
            block := .schedule })
          (ht.frame rfl rfl rfl rfl (fun hs ht => (htorn hs ht).elim))
          (fun hs ht => (htorn hs ht).elim)
      show ((s.complete error).run .schedule).Sessions
      rcases s.complete_cases error with hquiet | ⟨-, description, htold⟩
      · rw [hquiet]
        exact hover s h hwaits
      · rw [htold]
        exact hover _ (h.frame rfl rfl rfl rfl (fun hs ht => ⟨hs, ht, id⟩)) hwaits
  | schedule => exact h.frame rfl rfl rfl rfl (fun hs ht => (hwaits hs ht).elim)
  | reconnectOrClose =>
      show ((s.reconnectOrClose random).run .idle).Sessions
      unfold SseIOSClient.reconnectOrClose
      dsimp only
      split
      · exact h.frame rfl rfl rfl rfl (fun hs ht => (hwaits hs ht).elim)
      · exact h.frame rfl rfl rfl rfl (fun hs ht => (hwaits hs ht).elim)

theorem Sessions.step (h : s.Sessions) (hstands : s.Stands st) (f : Foundation) {a : IosStep}
    (hen : s.enabled a = true) : (s.step f a).Sessions := by
  cases a with
  | start =>
      refine h.frame rfl rfl rfl rfl (fun hs ht => ⟨hs, ht, fun _ => ?_⟩)
      have hs : s.stopped = true := hs
      show (if s.stopped then IosBlock.idle else .startRequest) = _
      rw [if_pos hs]
  | watchdog i =>
      show (s.watchdog i).Sessions
      unfold SseIOSClient.watchdog
      dsimp only
      split
      · rename_i hcond
        refine h.frame rfl rfl rfl rfl (fun hs _ => ?_)
        have hs : s.stopped = true := hs
        rw [hs] at hcond
        cases hcond
      · exact h.frame rfl rfl rfl rfl (fun hs ht => ⟨hs, ht, id⟩)
  | didReceiveResponse i status =>
      show (s.didReceiveResponse i status).Sessions
      unfold SseIOSClient.didReceiveResponse
      split
      · exact h.frame rfl rfl rfl rfl (fun hs ht => ⟨hs, ht, id⟩)
      · rename_i hcond
        refine h.frame rfl rfl rfl rfl (fun hs _ => ?_)
        have hs : s.stopped = true := hs
        rw [hs] at hcond
        exact absurd rfl hcond
  | didReceiveData i data => exact h.frame rfl rfl rfl rfl (fun hs ht => ⟨hs, ht, id⟩)
  | didComplete i error =>
      show (s.didComplete i error).Sessions
      unfold SseIOSClient.didComplete
      dsimp only
      split
      · exact h.frame rfl rfl rfl rfl (fun hs ht => ⟨hs, ht, id⟩)
      · rename_i hcond
        exact h.frame rfl rfl rfl rfl (fun hs _ => absurd hs hcond)
  | goOn random => exact h.goOn hstands.running (of_decide_eq_true hen) random
  | teardown =>
      obtain ⟨hidle, -⟩ := Bool.and_eq_true_iff.mp hen
      have hidle : s.block = .idle := of_decide_eq_true hidle
      refine ⟨rfl, ?_, fun _ _ => ⟨rfl, hidle⟩⟩
      show ((s.invalidated ++ s.session.toList) ++ []).Perm _
      rw [List.append_nil]
      exact h.all
  | disconnect => exact ⟨h.task, h.all, fun _ ht => by cases ht⟩

end SseIOSClient

/-- **NO SESSION IS LEFT BEHIND**: each session is invalidated once at most, the
current one not yet, all others are; and once the block of `disconnect` has run,
every session is. -/
theorem iosClient_sessions
    (h : (iosClient f lastEventId reconnect retryMs answers).Reachable s) :
    s.invalidated.Nodup
      ∧ (∀ i, s.session = some i → i ∉ s.invalidated)
      ∧ (∀ i < s.requests, s.session = some i ∨ i ∈ s.invalidated)
      ∧ (s.stopped = true → s.teardown = false → ∀ i < s.requests, i ∈ s.invalidated) := by
  have hinvariant : (iosClient f lastEventId reconnect retryMs answers).Invariant
      (fun s => (∃ st, s.Follows (.start lastEventId retryMs) reconnect st) ∧ s.Sessions) := {
    init := ⟨(iosClient_follows f lastEventId reconnect retryMs answers).init,
      ⟨rfl, List.Perm.refl _, fun hs => by cases hs⟩⟩
    step := fun s a s' ⟨⟨st, hfollows⟩, hsessions⟩ hen hok => by
      cases hok
      exact ⟨hfollows.step f hen, hsessions.step hfollows.stands f hen⟩ }
  obtain ⟨-, hsessions⟩ := hinvariant.reachable h
  have hnodup : (s.invalidated ++ s.session.toList).Nodup :=
    hsessions.all.nodup_iff.mpr List.nodup_range
  have hmem (i : Nat) (hi : i < s.requests) : i ∈ s.invalidated ∨ i ∈ s.session.toList :=
    List.mem_append.mp (hsessions.all.mem_iff.mpr (List.mem_range.mpr hi))
  refine ⟨(List.nodup_append.mp hnodup).1, ?_, ?_, ?_⟩
  · intro i hi hinvalidated
    refine (List.nodup_append.mp hnodup).2.2 i hinvalidated i ?_ rfl
    rw [hi]
    exact List.mem_singleton_self i
  · intro i hi
    rcases hmem i hi with hinvalidated | hsession
    · exact .inr hinvalidated
    · exact .inl (Option.mem_toList.mp hsession)
  · intro hstopped hteardown i hi
    rcases hmem i hi with hinvalidated | hsession
    · exact hinvalidated
    · rw [(hsessions.tornDown hstopped hteardown).1] at hsession
      cases hsession

/-- Two sessions: the first is finished, the second is taken away. -/
theorem iosClient_sessions_both :
    ∃ s, (iosClient .strict [] true 3000 fun _ _ => true).Reachable s ∧ s.requests = 2
      ∧ ∀ i < s.requests, i ∈ s.invalidated := by
  have hruns : ∃ s, (iosClient .strict [] true 3000 fun _ _ => true).run
      (iosClient .strict [] true 3000 fun _ _ => true).init
        [.start, .goOn 0, .didComplete 0 none, .goOn 0, .goOn 0, .goOn 0, .start, .disconnect,
          .goOn 0, .teardown] = some s
      ∧ s.requests = 2 ∧ s.stopped = true ∧ s.teardown = false := ⟨_, rfl, rfl, rfl, rfl⟩
  obtain ⟨s, hrun, htwo, hstopped, hteardown⟩ := hruns
  exact ⟨s, ⟨_, hrun⟩, htwo, (iosClient_sessions ⟨_, hrun⟩).2.2.2 hstopped hteardown⟩

end DefoldSSE
