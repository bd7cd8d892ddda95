/-
  DefoldSSE.Html5.AttemptProtocol — what the calls of `Module.SSEExt.connect`
  report and ask for, over every order of promises, timers and `disconnect`.

  `connect` keeps its state in the client, whatever call it is.  One call at a
  time is not over (`Alone`), and the controller of the client is the one of that
  call; so `abort` hits the right one, and behind it there are only rejections.
-/
import DefoldSSE.Html5.Attempts

namespace DefoldSSE

open CLib

/-- The id that a call commits. -/
def Html5Call.committed : Html5Call → Option Utf16
  | .callLastEventId id => some id
  | _ => none

/-- The delay that a call sets. -/
def Html5Call.asked : Html5Call → Option Int
  | .setRetryMs retryMs => some retryMs
  | _ => none

/-- An open stream is lost by what was thrown, and by nothing else. -/
def Html5ErrorKind.comes : AttemptMode → Html5ErrorKind → Bool
  | .asked _, .httpStatus status => !(200 ≤ status && status < 300)
  | .asked _, .noBody => true
  | .asked _, .timedOut => true
  | .asked _, .failed _ => true
  | .opened _, .failed _ => true
  | _, _ => false

/-- What is left to the HTML5 client: an error comes before the end of its
attempt; a delay is a share of the target of the desktop, between 4/5 and 6/5,
rounded down. -/
def html5Policy (reconnect : Bool) : AttemptPolicy Utf16 Html5Call Html5Error Int where
  committed := Html5Call.committed
  asked := Html5Call.asked
  accepts status := 200 ≤ status && status < 300
  errs mode error := (error.reconnecting == reconnect) && error.kind.comes mode
  reconnect := reconnect
  delays retryMs failures delay :=
    decide (4 * targetDelay retryMs failures ≤ 5 * (delay + 1))
      && decide (5 * delay ≤ 6 * targetDelay retryMs failures)

/-- The product with a factor between 0.8 and 1.2, rounded down. -/
def Jitters (jitter : Nat → Int → Int) : Prop :=
  ∀ n delay, 0 ≤ delay → 4 * delay ≤ 5 * (jitter n delay + 1) ∧ 5 * jitter n delay ≤ 6 * delay

/-! ## §1. What the lines leave in the client. -/

namespace Html5Client

/-- The client has made calls, and holds the last id and the last delay of
them. -/
structure Grows (c c' : Html5Client) : Prop where
  calls : ∃ new, c'.calls = c.calls ++ new
    ∧ c'.lastEventId = lastOf Html5Call.committed c.lastEventId new
    ∧ c'.retryMs = lastOf Html5Call.asked c.retryMs new
  reconnect : c'.reconnect = c.reconnect

variable {c c' : Html5Client}

theorem Grows.refl (c : Html5Client) : c.Grows c where
  calls := ⟨[], (List.append_nil _).symm, rfl, rfl⟩
  reconnect := rfl

/-- One more call. -/
theorem Grows.call (h : c.Grows c') {c'' : Html5Client} {x : Html5Call}
    (hcalls : c''.calls = c'.calls ++ [x])
    (hid : c''.lastEventId = x.committed.getD c'.lastEventId)
    (hretry : c''.retryMs = x.asked.getD c'.retryMs) (hreconnect : c''.reconnect = c'.reconnect) :
    c.Grows c'' where
  calls := by
    obtain ⟨new, hnew, hnewId, hnewRetry⟩ := h.calls
    refine ⟨new ++ [x], by rw [hcalls, hnew, List.append_assoc], ?_, ?_⟩
    · rw [hid, hnewId, lastOf_concat]
    · rw [hretry, hnewRetry, lastOf_concat]
  reconnect := hreconnect.trans h.reconnect

/-- No call. -/
theorem Grows.frame (h : c.Grows c') {c'' : Html5Client} (hcalls : c''.calls = c'.calls)
    (hid : c''.lastEventId = c'.lastEventId) (hretry : c''.retryMs = c'.retryMs)
    (hreconnect : c''.reconnect = c'.reconnect) : c.Grows c'' where
  calls := by
    rw [hcalls, hid, hretry]
    exact h.calls
  reconnect := hreconnect.trans h.reconnect

theorem Grows.poison (h : c.Grows c') (message : String) : c.Grows (c'.poison message) :=
  h.call rfl rfl rfl rfl

theorem Grows.commitPending (h : c.Grows c') : c.Grows c'.commitPending := by
  unfold Html5Client.commitPending
  split
  · split
    · exact h
    · exact h.call rfl rfl rfl rfl
  · exact h

theorem Grows.dispatch (h : c.Grows c') : c.Grows c'.dispatch := by
  by_cases hpoisoned : c'.eventPoisoned = true
  · simp only [Html5Client.dispatch, if_pos hpoisoned]
    exact h.frame rfl rfl rfl rfl
  by_cases hdata : c'.data.length = 0
  · rw [dispatch_checkpoint c' hpoisoned hdata]
    split
    · exact h.commitPending.frame rfl rfl rfl rfl
    · exact h.frame rfl rfl rfl rfl
  · obtain ⟨enqueued, henqueued⟩ : ∃ enqueued, c'.answers (c'.calls.countP isMessage) = enqueued :=
      ⟨_, rfl⟩
    rw [dispatch_message c' hpoisoned hdata henqueued]
    have hoffered : c.Grows (c'.offered enqueued) := h.call rfl rfl rfl rfl
    split
    · exact hoffered.commitPending.frame rfl rfl rfl rfl
    · exact hoffered.frame rfl rfl rfl rfl

theorem Grows.processLine (h : c.Grows c') (line : Utf16) : c.Grows (c'.processLine line) := by
  unfold Html5Client.processLine
  dsimp only
  -- without a name for it the number would be evaluated
  generalize clampRetry (parseInt _) = retryMs
  split
  · exact h.dispatch
  · repeat' split
    all_goals first
      | exact h
      | exact h.poison _
      | exact h.frame rfl rfl rfl rfl
      | exact h.call rfl rfl rfl rfl

theorem Grows.lineCall (h : c.Grows c') (x : LineCall) : c.Grows (c'.lineCall x) := by
  cases x with
  | processLine line => exact h.processLine line
  | poison message => exact h.poison message

end Html5Client

namespace StreamLoop

variable {c : Html5Client} {s : StreamLoop}

theorem grows_readLine (h : c.Grows s.client) (line : Utf16) :
    c.Grows (s.readLine line).client := by
  unfold readLine
  split
  · exact h.frame rfl rfl rfl rfl
  split
  · exact h.lineCall (.poison lineTooLong)
  · exact h.lineCall (.processLine line)

theorem grows_readLines (h : c.Grows s.client) (lines : List Utf16) :
    c.Grows (lines.foldl readLine s).client := by
  induction lines generalizing s with
  | nil => exact h
  | cons line lines ih => exact ih (grows_readLine h line)

theorem grows_readChunk (h : c.Grows s.client) (chunk : Utf16) :
    c.Grows (s.readChunk chunk).client := by
  unfold readChunk
  dsimp only
  generalize ((s.pending ++ chunk).splitOn 10).getLastD [] = pending
  have hread := grows_readLines (s := { s with pending := pending }) h
    ((s.pending ++ chunk).splitOn 10).dropLast
  unfold capPending
  split
  · dsimp only
    split
    · exact (hread.lineCall (.poison lineTooLong)).frame rfl rfl rfl rfl
    · exact hread
  · exact hread

theorem grows_finish (h : c.Grows s.client) (flush : Utf16) : c.Grows (s.finish flush).client := by
  unfold finish
  dsimp only
  split
  · split
    · exact h.lineCall (.poison lineTooLong)
    · exact h.lineCall (.processLine (s.pending ++ flush))
  · exact h

end StreamLoop

/-! ## §2. Where the page stands. -/

namespace Html5Page

/-- Call `n` is the last, the others are over, and the controller is its own. -/
structure Alone (s : Html5Page) (n : Nat) : Prop where
  calls : s.calls = n + 1
  others : ∀ i, i ≠ n → s.runs i = .finished
  connects : s.connects = 0
  controller : s.controller = some n
  /-- `disconnect` has aborted it. -/
  aborted : s.stopped = true → s.aborted n = true

/-- Every call is over. -/
def Over (s : Html5Page) : Prop := ∀ i, s.runs i = .finished

/-- Id and delay are those of the client. -/
structure Held (s : Html5Page) (st : AttemptState Utf16) : Prop where
  resume : st.resume = s.loop.client.lastEventId
  retry : st.retryMs = s.loop.client.retryMs

/-- The page, as the protocol sees it. -/
inductive Stands (s : Html5Page) (st : AttemptState Utf16) : Prop where
  | between (mode : st.mode = .between) (finished : s.Over) (held : s.Held st)
      (connects : s.connects ≤ 1)
  | fetching (n : Nat) (alone : s.Alone n) (run : s.runs n = .fetching) (held : s.Held st)
      (mode : st.mode = .asked false) (got : s.gotResponse = false)
      (timedOut : s.firstResponseTimedOut = true → s.aborted n = true)
  | reading (n : Nat) (alone : s.Alone n) (run : s.runs n = .reading) (held : s.Held st)
      (mode : st.mode = .opened false) (got : s.gotResponse = true)
      (timedOut : s.firstResponseTimedOut = false)
  /-- Closed, or stopped. -/
  | gone (finished : s.Over) (connects : s.connects = 0)

/-- The client has kept the protocol, and stands where the protocol does. -/
structure Follows (st₀ : AttemptState Utf16) (reconnect : Bool) (s : Html5Page)
    (st : AttemptState Utf16) : Prop where
  kept : AttemptState.Kept (html5Policy reconnect) st₀ s.trace st
  stands : s.Stands st
  failures : st.failures = s.failedAttempts
  reconnect : s.loop.client.reconnect = reconnect
  /-- A watchdog that waits is that of a call that is not over. -/
  watchdogs : ∀ i, s.watchdogs i = true → s.runs i ≠ .finished

variable {st₀ st : AttemptState Utf16} {reconnect : Bool} {s : Html5Page}

theorem Alone.eq {n i : Nat} (h : s.Alone n) (hi : s.runs i ≠ .finished) : i = n := by
  by_cases hin : i = n
  · exact hin
  · exact absurd (h.others i hin) hi

theorem Alone.settle {n : Nat} (h : s.Alone n) : (s.settle n).Over := by
  intro i
  show Function.update s.runs n .finished i = _
  by_cases hin : i = n
  · rw [hin, Function.update_self]
  · rw [Function.update_of_ne hin]
    exact h.others i hin

theorem abort_eq {n : Nat} (h : s.controller = some n) :
    s.abort = { s with aborted := Function.update s.aborted n true } := by
  unfold Html5Page.abort
  rw [h]

/-- A delay that the client computes is one of its policy. -/
theorem computeRetryDelay_near {jitter : Nat → Int → Int} (hjitter : Jitters jitter)
    (reconnect : Bool) (n : Nat) (retryMs : Int) (failures : Nat) :
    (html5Policy reconnect).delays retryMs failures
      (computeRetryDelay (jitter n) retryMs failures) = true := by
  have htarget : computeRetryDelay (jitter n) retryMs failures
      = if jitter n (targetDelay retryMs failures) < 500 then 500
        else jitter n (targetDelay retryMs failures) := by
    rw [← nominalDelay_eq]
    unfold computeRetryDelay nominalDelay retryBase html5RetryMinMs html5RetryMaxMs
      SSE_DESKTOP_RETRY_MIN_MS SSE_DESKTOP_RETRY_MAX_MS
    simp only [ge_iff_le, Int.not_le]
    rfl
  have hbounds := nominalDelay_bounds retryMs failures
  rw [nominalDelay_eq] at hbounds
  obtain ⟨hlo, hhi⟩ := hjitter n (targetDelay retryMs failures) (by omega)
  rw [htarget, if_neg (by omega)]
  show (decide _ && decide _) = true
  rw [decide_eq_true hlo, decide_eq_true hhi]
  rfl

/-- Call `n` is between two `await`s, the client not stopped. -/
structure Runs (st₀ : AttemptState Utf16) (reconnect : Bool) (n : Nat) (s : Html5Page)
    (st : AttemptState Utf16) : Prop where
  kept : AttemptState.Kept (html5Policy reconnect) st₀ s.trace st
  alone : s.Alone n
  held : s.Held st
  failures : st.failures = s.failedAttempts
  reconnect : s.loop.client.reconnect = reconnect
  watchdogs : ∀ i, s.watchdogs i = true → i = n
  stopped : s.stopped = false

/-! ## §3. What a call does between two `await`s. -/

variable {n : Nat}

theorem Runs.alone' (h : s.Runs st₀ reconnect n st) {s' : Html5Page} (hcalls : s'.calls = s.calls)
    (hruns : s'.runs = s.runs) (hconnects : s'.connects = s.connects)
    (hcontroller : s'.controller = s.controller) (hstopped : s'.stopped = s.stopped) :
    s'.Alone n where
  calls := hcalls.trans h.alone.calls
  others i hi := by
    rw [hruns]
    exact h.alone.others i hi
  connects := hconnects.trans h.alone.connects
  controller := hcontroller.trans h.alone.controller
  aborted hs := by
    rw [hstopped, h.stopped] at hs
    cases hs

/-- An error. -/
theorem Runs.error (h : s.Runs st₀ reconnect n st) {kind : Html5ErrorKind} {status : Int}
    {told : AttemptMode}
    (hkept : AttemptState.Kept (html5Policy reconnect) st₀
      (s.callError kind status s.loop.client.reconnect).trace { st with mode := told }) :
    (s.callError kind status s.loop.client.reconnect).Runs st₀ reconnect n
      { st with mode := told } where
  kept := hkept
  alone := h.alone' rfl rfl rfl rfl rfl
  held := ⟨h.held.1, h.held.2⟩
  failures := h.failures
  reconnect := h.reconnect
  watchdogs := h.watchdogs
  stopped := h.stopped

/-- What the client reports about reconnecting is so. -/
theorem Runs.errs (h : s.Runs st₀ reconnect n st) {mode : AttemptMode} {kind : Html5ErrorKind}
    (hkind : kind.comes mode = true) (status : Int) :
    (html5Policy reconnect).errs mode
      ⟨kind, status, s.loop.client.reconnect, s.loop.client.retryMs⟩ = true := by
  show ((s.loop.client.reconnect == reconnect) && kind.comes mode) = true
  rw [h.reconnect, beq_self_eq_true, hkind]
  rfl

theorem Runs.error_asked (h : s.Runs st₀ reconnect n st) (hmode : st.mode = .asked false)
    (kind : Html5ErrorKind) (status : Int) (hkind : kind.comes (.asked false) = true) :
    (s.callError kind status s.loop.client.reconnect).Runs st₀ reconnect n
      { st with mode := .asked true } :=
  h.error (h.kept.error_asked hmode (h.errs hkind status))

theorem Runs.error_opened (h : s.Runs st₀ reconnect n st) (hmode : st.mode = .opened false)
    (kind : Html5ErrorKind) (status : Int) (hkind : kind.comes (.opened false) = true) :
    (s.callError kind status s.loop.client.reconnect).Runs st₀ reconnect n
      { st with mode := .opened true } :=
  h.error (h.kept.error_opened hmode (h.errs hkind status))

/-- The lines of a chunk. -/
theorem Runs.setLoop (h : s.Runs st₀ reconnect n st) (hmode : st.mode = .opened false)
    {loop : StreamLoop} (hgrows : s.loop.client.Grows loop.client) :
    ∃ st', (s.setLoop loop).Runs st₀ reconnect n st' ∧ st'.mode = .opened false := by
  obtain ⟨new, hnew, hid, hretry⟩ := hgrows.calls
  have hdrop : loop.client.calls.drop s.loop.client.calls.length = new := by
    rw [hnew]
    exact List.drop_left
  refine ⟨{ st with
    resume := lastOf Html5Call.committed st.resume new
    retryMs := lastOf Html5Call.asked st.retryMs new }, ?_, hmode⟩
  exact
    { kept := by
        show AttemptState.Kept _ _ (s.trace ++ (loop.client.calls.drop _).map _) _
        rw [hdrop]
        exact h.kept.lines hmode new
      alone := h.alone' rfl rfl rfl rfl rfl
      held := ⟨by rw [h.held.resume]; exact hid.symm, by rw [h.held.retry]; exact hretry.symm⟩
      failures := h.failures
      reconnect := hgrows.reconnect.trans h.reconnect
      watchdogs := h.watchdogs
      stopped := h.stopped }

/-- `scheduleReconnectOrClose` and `finally`. -/
theorem Runs.endAttempt (h : s.Runs st₀ reconnect n st) {told : Bool}
    (hmode : st.mode = .asked told ∨ st.mode = .opened told) {jitter : Nat → Int → Int}
    (hjitter : Jitters jitter) :
    ∃ st', ((s.scheduleReconnectOrClose jitter).settle n).Follows st₀ reconnect st' := by
  have hreconnect := h.reconnect
  have hended : AttemptState.Kept (html5Policy reconnect) st₀ (s.emit .disconnected).trace
      { st with mode := .ended told } := by
    apply h.kept.step
    unfold AttemptState.next
    rcases hmode with hmode | hmode
    · rw [hmode]
    · rw [hmode]
  have hover := h.alone.settle
  have hwatchdogs : ∀ i, Function.update s.watchdogs n false i = true →
      Function.update s.runs n .finished i ≠ .finished := by
    intro i hi
    by_cases hin : i = n
    · rw [hin, Function.update_self] at hi
      cases hi
    · rw [Function.update_of_ne hin] at hi
      exact absurd (h.watchdogs i hi) hin
  have hschedule : s.scheduleReconnectOrClose jitter
      = if !s.loop.client.reconnect then (s.emit .disconnected).emit .closed
        else
          { s.emit .disconnected with
            failedAttempts := s.failedAttempts + 1
            connects := s.connects + 1
            draws := s.draws + 1 }.emit
          (.retry (computeRetryDelay (jitter s.draws) s.loop.client.retryMs
            (s.failedAttempts + 1))) := by
    unfold scheduleReconnectOrClose
    show (if s.stopped then _ else if !s.loop.client.reconnect then _ else _) = _
    rw [h.stopped]
    rfl
  cases reconnect with
  | false =>
      rw [hschedule, hreconnect]
      exact ⟨{ st with mode := .closed }, hended.step rfl, .gone hover h.alone.connects, h.failures,
        hreconnect, hwatchdogs⟩
  | true =>
      rw [hschedule, hreconnect]
      refine ⟨{ st with mode := .between, failures := st.failures + 1 }, ?_, ?_,
        congrArg (· + 1) h.failures, hreconnect, hwatchdogs⟩
      · apply hended.step
        have hdelay := computeRetryDelay_near hjitter true s.draws s.loop.client.retryMs
          (s.failedAttempts + 1)
        rw [← h.held.retry, ← h.failures] at hdelay ⊢
        exact if_pos ⟨rfl, hdelay⟩
      · refine .between rfl hover ⟨h.held.1, h.held.2⟩ ?_
        show s.connects + 1 ≤ 1
        rw [h.alone.connects]

/-- Behind the loop. -/
theorem Runs.endStream (h : s.Runs st₀ reconnect n st) (hmode : st.mode = .opened false)
    {jitter : Nat → Int → Int} (hjitter : Jitters jitter) (flush : Utf16) :
    ∃ st', (s.endStream jitter n flush).Follows st₀ reconnect st' := by
  obtain ⟨st', hruns, hmode'⟩ := h.setLoop hmode
    (StreamLoop.grows_finish (Html5Client.Grows.refl s.loop.client) flush)
  have hend : s.endStream jitter n flush
      = ((s.setLoop (s.loop.finish flush)).scheduleReconnectOrClose jitter).settle n := by
    unfold Html5Page.endStream
    dsimp only
    rw [hruns.stopped]
    rfl
  rw [hend]
  exact hruns.endAttempt (.inr hmode') hjitter

/-- The loop goes on. -/
theorem Runs.loopTest (h : s.Runs st₀ reconnect n st) (hmode : st.mode = .opened false)
    (hgot : s.gotResponse = true) (htimed : s.firstResponseTimedOut = false)
    (jitter : Nat → Int → Int) (flush : Utf16) :
    (s.loopTest jitter n flush).Follows st₀ reconnect st := by
  have hnext : s.loopTest jitter n flush
      = { s with runs := Function.update s.runs n .reading } := by
    unfold Html5Page.loopTest
    rw [h.stopped]
    rfl
  have halone : Alone { s with runs := Function.update s.runs n .reading } n :=
    { calls := h.alone.calls
      others := fun i hi => by
        show Function.update s.runs n .reading i = _
        rw [Function.update_of_ne hi]
        exact h.alone.others i hi
      connects := h.alone.connects
      controller := h.alone.controller
      aborted := h.alone.aborted }
  rw [hnext]
  refine ⟨h.kept, .reading n halone (Function.update_self ..) ⟨h.held.1, h.held.2⟩ hmode hgot
    htimed, h.failures, h.reconnect, ?_⟩
  intro i hi
  rw [h.watchdogs i hi]
  show Function.update s.runs n .reading n ≠ .finished
  rw [Function.update_self]
  exact fun h => by cases h

/-! ## §4. The steps. -/

theorem Follows.connect (h : s.Follows st₀ reconnect st) (hconnects : 0 < s.connects)
    (supported : Bool) : ∃ st', (s.connect supported).Follows st₀ reconnect st' := by
  unfold Html5Page.connect
  dsimp only
  cases h.stands with
  | between mode finished held connects =>
      have hnone : s.connects - 1 = 0 := by omega
      -- stopped, not supported, or a new call
      split
      · exact ⟨st, h.kept, .gone finished hnone, h.failures, h.reconnect, h.watchdogs⟩
      · split
        · refine ⟨{ st with mode := .closed }, ?_, .gone finished hnone, h.failures, h.reconnect,
            h.watchdogs⟩
          exact h.kept.step (if_pos mode)
        · rename_i hstopped _
          refine ⟨{ st with mode := .asked false }, ?_, ?_, h.failures, h.reconnect, ?_⟩
          · apply h.kept.step
            show (if st.mode = .between ∧ s.loop.client.lastEventId = st.resume then _ else _) = _
            exact if_pos ⟨mode, held.resume.symm⟩
          · refine .fetching s.calls ⟨rfl, ?_, hnone, rfl, fun hs => absurd hs hstopped⟩
              (Function.update_self ..) ⟨held.1, held.2⟩ rfl rfl (fun htimed => by cases htimed)
            intro i hi
            show Function.update s.runs s.calls .fetching i = _
            rw [Function.update_of_ne hi]
            exact finished i
          · intro i
            show Function.update s.watchdogs s.calls true i = true →
              Function.update s.runs s.calls .fetching i ≠ .finished
            by_cases hi : i = s.calls
            · rw [hi, Function.update_self, Function.update_self]
              exact fun _ hover => by cases hover
            · rw [Function.update_of_ne hi, Function.update_of_ne hi]
              exact h.watchdogs i
  | fetching n alone => exact absurd alone.connects (by omega)
  | reading n alone => exact absurd alone.connects (by omega)
  | gone finished connects => exact absurd connects (by omega)

/-- A watchdog that waits for the response aborts the call it was made for. -/
theorem Follows.watchdog (h : s.Follows st₀ reconnect st) {i : Nat}
    (hwaits : s.watchdogs i = true) : (s.watchdog i).Follows st₀ reconnect st := by
  have hlive := h.watchdogs i hwaits
  have hkeeps : ∀ j, Function.update s.watchdogs i false j = true → s.runs j ≠ .finished := by
    intro j hj
    by_cases hji : j = i
    · rw [hji, Function.update_self] at hj
      cases hj
    · rw [Function.update_of_ne hji] at hj
      exact h.watchdogs j hj
  cases h.stands with
  | fetching n alone run held mode got timedOut =>
      unfold Html5Page.watchdog
      dsimp only
      split
      · -- nothing is said here: the abort comes back as a rejection
        have hown : ({ s with
            watchdogs := Function.update s.watchdogs i false
            firstResponseTimedOut := true } : Html5Page).controller = some n := alone.controller
        rw [abort_eq hown]
        refine ⟨h.kept, ?_, h.failures, h.reconnect, hkeeps⟩
        exact .fetching n
          ⟨alone.1, alone.2, alone.3, alone.4, fun _ => Function.update_self ..⟩ run
          ⟨held.1, held.2⟩ mode got (fun _ => Function.update_self ..)
      · exact ⟨h.kept, .fetching n ⟨alone.1, alone.2, alone.3, alone.4, alone.5⟩ run
          ⟨held.1, held.2⟩ mode got timedOut, h.failures, h.reconnect, hkeeps⟩
  | reading n alone run held mode got timedOut =>
      -- the response came before it
      have hquiet : s.watchdog i
          = { s with watchdogs := Function.update s.watchdogs i false } := by
        unfold Html5Page.watchdog
        refine if_neg ?_
        show ¬ (!s.stopped && !s.gotResponse) = true
        rw [got, Bool.not_true, Bool.and_false]
        exact Bool.false_ne_true
      rw [hquiet]
      exact ⟨h.kept, .reading n ⟨alone.1, alone.2, alone.3, alone.4, alone.5⟩ run
        ⟨held.1, held.2⟩ mode got timedOut, h.failures, h.reconnect, hkeeps⟩
  | between mode finished => exact absurd (finished i) hlive
  | gone finished => exact absurd (finished i) hlive

/-- A call that is not aborted runs on. -/
theorem Follows.runs (h : s.Follows st₀ reconnect st) {i : Nat} (hrun : s.runs i ≠ .finished)
    (hlive : s.aborted i = false) : s.Runs st₀ reconnect i st
      ∧ (s.runs i = .fetching → st.mode = .asked false ∧ s.firstResponseTimedOut = false)
      ∧ (s.runs i = .reading → st.mode = .opened false ∧ s.gotResponse = true
        ∧ s.firstResponseTimedOut = false) := by
  have hwatchdogs {n : Nat} (alone : s.Alone n) : ∀ j, s.watchdogs j = true → j = n :=
    fun j hj => alone.eq (h.watchdogs j hj)
  -- what would have aborted the call has not happened
  have hfalse {b : Bool} {n : Nat} (hi : i = n) (hb : b = true → s.aborted n = true) :
      b = false := by
    cases b with
    | false => rfl
    | true =>
        rw [← hi, hlive] at hb
        cases hb rfl
  cases h.stands with
  | fetching n alone run held mode got timedOut =>
      have hi := alone.eq hrun
      obtain rfl := hi
      exact ⟨⟨h.kept, alone, held, h.failures, h.reconnect, hwatchdogs alone,
        hfalse rfl alone.aborted⟩, fun _ => ⟨mode, hfalse rfl timedOut⟩,
        fun hreading => by rw [run] at hreading; cases hreading⟩
  | reading n alone run held mode got timedOut =>
      have hi := alone.eq hrun
      obtain rfl := hi
      refine ⟨⟨h.kept, alone, held, h.failures, h.reconnect, hwatchdogs alone,
        hfalse rfl alone.aborted⟩, fun hfetching => ?_, fun _ => ⟨mode, got, timedOut⟩⟩
      rw [run] at hfetching
      cases hfetching
  | between mode finished => exact absurd (finished i) hrun
  | gone finished => exact absurd (finished i) hrun

theorem Follows.response (h : s.Follows st₀ reconnect st) {jitter : Nat → Int → Int}
    (hjitter : Jitters jitter) {i : Nat} (hrun : s.runs i = .fetching) (hlive : s.aborted i = false)
    (status : Int) (readable : Bool) :
    ∃ st', (s.response jitter i status readable).Follows st₀ reconnect st' := by
  obtain ⟨hruns, hfetching, -⟩ := h.runs (by rw [hrun]; exact fun h => by cases h) hlive
  obtain ⟨mode, htimed⟩ := hfetching hrun
  have hgot : Runs st₀ reconnect i { s with gotResponse := true } st :=
    ⟨hruns.kept, hruns.alone' rfl rfl rfl rfl rfl, ⟨hruns.held.1, hruns.held.2⟩, hruns.failures,
      hruns.reconnect, hruns.watchdogs, hruns.stopped⟩
  unfold Html5Page.response
  dsimp only
  split
  · rename_i hstatus
    have hbad : (!(decide (200 ≤ status) && decide (status < 300))) = true := by
      rw [Bool.not_eq_true', Bool.and_eq_false_iff, decide_eq_false_iff_not,
        decide_eq_false_iff_not]
      omega
    exact (hgot.error_asked mode (.httpStatus status) status hbad).endAttempt (.inl rfl) hjitter
  · rename_i hstatus
    split
    · exact (hgot.error_asked mode .noBody status rfl).endAttempt (.inl rfl) hjitter
    · have hopened : Runs st₀ reconnect i
          { Html5Page.emit { s with gotResponse := true } (.opened status) with
            failedAttempts := 0 }
          { st with mode := .opened false, failures := 0 } :=
        { kept := by
            apply hgot.kept.step
            have hgood : (html5Policy reconnect).accepts status = true := by
              show (200 ≤ status && status < 300) = true
              simp only [Bool.and_eq_true, decide_eq_true_eq]
              omega
            exact if_pos ⟨mode, hgood⟩
          alone := hgot.alone' rfl rfl rfl rfl rfl
          held := ⟨hgot.held.1, hgot.held.2⟩
          failures := rfl
          reconnect := hgot.reconnect
          watchdogs := hgot.watchdogs
          stopped := hgot.stopped }
      exact ⟨_, hopened.loopTest rfl rfl htimed jitter []⟩

theorem Follows.readChunk (h : s.Follows st₀ reconnect st) {i : Nat} (hrun : s.runs i = .reading)
    (hlive : s.aborted i = false) (jitter : Nat → Int → Int) (chunk flush : Utf16) :
    ∃ st', (s.readChunk jitter i chunk flush).Follows st₀ reconnect st' := by
  obtain ⟨hruns, -, hreading⟩ := h.runs (by rw [hrun]; exact fun h => by cases h) hlive
  obtain ⟨mode, hgot, htimed⟩ := hreading hrun
  obtain ⟨st', hset, mode'⟩ := hruns.setLoop mode
    (StreamLoop.grows_readChunk (Html5Client.Grows.refl s.loop.client) chunk)
  exact ⟨st', hset.loopTest mode' hgot htimed jitter flush⟩

theorem Follows.rejected (h : s.Follows st₀ reconnect st) {jitter : Nat → Int → Int}
    (hjitter : Jitters jitter) {i : Nat} (hrun : s.runs i ≠ .finished) (message : Utf16) :
    ∃ st', (s.caught jitter i message).Follows st₀ reconnect st' := by
  unfold Html5Page.caught
  cases hstopped : s.stopped with
  | true =>
      -- a stopped client is not heard of again
      have halone : s.Alone i := by
        cases h.stands with
        | fetching n alone =>
            rw [alone.eq hrun]
            exact alone
        | reading n alone =>
            rw [alone.eq hrun]
            exact alone
        | between mode finished => exact absurd (finished i) hrun
        | gone finished => exact absurd (finished i) hrun
      refine ⟨st, h.kept, .gone halone.settle halone.connects, h.failures, h.reconnect, ?_⟩
      intro j
      show Function.update s.watchdogs i false j = true →
        Function.update s.runs i .finished j ≠ .finished
      by_cases hj : j = i
      · rw [hj, Function.update_self]
        exact fun h => by cases h
      · rw [Function.update_of_ne hj, Function.update_of_ne hj]
        exact h.watchdogs j
  | false =>
      have hruns {n : Nat} (alone : s.Alone n) (held : s.Held st) : s.Runs st₀ reconnect i st := by
        obtain rfl := alone.eq hrun
        exact ⟨h.kept, alone, held, h.failures, h.reconnect,
          fun j hj => alone.eq (h.watchdogs j hj), hstopped⟩
      simp only [Bool.false_eq_true, if_false]
      cases h.stands with
      | fetching n alone run held mode got timedOut =>
          refine ((hruns alone held).error_asked mode _ 0 ?_).endAttempt (.inl rfl) hjitter
          cases s.firstResponseTimedOut <;> rfl
      | reading n alone run held mode got timedOut =>
          rw [timedOut]
          exact ((hruns alone held).error_opened mode (.failed message) 0 rfl).endAttempt (.inr rfl)
            hjitter
      | between mode finished => exact absurd (finished i) hrun
      | gone finished => exact absurd (finished i) hrun

theorem Follows.disconnect (h : s.Follows st₀ reconnect st) :
    Follows st₀ reconnect { s with stopped := true }.abort st := by
  cases h.stands with
  | fetching n alone run held mode got timedOut =>
      rw [abort_eq (show ({ s with stopped := true } : Html5Page).controller = some n from
        alone.controller)]
      exact ⟨h.kept, .fetching n
        ⟨alone.1, alone.2, alone.3, alone.4, fun _ => Function.update_self ..⟩ run
        ⟨held.1, held.2⟩ mode got (fun _ => Function.update_self ..), h.failures, h.reconnect,
        h.watchdogs⟩
  | reading n alone run held mode got timedOut =>
      rw [abort_eq (show ({ s with stopped := true } : Html5Page).controller = some n from
        alone.controller)]
      exact ⟨h.kept, .reading n
        ⟨alone.1, alone.2, alone.3, alone.4, fun _ => Function.update_self ..⟩ run
        ⟨held.1, held.2⟩ mode got timedOut, h.failures, h.reconnect, h.watchdogs⟩
  | between mode finished held connects =>
      unfold Html5Page.abort
      split
      · exact ⟨h.kept, .between mode finished ⟨held.1, held.2⟩ connects, h.failures, h.reconnect,
          h.watchdogs⟩
      · exact ⟨h.kept, .between mode finished ⟨held.1, held.2⟩ connects, h.failures, h.reconnect,
          h.watchdogs⟩
  | gone finished connects =>
      unfold Html5Page.abort
      split
      · exact ⟨h.kept, .gone finished connects, h.failures, h.reconnect, h.watchdogs⟩
      · exact ⟨h.kept, .gone finished connects, h.failures, h.reconnect, h.watchdogs⟩

/-- **One step.** -/
theorem Follows.step (h : s.Follows st₀ reconnect st) {jitter : Nat → Int → Int}
    (hjitter : Jitters jitter) (supported : Bool) {a : Html5Step} (hen : s.enabled a = true) :
    ∃ st', (s.step supported jitter a).Follows st₀ reconnect st' := by
  cases a with
  | connect => exact h.connect (of_decide_eq_true hen) supported
  | watchdog i => exact ⟨st, h.watchdog hen⟩
  | response i status readable =>
      obtain ⟨hrun, hlive⟩ := Bool.and_eq_true_iff.mp hen
      exact h.response hjitter (of_decide_eq_true hrun) (by simpa using hlive) status readable
  | readChunk i chunk flush =>
      obtain ⟨hrun, hlive⟩ := Bool.and_eq_true_iff.mp hen
      exact h.readChunk (of_decide_eq_true hrun) (by simpa using hlive) jitter chunk flush
  | done i flush =>
      obtain ⟨hrun, hlive⟩ := Bool.and_eq_true_iff.mp hen
      have hrun : s.runs i = .reading := of_decide_eq_true hrun
      obtain ⟨hruns, -, hreading⟩ := h.runs (by rw [hrun]; exact fun h => by cases h)
        (by simpa using hlive)
      exact hruns.endStream (hreading hrun).1 hjitter flush
  | rejected i message => exact h.rejected hjitter (of_decide_eq_true hen) message
  | disconnect => exact ⟨st, h.disconnect⟩

end Html5Page

variable {supported : Bool} {jitter : Nat → Int → Int} {client : Html5Client}
  {answers : Nat → Nat → Bool} {s : Html5Page}

theorem html5Page_follows (hjitter : Jitters jitter) (supported : Bool) (client : Html5Client)
    (answers : Nat → Nat → Bool) :
    (html5Page supported jitter client answers).Invariant (fun s =>
      ∃ st, s.Follows (.start client.lastEventId client.retryMs) client.reconnect st) where
  init := ⟨.start client.lastEventId client.retryMs, rfl,
    .between rfl (fun _ => rfl) ⟨rfl, rfl⟩ (Nat.le_refl 1), rfl, rfl, fun i hi => by cases hi⟩
  step s a s' h hen hok := by
    obtain ⟨st, h⟩ := h
    cases hok
    exact h.step hjitter supported hen

/-- **THE PROTOCOL IS KEPT** whatever the promises and the timers do, and in
whatever order: one stream at a time; an open only of an accepted status, and
lines only from it on; at most one error for an attempt, before its end; each
request with the id that was committed last; each retry with a delay for the
failures since a stream was last open; nothing after CLOSED.  A watchdog that
still waits is that of the attempt that is not over. -/
theorem html5_protocol (hjitter : Jitters jitter)
    (h : (html5Page supported jitter client answers).Reachable s) :
    (∃ st, AttemptState.Kept (html5Policy client.reconnect)
        (.start client.lastEventId client.retryMs) s.trace st)
      ∧ ∀ i, s.watchdogs i = true → s.runs i ≠ .finished := by
  obtain ⟨st, hfollows⟩ := (html5Page_follows hjitter supported client answers).reachable h
  exact ⟨⟨st, hfollows.kept⟩, hfollows.watchdogs⟩

/-- The factor is 1. -/
theorem jitters_exact : Jitters fun _ delay => delay := by
  intro n delay hdelay
  refine ⟨?_, ?_⟩
  · show 4 * delay ≤ 5 * (delay + 1)
    omega
  · show 5 * delay ≤ 6 * delay
    omega

/-- A page whose client resumes at `lastEventId`, and whose messages are all taken. -/
abbrev eagerPage (lastEventId : Utf16) : Machine Html5Page Html5Step Empty :=
  html5Page true (fun _ delay => delay) (.create lastEventId true 1000 fun _ => true)
    fun _ _ => true

/-- A request that times out, a stream whose id is committed and that is lost, and
the request that resumes it. -/
theorem html5_protocol_lost :
    ∃ s, (eagerPage (units "3")).Reachable s
      ∧ s.trace = [.request (units "3"), .error ⟨.timedOut, 0, true, 1000⟩, .disconnected,
        .retry 1000, .request (units "3"), .opened 200,
        .line (.callMessage (units "message") (units "x") (units "4") true),
        .line (.callLastEventId (units "4")),
        .error ⟨.failed (units "lost"), 0, true, 1000⟩, .disconnected, .retry 1000,
        .request (units "4")]
      ∧ (∃ st, AttemptState.Kept (html5Policy true) (.start (units "3") 1000) s.trace st)
      ∧ ∀ i, s.watchdogs i = true → s.runs i ≠ .finished := by
  have hruns : ∃ s, (eagerPage (units "3")).run (eagerPage (units "3")).init
        [.connect, .watchdog 0, .rejected 0 [], .connect, .response 1 200 true,
          .readChunk 1 (units "id: 4\ndata: x\n\n") [], .rejected 1 (units "lost"), .connect]
        = some s
      ∧ s.trace = [.request (units "3"), .error ⟨.timedOut, 0, true, 1000⟩, .disconnected,
        .retry 1000, .request (units "3"), .opened 200,
        .line (.callMessage (units "message") (units "x") (units "4") true),
        .line (.callLastEventId (units "4")),
        .error ⟨.failed (units "lost"), 0, true, 1000⟩, .disconnected, .retry 1000,
        .request (units "4")] :=
    ⟨_, rfl, by decide +kernel⟩
  obtain ⟨s, hrun, htrace⟩ := hruns
  exact ⟨s, ⟨_, hrun⟩, htrace, html5_protocol jitters_exact ⟨_, hrun⟩⟩

/-! ## §5. Behind `disconnect`. -/

/-- A step of a stopped client says nothing and asks for nothing. -/
theorem Html5Page.Follows.stopped {st₀ st : AttemptState Utf16} {reconnect : Bool}
    (h : s.Follows st₀ reconnect st) (hstopped : s.stopped = true) (supported : Bool)
    (jitter : Nat → Int → Int) {a : Html5Step} (hen : s.enabled a = true) :
    (s.step supported jitter a).stopped = true
      ∧ (s.step supported jitter a).trace = s.trace
      ∧ (s.step supported jitter a).calls = s.calls := by
  -- what is not aborted would not be stopped
  have hlive {i : Nat} (hrun : s.runs i ≠ .finished) (haborted : (!s.aborted i) = true) :
      False := by
    have hruns := (h.runs hrun (by simpa using haborted)).1.stopped
    rw [hstopped] at hruns
    cases hruns
  cases a with
  | connect =>
      have hreturn : s.connect supported = { s with connects := s.connects - 1 } := by
        unfold Html5Page.connect
        exact if_pos hstopped
      show (s.connect supported).stopped = true ∧ (s.connect supported).trace = s.trace
        ∧ (s.connect supported).calls = s.calls
      rw [hreturn]
      exact ⟨hstopped, rfl, rfl⟩
  | watchdog i =>
      have hquiet : s.watchdog i = { s with watchdogs := Function.update s.watchdogs i false } := by
        unfold Html5Page.watchdog
        refine if_neg ?_
        show ¬ (!s.stopped && !s.gotResponse) = true
        rw [hstopped]
        exact Bool.false_ne_true
      show (s.watchdog i).stopped = true ∧ (s.watchdog i).trace = s.trace
        ∧ (s.watchdog i).calls = s.calls
      rw [hquiet]
      exact ⟨hstopped, rfl, rfl⟩
  | response i status readable =>
      obtain ⟨hrun, haborted⟩ := Bool.and_eq_true_iff.mp hen
      exact (hlive (by rw [of_decide_eq_true hrun]; exact fun h => by cases h) haborted).elim
  | readChunk i chunk flush =>
      obtain ⟨hrun, haborted⟩ := Bool.and_eq_true_iff.mp hen
      exact (hlive (by rw [of_decide_eq_true hrun]; exact fun h => by cases h) haborted).elim
  | done i flush =>
      obtain ⟨hrun, haborted⟩ := Bool.and_eq_true_iff.mp hen
      exact (hlive (by rw [of_decide_eq_true hrun]; exact fun h => by cases h) haborted).elim
  | rejected i message =>
      have hreturn : s.caught jitter i message = s.settle i := if_pos hstopped
      show (s.caught jitter i message).stopped = true ∧ (s.caught jitter i message).trace = s.trace
        ∧ (s.caught jitter i message).calls = s.calls
      rw [hreturn]
      exact ⟨hstopped, rfl, rfl⟩
  | disconnect =>
      have hnot : (!s.stopped) = true := hen
      rw [hstopped] at hnot
      cases hnot

/-- **AFTER `disconnect`** the client reports nothing and sends no request, however
long its promises and its timers go on. -/
theorem html5_stopped (hjitter : Jitters jitter)
    (h : (html5Page supported jitter client answers).Reachable s) (hstopped : s.stopped = true)
    {as : List Html5Step} {s' : Html5Page}
    (hrun : (html5Page supported jitter client answers).run s as = some s') :
    s'.trace = s.trace ∧ s'.calls = s.calls := by
  have hinv := html5Page_follows hjitter supported client answers
  have hkept : (∃ st, s'.Follows (.start client.lastEventId client.retryMs) client.reconnect st)
      ∧ s'.stopped = true ∧ s'.trace = s.trace ∧ s'.calls = s.calls := by
    apply Machine.run_keeps _ ⟨hinv.reachable h, hstopped, rfl, rfl⟩ hrun
    intro t a t' ⟨hfollows, ht, htrace, hcalls⟩ hen hok
    refine ⟨hinv.step t a t' hfollows hen hok, ?_⟩
    obtain ⟨st, hfollows⟩ := hfollows
    cases hok
    obtain ⟨hs, hsame, hsameCalls⟩ := hfollows.stopped ht supported jitter hen
    exact ⟨hs, hsame.trans htrace, hsameCalls.trans hcalls⟩
  exact hkept.2.2

/-- A client that is stopped on an open stream; its `read` is rejected behind it. -/
theorem html5_stopped_reading :
    ∃ s s', (eagerPage []).run (eagerPage []).init
          [.connect, .response 0 200 true, .disconnect] = some s
      ∧ (eagerPage []).run s
          [.watchdog 0, .rejected 0 (units "aborted")] = some s'
      ∧ s'.runs 0 = .finished ∧ s'.trace = s.trace ∧ s'.calls = s.calls := by
  have hruns : ∃ s s', (eagerPage []).run (eagerPage []).init
          [.connect, .response 0 200 true, .disconnect] = some s
      ∧ (eagerPage []).run s
          [.watchdog 0, .rejected 0 (units "aborted")] = some s'
      ∧ s.stopped = true ∧ s'.runs 0 = .finished := ⟨_, _, rfl, rfl, rfl, rfl⟩
  obtain ⟨s, s', hstop, hrun, hstopped, hover⟩ := hruns
  exact ⟨s, s', hstop, hrun, hover, html5_stopped jitters_exact ⟨_, hstop⟩ hstopped hrun⟩

end DefoldSSE
