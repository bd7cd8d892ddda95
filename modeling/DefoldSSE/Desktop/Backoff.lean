/-
  DefoldSSE.Desktop.Backoff — how long a desktop worker sleeps between attempts.

  The libcurl and the WinHTTP worker sleep what `SSEDesktop_ComputeRetryDelayMS`
  says, which is never less than `SSE_DESKTOP_MIN_DELAY_MS`.  The worker of the
  connection pool sleeps `m_RetryMS` itself: a script may have set it to 0, and
  only a retry field of the stream lifts it (`noStorm_iff`).
-/
import DefoldSSE.Desktop.Quiet
import DefoldSSE.Pool.Worker

namespace DefoldSSE

open CLib EventStream EventStream.Block

/-! ## §1. The delay. -/

def SSE_DESKTOP_RETRY_MIN_MS : Int := 1000
def SSE_DESKTOP_RETRY_MAX_MS : Int := 300000
def SSE_DESKTOP_MIN_DELAY_MS : Int := 500
def SSE_DESKTOP_MAX_BACKOFF_SHIFT : Nat := 8

/-- `base`. -/
def retryBase (retryMs : Int) : Int :=
  let base := if retryMs < SSE_DESKTOP_RETRY_MIN_MS then SSE_DESKTOP_RETRY_MIN_MS else retryMs
  if base > SSE_DESKTOP_RETRY_MAX_MS then SSE_DESKTOP_RETRY_MAX_MS else base

/-- `shift`. -/
def backoffShift (failures : Nat) : Nat :=
  let shift := if failures > 1 then failures - 1 else 0
  if shift > SSE_DESKTOP_MAX_BACKOFF_SHIFT then SSE_DESKTOP_MAX_BACKOFF_SHIFT else shift

/-- `delay` before the jitter. -/
def nominalDelay (retryMs : Int) (failures : Nat) : Int :=
  let delay := retryBase retryMs * 2 ^ backoffShift failures
  if delay > SSE_DESKTOP_RETRY_MAX_MS then SSE_DESKTOP_RETRY_MAX_MS else delay

/-- `delay` after the jitter; `clock` is `dmTime::GetTime()`. -/
def jitteredDelay (delay : Int) (clock : Nat) : Int :=
  let jitter : Int := (clock % 401 : Nat) - 200
  delay + (delay * jitter).tdiv 1000

/-- `SSEDesktop_ComputeRetryDelayMS`. -/
def computeRetryDelayMS (retryMs : Int) (failures clock : Nat) : Int :=
  let delay := jitteredDelay (nominalDelay retryMs failures) clock
  toInt32 (if delay < SSE_DESKTOP_MIN_DELAY_MS then SSE_DESKTOP_MIN_DELAY_MS else delay)

theorem nominalDelay_bounds (retryMs : Int) (failures : Nat) :
    1000 ≤ nominalDelay retryMs failures ∧ nominalDelay retryMs failures ≤ 300000 := by
  have hbase : 1000 ≤ retryBase retryMs := by
    unfold retryBase SSE_DESKTOP_RETRY_MIN_MS SSE_DESKTOP_RETRY_MAX_MS
    dsimp only
    split <;> split <;> omega
  have hpow : (0 : Int) < 2 ^ backoffShift failures := Int.pow_pos (by decide)
  have hmul : retryBase retryMs * 1 ≤ retryBase retryMs * 2 ^ backoffShift failures :=
    Int.mul_le_mul_of_nonneg_left hpow (by omega)
  unfold nominalDelay SSE_DESKTOP_RETRY_MAX_MS
  dsimp only
  split <;> omega

/-- The jitter is at most a fifth. -/
theorem jitteredDelay_bounds {delay : Int} (hlo : 1000 ≤ delay) (hhi : delay ≤ 300000)
    (clock : Nat) : 800 ≤ jitteredDelay delay clock ∧ jitteredDelay delay clock ≤ 360000 := by
  unfold jitteredDelay
  dsimp only
  have hclock : clock % 401 < 401 := Nat.mod_lt _ (by decide)
  generalize hj : ((clock % 401 : Nat) : Int) - 200 = jitter
  have hjlo : -200 ≤ jitter := by omega
  have hjhi : jitter ≤ 200 := by omega
  -- the product is within 200 times the delay, in both directions
  have hlow : 0 ≤ delay * (jitter + 200) := Int.mul_nonneg (by omega) (by omega)
  have hhigh : 0 ≤ delay * (200 - jitter) := Int.mul_nonneg (by omega) (by omega)
  rw [Int.mul_add] at hlow
  rw [Int.mul_sub] at hhigh
  have htop : (delay * jitter).tdiv 1000 ≤ (delay * 200).tdiv 1000 :=
    Int.tdiv_le_tdiv (by decide) (by omega)
  have hbottom : (-(delay * 200)).tdiv 1000 ≤ (delay * jitter).tdiv 1000 :=
    Int.tdiv_le_tdiv (by decide) (by omega)
  rw [Int.neg_tdiv, Int.tdiv_eq_ediv_of_nonneg (by omega)] at hbottom
  rw [Int.tdiv_eq_ediv_of_nonneg (by omega : 0 ≤ delay * 200)] at htop
  omega

/-- The delay is stored as it is, and the worker sleeps at least that. -/
theorem computeRetryDelayMS_ge (retryMs : Int) (failures clock : Nat) :
    SSE_DESKTOP_MIN_DELAY_MS ≤ computeRetryDelayMS retryMs failures clock := by
  obtain ⟨hlo, hhi⟩ := nominalDelay_bounds retryMs failures
  obtain ⟨hlo, hhi⟩ := jitteredDelay_bounds hlo hhi clock
  unfold computeRetryDelayMS SSE_DESKTOP_MIN_DELAY_MS
  dsimp only
  rw [if_neg (by omega)]
  rw [toInt32_of_fits (by omega) (by omega)]
  omega

/-! ## §2. Sleeping. -/

/-- A stop flag that is never raised stays so. -/
theorem raised_of_never {s : StopFlag} (hs : s.raisedAt = none) : s.raised = false := by
  unfold StopFlag.raised
  rw [hs]
  rfl

/-- **`SSEDesktop_SleepRetry` sleeps its whole delay** unless a stop is
requested. -/
theorem sleepRetry_sum (s : StopFlag) (hs : s.raisedAt = none) (remaining : Int) :
    (sleepRetry s remaining).1.sum = max 0 remaining
      ∧ (sleepRetry s remaining).2.raisedAt = none := by
  fun_induction sleepRetry s remaining with
  | case1 s remaining hpos hraised =>
      rw [raised_of_never hs] at hraised
      cases hraised
  | case2 s remaining hpos hraised step rest ih =>
      obtain ⟨hsum, hnever⟩ := ih hs
      refine ⟨?_, hnever⟩
      show (step :: rest.1).sum = _
      rw [List.sum_cons, hsum]
      show (if remaining > 100 then 100 else remaining)
          + max 0 (remaining - if remaining > 100 then 100 else remaining) = _
      split <;> omega
  | case3 s remaining hneg =>
      refine ⟨?_, hs⟩
      rw [List.sum_nil]
      omega

/-! ## §3. The workers. -/

/-- The desktop workers that reconnect. -/
inductive DesktopWorker where
  | libcurl
  | winHTTP
  | connectionPool
  deriving DecidableEq, Repr

/-- What `SSEDesktop_SleepRetry` is called with. -/
def DesktopWorker.delay (worker : DesktopWorker) (retryMs : Int) (failures clock : Nat) : Int :=
  match worker with
  | .libcurl => computeRetryDelayMS retryMs failures clock
  | .winHTTP => computeRetryDelayMS retryMs failures clock
  | .connectionPool => retryMs

/-- An attempt as the loop of a worker sees it: what it returned, whether it
opened, the stream it fed to the parser and how the queue took its events, its
looks at the stop flag, and the clock after it. -/
structure AttemptOutcome where
  ok : Bool
  opened : Bool
  stream : Bytes
  queue : QueueAnswers
  looks : Nat
  clock : Nat

/-- The connection after an attempt. -/
def SSEDesktopConnection.attempted (conn : SSEDesktopConnection) (o : AttemptOutcome) :
    SSEDesktopConnection :=
  { ((Adapter.start conn o.queue).feed o.stream).conn with opened := o.opened }

/-- `failures` after an attempt, an `uint32_t`.  The connection pool has none. -/
def countFailures (failures : Nat) (o : AttemptOutcome) : Nat :=
  let failures := if o.opened then 0 else failures
  if o.ok then failures else (failures + 1) % 2 ^ 32

/-- The loop of `SSEDesktop_Worker`: the sleeps between each attempt and the
next. -/
def workerSleeps (worker : DesktopWorker) (s : StopFlag) (conn : SSEDesktopConnection)
    (failures : Nat) : List AttemptOutcome → List (List Int)
  | [] => []
  | o :: outcomes =>
      if s.raised then []
      else
        let conn := conn.attempted o
        let s : StopFlag := { s with looks := s.looks + 1 + o.looks }
        if s.raised then []
        else
          let failures := countFailures failures o
          if conn.reconnect then
            let sleeps := sleepRetry s.next (worker.delay conn.retryMs failures o.clock)
            sleeps.1 :: workerSleeps worker sleeps.2 conn failures outcomes
          else []

/-! ## §4. What a stream does to the delay. -/

/-- A line of the stream changes the reconnect delay. -/
def SetsDelay (stream : Bytes) : Prop :=
  (∃ b ∈ blocks stream, setsRetry b) ∨ setsRetry (pendingBlock stream)

theorem clampedRetry_ge (v : Bytes) : 1000 ≤ SSEParser.clampedRetry v := by
  unfold SSEParser.clampedRetry sseParserRetryMinMs
  omega

namespace Adapter

/-- From `a` to `a'`, the delay was set, to a clamped value, exactly if `seen`. -/
structure Retried (a a' : Adapter) (seen : Prop) : Prop where
  reconnect : a'.conn.reconnect = a.conn.reconnect
  kept : ¬seen → a'.conn.retryMs = a.conn.retryMs
  moved : a'.conn.retryMs = a.conn.retryMs ∨ 1000 ≤ a'.conn.retryMs
  set : seen → 1000 ≤ a'.conn.retryMs

theorem Retried.of_same {a a' : Adapter} (hreconnect : a'.conn.reconnect = a.conn.reconnect)
    (hretry : a'.conn.retryMs = a.conn.retryMs) : Retried a a' False where
  reconnect := hreconnect
  kept := fun _ => hretry
  moved := .inl hretry
  set := False.elim

theorem Retried.trans {a b c : Adapter} {p q : Prop} (h : Retried a b p) (h' : Retried b c q) :
    Retried a c (p ∨ q) where
  reconnect := h'.reconnect.trans h.reconnect
  kept := by
    intro hnone
    have hnone := not_or.mp hnone
    exact (h'.kept hnone.2).trans (h.kept hnone.1)
  moved := by
    rcases h'.moved with heq | hset
    · rw [heq]
      exact h.moved
    · exact .inr hset
  set := by
    intro hor
    rcases hor with hp | hq
    · rcases h'.moved with heq | hset
      · rw [heq]
        exact h.set hp
      · exact hset
    · exact h'.set hq

theorem Retried.congr {a b : Adapter} {p q : Prop} (h : Retried a b p) (hiff : q ↔ p) :
    Retried a b q := by
  rw [propext hiff]
  exact h

theorem lineCall_retried (before : Block) (a : Adapter) (l : BlockLine) :
    Retried a (lineCall callbacks before a l)
      (∃ v, l = .retry v ∧ poisoned before = false ∧ SSEParser.isRetryValue v = true) := by
  have hother : (∀ v, l ≠ .retry v) →
      ((∃ v, l = .retry v ∧ poisoned before = false ∧ SSEParser.isRetryValue v = true)
        ↔ False) := by
    intro hne
    apply iff_false_intro
    intro h
    obtain ⟨v, hv, -⟩ := h
    exact hne v hv
  cases l with
  | retry v =>
      simp only [lineCall]
      split
      · next h =>
          have h := Bool.and_eq_true_iff.mp h
          have hlive : poisoned before = false := by simpa using h.1
          exact
            { reconnect := rfl
              kept := fun hnone => absurd ⟨v, rfl, hlive, h.2⟩ hnone
              moved := .inr (clampedRetry_ge v)
              set := fun _ => clampedRetry_ge v }
      · next h =>
          apply (Retried.of_same rfl rfl).congr
          apply iff_false_intro
          intro hset
          obtain ⟨v', hv, hlive, hretry⟩ := hset
          cases hv
          exact h (by rw [hlive, hretry]; rfl)
  | data v =>
      apply Retried.congr _ (hother (by intro v h; cases h))
      simp only [lineCall]
      split
      · exact .of_same rfl rfl
      · exact .of_same rfl rfl
  | oversize =>
      apply Retried.congr _ (hother (by intro v h; cases h))
      exact .of_same rfl rfl
  | event v => exact (Retried.of_same rfl rfl).congr (hother (by intro v h; cases h))
  | id v => exact (Retried.of_same rfl rfl).congr (hother (by intro v h; cases h))
  | ignored => exact (Retried.of_same rfl rfl).congr (hother (by intro v h; cases h))

theorem lineCalls_retried (b : Block) (a : Adapter) :
    Retried a (lineCalls callbacks b a) (setsRetry b) := by
  induction b using List.reverseRecOn with
  | nil => exact (Retried.of_same rfl rfl).congr (iff_false_intro setsRetry_nil)
  | append_singleton b l ih =>
      rw [lineCalls_snoc]
      exact (ih.trans (lineCall_retried b _ l)).congr (setsRetry_snoc b l)

/-- The end of a block pushes and commits; the delay stays. -/
theorem endBlock_retried (r : Resume) (b : Block) (a : Adapter) :
    Retried a (endBlock callbacks r b a).2 False := by
  unfold endBlock
  split
  · exact .of_same rfl rfl
  · split
    · dsimp only
      split
      · split
        · exact .of_same rfl rfl
        · exact .of_same rfl rfl
      · exact .of_same rfl rfl
    · have hcall : SSEParserCallbacks.callOnEvent callbacks a (message r b)
          = a.onParserEvent (message r b) := rfl
      rw [hcall, onParserEvent_eq]
      generalize a.queue.message (messagePushes a.trace).length = ok
      have hsame : Retried a ((a.pushed (message r b) ok).commitOffered
          (if ok then (message r b).lastEventId else none)) False := by
        cases (if ok then (message r b).lastEventId else none) with
        | none => exact .of_same rfl rfl
        | some id => exact .of_same rfl rfl
      cases ok with
      | false => exact hsame
      | true => exact hsame

theorem runBlocks_retried (bs : List Block) :
    ∀ (r : Resume) (a : Adapter),
      Retried a (runBlocks callbacks bs (r, a)).2 (∃ b ∈ bs, setsRetry b) := by
  induction bs with
  | nil =>
      intro r a
      exact (Retried.of_same rfl rfl).congr (by simp)
  | cons b bs ih =>
      intro r a
      have hblock := (lineCalls_retried b a).trans (endBlock_retried r b (lineCalls callbacks b a))
      have hrest := ih (runBlock callbacks (r, a) b).1 (runBlock callbacks (r, a) b).2
      exact (hblock.trans hrest).congr (by simp)

/-- **What a stream does to the delay.** -/
theorem feed_retried (conn : SSEDesktopConnection) (queue : QueueAnswers) (stream : Bytes) :
    Retried (start conn queue) ((start conn queue).feed stream) (SetsDelay stream) := by
  have hstream : ((start conn queue).conn.parser.feed stream callbacks (start conn queue)).2
      = lineCalls callbacks (pendingBlock stream)
          (runBlocks callbacks (blocks stream) (.init, start conn queue)).2 :=
    SSEParser.feed_stream callbacks stream (start conn queue)
  have hblocks := runBlocks_retried (blocks stream) .init (start conn queue)
  have hall := hblocks.trans (lineCalls_retried (pendingBlock stream) _)
  rw [← hstream] at hall
  exact ⟨hall.reconnect, hall.kept, hall.moved, hall.set⟩

end Adapter

/-! ## §5. No storm. -/

/-- The worker never sleeps less than `SSE_DESKTOP_MIN_DELAY_MS` between two
attempts: it is not the pool's, or does not reconnect, or its delay is long
enough from the start, or the first attempt's stream sets it. -/
def Paced (worker : DesktopWorker) (conn : SSEDesktopConnection) :
    List AttemptOutcome → Prop
  | [] => True
  | first :: _ =>
      worker ≠ .connectionPool ∨ conn.reconnect = false
        ∨ SSE_DESKTOP_MIN_DELAY_MS ≤ conn.retryMs ∨ SetsDelay first.stream

/-- The delay a worker that once slept enough sleeps from then on. -/
theorem delay_ge {worker : DesktopWorker} {retryMs : Int}
    (h : worker ≠ .connectionPool ∨ SSE_DESKTOP_MIN_DELAY_MS ≤ retryMs) (failures clock : Nat) :
    SSE_DESKTOP_MIN_DELAY_MS ≤ worker.delay retryMs failures clock := by
  cases worker with
  | libcurl => exact computeRetryDelayMS_ge retryMs failures clock
  | winHTTP => exact computeRetryDelayMS_ge retryMs failures clock
  | connectionPool => exact h.resolve_left (fun hne => hne rfl)

section Storm

variable (worker : DesktopWorker)

/-- A pass of the loop that is not stopped. -/
theorem workerSleeps_cons {s : StopFlag} (hs : s.raisedAt = none) (conn : SSEDesktopConnection)
    (failures : Nat) (o : AttemptOutcome) (outcomes : List AttemptOutcome) :
    workerSleeps worker s conn failures (o :: outcomes)
      = if (conn.attempted o).reconnect then
          let sleeps := sleepRetry { s with looks := s.looks + 1 + o.looks }.next
            (worker.delay (conn.attempted o).retryMs (countFailures failures o) o.clock)
          sleeps.1 :: workerSleeps worker sleeps.2 (conn.attempted o) (countFailures failures o)
            outcomes
        else [] := by
  have hafter : ({ s with looks := s.looks + 1 + o.looks } : StopFlag).raised = false :=
    raised_of_never hs
  rw [workerSleeps, raised_of_never hs]
  simp only [hafter, Bool.false_eq_true, if_false]

/-- A worker whose delay is long enough after an attempt sleeps enough, if it
does so from then on. -/
theorem workerSleeps_cons_paced {s : StopFlag} (hs : s.raisedAt = none)
    {conn : SSEDesktopConnection} (failures : Nat) {o : AttemptOutcome}
    {outcomes : List AttemptOutcome}
    (hlong : worker ≠ .connectionPool
      ∨ SSE_DESKTOP_MIN_DELAY_MS ≤ (conn.attempted o).retryMs)
    (hrest : ∀ (s : StopFlag), s.raisedAt = none → ∀ failures,
      ∀ sleeps ∈ workerSleeps worker s (conn.attempted o) failures outcomes,
        SSE_DESKTOP_MIN_DELAY_MS ≤ sleeps.sum) :
    ∀ sleeps ∈ workerSleeps worker s conn failures (o :: outcomes),
      SSE_DESKTOP_MIN_DELAY_MS ≤ sleeps.sum := by
  rw [workerSleeps_cons worker hs]
  intro sleeps hmem
  split at hmem
  · obtain ⟨hsum, hnever⟩ := sleepRetry_sum { s with looks := s.looks + 1 + o.looks }.next hs
      (worker.delay (conn.attempted o).retryMs (countFailures failures o) o.clock)
    cases hmem with
    | head =>
        rw [hsum]
        exact Int.le_trans (delay_ge hlong _ _) (Int.le_max_right _ _)
    | tail _ hmem => exact hrest _ hnever _ sleeps hmem
  · cases hmem

/-- A delay that is long enough stays so through an attempt. -/
theorem attempted_long {conn : SSEDesktopConnection} {o : AttemptOutcome}
    (h : SSE_DESKTOP_MIN_DELAY_MS ≤ conn.retryMs ∨ SetsDelay o.stream) :
    SSE_DESKTOP_MIN_DELAY_MS ≤ (conn.attempted o).retryMs := by
  have hfeed := Adapter.feed_retried conn o.queue o.stream
  have hclamp : SSE_DESKTOP_MIN_DELAY_MS ≤ 1000 := by decide
  rcases h with hlong | hset
  · rcases hfeed.moved with heq | hset
    · exact le_of_le_of_eq hlong heq.symm
    · exact Int.le_trans hclamp hset
  · exact Int.le_trans hclamp (hfeed.set hset)

/-- Long enough once, long enough ever after. -/
theorem workerSleeps_paced {conn : SSEDesktopConnection} (outcomes : List AttemptOutcome)
    (h : worker ≠ .connectionPool ∨ SSE_DESKTOP_MIN_DELAY_MS ≤ conn.retryMs)
    (s : StopFlag) (hs : s.raisedAt = none) (failures : Nat) :
    ∀ sleeps ∈ workerSleeps worker s conn failures outcomes,
      SSE_DESKTOP_MIN_DELAY_MS ≤ sleeps.sum := by
  induction outcomes generalizing s conn failures with
  | nil =>
      intro sleeps hmem
      cases hmem
  | cons o outcomes ih =>
      have hlong := h.imp_right (fun hlong => attempted_long (o := o) (.inl hlong))
      exact workerSleeps_cons_paced worker hs failures hlong (ih hlong)

/-- **NO RECONNECT STORM, AND WHEN.** As long as no stop is requested, a worker
sleeps at least `SSE_DESKTOP_MIN_DELAY_MS` between any two attempts exactly when
it is paced. -/
theorem noStorm_iff (s : StopFlag) (hs : s.raisedAt = none) (conn : SSEDesktopConnection)
    (outcomes : List AttemptOutcome) :
    (∀ sleeps ∈ workerSleeps worker s conn 0 outcomes, SSE_DESKTOP_MIN_DELAY_MS ≤ sleeps.sum)
      ↔ Paced worker conn outcomes := by
  cases outcomes with
  | nil =>
      apply iff_of_true _ trivial
      intro sleeps hmem
      cases hmem
  | cons first outcomes =>
      have hfeed := Adapter.feed_retried conn first.queue first.stream
      have hreconnect : (conn.attempted first).reconnect = conn.reconnect := hfeed.reconnect
      constructor
      · intro hall
        by_contra hpaced
        obtain ⟨hpool, hpaced⟩ := not_or.mp hpaced
        obtain ⟨hstays, hpaced⟩ := not_or.mp hpaced
        obtain ⟨hshort, hnoset⟩ := not_or.mp hpaced
        -- the pool's worker sleeps the delay it was given
        have hretry : (conn.attempted first).retryMs = conn.retryMs := hfeed.kept hnoset
        have hfirst := hall (sleepRetry { s with looks := s.looks + 1 + first.looks }.next
          conn.retryMs).1 (by
            obtain rfl : worker = .connectionPool := not_not.mp hpool
            rw [workerSleeps_cons .connectionPool hs, hreconnect,
              if_pos (by simpa using hstays), hretry]
            exact List.mem_cons_self)
        have hsum := (sleepRetry_sum { s with looks := s.looks + 1 + first.looks }.next hs
          conn.retryMs).1
        rw [hsum] at hfirst
        unfold SSE_DESKTOP_MIN_DELAY_MS at hfirst hshort
        omega
      · intro hpaced
        rcases hpaced with hne | hstops | hlong
        · exact workerSleeps_paced worker _ (.inl hne) s hs 0
        · rw [workerSleeps_cons worker hs, hreconnect, if_neg (by simp [hstops])]
          intro sleeps hmem
          cases hmem
        · have hlong := attempted_long hlong
          exact workerSleeps_cons_paced worker hs 0 (.inr hlong)
            (workerSleeps_paced worker outcomes (.inr hlong))

end Storm

/-- The libcurl worker with `retry_ms = 0`, after two attempts that failed. -/
theorem noStorm_libcurl :
    Paced .libcurl { retryMs := 0, reconnect := true }
        [⟨false, false, [], ⟨fun _ => true, fun _ => true⟩, 3, 17⟩,
          ⟨false, false, [], ⟨fun _ => true, fun _ => true⟩, 3, 400⟩]
      ∧ ∀ sleeps ∈ workerSleeps .libcurl ⟨none, 0⟩ { retryMs := 0, reconnect := true } 0
          [⟨false, false, [], ⟨fun _ => true, fun _ => true⟩, 3, 17⟩,
            ⟨false, false, [], ⟨fun _ => true, fun _ => true⟩, 3, 400⟩],
          SSE_DESKTOP_MIN_DELAY_MS ≤ sleeps.sum :=
  ⟨.inl (by decide), (noStorm_iff .libcurl ⟨none, 0⟩ rfl _ _).mpr (.inl (by decide))⟩

/-- A pool worker with `retry_ms = 0` whose first attempt fails at once does not
sleep at all. -/
theorem pool_storms :
    workerSleeps .connectionPool ⟨none, 0⟩ { retryMs := 0, reconnect := true } 0
        [⟨false, false, [], ⟨fun _ => true, fun _ => true⟩, 0, 0⟩] = [[]]
      ∧ ¬ ∀ (worker : DesktopWorker) (s : StopFlag), s.raisedAt = none →
          ∀ conn : SSEDesktopConnection, 0 ≤ conn.retryMs →
            ∀ outcomes : List AttemptOutcome, ∀ sleeps ∈ workerSleeps worker s conn 0 outcomes,
              SSE_DESKTOP_MIN_DELAY_MS ≤ sleeps.sum := by
  have hsleeps : workerSleeps .connectionPool ⟨none, 0⟩ { retryMs := 0, reconnect := true } 0
      [⟨false, false, [], ⟨fun _ => true, fun _ => true⟩, 0, 0⟩] = [[]] := by
    rw [workerSleeps_cons .connectionPool rfl, if_pos (by decide)]
    show [(sleepRetry ⟨none, 2⟩ 0).1] = [[]]
    rw [sleepRetry]
    rfl
  refine ⟨hsleeps, fun h => ?_⟩
  have hstorm := h .connectionPool ⟨none, 0⟩ rfl { retryMs := 0, reconnect := true } (by decide)
    [⟨false, false, [], ⟨fun _ => true, fun _ => true⟩, 0, 0⟩] []
    (by rw [hsleeps]; exact List.mem_singleton_self _)
  exact absurd hstorm (by decide)

end DefoldSSE
