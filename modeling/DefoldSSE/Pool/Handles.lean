/-
  DefoldSSE.Pool.Handles — every connection that was dialled is closed once.

  A connection is, from its dial on, in one place: in the worker's hand, in
  `m_Connection`, in the hand of `SSE_Platform_Disconnect`, or closed.  Each step
  of the two threads moves it from one of these places to the next
  (`Accounted.step`), so at the end, when the first three are empty, it was
  closed exactly once.
-/
import DefoldSSE.Pool.Threads

namespace DefoldSSE

open CLib

/-! ## §1. Where a connection is. -/

/-- The connections the pool was asked to close. -/
def closes (trace : List PoolCall) : List Nat :=
  trace.filterMap (fun
    | .close c => some c
    | _ => none)

/-- The connections that successful dials returned. -/
def dials (trace : List PoolCall) : List Nat :=
  trace.filterMap (fun
    | .dial c => c
    | _ => none)

@[simp] theorem closes_append (s t : List PoolCall) : closes (s ++ t) = closes s ++ closes t :=
  List.filterMap_append

@[simp] theorem dials_append (s t : List PoolCall) : dials (s ++ t) = dials s ++ dials t :=
  List.filterMap_append

/-- Not yet stored, or taken to be closed. -/
def WorkerPc.hand : WorkerPc → List Nat
  | .setConnection c => [c]
  | .closeCall _ c => [c]
  | _ => []

def DisconnectPc.hand : DisconnectPc → List Nat
  | .closeConnection c => [c]
  | _ => []

namespace PoolThreads

/-- The connections that are open. -/
def pending (s : PoolThreads) : List Nat :=
  s.worker.hand ++ s.connection.toList ++ s.disconnect.hand

/-- Every connection is in one place, and `m_Connection` is empty but while the
worker is connected. -/
structure Accounted (s : PoolThreads) : Prop where
  places : ∀ c, (closes s.trace).count c + s.pending.count c = if c < s.dialled then 1 else 0
  numbered : dials s.trace = List.range s.dialled
  free : s.worker.connected = false → s.connection = none

/-- A step that neither dials, stores, takes nor closes. -/
theorem Accounted.quiet {s s' : PoolThreads} (h : s.Accounted)
    (hcloses : closes s'.trace = closes s.trace) (hdials : dials s'.trace = dials s.trace)
    (hdialled : s'.dialled = s.dialled) (hconnection : s'.connection = s.connection)
    (hdisconnect : s'.disconnect.hand = s.disconnect.hand)
    (hhand : s'.worker.hand = s.worker.hand)
    (hfree : s'.worker.connected = true ∨ s.worker.connected = false) : s'.Accounted where
  places := by
    intro c
    have hpending : s'.pending = s.pending := by
      unfold pending
      rw [hhand, hconnection, hdisconnect]
    rw [hcloses, hpending, hdialled]
    exact h.places c
  numbered := by
    rw [hdials, hdialled]
    exact h.numbered
  free := by
    intro hout
    rw [hconnection]
    rcases hfree with hin | hout'
    · rw [hout] at hin
      cases hin
    · exact h.free hout'

/-! ## §2. The worker's steps. -/

theorem hand_of_connected {pc : WorkerPc} (h : pc.connected = true) : pc.hand = [] := by
  cases pc <;> first | rfl | exact (Bool.false_ne_true h).elim

/-- What a connected worker does to the connections: it uses them. -/
theorem workerStep_uses (pool : Bool) {s : PoolThreads} (h : s.worker.connected = true)
    (hclose : ∀ afterRead, s.worker ≠ .closeTake afterRead) (answer : PoolAnswer) :
    (s.workerStep pool answer).connection = s.connection
      ∧ (s.workerStep pool answer).dialled = s.dialled
      ∧ closes (s.workerStep pool answer).trace = closes s.trace
      ∧ dials (s.workerStep pool answer).trace = dials s.trace := by
  unfold workerStep
  cases hpc : s.worker with
  | closeTake afterRead => exact absurd hpc (hclose afterRead)
  | _ =>
      rw [hpc] at h
      first
        | exact (Bool.false_ne_true h).elim
        | exact ⟨rfl, rfl, rfl, rfl⟩
        | (refine ⟨rfl, rfl, ?_, ?_⟩ <;> simp [closes, dials])

theorem Accounted.connected {pool : Bool} {s : PoolThreads} (h : s.Accounted)
    (hin : s.worker.connected = true) (hclose : ∀ afterRead, s.worker ≠ .closeTake afterRead)
    (answer : PoolAnswer) : (s.workerStep pool answer).Accounted := by
  have hstay := workerStep_connected pool hin hclose answer
  obtain ⟨hconnection, hdialled, hcloses, hdials⟩ := workerStep_uses pool hin hclose answer
  refine h.quiet hcloses hdials hdialled hconnection ?_ ?_ (.inl hstay)
  · rw [workerStep_disconnect]
  · rw [hand_of_connected hstay, hand_of_connected hin]

/-- A step of an unconnected worker that stays so and has nothing in its hand. -/
theorem Accounted.idle {s : PoolThreads} (h : s.Accounted) {pc pc' : WorkerPc}
    (hpc : s.worker = pc) (hhand : pc.hand = []) (hhand' : pc'.hand = [])
    (hout : pc.connected = false) : (s.go pc').Accounted := by
  subst hpc
  exact h.quiet rfl rfl rfl rfl rfl (hhand'.trans hhand.symm) (.inr hout)

/-- A dial gives the worker a connection nobody has. -/
theorem Accounted.dial {s : PoolThreads} (h : s.Accounted) (hpc : s.worker = .dial) :
    (({ s with dialled := s.dialled + 1 }.call (.dial (some s.dialled))).go
      (.setConnection s.dialled)).Accounted where
  places := by
    intro c
    have hold := h.places c
    have hpending : s.pending = s.connection.toList ++ s.disconnect.hand := by
      unfold pending
      rw [hpc]
      rfl
    rw [hpending] at hold
    show (closes (s.trace ++ [.dial (some s.dialled)])).count c
        + ([s.dialled] ++ s.connection.toList ++ s.disconnect.hand).count c
      = if c < s.dialled + 1 then 1 else 0
    have hcloses : closes (s.trace ++ [.dial (some s.dialled)]) = closes s.trace := by
      rw [closes_append]
      exact List.append_nil _
    have hone : [s.dialled].count c = if s.dialled = c then 1 else 0 := by
      rw [List.count_singleton]
      simp only [beq_iff_eq]
    simp only [List.count_append] at hold ⊢
    rw [hcloses, hone]
    -- the new connection is the one that had no place and has one now
    by_cases hc : s.dialled = c
    · subst hc
      rw [if_neg (Nat.lt_irrefl _)] at hold
      rw [if_pos rfl, if_pos (Nat.lt_succ_self _)]
      omega
    · have hnumber : c < s.dialled + 1 ↔ c < s.dialled := by omega
      rw [if_neg hc, if_congr hnumber rfl rfl, ← hold]
      omega
  numbered := by
    show DefoldSSE.dials (s.trace ++ [.dial (some s.dialled)]) = List.range (s.dialled + 1)
    rw [dials_append, h.numbered, List.range_succ]
    rfl
  free := fun _ => h.free (by rw [hpc]; rfl)

/-- A step that moves a connection from one place to another. -/
theorem Accounted.moved {s s' : PoolThreads} (h : s.Accounted)
    (hplaces : ∀ c, (closes s'.trace).count c + s'.pending.count c
      = (closes s.trace).count c + s.pending.count c)
    (hdials : dials s'.trace = dials s.trace) (hdialled : s'.dialled = s.dialled)
    (hfree : s'.worker.connected = false → s'.connection = none) : s'.Accounted where
  places := by
    intro c
    rw [hplaces, hdialled]
    exact h.places c
  numbered := by
    rw [hdials, hdialled]
    exact h.numbered
  free := hfree

/-- `SSEDM_SetConnection`. -/
theorem Accounted.setConnection {s : PoolThreads} (h : s.Accounted) {c : Nat}
    (hpc : s.worker = .setConnection c) :
    ({ s with connection := some c }.go (.getSocket c)).Accounted := by
  have hnone : s.connection = none := h.free (by rw [hpc]; rfl)
  refine h.moved ?_ rfl rfl (fun hout => (Bool.false_ne_true hout.symm).elim)
  intro d
  unfold pending
  rw [hpc, hnone]
  rfl

/-- `SSEDM_CloseActiveConnection` of the worker, its first half. -/
theorem Accounted.closeTake {s : PoolThreads} (h : s.Accounted) {afterRead : Bool}
    (hpc : s.worker = .closeTake afterRead) {pc : WorkerPc}
    (hhand : pc.hand = s.connection.toList) : (s.take.go pc).Accounted := by
  refine h.moved ?_ rfl rfl (fun _ => rfl)
  intro d
  have hpending : (s.take.go pc).pending = s.pending := by
    unfold pending
    rw [hpc]
    show pc.hand ++ [] ++ s.disconnect.hand = [] ++ s.connection.toList ++ s.disconnect.hand
    rw [hhand]
    simp
  rw [hpending]
  rfl

/-- A connection that is closed leaves the hand it was in. -/
theorem count_close (s : PoolThreads) (c d : Nat) (rest rest' : List Nat) :
    (closes (s.trace ++ [.close c])).count d + (rest ++ rest').count d
      = (closes s.trace).count d + (rest ++ [c] ++ rest').count d := by
  have hcloses : closes (s.trace ++ [.close c]) = closes s.trace ++ [c] := closes_append _ _
  rw [hcloses]
  simp only [List.count_append]
  omega

/-- `dmConnectionPool::Close` by the worker. -/
theorem Accounted.closeCall {s : PoolThreads} (h : s.Accounted) {afterRead : Bool} {c : Nat}
    (hpc : s.worker = .closeCall afterRead c) {pc : WorkerPc}
    (hhand : pc.hand = []) : ((s.call (.close c)).go pc).Accounted := by
  refine h.moved ?_ ?_ rfl (fun _ => h.free (by rw [hpc]; rfl))
  · intro d
    have hcount := count_close s c d [] (s.connection.toList ++ s.disconnect.hand)
    unfold pending
    rw [hpc]
    show (closes (s.trace ++ [.close c])).count d
        + (pc.hand ++ s.connection.toList ++ s.disconnect.hand).count d
      = (closes s.trace).count d + ([c] ++ s.connection.toList ++ s.disconnect.hand).count d
    rw [hhand, List.append_assoc, List.append_assoc]
    exact hcount
  · show DefoldSSE.dials (s.trace ++ [.close c]) = DefoldSSE.dials s.trace
    rw [dials_append]
    exact List.append_nil _

end PoolThreads

/-- No attempt is under way.  Without a pool, none ever gets under way. -/
def WorkerPc.betweenAttempts : WorkerPc → Bool
  | .loopTest => true
  | .performOnce => true
  | .returned => true
  | .reconnect => true
  | .sleepTest => true
  | .lastStop => true
  | .exited => true
  | _ => false

namespace PoolThreads

theorem workerStep_betweenAttempts {s : PoolThreads} (h : s.worker.betweenAttempts = true)
    (answer : PoolAnswer) : (s.workerStep false answer).worker.betweenAttempts = true := by
  unfold workerStep
  cases hpc : s.worker with
  | exited =>
      show s.worker.betweenAttempts = true
      exact h
  -- a place inside an attempt contradicts `h`; from the others it stays outside
  | _ =>
      rw [hpc] at h
      first
        | exact (Bool.false_ne_true h).elim
        | rfl
        | (simp only [go_worker]; split <;> rfl)

theorem unconnected_of_betweenAttempts {pc : WorkerPc} (h : pc.betweenAttempts = true) :
    pc.connected = false := by
  cases pc <;> first | rfl | exact (Bool.false_ne_true h).elim

theorem hand_of_betweenAttempts {pc : WorkerPc} (h : pc.betweenAttempts = true) :
    pc.hand = [] := by
  cases pc <;> first | rfl | exact (Bool.false_ne_true h).elim

/-- **The worker keeps the accounts.** -/
theorem Accounted.worker {pool : Bool} {s : PoolThreads} (h : s.Accounted)
    (hpool : pool = false → s.worker.betweenAttempts = true) (answer : PoolAnswer) :
    (s.workerStep pool answer).Accounted := by
  -- where the worker only uses the connection, there is nothing to do
  by_cases hin : s.worker.connected = true ∧ ∀ afterRead, s.worker ≠ .closeTake afterRead
  · exact h.connected hin.1 hin.2 answer
  · unfold workerStep
    cases hpc : s.worker with
    | clearCancel => exact h.quiet rfl rfl rfl rfl rfl (by rw [hpc]; rfl) (.inr (by rw [hpc]; rfl))
    | dial =>
        dsimp only
        split
        · exact h.dial hpc
        · -- a dial that failed is written down and moves nothing
          refine h.quiet ?_ ?_ rfl rfl rfl (by rw [hpc]; rfl) (.inr (by rw [hpc]; rfl))
          · show closes (s.trace ++ [.dial none]) = closes s.trace
            rw [closes_append]
            exact List.append_nil _
          · show dials (s.trace ++ [.dial none]) = dials s.trace
            rw [dials_append]
            exact List.append_nil _
    | setConnection c => exact h.setConnection hpc
    | closeTake afterRead =>
        have hafter : (afterClose afterRead).hand = [] := by cases afterRead <;> rfl
        dsimp only
        cases hc : s.connection with
        | none => exact h.closeTake hpc (by rw [hafter, hc]; rfl)
        | some c =>
            cases pool with
            | true => exact h.closeTake hpc (by rw [hc]; rfl)
            -- without a pool no attempt gets here
            | false =>
                have hpool := hpool rfl
                rw [hpc] at hpool
                cases hpool
    | closeCall afterRead c =>
        cases afterRead with
        | false => exact h.closeCall hpc rfl
        | true => exact h.closeCall hpc rfl
    | exited => exact h
    | _ =>
        first
          | (rw [hpc] at hin; exact absurd ⟨rfl, by intro afterRead hclose; cases hclose⟩ hin)
          | exact h.idle hpc rfl rfl rfl
          | (dsimp only; split <;> exact h.idle hpc rfl rfl rfl)

/-! ## §3. The disconnect's steps. -/

/-- **The disconnect keeps the accounts.** -/
theorem Accounted.disconnectStep {pool : Bool} {s : PoolThreads} (h : s.Accounted)
    (hpool : pool = false → s.worker.betweenAttempts = true) :
    (s.disconnectStep pool).Accounted := by
  have hsame : s.worker.connected = true ∨ s.worker.connected = false := by
    cases s.worker.connected <;> simp
  unfold PoolThreads.disconnectStep
  cases hpc : s.disconnect with
  | setFlags => exact h.quiet rfl rfl rfl rfl (by rw [hpc]; rfl) rfl hsame
  | takeConnection =>
      dsimp only
      cases hc : s.connection with
      | none =>
          refine h.moved (fun d => ?_) rfl rfl (fun _ => rfl)
          unfold pending
          rw [hpc, hc]
          rfl
      | some c =>
          cases pool with
          | true =>
              refine h.moved (fun d => ?_) rfl rfl (fun _ => rfl)
              unfold pending
              rw [hpc, hc]
              show _ + (s.worker.hand ++ [] ++ [c]).count d = _ + (s.worker.hand ++ [c] ++ []).count d
              rw [List.append_nil, List.append_nil]
              rfl
          | false =>
              -- without a pool nothing was ever stored
              have hout := unconnected_of_betweenAttempts (hpool rfl)
              rw [h.free hout] at hc
              cases hc
  | closeConnection c =>
      refine h.moved (fun d => ?_) ?_ rfl h.free
      · have hcount := count_close s c d (s.worker.hand ++ s.connection.toList) []
        unfold pending
        rw [hpc]
        rw [List.append_nil] at hcount
        show (closes (s.trace ++ [.close c])).count d
            + (s.worker.hand ++ s.connection.toList ++ []).count d
          = (closes s.trace).count d + (s.worker.hand ++ s.connection.toList ++ [c]).count d
        rw [List.append_nil, hcount, List.append_nil]
      · show dials (s.trace ++ [.close c]) = dials s.trace
        rw [dials_append]
        exact List.append_nil _
  | join => exact h.quiet rfl rfl rfl rfl (by rw [hpc]; rfl) rfl hsame
  | joined => exact h

/-- `dmThread::Join` returns when the worker has exited. -/
theorem exited_of_joins {pool : Bool} {s : PoolThreads} (hen : s.enabled .disconnect = true)
    (hjoined : (s.disconnectStep pool).disconnect = .joined) : s.worker = .exited := by
  unfold PoolThreads.disconnectStep at hjoined
  unfold enabled at hen
  cases hpc : s.disconnect with
  | join =>
      rw [hpc] at hen
      exact of_decide_eq_true hen
  | joined =>
      rw [hpc] at hen
      cases hen
  | takeConnection =>
      rw [hpc] at hjoined
      dsimp only at hjoined
      cases hc : s.connection with
      | none =>
          rw [hc] at hjoined
          cases hjoined
      | some c =>
          rw [hc] at hjoined
          cases pool <;> cases hjoined
  | _ =>
      rw [hpc] at hjoined
      cases hjoined

/-- What holds between any two steps. -/
structure Handled (pool : Bool) (s : PoolThreads) : Prop where
  accounted : s.Accounted
  poolless : pool = false → s.worker.betweenAttempts = true
  joined : s.disconnect = .joined → s.worker = .exited

end PoolThreads

theorem handled (pool : Bool) : (poolThreads pool).Invariant (PoolThreads.Handled pool) where
  init :=
    { accounted := ⟨fun _ => rfl, rfl, fun _ => rfl⟩
      poolless := fun _ => rfl
      joined := fun h => by cases h }
  step := by
    intro s a s' h hen hstep
    cases hstep
    cases a with
    | worker answer =>
        exact
          { accounted := h.accounted.worker h.poolless answer
            poolless := by
              intro hpool
              subst hpool
              exact PoolThreads.workerStep_betweenAttempts (h.poolless rfl) answer
            joined := by
              intro hjoined
              have hexited := h.joined
                ((PoolThreads.workerStep_disconnect pool s answer).symm.trans hjoined)
              exact absurd hexited (of_decide_eq_true hen) }
    | disconnect =>
        exact
          { accounted := h.accounted.disconnectStep h.poolless
            poolless := by
              intro hpool
              show (s.disconnectStep pool).worker.betweenAttempts = true
              rw [PoolThreads.disconnectStep_worker]
              exact h.poolless hpool
            joined := by
              intro hjoined
              show (s.disconnectStep pool).worker = .exited
              rw [PoolThreads.disconnectStep_worker]
              exact PoolThreads.exited_of_joins hen hjoined }

/-! ## §4. Every connection is closed once. -/

/-- A connection that was dialled is open or was closed, once. -/
theorem PoolThreads.Accounted.count_eq {s : PoolThreads} (h : s.Accounted) {c : Nat}
    (hc : c ∈ dials s.trace) : (closes s.trace).count c + s.pending.count c = 1 := by
  rw [h.numbered] at hc
  rw [h.places, if_pos (List.mem_range.mp hc)]

/-- **EVERY DIALLED CONNECTION IS CLOSED EXACTLY ONCE.** In every interleaving of
the worker and `SSE_Platform_Disconnect`: what is closed was dialled, and never
twice; an attempt starts with `m_Connection` empty; once an attempt has returned,
every connection was closed once, but for the one the disconnect has taken and
closes next; and after the join every connection was closed once. -/
theorem closed_exactly_once {pool : Bool} {s : PoolThreads} (hs : (poolThreads pool).Reachable s) :
    (∀ c, (closes s.trace).count c ≤ (dials s.trace).count c)
      ∧ (dials s.trace).Nodup
      ∧ (s.worker = .performOnce → s.connection = none)
      ∧ (s.worker.betweenAttempts = true → ∀ c ∈ dials s.trace,
          (closes s.trace).count c = if s.disconnect = .closeConnection c then 0 else 1)
      ∧ (s.disconnect = .joined → ∀ c ∈ dials s.trace, (closes s.trace).count c = 1) := by
  have h := (handled pool).reachable hs
  have hacc := h.accounted
  have hbetween : s.worker.betweenAttempts = true → ∀ c ∈ dials s.trace,
      (closes s.trace).count c = if s.disconnect = .closeConnection c then 0 else 1 := by
    intro hout c hc
    have hcount := hacc.count_eq hc
    have hpending : s.pending = s.disconnect.hand := by
      unfold PoolThreads.pending
      rw [hacc.free (PoolThreads.unconnected_of_betweenAttempts hout),
        PoolThreads.hand_of_betweenAttempts hout]
      rfl
    rw [hpending] at hcount
    cases hd : s.disconnect with
    | closeConnection d =>
        rw [hd] at hcount
        have hone : (DisconnectPc.closeConnection d).hand.count c = if d = c then 1 else 0 := by
          show [d].count c = _
          rw [List.count_singleton]
          simp only [beq_iff_eq]
        rw [hone] at hcount
        simp only [DisconnectPc.closeConnection.injEq]
        split at hcount <;> split <;> omega
    | _ =>
        rw [hd] at hcount
        exact hcount
  refine ⟨?_, ?_, ?_, hbetween, ?_⟩
  · intro c
    have hplaces := hacc.places c
    rw [hacc.numbered, List.count_range]
    omega
  · rw [hacc.numbered]
    exact List.nodup_range
  · intro hstart
    exact hacc.free (by rw [hstart]; rfl)
  · intro hjoined c hc
    have hexited := h.joined hjoined
    rw [hbetween (by rw [hexited]; rfl) c hc, if_neg (by rw [hjoined]; exact nofun)]

/-- The attempt has returned, and the disconnect still holds the connection it
has taken. -/
theorem returned_before_close :
    ∃ s, (poolThreads true).Reachable s ∧ s.worker = .returned ∧ dials s.trace = [0]
      ∧ closes s.trace = [] := by
  have hrun : (poolThreads true).run (poolThreads true).init
      [.worker .ok, .worker .ok, .worker .ok, .worker .ok, .worker .ok, .worker .ok,
        .worker .ok, .worker .ok, .worker .failed, .worker .ok, .worker .ok, .worker .ok,
        .worker .ok, .worker .ok, .worker .ok, .worker .ok, .worker .ok, .worker .ok,
        .worker .ok, .worker .ok, .worker .ok, .worker .ok, .worker .finished,
        .disconnect, .disconnect, .worker .ok, .worker .ok, .worker .ok]
      = some { stop := true, cancelFlag := true, worker := .returned,
               disconnect := .closeConnection 0, dialled := 1,
               trace := [.dial (some 0), .getSocket 0, .getSSLSocket 0, .socket (some 0),
                 .socket (some 0), .socket (some 0), .socket (some 0)] } := rfl
  exact ⟨_, ⟨_, hrun⟩, rfl, rfl, rfl⟩

/-- The disconnect takes the connection while the worker reads its stream; the
worker finds nothing left to close. -/
theorem closed_exactly_once_whileReading :
    ∃ s, (poolThreads true).Reachable s ∧ s.disconnect = .joined ∧ dials s.trace = [0]
      ∧ ∀ c ∈ dials s.trace, (closes s.trace).count c = 1 := by
  have hrun : (poolThreads true).run (poolThreads true).init
      [.worker .ok, .worker .ok, .worker .ok, .worker .ok, .worker .ok, .worker .ok,
        .worker .ok, .worker .ok, .worker .failed, .worker .ok, .worker .ok, .worker .ok,
        .worker .ok, .worker .ok, .worker .ok, .worker .ok, .worker .ok, .worker .ok,
        .worker .ok, .worker .ok, .worker .ok, .worker .ok, .worker .finished,
        .disconnect, .disconnect, .worker .ok, .disconnect, .worker .ok, .worker .ok,
          .worker .ok, .worker .ok, .disconnect]
      = some { stop := true, cancelFlag := true, worker := .exited, disconnect := .joined,
               dialled := 1,
               trace := [.dial (some 0), .getSocket 0, .getSSLSocket 0, .socket (some 0),
                 .socket (some 0), .socket (some 0), .socket (some 0), .close 0] } := rfl
  exact ⟨_, ⟨_, hrun⟩, rfl, rfl, (closed_exactly_once ⟨_, hrun⟩).2.2.2.2 rfl⟩

end DefoldSSE
