/-
  DefoldSSE.Pool.UseAfterClose — uses of a connection against its close.

  Between one look at the stop flag and the next, the worker reads `m_Socket` and
  `m_SSLSocket` and uses what it read.  `SSE_Platform_Disconnect` clears the two
  fields and closes the connection whenever it is scheduled.  `Careful` is the
  condition under which the two do not meet; without it they do
  (`used_after_close`).
-/
import DefoldSSE.Pool.Handles

namespace DefoldSSE

open CLib

/-! ## §1. Uses. -/

/-- The socket, or the connection, that a call uses; 0 is `none`. -/
def PoolCall.uses : PoolCall → Option (Option Nat)
  | .getSocket c => some (some c)
  | .getSSLSocket c => some (some c)
  | .socket s => some s
  | _ => none

/-- A call that may be made: what it uses is there and was not closed. -/
def PoolCall.Allowed (closed : List Nat) (call : PoolCall) : Prop :=
  ∀ socket, call.uses = some socket → ∃ c, socket = some c ∧ c ∉ closed

/-- No call uses the zero socket, or a connection that was closed before. -/
def UsesOpen (trace : List PoolCall) : Prop :=
  ∀ before call after, trace = before ++ call :: after → call.Allowed (closes before)

theorem usesOpen_snoc {trace : List PoolCall} {call : PoolCall} (h : UsesOpen trace)
    (hcall : call.Allowed (closes trace)) : UsesOpen (trace ++ [call]) := by
  intro before last after hsplit
  rcases List.eq_nil_or_concat after with rfl | ⟨after, x, rfl⟩
  · obtain ⟨rfl, hlast⟩ := List.append_inj' hsplit rfl
    cases hlast
    exact hcall
  · have hsplit : trace ++ [call] = (before ++ last :: after) ++ [x] := by simpa using hsplit
    exact h before last after (List.append_inj' hsplit rfl).1

namespace PoolThreads

/-- The connection was not closed. -/
def Live (s : PoolThreads) (c : Nat) : Prop := c ∉ closes s.trace

/-- A socket that may be used. -/
def LiveSocket (s : PoolThreads) (socket : Option Nat) : Prop := ∃ c, socket = some c ∧ s.Live c

/-- The fields are those of one open connection. -/
def Ready (s : PoolThreads) : Prop :=
  s.LiveSocket s.socket ∧ (s.sslSocket = none ∨ s.LiveSocket s.sslSocket)

/-- What the worker relies on until its next look at the stop flag. -/
def Relies (s : PoolThreads) : WorkerPc → Prop
  | .getSocket c => s.Live c
  | .storeSocket c socket => s.Live c ∧ s.LiveSocket socket
  | .getSSLSocket c => s.Live c ∧ s.LiveSocket s.socket
  | .storeSSLSocket _ socket => s.LiveSocket s.socket ∧ (socket = none ∨ s.LiveSocket socket)
  | .setupRead _ => s.Ready
  | .setupCall call socket =>
      s.LiveSocket socket ∧ (s.sslSocket = none ∨ s.LiveSocket s.sslSocket)
        ∧ (call ≠ .receiveTimeout → s.LiveSocket s.socket)
  | .setupSSLTest => s.sslSocket = none ∨ s.LiveSocket s.sslSocket
  | .setupSSLRead => s.LiveSocket s.sslSocket
  | .setupSSLCall socket => s.LiveSocket socket
  | .ioSSLTest _ => s.Ready
  | .ioSSLRead _ => s.LiveSocket s.sslSocket
  | .ioSSLCall _ socket => s.LiveSocket socket
  | .ioRead _ => s.LiveSocket s.socket
  | .ioCall _ socket => s.LiveSocket socket
  | .waitRead _ => s.LiveSocket s.socket
  | .waitSet _ socket => s.LiveSocket socket
  | .waitSelect _ socket => s.LiveSocket socket
  | _ => True

end PoolThreads

/-- From the store of the sockets to the take. -/
def WorkerPc.streaming : WorkerPc → Bool
  | .getSocket _ => false
  | .storeSocket _ _ => false
  | .getSSLSocket _ => false
  | .storeSSLSocket _ _ => false
  | pc => pc.connected

/-- The worker reads a socket field again before it looks at the stop flag. -/
def WorkerPc.rereads : WorkerPc → Bool
  | .getSSLSocket _ => true
  | .storeSSLSocket _ _ => true
  | .setupRead _ => true
  | .setupCall call _ => call ≠ .receiveTimeout
  | .setupSSLRead => true
  | .ioSSLTest _ => true
  | .ioSSLRead _ => true
  | .ioRead _ => true
  | .waitRead _ => true
  | _ => false

namespace PoolThreads

/-- The worker uses its connection before it looks at the stop flag. -/
def usesNext (s : PoolThreads) : Bool :=
  match s.worker with
  | .getSocket _ => true
  | .storeSocket _ _ => true
  | .setupCall _ _ => true
  | .setupSSLTest => s.sslSocket.isSome
  | .setupSSLCall _ => true
  | .ioSSLCall _ _ => true
  | .ioCall _ _ => true
  | .waitSet _ _ => true
  | .waitSelect _ _ => true
  | pc => pc.rereads

/-- The disconnect takes the connection when the worker does not read its socket
again, and closes it when the worker does not use it again, before the worker
looks at the stop flag. -/
def careful (s : PoolThreads) : PoolStep → Bool
  | .worker _ => true
  | .disconnect =>
      match s.disconnect with
      | .takeConnection => !s.worker.rereads
      | .closeConnection _ => !s.usesNext
      | _ => true

/-- Every step of a run is careful. -/
def Careful (s : PoolThreads) (a : PoolStep) : Prop := s.careful a = true

/-! ## §2. The worker relies on what is there. -/

/-- What holds between the steps of a careful run. -/
structure Sound (s : PoolThreads) : Prop where
  uses : UsesOpen s.trace
  relies : s.Relies s.worker
  ready : s.stop = false → s.worker.streaming = true → s.Ready
  stopped : s.disconnect ≠ .setFlags → s.stop = true

section Same

variable {s s' : PoolThreads} (hcloses : closes s'.trace = closes s.trace)
include hcloses

theorem LiveSocket.of_closes {socket : Option Nat} (h : s.LiveSocket socket) :
    s'.LiveSocket socket := by
  obtain ⟨c, hc, hlive⟩ := h
  refine ⟨c, hc, ?_⟩
  unfold Live at hlive ⊢
  rw [hcloses]
  exact hlive

variable (hsocket : s'.socket = s.socket) (hssl : s'.sslSocket = s.sslSocket)
include hsocket hssl

theorem Ready.of_same (h : s.Ready) : s'.Ready := by
  unfold Ready
  rw [hsocket, hssl]
  exact ⟨h.1.of_closes hcloses, h.2.imp_right (LiveSocket.of_closes hcloses)⟩

theorem Relies.of_same {pc : WorkerPc} (h : s.Relies pc) : s'.Relies pc := by
  cases pc
  all_goals first
    | trivial
    | simpa only [Relies, Ready, LiveSocket, Live, hcloses, hsocket, hssl] using h

end Same

theorem relies_afterIo (s : PoolThreads) (loop : PoolLoop) (answer : PoolAnswer) :
    s.Relies (afterIo loop answer) := by
  cases loop <;> cases answer <;> trivial

theorem relies_afterSelect (s : PoolThreads) (loop : PoolLoop) (answer : PoolAnswer) :
    s.Relies (afterSelect loop answer) := by
  cases loop <;> cases answer <;> trivial

theorem relies_afterStop (s : PoolThreads) (loop : PoolLoop) : s.Relies (afterStop loop) := by
  cases loop <;> trivial

theorem relies_afterClose (s : PoolThreads) (afterRead : Bool) :
    s.Relies (afterClose afterRead) := by
  cases afterRead <;> trivial

/-- A step that only goes on. -/
theorem Sound.go {s : PoolThreads} (h : s.Sound) {pc : WorkerPc} (hrelies : s.Relies pc)
    (hready : s.stop = false → pc.streaming = true → s.Ready) : (s.go pc).Sound where
  uses := h.uses
  relies := hrelies
  ready := hready
  stopped := h.stopped

/-- A step that makes a call which closes nothing. -/
theorem Sound.call {s : PoolThreads} (h : s.Sound) {call : PoolCall}
    (hcall : call.Allowed (closes s.trace)) (hcloses : closes [call] = []) {pc : WorkerPc}
    (hrelies : s.Relies pc) (hready : s.stop = false → pc.streaming = true → s.Ready) :
    ((s.call call).go pc).Sound := by
  have hsame : closes ((s.call call).go pc).trace = closes s.trace := by
    show closes (s.trace ++ [call]) = _
    rw [closes_append, hcloses, List.append_nil]
  exact
    { uses := usesOpen_snoc h.uses hcall
      relies := Relies.of_same hsame rfl rfl hrelies
      ready := fun hstop hstream => (hready hstop hstream).of_same hsame rfl rfl
      stopped := h.stopped }

theorem allowed_socket {s : PoolThreads} {socket : Option Nat} (h : s.LiveSocket socket) :
    (PoolCall.socket socket).Allowed (closes s.trace) := by
  intro sock hsock
  cases hsock
  exact h

/-- A step that makes no call. -/
theorem Sound.set {s s' : PoolThreads} (h : s.Sound) (htrace : s'.trace = s.trace)
    (hstop : s'.stop = s.stop) (hdisconnect : s'.disconnect = s.disconnect)
    (hrelies : s'.Relies s'.worker)
    (hready : s'.stop = false → s'.worker.streaming = true → s'.Ready) : s'.Sound where
  uses := by
    rw [htrace]
    exact h.uses
  relies := hrelies
  ready := hready
  stopped := by
    rw [hdisconnect, hstop]
    exact h.stopped

/-- A worker that is not streaming has nothing to rely on. -/
theorem Sound.goIdle {s : PoolThreads} (h : s.Sound) {pc : WorkerPc} (hrelies : s.Relies pc)
    (hpc : pc.streaming = false) : (s.go pc).Sound := by
  apply h.go hrelies
  intro _ hstream
  rw [hpc] at hstream
  cases hstream

/-- The connection in the worker's hand was not closed. -/
theorem Accounted.live {s : PoolThreads} (h : s.Accounted) {c : Nat}
    (hpc : s.worker = .setConnection c) : s.Live c := by
  have hplaces := h.places c
  have hhand : 0 < s.pending.count c := by
    apply List.count_pos_iff.mpr
    unfold pending
    rw [hpc]
    exact List.mem_append_left _ (List.mem_append_left _ (List.mem_singleton_self c))
  apply List.count_eq_zero.mp
  split at hplaces <;> omega

/-- A streaming worker's step, given what it relies on. -/
theorem Sound.streams {pool : Bool} {s : PoolThreads} (h : s.Sound)
    (hin : s.worker.streaming = true) (hclose : ∀ afterRead, s.worker ≠ .closeTake afterRead)
    (answer : PoolAnswer) : (s.workerStep pool answer).Sound := by
  have hrelies := h.relies
  have hready : s.stop = false → s.Ready := fun hstop => h.ready hstop hin
  unfold workerStep
  cases hpc : s.worker with
  | closeTake afterRead => exact absurd hpc (hclose afterRead)
  | setupRead call =>
      rw [hpc] at hrelies
      exact h.go ⟨hrelies.1, hrelies.2, fun _ => hrelies.1⟩ (fun hstop _ => hready hstop)
  | setupCall call socket =>
      rw [hpc] at hrelies
      obtain ⟨hcall, hssl, hagain⟩ := hrelies
      refine h.call (allowed_socket hcall) rfl ?_ (fun hstop _ => hready hstop)
      cases call with
      | noDelay => exact ⟨hagain (by decide), hssl⟩
      | blocking => exact ⟨hagain (by decide), hssl⟩
      | receiveTimeout => exact hssl
  -- the test reads the field again: what it finds is still open
  | setupSSLTest =>
      rw [hpc] at hrelies
      dsimp only
      split
      · next hsome =>
          refine h.go (hrelies.resolve_left ?_) (fun hstop _ => hready hstop)
          intro hnone
          rw [hnone] at hsome
          cases hsome
      · exact h.go trivial (fun hstop _ => hready hstop)
  | setupSSLRead =>
      rw [hpc] at hrelies
      exact h.go hrelies (fun hstop _ => hready hstop)
  | setupSSLCall socket =>
      rw [hpc] at hrelies
      exact h.call (allowed_socket hrelies) rfl trivial (fun hstop _ => hready hstop)
  | setupStop =>
      dsimp only
      split
      · exact h.go trivial (fun hstop _ => hready hstop)
      · exact h.go trivial (fun hstop _ => hready hstop)
  | buildRequest =>
      refine h.go ?_ (fun hstop _ => hready hstop)
      cases answer <;> trivial
  -- past the look at the stop flag the fields are as they were stored
  | ioTest loop =>
      dsimp only
      split
      · exact h.go (relies_afterStop s loop) (fun hstop _ => hready hstop)
      · next hrun => exact h.go (hready (Bool.eq_false_iff.mpr hrun)) (fun hstop _ => hready hstop)
  | ioSSLTest loop =>
      rw [hpc] at hrelies
      dsimp only
      split
      · next hsome =>
          refine h.go (hrelies.2.resolve_left ?_) (fun hstop _ => hready hstop)
          intro hnone
          rw [hnone] at hsome
          cases hsome
      · exact h.go hrelies.1 (fun hstop _ => hready hstop)
  | ioSSLRead loop =>
      rw [hpc] at hrelies
      exact h.go hrelies (fun hstop _ => hready hstop)
  | ioSSLCall loop socket =>
      rw [hpc] at hrelies
      exact h.call (allowed_socket hrelies) rfl (relies_afterIo s loop answer)
        (fun hstop _ => hready hstop)
  | ioRead loop =>
      rw [hpc] at hrelies
      exact h.go hrelies (fun hstop _ => hready hstop)
  | ioCall loop socket =>
      rw [hpc] at hrelies
      exact h.call (allowed_socket hrelies) rfl (relies_afterIo s loop answer)
        (fun hstop _ => hready hstop)
  | waitTest loop =>
      dsimp only
      split
      · exact h.go trivial (fun hstop _ => hready hstop)
      · next hrun =>
          exact h.go (hready (Bool.eq_false_iff.mpr hrun)).1 (fun hstop _ => hready hstop)
  | waitRead loop =>
      rw [hpc] at hrelies
      exact h.go hrelies (fun hstop _ => hready hstop)
  | waitSet loop socket =>
      rw [hpc] at hrelies
      exact h.call (allowed_socket hrelies) rfl hrelies (fun hstop _ => hready hstop)
  | waitSelect loop socket =>
      rw [hpc] at hrelies
      exact h.call (allowed_socket hrelies) rfl (relies_afterSelect s loop answer)
        (fun hstop _ => hready hstop)
  | receiveStop => exact h.go trivial (fun hstop _ => hready hstop)
  | _ =>
      rw [hpc] at hin
      exact (Bool.false_ne_true hin).elim

/-- **The worker's step**, given the accounts. -/
theorem Sound.worker {pool : Bool} {s : PoolThreads} (h : s.Sound) (hacc : s.Accounted)
    (answer : PoolAnswer) : (s.workerStep pool answer).Sound := by
  by_cases hin : s.worker.streaming = true ∧ ∀ afterRead, s.worker ≠ .closeTake afterRead
  · exact h.streams hin.1 hin.2 answer
  · have hrelies := h.relies
    unfold workerStep
    cases hpc : s.worker with
    | clearCancel => exact h.set rfl rfl rfl trivial (fun _ hs => (Bool.false_ne_true hs).elim)
    | dial =>
        dsimp only
        split
        · have hnext : ({ s with dialled := s.dialled + 1 } : PoolThreads).Sound :=
            h.set rfl rfl rfl hrelies h.ready
          exact hnext.call (by intro socket hs; cases hs) rfl trivial
            (fun _ hs => (Bool.false_ne_true hs).elim)
        · exact h.call (by intro socket hs; cases hs) rfl trivial
            (fun _ hs => (Bool.false_ne_true hs).elim)
    | setConnection c =>
        exact h.set rfl rfl rfl (hacc.live hpc) (fun _ hs => (Bool.false_ne_true hs).elim)
    | getSocket c =>
        rw [hpc] at hrelies
        refine h.call ?_ rfl ⟨hrelies, c, rfl, hrelies⟩
          (fun _ hs => (Bool.false_ne_true hs).elim)
        intro socket hs
        cases hs
        exact ⟨c, rfl, hrelies⟩
    | storeSocket c socket =>
        rw [hpc] at hrelies
        exact h.set rfl rfl rfl hrelies (fun _ hs => (Bool.false_ne_true hs).elim)
    | getSSLSocket c =>
        rw [hpc] at hrelies
        refine h.call ?_ rfl ⟨hrelies.2, ?_⟩ (fun _ hs => (Bool.false_ne_true hs).elim)
        · intro socket hs
          cases hs
          exact ⟨c, rfl, hrelies.1⟩
        · split
          · exact .inr ⟨c, rfl, hrelies.1⟩
          · exact .inl rfl
    | storeSSLSocket c socket =>
        rw [hpc] at hrelies
        exact h.set rfl rfl rfl hrelies (fun _ _ => hrelies)
    | closeTake afterRead =>
        have hnext : s.take.go (afterClose afterRead) |>.Sound :=
          h.set rfl rfl rfl (relies_afterClose _ afterRead)
            (fun _ hs => by cases afterRead <;> cases hs)
        dsimp only
        cases s.connection with
        | none => exact hnext
        | some c =>
            cases pool with
            | false => exact hnext
            | true => exact h.set rfl rfl rfl trivial (fun _ hs => (Bool.false_ne_true hs).elim)
    | closeCall afterRead c =>
        exact
          { uses := usesOpen_snoc h.uses (by intro socket hs; cases hs)
            relies := relies_afterClose _ afterRead
            ready := fun _ hs => by cases afterRead <;> cases hs
            stopped := h.stopped }
    | exited => exact h
    | _ =>
        first
          | (rw [hpc] at hin; exact absurd ⟨rfl, by intro afterRead hclose; cases hclose⟩ hin)
          | exact h.goIdle trivial rfl
          | (dsimp only; split <;> exact h.goIdle trivial rfl)

/-! ## §3. The disconnect comes at the right time. -/

/-- Clearing the fields takes nothing from a worker that does not read them
again. -/
theorem relies_take {s : PoolThreads} {pc : WorkerPc} (h : s.Relies pc)
    (hpc : pc.rereads = false) (disconnect : DisconnectPc) :
    ({ s.take with disconnect := disconnect } : PoolThreads).Relies pc := by
  cases pc with
  | setupCall call socket =>
      obtain ⟨hcall, -, -⟩ := h
      refine ⟨hcall, .inl rfl, fun hne => ?_⟩
      exact absurd hpc (by simp [WorkerPc.rereads, hne])
  | setupSSLTest => exact .inl rfl
  | _ =>
      first
        | exact h
        | exact (Bool.false_ne_true hpc.symm).elim

/-- Closing takes nothing from a worker that does not use its connection. -/
theorem relies_of_not_usesNext {s : PoolThreads} (s' : PoolThreads) (h : s.usesNext = false)
    (hssl : s'.sslSocket = s.sslSocket) : s'.Relies s.worker := by
  unfold usesNext at h
  cases hpc : s.worker with
  | setupSSLTest =>
      rw [hpc] at h
      left
      rw [hssl]
      exact Option.not_isSome_iff_eq_none.mp (Bool.eq_false_iff.mp h)
  | _ =>
      rw [hpc] at h
      trivial

/-- **The disconnect's step**, if it is careful. -/
theorem Sound.disconnectStep {pool : Bool} {s : PoolThreads} (h : s.Sound)
    (hcareful : s.Careful .disconnect) : (s.disconnectStep pool).Sound := by
  unfold Careful careful at hcareful
  have hready : s.disconnect ≠ .setFlags → ∀ s' : PoolThreads, s'.stop = s.stop →
      s'.stop = false → s'.worker.streaming = true → s'.Ready := by
    intro hpc s' hsame hstop
    rw [hsame, h.stopped hpc] at hstop
    cases hstop
  unfold PoolThreads.disconnectStep
  cases hpc : s.disconnect with
  | setFlags =>
      exact
        { uses := h.uses
          relies := h.relies
          ready := fun hstop => by cases hstop
          stopped := fun _ => rfl }
  -- the stop flag is up, so `ready` asks for nothing
  | takeConnection =>
      have hne : s.disconnect ≠ .setFlags := by
        rw [hpc]
        decide
      rw [hpc] at hcareful
      have hpast : s.worker.rereads = false := by simpa using hcareful
      have hnext : ∀ disconnect : DisconnectPc,
          ({ s.take with disconnect := disconnect } : PoolThreads).Sound := fun disconnect =>
        { uses := h.uses
          relies := relies_take h.relies hpast disconnect
          ready := hready hne _ rfl
          stopped := fun _ => h.stopped hne }
      dsimp only
      split
      · exact hnext _
      · exact hnext _
  | closeConnection c =>
      have hne : s.disconnect ≠ .setFlags := by
        rw [hpc]
        intro heq
        cases heq
      rw [hpc] at hcareful
      have hpast : s.usesNext = false := by simpa using hcareful
      exact
        { uses := usesOpen_snoc h.uses (by intro socket hs; cases hs)
          relies := relies_of_not_usesNext _ hpast rfl
          ready := hready hne _ rfl
          stopped := fun _ => h.stopped hne }
  | join =>
      have hne : s.disconnect ≠ .setFlags := by
        rw [hpc]
        decide
      exact
        { uses := h.uses
          relies := h.relies
          ready := h.ready
          stopped := fun _ => h.stopped hne }
  | joined => exact h

end PoolThreads

/-! ## §4. Careful runs. -/

/-- **NO USE AFTER CLOSE, WITH CARE.** In a run in which the disconnect takes and
closes the connection only while the worker does not use it before its next look
at the stop flag, no state is reached after a call on a closed connection, on the
socket of one, or on the zero socket. -/
theorem no_use_after_close {pool : Bool} {as : List PoolStep}
    (hcareful : (poolThreads pool).AtEachStep PoolThreads.Careful (poolThreads pool).init as) :
    (poolThreads pool).Throughout (fun s => UsesOpen s.trace) (poolThreads pool).init as := by
  have hinit : PoolThreads.Handled pool (poolThreads pool).init
      ∧ (poolThreads pool).init.Sound := by
    refine ⟨(handled pool).init, ?_, trivial, fun _ hs => (Bool.false_ne_true hs).elim, ?_⟩
    · intro before call after hsplit
      exact absurd hsplit (by simp [poolThreads])
    · intro hne
      exact absurd rfl hne
  have hall : (poolThreads pool).Throughout (fun s => PoolThreads.Handled pool s ∧ s.Sound)
      (poolThreads pool).init as := by
    refine Machine.throughout_of_atEachStep (P := fun s => PoolThreads.Handled pool s ∧ s.Sound)
      (fun s a s' hs hc hnext => ?_) hinit hcareful
    obtain ⟨hen, hstep⟩ := (poolThreads pool).next_eq_some.mp hnext
    refine ⟨(handled pool).step s a s' hs.1 hen hstep, ?_⟩
    cases hstep
    cases a with
    | worker answer => exact hs.2.worker hs.1.accounted answer
    | disconnect => exact hs.2.disconnectStep hc
  intro before after t has hrun
  exact (hall before after t has hrun).2.uses

/-- The worker opens its stream and waits in `Select`; the disconnect takes the
connection there and closes it when the worker has seen the stop flag. -/
def stoppedInSelect : List PoolStep :=
  List.replicate 8 (PoolStep.worker .ok) ++ PoolStep.worker .failed
      :: List.replicate 10 (PoolStep.worker .ok)
    ++ List.replicate 3 (PoolStep.worker .ok) ++ PoolStep.worker .finished
      :: List.replicate 3 (PoolStep.worker .ok)
    ++ PoolStep.worker .again :: List.replicate 3 (PoolStep.worker .ok)
    ++ [PoolStep.disconnect, .disconnect, .worker .again, .worker .ok, .disconnect]
    ++ List.replicate 5 (PoolStep.worker .ok) ++ [PoolStep.disconnect]

theorem no_use_after_close_inSelect :
    (∃ s, (poolThreads true).run (poolThreads true).init stoppedInSelect = some s
        ∧ s.disconnect = .joined ∧ closes s.trace = [0])
      ∧ (poolThreads true).Throughout (fun s => UsesOpen s.trace) (poolThreads true).init
          stoppedInSelect := by
  refine ⟨⟨_, rfl, rfl, rfl⟩, ?_⟩
  exact no_use_after_close (Machine.atEachStep_of_meets (c := PoolThreads.careful) (by decide))

/-- The request is sent; the disconnect takes the connection between the worker's
look at the stop flag in front of its first receive and its read of `m_Socket`: the
worker receives on the zero socket. -/
theorem used_after_close :
    ¬ ∀ (pool : Bool) (as : List PoolStep) (s : PoolThreads),
        (poolThreads pool).run (poolThreads pool).init as = some s → UsesOpen s.trace := by
  intro h
  have hrun : (poolThreads true).run (poolThreads true).init
      (List.replicate 8 (PoolStep.worker .ok) ++ PoolStep.worker .failed
          :: List.replicate 10 (PoolStep.worker .ok)
        ++ List.replicate 3 (PoolStep.worker .ok)
        ++ [PoolStep.worker .finished, .worker .ok, .disconnect, .disconnect]
        ++ List.replicate 3 (PoolStep.worker .ok))
      = some { stop := true, cancelFlag := true, worker := .ioTest .receive,
               disconnect := .closeConnection 0, dialled := 1,
               trace := [.dial (some 0), .getSocket 0, .getSSLSocket 0, .socket (some 0),
                 .socket (some 0), .socket (some 0), .socket (some 0)] ++ [.socket none] } := by
    decide
  obtain ⟨c, hc, -⟩ := h true _ _ hrun _ _ [] rfl none rfl
  cases hc

end DefoldSSE
