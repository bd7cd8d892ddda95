/-
  DefoldSSE.Desktop.WinHttpHandles — the WinHTTP handles, and who closes them.

  A worker opens three handles in turn, each on the one before, and stores them
  under the mutex; it closes them itself when its attempt is over.
  `SSE_Platform_Disconnect` only raises the stop flag.  `SSE_Platform_Finalize`
  takes the stored handles of a worker that still runs and closes them, which is
  to abort its blocking read.

  Every mutex section and every call of WinHTTP is a step of its own here.  A
  handle is, from the call that returned it on, in the worker's hand, stored, in
  the hand of `SSE_Platform_Finalize`, or closed.

  Main results:
    • `winHttp_handles` — no handle is ever leaked, and up to the moment when
      Finalize takes them none is used after it was closed or closed twice;
    • `winHttp_closedOnce` — none is closed twice after it either, unless Finalize
      came between a worker's look at the flag and its next `SetHandles`.
-/
import Mathlib.Data.List.Range
import Mathlib.Data.List.Perm.Basic
import DefoldSSE.Lib.Machine

namespace DefoldSSE

open CLib

/-! ## §1. The two threads. -/

/-- `session`, `connect` and `request`, up to the one that was opened last. -/
inductive OpenHandles where
  | session (s : Nat)
  | connect (s c : Nat)
  | request (s c r : Nat)
  deriving DecidableEq, Repr

namespace OpenHandles

/-- In the order of `SSEWinHTTP_CloseHandles`. -/
def toList : OpenHandles → List Nat
  | .session s => [s]
  | .connect s c => [c, s]
  | .request s c r => [r, c, s]

/-- The handle that was opened last. -/
def last : OpenHandles → Nat
  | .session s => s
  | .connect _ c => c
  | .request _ _ r => r

/-- The handles before it. -/
def older : OpenHandles → Option OpenHandles
  | .session _ => none
  | .connect s _ => some (.session s)
  | .request s c _ => some (.connect s c)

end OpenHandles

/-- The stored handles, or the local variables, as a list. -/
def handleList (hs : Option OpenHandles) : List Nat := (hs.map OpenHandles.toList).getD []

@[simp] theorem handleList_none : handleList none = [] := rfl
@[simp] theorem handleList_some (hs : OpenHandles) : handleList (some hs) = hs.toList := rfl

/-- The opened handle comes on top of the ones before. -/
theorem OpenHandles.toList_eq (hs : OpenHandles) : hs.toList = hs.last :: handleList hs.older := by
  cases hs <;> rfl

/-- The worker's next step; `hs` are its local variables. -/
inductive WinHttpPc where
  /-- `while (!SSEDesktop_ShouldStop(connection))`. -/
  | loopTest
  /-- `SSEWinHTTP_ParseUrl`, then `WinHttpOpen`. -/
  | openSession
  /-- `SSEWinHTTP_SetHandles`. -/
  | setHandles (hs : OpenHandles)
  /-- `WinHttpSetTimeouts`. -/
  | setTimeouts (s : Nat)
  /-- `SSEDesktop_ShouldStop` after it. -/
  | look (hs : OpenHandles)
  /-- `WinHttpConnect`. -/
  | connect (s : Nat)
  /-- `WinHttpOpenRequest`. -/
  | openRequest (s c : Nat)
  /-- The calls on the request up to the one that sets its receive timeout. -/
  | exchange (s c r : Nat)
  /-- The tests in `SSEWinHTTP_ReadStream`. -/
  | streamTest (s c r : Nat)
  /-- `WinHttpQueryDataAvailable` or `WinHttpReadData`. -/
  | read (s c r : Nat)
  /-- `SSEWinHTTP_CloseActiveHandles`: `SSEWinHTTP_TakeHandles`. -/
  | takeHandles (hs : OpenHandles)
  /-- `SSEWinHTTP_CloseHandles`, of these. -/
  | closing (hs : List Nat)
  /-- `SSEDesktop_PerformOnce` has returned: `if (ShouldStop) break`. -/
  | returned
  | sleepTest
  /-- `if (!ShouldStop)`, then `SSE_EnqueueClosed`. -/
  | lastTest
  /-- `SSEDesktop_MarkFinished` was called. -/
  | finished
  deriving DecidableEq, Repr

/-- The next step of the main thread. -/
inductive WinHttpMain where
  | connected
  /-- `SSE_Platform_Disconnect` has raised the flag. -/
  | disconnected
  /-- `SSE_Platform_Finalize`: `SSEWinHTTP_TakeHandles`, the worker running. -/
  | takeHandles
  | closing (hs : List Nat)
  | join
  | joined
  deriving DecidableEq, Repr

/-- A call of WinHTTP. -/
inductive HandleDeed where
  /-- Any function but the one that closes: the handle it is called on, and the
  handle it returns. -/
  | called (on result : Option Nat)
  /-- `WinHttpCloseHandle`. -/
  | closed (h : Nat)
  deriving DecidableEq, Repr

/-- The shared fields of `SSEDesktopConnection`, the two threads, and the calls
they have made. -/
structure WinHttpThreads where
  stop : Bool := false
  /-- `m_Session`, `m_Connect` and `m_Request`. -/
  handles : Option OpenHandles := none
  worker : WinHttpPc := .loopTest
  main : WinHttpMain := .connected
  trace : List HandleDeed := []
  /-- How many handles WinHTTP has given. -/
  opened : Nat := 0
  /-- `SSE_Platform_Finalize` has taken the handles. -/
  taken : Bool := false
  deriving DecidableEq, Repr

/-- What a call or a test that is not modelled gives the worker. -/
inductive WinHttpAnswer where
  | ok
  /-- Success, and the last of its kind. -/
  | done
  | failed
  deriving DecidableEq, Repr

namespace WinHttpThreads

def go (s : WinHttpThreads) (pc : WinHttpPc) : WinHttpThreads := { s with worker := pc }

/-- A call on a handle that gives none. -/
def call (s : WinHttpThreads) (h : Nat) : WinHttpThreads :=
  { s with trace := s.trace ++ [.called (some h) none] }

/-- A call that gives a handle; handles are numbered. -/
def callOpen (s : WinHttpThreads) (on : Option Nat) : WinHttpThreads :=
  { s with trace := s.trace ++ [.called on (some s.opened)], opened := s.opened + 1 }

def close (s : WinHttpThreads) (h : Nat) : WinHttpThreads :=
  { s with trace := s.trace ++ [.closed h] }

/-- After the look that follows `SSEWinHTTP_SetHandles`. -/
def afterLook : OpenHandles → WinHttpPc
  | .session s => .connect s
  | .connect s c => .openRequest s c
  | .request s c r => .exchange s c r

/-- One step of `SSEDesktop_Worker`. -/
def workerStep (s : WinHttpThreads) (answer : WinHttpAnswer) : WinHttpThreads :=
  match s.worker with
  | .loopTest => s.go (if s.stop then .lastTest else .openSession)
  | .openSession =>
      if answer = .failed then s.go .returned
      else (s.callOpen none).go (.setHandles (.session s.opened))
  | .setHandles hs =>
      { s with handles := some hs }.go (match hs with
        | .session n => .setTimeouts n
        | hs => .look hs)
  | .setTimeouts n => (s.call n).go (.look (.session n))
  | .look hs => s.go (if s.stop then .takeHandles hs else afterLook hs)
  | .connect n =>
      if answer = .failed then (s.call n).go (.takeHandles (.session n))
      else (s.callOpen (some n)).go (.setHandles (.connect n s.opened))
  | .openRequest n c =>
      if answer = .failed then (s.call c).go (.takeHandles (.connect n c))
      else (s.callOpen (some c)).go (.setHandles (.request n c s.opened))
  | .exchange n c r =>
      (s.call r).go (match answer with
        | .ok => .exchange n c r
        | .done => .streamTest n c r
        | .failed => .takeHandles (.request n c r))
  | .streamTest n c r => s.go (if s.stop then .takeHandles (.request n c r) else .read n c r)
  | .read n c r =>
      (s.call r).go (match answer with
        | .ok => .streamTest n c r
        | _ => .takeHandles (.request n c r))
  | .takeHandles _ => { s with handles := none }.go (.closing (handleList s.handles))
  | .closing (h :: hs) => (s.close h).go (.closing hs)
  | .closing [] => s.go .returned
  | .returned => s.go (if s.stop || answer = .failed then .lastTest else .sleepTest)
  | .sleepTest => s.go (if s.stop || answer = .done then .loopTest else .sleepTest)
  | .lastTest => s.go .finished
  | .finished => s

/-- One step of the main thread; `finalize` tells `SSE_Platform_Finalize` from
`SSE_Platform_Update`. -/
def mainStep (s : WinHttpThreads) (finalize : Bool) : WinHttpThreads :=
  match s.main with
  | .connected => { s with stop := true, main := .disconnected }
  | .disconnected =>
      -- `SSEDesktop_IsFinished`
      if s.worker = .finished then { s with main := .join }
      else if finalize then { s with main := .takeHandles }
      else s
  | .takeHandles =>
      { s with handles := none, main := .closing (handleList s.handles), taken := true }
  | .closing (h :: hs) => { s.close h with main := .closing hs }
  | .closing [] => { s with main := .join }
  | .join => { s with main := .joined }
  | .joined => s

end WinHttpThreads

/-- A step of one of the two threads. -/
inductive WinHttpStep where
  | worker (answer : WinHttpAnswer)
  | main (finalize : Bool)
  deriving DecidableEq, Repr

namespace WinHttpThreads

/-- `dmThread::Join` waits. -/
def enabled (s : WinHttpThreads) : WinHttpStep → Bool
  | .worker _ => s.worker ≠ .finished
  | .main _ =>
      match s.main with
      | .join => s.worker = .finished
      | .joined => false
      | _ => true

def step (s : WinHttpThreads) : WinHttpStep → WinHttpThreads
  | .worker answer => s.workerStep answer
  | .main finalize => s.mainStep finalize

end WinHttpThreads

/-- The worker of a connection, its disconnect, and what reaps it. -/
def winHttpThreads : Machine WinHttpThreads WinHttpStep Empty where
  init := {}
  enabled := WinHttpThreads.enabled
  step s a := .ok (s.step a)

/-! ## §2. Where a handle is. -/

/-- The handles that were closed. -/
def closedHandles (trace : List HandleDeed) : List Nat :=
  trace.filterMap (fun
    | .closed h => some h
    | _ => none)

/-- The handles that WinHTTP gave. -/
def openedHandles (trace : List HandleDeed) : List Nat :=
  trace.filterMap (fun
    | .called _ result => result
    | _ => none)

@[simp] theorem closedHandles_append (t t' : List HandleDeed) :
    closedHandles (t ++ t') = closedHandles t ++ closedHandles t' := List.filterMap_append

@[simp] theorem openedHandles_append (t t' : List HandleDeed) :
    openedHandles (t ++ t') = openedHandles t ++ openedHandles t' := List.filterMap_append

/-- Every call was made on a handle that was not closed yet. -/
def CallsOpen (trace : List HandleDeed) : Prop :=
  ∀ before h result after, trace = before ++ .called (some h) result :: after →
    h ∉ closedHandles before

theorem CallsOpen.snoc {trace : List HandleDeed} (h : CallsOpen trace) {d : HandleDeed}
    (hd : ∀ on result, d = .called (some on) result → on ∉ closedHandles trace) :
    CallsOpen (trace ++ [d]) := by
  intro before on result after heq
  rcases List.eq_nil_or_concat after with rfl | ⟨after', last, rfl⟩
  · obtain ⟨rfl, hlast⟩ := List.append_inj' heq rfl
    exact hd on result (List.cons.inj hlast).1
  · have hsplit : before ++ .called (some on) result :: (after' ++ [last])
        = (before ++ .called (some on) result :: after') ++ [last] := by simp
    rw [List.concat_eq_append, hsplit] at heq
    exact h before on result after' (List.append_inj' heq rfl).1

namespace WinHttpPc

/-- What the worker has stored last, while its attempt goes on. -/
def stored : WinHttpPc → Option OpenHandles
  | .setHandles hs => hs.older
  | .setTimeouts s => some (.session s)
  | .look hs => some hs
  | .connect s => some (.session s)
  | .openRequest s c => some (.connect s c)
  | .exchange s c r => some (.request s c r)
  | .streamTest s c r => some (.request s c r)
  | .read s c r => some (.request s c r)
  | .takeHandles hs => some hs
  | _ => none

/-- Not yet stored, or taken to be closed. -/
def hand : WinHttpPc → List Nat
  | .setHandles hs => [hs.last]
  | .closing hs => hs
  | _ => []

/-- Past a look at the flag, and before the handles are stored that belong to
those that are. -/
def storesAgain : WinHttpPc → Bool
  | .connect _ => true
  | .openRequest _ _ => true
  | .setHandles hs => hs.older.isSome
  | _ => false

end WinHttpPc

def WinHttpMain.hand : WinHttpMain → List Nat
  | .closing hs => hs
  | _ => []

namespace WinHttpThreads

/-- The handles that are in one of the three places. -/
def pending (s : WinHttpThreads) : List Nat :=
  s.worker.hand ++ handleList s.handles ++ s.main.hand

/-! ## §3. What a step can do. -/

/-- A call the worker may make: on a handle that it has stored. -/
def MayCall (s : WinHttpThreads) (on : Option Nat) : Prop :=
  ∀ h ∈ on, h ∈ handleList s.worker.stored

/-- A step of the worker. -/
inductive WorkerDoes (s : WinHttpThreads) : WinHttpThreads → Prop where
  | goes (pc : WinHttpPc) (hhand : pc.hand = s.worker.hand) (hstored : pc.stored = s.worker.stored)
      (hagain : pc.storesAgain = true → s.worker.storesAgain = true ∨ s.stop = false) :
      WorkerDoes s (s.go pc)
  | calls (h : Nat) (pc : WinHttpPc) (hmay : s.MayCall (some h)) (hhand : pc.hand = s.worker.hand)
      (hstored : pc.stored = s.worker.stored) (hagain : pc.storesAgain = false) :
      WorkerDoes s ((s.call h).go pc)
  | opens (on : Option Nat) (hs : OpenHandles) (hmay : s.MayCall on) (hhand : s.worker.hand = [])
      (hstored : s.worker.stored = hs.older) (hlast : hs.last = s.opened)
      (hagain : hs.older.isSome = true → s.worker.storesAgain = true) :
      WorkerDoes s ((s.callOpen on).go (.setHandles hs))
  | stores (hs : OpenHandles) (hpc : s.worker = .setHandles hs) (pc : WinHttpPc)
      (hhand : pc.hand = []) (hstored : pc.stored = some hs) (hagain : pc.storesAgain = false) :
      WorkerDoes s ({ s with handles := some hs }.go pc)
  | takes (hhand : s.worker.hand = []) :
      WorkerDoes s ({ s with handles := none }.go (.closing (handleList s.handles)))
  | closes (h : Nat) (hs : List Nat) (hpc : s.worker = .closing (h :: hs)) :
      WorkerDoes s ((s.close h).go (.closing hs))

theorem mem_last (hs : OpenHandles) : hs.last ∈ hs.toList := by
  rw [hs.toList_eq]
  exact List.mem_cons_self

/-- A call on the handle that was opened last. -/
theorem mayCall_last (s : WinHttpThreads) (hs : OpenHandles) (h : s.worker.stored = some hs) :
    s.MayCall (some hs.last) := by
  intro n hn
  cases hn
  rw [h]
  exact mem_last hs

theorem workerStep_does (s : WinHttpThreads) (answer : WinHttpAnswer) :
    WorkerDoes s (s.workerStep answer) := by
  have hgoes : ∀ pc : WinHttpPc, s.worker = pc → ∀ pc' : WinHttpPc, pc'.hand = pc.hand →
      pc'.stored = pc.stored →
      (pc'.storesAgain = true → pc.storesAgain = true ∨ s.stop = false) →
      WorkerDoes s (s.go pc') := by
    intro pc hpc pc' hhand hstored hagain
    subst hpc
    exact .goes pc' hhand hstored hagain
  unfold workerStep
  cases hpc : s.worker with
  | loopTest =>
      dsimp only
      split <;> exact hgoes _ hpc _ rfl rfl nofun
  | openSession =>
      dsimp only
      split
      · exact hgoes _ hpc _ rfl rfl nofun
      · exact .opens none (.session s.opened) nofun (by rw [hpc]; rfl) (by rw [hpc]; rfl) rfl nofun
  | setHandles hs =>
      cases hs with
      | session n => exact .stores _ hpc _ rfl rfl rfl
      | connect n c => exact .stores _ hpc _ rfl rfl rfl
      | request n c r => exact .stores _ hpc _ rfl rfl rfl
  | setTimeouts n =>
      exact .calls n _ (mayCall_last s (.session n) (by rw [hpc]; rfl)) (by rw [hpc]; rfl)
        (by rw [hpc]; rfl) rfl
  | look hs =>
      dsimp only
      -- a worker that has seen no stop here opens its next handle
      cases hstop : s.stop with
      | true => exact hgoes _ hpc (.takeHandles hs) rfl rfl nofun
      | false =>
          cases hs with
          | session n => exact hgoes _ hpc (.connect n) rfl rfl (fun _ => .inr hstop)
          | connect n c => exact hgoes _ hpc (.openRequest n c) rfl rfl (fun _ => .inr hstop)
          | request n c r => exact hgoes _ hpc (.exchange n c r) rfl rfl nofun
  | connect n =>
      have hmay := mayCall_last s (.session n) (by rw [hpc]; rfl)
      dsimp only
      split
      · exact .calls n _ hmay (by rw [hpc]; rfl) (by rw [hpc]; rfl) rfl
      · exact .opens (some n) (.connect n s.opened) hmay (by rw [hpc]; rfl) (by rw [hpc]; rfl) rfl
          (fun _ => by rw [hpc]; rfl)
  | openRequest n c =>
      have hmay := mayCall_last s (.connect n c) (by rw [hpc]; rfl)
      dsimp only
      split
      · exact .calls c _ hmay (by rw [hpc]; rfl) (by rw [hpc]; rfl) rfl
      · exact .opens (some c) (.request n c s.opened) hmay (by rw [hpc]; rfl) (by rw [hpc]; rfl)
          rfl (fun _ => by rw [hpc]; rfl)
  | exchange n c r =>
      have hmay := mayCall_last s (.request n c r) (by rw [hpc]; rfl)
      have hhand : ([] : List Nat) = s.worker.hand := (congrArg WinHttpPc.hand hpc).symm
      have hstored := (congrArg WinHttpPc.stored hpc).symm
      cases answer <;> exact .calls r _ hmay hhand hstored rfl
  | streamTest n c r =>
      dsimp only
      split <;> exact hgoes _ hpc _ rfl rfl nofun
  | read n c r =>
      have hmay := mayCall_last s (.request n c r) (by rw [hpc]; rfl)
      have hhand : ([] : List Nat) = s.worker.hand := (congrArg WinHttpPc.hand hpc).symm
      have hstored := (congrArg WinHttpPc.stored hpc).symm
      cases answer <;> exact .calls r _ hmay hhand hstored rfl
  | takeHandles hs => exact .takes (by rw [hpc]; rfl)
  | closing hs =>
      cases hs with
      | nil => exact hgoes _ hpc _ rfl rfl nofun
      | cons h hs => exact .closes h hs hpc
  | returned =>
      dsimp only
      split <;> exact hgoes _ hpc _ rfl rfl nofun
  | sleepTest =>
      dsimp only
      split <;> exact hgoes _ hpc _ rfl rfl nofun
  | lastTest => exact hgoes _ hpc _ rfl rfl nofun
  | finished =>
      have hsame := hgoes _ hpc .finished rfl rfl nofun
      rw [show s.go .finished = s from by rw [← hpc]; rfl] at hsame
      exact hsame

/-- A step of the main thread. -/
inductive MainDoes (s : WinHttpThreads) : WinHttpThreads → Prop where
  | goes (main : WinHttpMain) (hhand : main.hand = s.main.hand) (hconnected : s.main ≠ .connected)
      (hjoined : main = .joined → s.main = .join) : MainDoes s { s with main := main }
  | stops (hmain : s.main = .connected) :
      MainDoes s { s with stop := true, main := .disconnected }
  | takes (hmain : s.main = .takeHandles) :
      MainDoes s { s with handles := none, main := .closing (handleList s.handles), taken := true }
  | closes (h : Nat) (hs : List Nat) (hmain : s.main = .closing (h :: hs)) :
      MainDoes s { s.close h with main := .closing hs }

theorem mainStep_does (s : WinHttpThreads) (finalize : Bool) (hen : s.main ≠ .joined) :
    MainDoes s (s.mainStep finalize) := by
  have hgoes : ∀ main : WinHttpMain, s.main = main → ∀ main' : WinHttpMain,
      main'.hand = main.hand → main ≠ .connected → (main' = .joined → main = .join) →
      MainDoes s { s with main := main' } := by
    intro main hmain main' hhand hconnected hjoined
    subst hmain
    exact .goes main' hhand hconnected hjoined
  unfold mainStep
  cases hmain : s.main with
  | connected => exact .stops hmain
  | disconnected =>
      -- Finalize, a worker that is done, or an Update that finds it running
      dsimp only
      split
      · exact hgoes _ hmain _ rfl nofun nofun
      · split
        · exact hgoes _ hmain _ rfl nofun nofun
        · have hsame := hgoes _ hmain .disconnected rfl nofun nofun
          rw [show { s with main := .disconnected } = s from by rw [← hmain]] at hsame
          exact hsame
  | takeHandles => exact .takes hmain
  | closing hs =>
      cases hs with
      | nil => exact hgoes _ hmain _ rfl nofun nofun
      | cons h hs => exact .closes h hs hmain
  | join => exact hgoes _ hmain _ rfl nofun (fun _ => rfl)
  | joined => exact absurd hmain hen

/-! ## §4. Where the handles go. -/

/-- The handles that are accounted for. -/
def places (s : WinHttpThreads) : List Nat := closedHandles s.trace ++ s.pending

/-- Every handle is in one place. -/
def Once (s : WinHttpThreads) : Prop := s.places.Perm (List.range s.opened)

/-- What a step does to the places, but for one that stores handles. -/
inductive Moved (s s' : WinHttpThreads) : Prop where
  | same (hopened : s'.opened = s.opened) (hplaces : s'.places.Perm s.places)
  | opened (hopened : s'.opened = s.opened + 1) (hplaces : s'.places.Perm (s.opened :: s.places))

theorem WorkerDoes.moved {s s' : WinHttpThreads} (h : WorkerDoes s s') :
    s.Moved s' ∨ ∃ hs, s.worker = .setHandles hs ∧ s'.opened = s.opened
      ∧ s'.places = closedHandles s.trace ++ (hs.toList ++ s.main.hand) := by
  -- storing puts all handles of the worker back, so it is left to the callers
  cases h with
  | goes pc hhand hstored hagain =>
      refine .inl (.same rfl ?_)
      unfold places pending
      show (closedHandles s.trace ++ (pc.hand ++ handleList s.handles ++ s.main.hand)).Perm _
      rw [hhand]
  | calls h pc hmay hhand hstored hagain =>
      refine .inl (.same rfl ?_)
      unfold places pending
      show (closedHandles (s.trace ++ [.called (some h) none])
        ++ (pc.hand ++ handleList s.handles ++ s.main.hand)).Perm _
      rw [hhand, closedHandles_append]
      simp [closedHandles]
  | opens on hs hmay hhand hstored hlast hagain =>
      refine .inl (.opened rfl ?_)
      unfold places pending
      show (closedHandles (s.trace ++ [.called on (some s.opened)])
        ++ ([hs.last] ++ handleList s.handles ++ s.main.hand)).Perm _
      rw [hhand, hlast, closedHandles_append]
      refine List.perm_iff_count.mpr (fun n => ?_)
      simp only [closedHandles, List.filterMap_cons, List.filterMap_nil, List.append_nil,
        List.count_append, List.count_cons, List.count_nil]
      omega
  | stores hs hpc pc hhand hstored hagain =>
      refine .inr ⟨hs, hpc, rfl, ?_⟩
      unfold places pending
      show closedHandles s.trace ++ (pc.hand ++ hs.toList ++ s.main.hand) = _
      rw [hhand]
      rfl
  | takes hhand =>
      refine .inl (.same rfl ?_)
      unfold places pending
      show (closedHandles s.trace ++ (handleList s.handles ++ [] ++ s.main.hand)).Perm _
      rw [hhand, List.append_nil]
      rfl
  | closes h hs hpc =>
      refine .inl (.same rfl ?_)
      unfold places pending
      show (closedHandles (s.trace ++ [.closed h])
        ++ (hs ++ handleList s.handles ++ s.main.hand)).Perm _
      rw [hpc, closedHandles_append]
      refine List.perm_iff_count.mpr (fun n => ?_)
      simp only [closedHandles, List.filterMap_cons, List.filterMap_nil, WinHttpPc.hand,
        List.count_append, List.count_cons, List.count_nil]
      omega

theorem MainDoes.moved {s s' : WinHttpThreads} (h : MainDoes s s') : s.Moved s' := by
  cases h with
  | goes main hhand hconnected hjoined =>
      refine .same rfl ?_
      unfold places pending
      show (closedHandles s.trace ++ (s.worker.hand ++ handleList s.handles ++ main.hand)).Perm _
      rw [hhand]
  | stops hmain =>
      refine .same rfl ?_
      unfold places pending
      rw [hmain]
      exact .refl _
  | takes hmain =>
      refine .same rfl ?_
      unfold places pending
      show (closedHandles s.trace ++ (s.worker.hand ++ [] ++ handleList s.handles)).Perm _
      rw [hmain, List.append_nil]
      simp [WinHttpMain.hand]
  | closes h hs hmain =>
      refine .same rfl ?_
      unfold places pending
      show (closedHandles (s.trace ++ [.closed h])
        ++ (s.worker.hand ++ handleList s.handles ++ hs)).Perm _
      rw [hmain, closedHandles_append]
      refine List.perm_iff_count.mpr (fun n => ?_)
      simp only [closedHandles, List.filterMap_cons, List.filterMap_nil, WinHttpMain.hand,
        List.count_append, List.count_cons, List.count_nil]
      omega

theorem Once.moved {s s' : WinHttpThreads} (h : s.Once) (hmoved : s.Moved s') : s'.Once := by
  unfold Once at h ⊢
  cases hmoved with
  | same hopened hplaces =>
      rw [hopened]
      exact hplaces.trans h
  | opened hopened hplaces =>
      rw [hopened, List.range_succ]
      exact hplaces.trans ((h.cons _).trans (List.perm_append_singleton _ _).symm)

/-! ## §5. What holds in every run. -/

/-- What holds between any two steps. -/
structure Placed (s : WinHttpThreads) : Prop where
  numbered : openedHandles s.trace = List.range s.opened
  /-- Only Finalize takes handles from under a worker. -/
  handles : s.handles = s.worker.stored ∨ s.taken = true ∧ s.handles = none
  known : ∀ h ∈ handleList s.worker.stored, h < s.opened
  places : ∀ h, h ∈ s.places ↔ h < s.opened
  stopped : s.main ≠ .connected → s.stop = true
  joined : s.main = .joined → s.worker = .finished

theorem places_of_moved {s s' : WinHttpThreads} (h : ∀ n, n ∈ s.places ↔ n < s.opened)
    (hmoved : s.Moved s') (n : Nat) : n ∈ s'.places ↔ n < s'.opened := by
  cases hmoved with
  | same hopened hplaces => rw [hplaces.mem_iff, hopened, h]
  | opened hopened hplaces =>
      rw [hplaces.mem_iff, hopened, List.mem_cons, h]
      omega

/-- The handle in hand is one of those that are accounted for. -/
theorem Placed.last_lt {s : WinHttpThreads} (h : s.Placed) {hs : OpenHandles}
    (hpc : s.worker = .setHandles hs) : hs.last < s.opened := by
  apply (h.places _).mp
  unfold WinHttpThreads.places pending
  rw [hpc]
  simp [WinHttpPc.hand]

theorem Placed.toList_lt {s : WinHttpThreads} (h : s.Placed) {hs : OpenHandles}
    (hpc : s.worker = .setHandles hs) : ∀ n ∈ hs.toList, n < s.opened := by
  intro n hn
  rw [hs.toList_eq] at hn
  rcases List.mem_cons.mp hn with rfl | hn
  · exact h.last_lt hpc
  · apply h.known
    rw [hpc]
    exact hn

theorem Placed.worker {s s' : WinHttpThreads} (h : s.Placed) (hdoes : WorkerDoes s s')
    (hrunning : s.worker ≠ .finished) : s'.Placed where
  numbered := by
    cases hdoes with
    | goes pc hhand hstored hagain => exact h.numbered
    | calls n pc hmay hhand hstored hagain =>
        show openedHandles (s.trace ++ [.called (some n) none]) = _
        rw [openedHandles_append, h.numbered]
        exact List.append_nil _
    | opens on hs hmay hhand hstored hlast hagain =>
        show openedHandles (s.trace ++ [.called on (some s.opened)]) = List.range (s.opened + 1)
        rw [openedHandles_append, h.numbered, List.range_succ]
        rfl
    | stores hs hpc pc hhand hstored hagain => exact h.numbered
    | takes hhand => exact h.numbered
    | closes n hs hpc =>
        show openedHandles (s.trace ++ [.closed n]) = _
        rw [openedHandles_append, h.numbered]
        exact List.append_nil _
  handles := by
    cases hdoes with
    | goes pc hhand hstored hagain =>
        show s.handles = pc.stored ∨ _
        rw [hstored]
        exact h.handles
    | calls n pc hmay hhand hstored hagain =>
        show s.handles = pc.stored ∨ _
        rw [hstored]
        exact h.handles
    | opens on hs hmay hhand hstored hlast hagain =>
        show s.handles = hs.older ∨ _
        rw [← hstored]
        exact h.handles
    | stores hs hpc pc hhand hstored hagain => exact .inl hstored.symm
    | takes hhand => exact .inl rfl
    | closes n hs hpc =>
        have hold := h.handles
        rw [hpc] at hold
        exact hold
  known := by
    cases hdoes with
    | goes pc hhand hstored hagain =>
        show ∀ n ∈ handleList pc.stored, _
        rw [hstored]
        exact h.known
    | calls n pc hmay hhand hstored hagain =>
        show ∀ n ∈ handleList pc.stored, _
        rw [hstored]
        exact h.known
    | opens on hs hmay hhand hstored hlast hagain =>
        show ∀ n ∈ handleList hs.older, n < s.opened + 1
        rw [← hstored]
        exact fun n hn => Nat.lt_succ_of_lt (h.known n hn)
    | stores hs hpc pc hhand hstored hagain =>
        show ∀ n ∈ handleList pc.stored, _
        rw [hstored]
        exact h.toList_lt hpc
    | takes hhand => exact nofun
    | closes n hs hpc => exact nofun
  places := by
    rcases hdoes.moved with hmoved | ⟨hs, hpc, hopened, hplaces⟩
    · exact places_of_moved h.places hmoved
    · intro n
      have hold := h.places n
      have hnew := h.toList_lt hpc
      rw [hplaces, hopened, ← hold]
      unfold WinHttpThreads.places pending at hold ⊢
      rw [hpc] at hold ⊢
      simp only [WinHttpPc.hand, List.mem_append, List.mem_singleton] at hold ⊢
      constructor
      · intro hn
        rcases hn with hclosed | htoList | hmain
        · exact .inl hclosed
        · exact hold.mpr (hnew n htoList)
        · exact .inr (.inr hmain)
      · intro hn
        rcases hn with hclosed | (hlast | hhandles) | hmain
        · exact .inl hclosed
        · rw [hlast]
          exact .inr (.inl (mem_last hs))
        · -- what is stored is stored again, or was taken from under the worker
          rcases h.handles with hsame | ⟨-, hnone⟩
          · rw [hsame, hpc] at hhandles
            rw [hs.toList_eq]
            exact .inr (.inl (List.mem_cons_of_mem _ hhandles))
          · rw [hnone] at hhandles
            cases hhandles
        · exact .inr (.inr hmain)
  stopped := by
    cases hdoes <;> exact h.stopped
  joined := by
    have hmain : s'.main = s.main := by cases hdoes <;> rfl
    rw [hmain]
    exact fun hjoined => absurd (h.joined hjoined) hrunning

theorem Placed.main {s s' : WinHttpThreads} (h : s.Placed) (hdoes : MainDoes s s')
    (hjoin : s.main = .join → s.worker = .finished) : s'.Placed where
  numbered := by
    cases hdoes with
    | closes n hs hmain =>
        show openedHandles (s.trace ++ [.closed n]) = _
        rw [openedHandles_append, h.numbered]
        exact List.append_nil _
    | _ => exact h.numbered
  handles := by
    cases hdoes with
    | takes hmain => exact .inr ⟨rfl, rfl⟩
    | _ => exact h.handles
  known := by
    cases hdoes <;> exact h.known
  places := places_of_moved h.places hdoes.moved
  stopped := by
    cases hdoes with
    | goes main hhand hconnected hjoined => exact fun _ => h.stopped hconnected
    | stops hmain => exact fun _ => rfl
    | takes hmain => exact fun _ => h.stopped (by rw [hmain]; nofun)
    | closes n hs hmain => exact fun _ => h.stopped (by rw [hmain]; nofun)
  joined := by
    cases hdoes with
    | goes main hhand hconnected hjoined => exact fun hmain => hjoin (hjoined hmain)
    | _ => exact nofun

/-! ## §6. Closed once. -/

/-- A handle that the worker may call is open, as long as Finalize has taken
none. -/
theorem Placed.mayCall {s : WinHttpThreads} (h : s.Placed) (honce : s.Once)
    (htaken : s.taken = false) {on : Option Nat} (hmay : s.MayCall on) :
    ∀ n ∈ on, n ∉ closedHandles s.trace := by
  intro n hn hclosed
  have hstored := hmay n hn
  rcases h.handles with hsame | ⟨htook, -⟩
  · have hpending : n ∈ s.pending := by
      unfold pending
      rw [hsame]
      exact List.mem_append_left _ (List.mem_append_right _ hstored)
    have hnodup : s.places.Nodup := honce.nodup_iff.mpr List.nodup_range
    exact (List.nodup_append.mp hnodup).2.2 n hclosed n hpending rfl
  · rw [htaken] at htook
    cases htook

theorem Once.worker {s s' : WinHttpThreads} (honce : s.Once) (h : s.Placed)
    (hagain : s.taken = true → s.worker.storesAgain = false) (hdoes : WorkerDoes s s') :
    s'.Once := by
  rcases hdoes.moved with hmoved | ⟨hs, hpc, hopened, hplaces⟩
  · exact honce.moved hmoved
  · have hhandles : s.handles = hs.older := by
      rcases h.handles with hsame | ⟨htook, hnone⟩
      · rw [hsame, hpc]
        rfl
      · have hfirst := hagain htook
        rw [hpc] at hfirst
        rw [hnone, Option.isSome_eq_false_iff.mp hfirst |> Option.isNone_iff_eq_none.mp]
    unfold Once at honce ⊢
    rw [hplaces, hopened, hs.toList_eq]
    unfold WinHttpThreads.places pending at honce
    rw [hpc, hhandles] at honce
    exact honce

theorem WorkerDoes.callsOpen {s s' : WinHttpThreads} (hdoes : WorkerDoes s s')
    (huses : CallsOpen s.trace) (h : s.Placed) (honce : s.Once) (htaken : s.taken = false) :
    CallsOpen s'.trace := by
  cases hdoes with
  | goes pc hhand hstored hagain => exact huses
  | calls n pc hmay hhand hstored hagain =>
      refine huses.snoc ?_
      intro on result hd
      cases hd
      exact h.mayCall honce htaken hmay _ rfl
  | opens on hs hmay hhand hstored hlast hagain =>
      refine huses.snoc ?_
      intro n result hd
      cases hd
      exact h.mayCall honce htaken hmay n rfl
  | stores hs hpc pc hhand hstored hagain => exact huses
  | takes hhand => exact huses
  | closes n hs hpc => exact huses.snoc nofun

theorem MainDoes.callsOpen {s s' : WinHttpThreads} (hdoes : MainDoes s s')
    (huses : CallsOpen s.trace) : CallsOpen s'.trace := by
  cases hdoes with
  | closes n hs hmain => exact huses.snoc nofun
  | _ => exact huses

theorem WorkerDoes.taken {s s' : WinHttpThreads} (h : WorkerDoes s s') : s'.taken = s.taken := by
  cases h <;> rfl

/-- Handles that were taken stay so. -/
theorem MainDoes.untaken {s s' : WinHttpThreads} (h : MainDoes s s') (htaken : s'.taken = false) :
    s.taken = false := by
  cases h with
  | takes hmain => cases htaken
  | _ => exact htaken

/-- A main thread that makes a step has not joined. -/
theorem running_of_enabled {s : WinHttpThreads} (finalize : Bool)
    (hen : s.enabled (.main finalize) = true) : s.main ≠ .joined := by
  intro hjoined
  unfold enabled at hen
  rw [hjoined] at hen
  cases hen

theorem finished_of_enabled {s : WinHttpThreads} (finalize : Bool)
    (hen : s.enabled (.main finalize) = true) (hjoin : s.main = .join) : s.worker = .finished := by
  unfold enabled at hen
  rw [hjoin] at hen
  exact of_decide_eq_true hen

/-- What holds of every run, and what holds until Finalize takes the handles. -/
structure Handled (s : WinHttpThreads) : Prop where
  placed : s.Placed
  untaken : s.taken = false → s.Once ∧ CallsOpen s.trace

end WinHttpThreads

theorem winHttp_handled : winHttpThreads.Invariant WinHttpThreads.Handled where
  init :=
    { placed :=
        { numbered := rfl
          handles := .inl rfl
          known := nofun
          places := fun n => ⟨nofun, nofun⟩
          stopped := fun h => absurd rfl h
          joined := nofun }
      untaken := fun _ => ⟨.refl _, fun before h result after heq => by
        simp [winHttpThreads] at heq⟩ }
  step := by
    intro s a s' h hen hstep
    cases hstep
    cases a with
    | worker answer =>
        have hdoes := WinHttpThreads.workerStep_does s answer
        have hrunning : s.worker ≠ .finished := of_decide_eq_true hen
        refine ⟨h.placed.worker hdoes hrunning, ?_⟩
        intro htaken
        have htaken : s.taken = false := hdoes.taken.symm.trans htaken
        obtain ⟨honce, huses⟩ := h.untaken htaken
        have hagain : s.taken = true → s.worker.storesAgain = false := by
          intro htook
          rw [htaken] at htook
          cases htook
        exact ⟨honce.worker h.placed hagain hdoes, hdoes.callsOpen huses h.placed honce htaken⟩
    | main finalize =>
        have hdoes := WinHttpThreads.mainStep_does s finalize
          (WinHttpThreads.running_of_enabled finalize hen)
        refine ⟨h.placed.main hdoes (WinHttpThreads.finished_of_enabled finalize hen), ?_⟩
        intro htaken
        obtain ⟨honce, huses⟩ := h.untaken (hdoes.untaken htaken)
        exact ⟨honce.moved hdoes.moved, hdoes.callsOpen huses⟩

/-- The worker is not in an attempt. -/
def WinHttpPc.betweenCalls : WinHttpPc → Bool
  | .loopTest => true
  | .openSession => true
  | .returned => true
  | .sleepTest => true
  | .lastTest => true
  | .finished => true
  | _ => false

namespace WinHttpThreads

theorem Placed.mem_opened {s : WinHttpThreads} (h : s.Placed) (n : Nat) :
    n ∈ openedHandles s.trace ↔ n ∈ s.places := by
  rw [h.numbered, List.mem_range, h.places]

theorem Placed.closed_between {s : WinHttpThreads} (h : s.Placed)
    (hout : s.worker.betweenCalls = true) :
    ∀ n ∈ openedHandles s.trace, n ∈ closedHandles s.trace ∨ n ∈ s.main.hand := by
  intro n hn
  have hidle : s.worker.hand = [] ∧ s.worker.stored = none := by
    cases hpc : s.worker <;> rw [hpc] at hout <;> first | exact ⟨rfl, rfl⟩ | cases hout
  have hnone : s.handles = none := by
    rcases h.handles with hsame | ⟨-, hnone⟩
    · rw [hsame, hidle.2]
    · exact hnone
  have hplace := (h.mem_opened n).mp hn
  unfold WinHttpThreads.places pending at hplace
  rw [hidle.1, hnone] at hplace
  simpa using hplace

theorem Placed.closed_joined {s : WinHttpThreads} (h : s.Placed) (hjoined : s.main = .joined) :
    ∀ n ∈ openedHandles s.trace, n ∈ closedHandles s.trace := by
  intro n hn
  have hfinished := h.joined hjoined
  rcases h.closed_between (by rw [hfinished]; rfl) n hn with hclosed | hhand
  · exact hclosed
  · rw [hjoined] at hhand
    cases hhand

theorem Once.nodup_closed {s : WinHttpThreads} (h : s.Once) : (closedHandles s.trace).Nodup := by
  have hnodup : s.places.Nodup := h.nodup_iff.mpr List.nodup_range
  exact (List.nodup_append.mp hnodup).1

end WinHttpThreads

/-- **NO HANDLE IS LEAKED**, in any interleaving of the worker, the disconnect and
Finalize: between two attempts every handle was closed, but for those that
Finalize holds and closes next, and after the join all of them were.  Until
Finalize takes the handles, each call is made on an open one, and none is closed
twice. -/
theorem winHttp_handles {s : WinHttpThreads} (hs : winHttpThreads.Reachable s) :
    (openedHandles s.trace).Nodup
      ∧ (∀ h ∈ closedHandles s.trace, h ∈ openedHandles s.trace)
      ∧ (s.taken = false → CallsOpen s.trace ∧ (closedHandles s.trace).Nodup)
      ∧ (s.worker.betweenCalls = true → ∀ h ∈ openedHandles s.trace,
          h ∈ closedHandles s.trace ∨ h ∈ s.main.hand)
      ∧ (s.main = .joined → ∀ h ∈ openedHandles s.trace, h ∈ closedHandles s.trace) := by
  have h := winHttp_handled.reachable hs
  refine ⟨?_, ?_, ?_, h.placed.closed_between, h.placed.closed_joined⟩
  · rw [h.placed.numbered]
    exact List.nodup_range
  · intro n hn
    exact (h.placed.mem_opened n).mpr (List.mem_append_left _ hn)
  · intro htaken
    obtain ⟨honce, huses⟩ := h.untaken htaken
    exact ⟨huses, honce.nodup_closed⟩

/-- The flag is raised while the worker reads; it closes its handles and is joined. -/
theorem winHttp_handles_reaped :
    ∃ s, winHttpThreads.Reachable s ∧ s.main = .joined ∧ openedHandles s.trace = [0, 1, 2]
      ∧ ∀ h ∈ openedHandles s.trace, h ∈ closedHandles s.trace := by
  have hrun : winHttpThreads.run winHttpThreads.init
      [.worker .ok, .worker .ok, .worker .ok, .worker .ok, .worker .ok, .worker .ok, .worker .ok,
        .worker .ok, .worker .ok, .worker .ok, .worker .ok, .worker .done, .worker .ok,
        .main false, .main false, .worker .ok, .worker .ok, .worker .ok, .worker .ok, .worker .ok,
        .worker .ok, .worker .ok, .worker .ok, .worker .ok, .main false, .main false]
      = some {
          stop := true
          worker := .finished
          main := .joined
          trace := [.called none (some 0), .called (some 0) none, .called (some 0) (some 1),
            .called (some 1) (some 2), .called (some 2) none, .called (some 2) none, .closed 2,
            .closed 1, .closed 0]
          opened := 3 } := by decide
  exact ⟨_, ⟨_, hrun⟩, rfl, rfl, (winHttp_handles ⟨_, hrun⟩).2.2.2.2 rfl⟩

namespace WinHttpThreads

/-- Finalize does not come between a look at the flag and the `SetHandles` that
stores the same handles again. -/
def Apart (s : WinHttpThreads) : WinHttpStep → Prop
  | .worker _ => True
  | .main _ => s.main = .takeHandles → s.worker.storesAgain = false

instance (s : WinHttpThreads) (a : WinHttpStep) : Decidable (s.Apart a) := by
  cases a <;> unfold Apart <;> infer_instance

/-- What a run of such steps keeps. -/
structure Separate (s : WinHttpThreads) : Prop where
  placed : s.Placed
  once : s.Once
  after : s.taken = true → s.stop = true ∧ s.worker.storesAgain = false

theorem Separate.worker {s s' : WinHttpThreads} (h : s.Separate) (hplaced : s'.Placed)
    (hdoes : WorkerDoes s s') : s'.Separate where
  placed := hplaced
  once := h.once.worker h.placed (fun htook => (h.after htook).2) hdoes
  after := by
    intro htook
    obtain ⟨hstop, hagain⟩ := h.after (hdoes.taken.symm.trans htook)
    cases hdoes with
    | goes pc hhand hstored hstay =>
        refine ⟨hstop, Bool.eq_false_iff.mpr (fun hpc => ?_)⟩
        rcases hstay hpc with hbefore | hdown
        · exact Bool.false_ne_true (hagain.symm.trans hbefore)
        · exact Bool.false_ne_true (hdown.symm.trans hstop)
    | calls n pc hmay hhand hstored hstay => exact ⟨hstop, hstay⟩
    | opens on hs hmay hhand hstored hlast hstay =>
        refine ⟨hstop, Bool.eq_false_iff.mpr (fun hpc => ?_)⟩
        exact Bool.false_ne_true (hagain.symm.trans (hstay hpc))
    | stores hs hpc pc hhand hstored hstay => exact ⟨hstop, hstay⟩
    | takes hhand => exact ⟨hstop, rfl⟩
    | closes n hs hpc => exact ⟨hstop, rfl⟩

theorem Separate.main {s s' : WinHttpThreads} (h : s.Separate) (hplaced : s'.Placed)
    (hdoes : MainDoes s s') (hapart : s.main = .takeHandles → s.worker.storesAgain = false) :
    s'.Separate where
  placed := hplaced
  once := h.once.moved hdoes.moved
  after := by
    cases hdoes with
    | takes hmain => exact fun _ => ⟨h.placed.stopped (by rw [hmain]; nofun), hapart hmain⟩
    | stops hmain => exact fun htook => ⟨rfl, (h.after htook).2⟩
    | _ => exact h.after

end WinHttpThreads

/-- **NO HANDLE IS CLOSED TWICE** in a run whose Finalize, if there is one, does not
come between a look at the flag and the `SetHandles` after it; after the join each
handle was closed, once. -/
theorem winHttp_closedOnce {as : List WinHttpStep} {s : WinHttpThreads}
    (hrun : winHttpThreads.run winHttpThreads.init as = some s)
    (hapart : winHttpThreads.AtEachStep WinHttpThreads.Apart winHttpThreads.init as) :
    (closedHandles s.trace).Nodup
      ∧ (s.main = .joined → (closedHandles s.trace).Perm (openedHandles s.trace)) := by
  have hsafe : winHttpThreads.Throughout WinHttpThreads.Separate winHttpThreads.init as := by
    refine Machine.throughout_of_atEachStep ?_ ?_ hapart
    · intro s a s' h ha hnext
      obtain ⟨hen, hstep⟩ := winHttpThreads.next_eq_some.mp hnext
      cases hstep
      cases a with
      | worker answer =>
          have hdoes := WinHttpThreads.workerStep_does s answer
          exact h.worker (h.placed.worker hdoes (of_decide_eq_true hen)) hdoes
      | main finalize =>
          have hdoes := WinHttpThreads.mainStep_does s finalize
            (WinHttpThreads.running_of_enabled finalize hen)
          exact h.main (h.placed.main hdoes (WinHttpThreads.finished_of_enabled finalize hen))
            hdoes ha
    · exact ⟨winHttp_handled.init.placed, .refl _, nofun⟩
  have h := hsafe as [] s (List.append_nil _).symm hrun
  have hclosed := h.once.nodup_closed
  refine ⟨hclosed, ?_⟩
  intro hjoined
  have hopened : (openedHandles s.trace).Nodup := by
    rw [h.placed.numbered]
    exact List.nodup_range
  refine (List.perm_ext_iff_of_nodup hclosed hopened).mpr (fun n => ⟨?_, ?_⟩)
  · exact fun hn => (h.placed.mem_opened n).mpr (List.mem_append_left _ hn)
  · exact h.placed.closed_joined hjoined n

/-- Finalize takes the handles of a worker that reads its stream. -/
theorem winHttp_closedOnce_reading :
    ∃ s, winHttpThreads.Reachable s ∧ s.main = .joined ∧ s.taken = true
      ∧ openedHandles s.trace = [0, 1, 2] ∧ (closedHandles s.trace).Perm (openedHandles s.trace) := by
  let as : List WinHttpStep :=
    [.worker .ok, .worker .ok, .worker .ok, .worker .ok, .worker .ok, .worker .ok, .worker .ok,
      .worker .ok, .worker .ok, .worker .ok, .worker .ok, .worker .done, .worker .ok,
      .main false, .main true, .main true, .main true, .worker .failed, .main true, .main true,
      .main true, .worker .ok, .worker .ok, .worker .ok, .worker .ok, .main true]
  have hrun : winHttpThreads.run winHttpThreads.init as
      = some {
          stop := true
          worker := .finished
          main := .joined
          trace := [.called none (some 0), .called (some 0) none, .called (some 0) (some 1),
            .called (some 1) (some 2), .called (some 2) none, .closed 2, .called (some 2) none,
            .closed 1, .closed 0]
          opened := 3
          taken := true } := by decide
  have hapart : winHttpThreads.AtEachStep WinHttpThreads.Apart winHttpThreads.init as := by
    have hmeets : winHttpThreads.meets (fun s a => decide (s.Apart a)) winHttpThreads.init as
        = true := by decide
    intro before a after t has ht
    exact of_decide_eq_true (Machine.atEachStep_of_meets hmeets before a after t has ht)
  exact ⟨_, ⟨as, hrun⟩, rfl, rfl, rfl, (winHttp_closedOnce hrun hapart).2 rfl⟩

/-- Without the condition the session may be closed by both threads. -/
theorem winHttp_closedTwice :
    ∃ s, winHttpThreads.Reachable s ∧ s.main = .joined ∧ ¬(closedHandles s.trace).Nodup := by
  have hrun : winHttpThreads.run winHttpThreads.init
      [.worker .ok, .worker .ok, .worker .ok, .worker .ok, .worker .ok, .worker .ok,
        .main false, .main true, .main true, .main true, .worker .ok, .worker .ok, .worker .ok,
        .worker .ok, .worker .ok, .worker .ok, .worker .ok, .worker .ok, .main true, .main true]
      = some {
          stop := true
          worker := .finished
          main := .joined
          trace := [.called none (some 0), .called (some 0) none, .called (some 0) (some 1),
            .closed 0, .closed 1, .closed 0]
          opened := 2
          taken := true } := by decide
  exact ⟨_, ⟨_, hrun⟩, rfl, by decide⟩

end DefoldSSE
