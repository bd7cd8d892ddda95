/-
  DefoldSSE.Lib.Attempts — clients that make one attempt after the other.

  A client asks for a stream, which is opened or not, reads lines from it, loses
  it, and asks again after a delay or gives up.  `AttemptState.next` says in which
  order it may do that, and what it has to remember: each request resumes where
  the lines before it left off, and each delay is one that the policy has for the
  failures in a row.

  The identifiers, the lines, the errors and the delays are whatever the client
  has.
-/
import DefoldSSE.Lib.Machine

namespace CLib

/-! ## §1. The last of its kind. -/

section LastOf

variable {β γ κ : Type*}

/-- What the last element that has something for `f` has for it. -/
def lastSome (f : β → Option γ) (l : List β) : Option γ := (l.filterMap f).getLast?

/-- The same, where `c` comes before the first. -/
def lastOf (f : β → Option γ) (c : γ) (l : List β) : γ := (lastSome f l).getD c

@[simp] theorem lastSome_nil (f : β → Option γ) : lastSome f [] = none := rfl

@[simp] theorem lastOf_nil (f : β → Option γ) (c : γ) : lastOf f c [] = c := rfl

theorem lastSome_concat (f : β → Option γ) (l : List β) (b : β) :
    lastSome f (l ++ [b]) = (f b).or (lastSome f l) := by
  unfold lastSome
  rw [List.filterMap_append]
  cases hb : f b with
  | none =>
      rw [List.filterMap_cons_none hb]
      simp
  | some c =>
      rw [List.filterMap_cons_some hb]
      simp

theorem lastOf_concat (f : β → Option γ) (c : γ) (l : List β) (b : β) :
    lastOf f c (l ++ [b]) = (f b).getD (lastOf f c l) := by
  unfold lastOf
  rw [lastSome_concat]
  cases f b <;> rfl

theorem lastOf_append (f : β → Option γ) (c : γ) (l m : List β) :
    lastOf f c (l ++ m) = lastOf f (lastOf f c l) m := by
  induction m using List.reverseRecOn with
  | nil => rw [List.append_nil, lastOf_nil]
  | append_singleton m b ih => rw [← List.append_assoc, lastOf_concat, lastOf_concat, ih]

theorem lastOf_cons (f : β → Option γ) (c : γ) (b : β) (l : List β) :
    lastOf f c (b :: l) = lastOf f ((f b).getD c) l := by
  have hone : lastOf f c [b] = (f b).getD c := lastOf_concat f c [] b
  have hsplit := lastOf_append f c [b] l
  rw [hone] at hsplit
  exact hsplit

/-- The last of what the elements are turned into. -/
theorem lastSome_filterMap {α : Type*} {r : β → Option α} {f : β → Option γ} {g : α → Option κ}
    {h : γ → κ} (hr : ∀ b, (r b).bind g = (f b).map h) (l : List β) :
    lastSome g (l.filterMap r) = (lastSome f l).map h := by
  unfold lastSome
  rw [List.filterMap_filterMap, ← List.getLast?_map, List.map_filterMap]
  congr 2
  funext b
  exact hr b

end LastOf

/-! ## §2. The protocol. -/

/-- What a client says and does; `ι` are its positions in the stream, `β` its
lines, `ε` its errors and `δ` its delays. -/
inductive AttemptEvent (ι β ε δ : Type*) where
  /-- The stream is asked for from this position on. -/
  | request (resume : ι)
  /-- It is opened with this status. -/
  | opened (status : Int)
  | line (report : β)
  | error (error : ε)
  /-- The stream is lost, or was never there. -/
  | disconnected
  /-- It will be asked for again after this delay. -/
  | retry (delay : δ)
  | closed
  /-- The client cannot ask at all. -/
  | unsupported (error : ε)
  /-- It could not ask this time. -/
  | unsent (error : ε)
  deriving DecidableEq, Repr

/-- Where an attempt is; `told` says that an error was reported for it. -/
inductive AttemptMode where
  /-- Before the first attempt, or between two. -/
  | between
  | asked (told : Bool)
  | opened (told : Bool)
  | ended (told : Bool)
  | closed
  deriving DecidableEq, Repr

/-- What is left to the client. -/
structure AttemptPolicy (ι β ε δ : Type*) where
  /-- The position that a line commits. -/
  committed : β → Option ι
  /-- The delay that a line asks for. -/
  asked : β → Option Int
  accepts : Int → Bool
  /-- An error that may be reported there. -/
  errs : AttemptMode → ε → Bool
  reconnect : Bool
  /-- A delay for so many failures in a row. -/
  delays : (retryMs : Int) → (failures : Nat) → δ → Bool

/-- What a client has to remember. -/
structure AttemptState (ι : Type*) where
  mode : AttemptMode
  resume : ι
  retryMs : Int
  /-- The retries since a stream was last opened. -/
  failures : Nat
  deriving DecidableEq, Repr

namespace AttemptState

variable {ι β ε δ : Type*} [DecidableEq ι] (P : AttemptPolicy ι β ε δ)

/-- What may come next. -/
def next (s : AttemptState ι) : AttemptEvent ι β ε δ → Option (AttemptState ι)
  | .request resume =>
      if s.mode = .between ∧ resume = s.resume then some { s with mode := .asked false } else none
  | .opened status =>
      if s.mode = .asked false ∧ P.accepts status = true then
        some { s with mode := .opened false, failures := 0 }
      else none
  | .line report =>
      if s.mode = .opened false then
        some { s with
          resume := (P.committed report).getD s.resume
          retryMs := (P.asked report).getD s.retryMs }
      else none
  | .error error =>
      if P.errs s.mode error = true then
        match s.mode with
        | .asked false => some { s with mode := .asked true }
        | .opened false => some { s with mode := .opened true }
        | .ended false => some { s with mode := .ended true }
        | _ => none
      else none
  | .disconnected =>
      match s.mode with
      | .asked told => some { s with mode := .ended told }
      | .opened told => some { s with mode := .ended told }
      | _ => none
  | .retry delay =>
      match s.mode with
      | .ended _ =>
          if P.reconnect = true ∧ P.delays s.retryMs (s.failures + 1) delay = true then
            some { s with mode := .between, failures := s.failures + 1 }
          else none
      | _ => none
  | .closed =>
      match s.mode with
      | .ended _ => if P.reconnect = true then none else some { s with mode := .closed }
      | _ => none
  | .unsupported _ => if s.mode = .between then some { s with mode := .closed } else none
  | .unsent error =>
      if s.mode = .between ∧ P.errs .between error = true then
        some { s with mode := .asked true }
      else none

/-- Before the first attempt. -/
def start (resume : ι) (retryMs : Int) : AttemptState ι where
  mode := .between
  resume := resume
  retryMs := retryMs
  failures := 0

/-- The client has kept the protocol so far, and stands here. -/
def Kept (start : AttemptState ι) (trace : List (AttemptEvent ι β ε δ)) (s : AttemptState ι) :
    Prop :=
  walk (next P) start trace = some s

variable {P} {start s s' : AttemptState ι} {trace : List (AttemptEvent ι β ε δ)}

theorem Kept.step (h : Kept P start trace s) {e : AttemptEvent ι β ε δ}
    (he : next P s e = some s') :
    Kept P start (trace ++ [e]) s' := by
  apply walk_trans h
  rw [walk_cons, he]
  rfl

/-- The lines of a stream, one after the other. -/
theorem Kept.lines (h : Kept P start trace s) (hmode : s.mode = .opened false) (reports : List β) :
    Kept P start (trace ++ reports.map .line)
      { s with
        resume := lastOf P.committed s.resume reports
        retryMs := lastOf P.asked s.retryMs reports } := by
  induction reports using List.reverseRecOn with
  | nil => simpa using h
  | append_singleton reports b ih =>
      rw [List.map_append, ← List.append_assoc, lastOf_concat, lastOf_concat]
      exact ih.step (if_pos hmode)

/-- An error before the response. -/
theorem Kept.error_asked (h : Kept P start trace s) (hmode : s.mode = .asked false) {error : ε}
    (herr : P.errs (.asked false) error = true) :
    Kept P start (trace ++ [.error error]) { s with mode := .asked true } := by
  apply h.step
  unfold next
  rw [hmode]
  exact if_pos herr

/-- An error on an open stream. -/
theorem Kept.error_opened (h : Kept P start trace s) (hmode : s.mode = .opened false) {error : ε}
    (herr : P.errs (.opened false) error = true) :
    Kept P start (trace ++ [.error error]) { s with mode := .opened true } := by
  apply h.step
  unfold next
  rw [hmode]
  exact if_pos herr

/-! ## §3. Whether a stream is open. -/

/-- The stream is open. -/
def isOpen (s : AttemptState ι) : Bool :=
  match s.mode with
  | .opened _ => true
  | _ => false

end AttemptState

/-- What an event says of that, if it does. -/
def AttemptEvent.flag {ι β ε δ : Type*} : AttemptEvent ι β ε δ → Option Bool
  | .opened _ => some true
  | .disconnected => some false
  | .closed => some false
  | .unsupported _ => some false
  | _ => none

namespace AttemptState

variable {ι β ε δ : Type*} [DecidableEq ι] {P : AttemptPolicy ι β ε δ}
  {start s s' : AttemptState ι} {trace : List (AttemptEvent ι β ε δ)}

theorem next_isOpen {e : AttemptEvent ι β ε δ} (h : next P s e = some s') :
    s'.isOpen = e.flag.getD s.isOpen := by
  -- the events that say nothing leave the stream open, or not open
  have hsame {mode : AttemptMode} (hmode : s.mode = mode) :
      s.isOpen = isOpen { s with mode := mode } := by
    rw [← hmode]
  cases e with
  | request resume =>
      obtain ⟨⟨hmode, -⟩, hs'⟩ := Option.ite_none_right_eq_some.mp h
      cases hs'
      exact (hsame hmode).symm
  | opened status =>
      obtain ⟨-, hs'⟩ := Option.ite_none_right_eq_some.mp h
      cases hs'
      rfl
  | line report =>
      obtain ⟨-, hs'⟩ := Option.ite_none_right_eq_some.mp h
      cases hs'
      rfl
  | error error =>
      obtain ⟨-, h⟩ := Option.ite_none_right_eq_some.mp h
      split at h
      · rename_i hmode
        cases h
        exact (hsame hmode).symm
      · rename_i hmode
        cases h
        exact (hsame hmode).symm
      · rename_i hmode
        cases h
        exact (hsame hmode).symm
      · cases h
  | disconnected =>
      simp only [next] at h
      split at h
      · cases h
        rfl
      · cases h
        rfl
      · cases h
  | retry delay =>
      simp only [next] at h
      split at h
      · rename_i hmode
        obtain ⟨-, hs'⟩ := Option.ite_none_right_eq_some.mp h
        cases hs'
        exact (hsame hmode).symm
      · cases h
  | closed =>
      simp only [next] at h
      split at h
      · split at h
        · cases h
        · cases h
          rfl
      · cases h
  | unsupported error =>
      obtain ⟨-, hs'⟩ := Option.ite_none_right_eq_some.mp h
      cases hs'
      rfl
  | unsent error =>
      obtain ⟨⟨hmode, -⟩, hs'⟩ := Option.ite_none_right_eq_some.mp h
      cases hs'
      exact (hsame hmode).symm

/-- **The last that was said is so.** -/
theorem Kept.isOpen (h : Kept P start trace s) :
    s.isOpen = lastOf AttemptEvent.flag start.isOpen trace := by
  induction trace using List.reverseRecOn generalizing s with
  | nil =>
      cases h
      rfl
  | append_singleton trace e ih =>
      obtain ⟨m, hm, hstep⟩ := walk_split h
      rw [walk_cons] at hstep
      cases hnext : next P m e with
      | none =>
          rw [hnext] at hstep
          cases hstep
      | some s' =>
          rw [hnext] at hstep
          cases hstep
          rw [lastOf_concat, next_isOpen hnext, ih hm]

end AttemptState

end CLib
