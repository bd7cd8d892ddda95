/-
  DefoldSSE.Lib.Machine — partial deterministic systems and their runs.

  `walk next` reads a word through a partial transition function.  It is used
  twice over: an AUTOMATON is a `next` by itself, and a word it accepts is a
  protocol that was kept; a MACHINE is a `next` that comes from a step with
  faults and a test that says when the step is allowed, and a word it accepts is
  a run.

  Both have one induction each: `walk_keeps` for what every transition keeps,
  `walk_split` for what was true on the way.
-/
import Mathlib.Data.List.Induction

namespace CLib

/-! ## §1. Words. -/

section Walk

variable {σ α : Type*} (next : σ → α → Option σ)

/-- The state a word leads to, if every letter finds a transition. -/
def walk (s : σ) : List α → Option σ
  | [] => some s
  | a :: as => (next s a).bind (fun s' => walk s' as)

@[simp] theorem walk_nil (s : σ) : walk next s [] = some s := rfl

theorem walk_cons (s : σ) (a : α) (as : List α) :
    walk next s (a :: as) = (next s a).bind (fun s' => walk next s' as) := rfl

theorem walk_append (s : σ) (as bs : List α) :
    walk next s (as ++ bs) = (walk next s as).bind (fun s' => walk next s' bs) := by
  induction as generalizing s with
  | nil => rfl
  | cons a as ih =>
    rw [List.cons_append, walk_cons, walk_cons]
    cases next s a with
    | none => rfl
    | some s' => exact ih s'

variable {next}

/-- A word that was read was read in parts. -/
theorem walk_split {s s' : σ} {as bs : List α} (h : walk next s (as ++ bs) = some s') :
    ∃ m, walk next s as = some m ∧ walk next m bs = some s' := by
  rw [walk_append] at h
  exact Option.bind_eq_some_iff.mp h

theorem walk_trans {s m s' : σ} {as bs : List α} (h : walk next s as = some m)
    (h' : walk next m bs = some s') : walk next s (as ++ bs) = some s' := by
  rw [walk_append, h]
  exact h'

/-- What every transition keeps, a word keeps. -/
theorem walk_keeps {P : σ → Prop} (hstep : ∀ s a s', P s → next s a = some s' → P s')
    {as : List α} {s s' : σ} (hs : P s) (h : walk next s as = some s') : P s' := by
  induction as generalizing s with
  | nil =>
    cases h
    exact hs
  | cons a as ih =>
    obtain ⟨m, hm, hrest⟩ := Option.bind_eq_some_iff.mp h
    exact ih (hstep s a m hs hm) hrest

/-- A letter that the states of a closed set refuse is not in the words read
from there. -/
theorem not_mem_of_walk {P : σ → Prop} (hstep : ∀ s a s', P s → next s a = some s' → P s')
    {b : α} (hrefuse : ∀ s, P s → next s b = none) {as : List α} {s s' : σ} (hs : P s)
    (h : walk next s as = some s') : b ∉ as := by
  intro hb
  obtain ⟨before, after, rfl⟩ := List.append_of_mem hb
  obtain ⟨m, hm, hrest⟩ := walk_split h
  rw [walk_cons, hrefuse m (walk_keeps hstep hs hm)] at hrest
  cases hrest

end Walk

/-! ## §2. Machines. -/

/-- A system that takes allowed steps, each of which may go wrong. -/
structure Machine (σ α ε : Type*) where
  init : σ
  enabled : σ → α → Bool
  step : σ → α → Except ε σ

namespace Machine

variable {σ α ε : Type*} (m : Machine σ α ε)

/-- One allowed step that does not go wrong. -/
def next (s : σ) (a : α) : Option σ := if m.enabled s a then (m.step s a).toOption else none

theorem next_eq_some {s s' : σ} {a : α} :
    m.next s a = some s' ↔ m.enabled s a = true ∧ m.step s a = .ok s' := by
  unfold next
  by_cases he : m.enabled s a = true
  · rw [if_pos he]
    cases m.step s a with
    | ok x => simp [Except.toOption, he]
    | error e => simp [Except.toOption]
  · simp [he]

/-- The run that takes these steps. -/
def run (s : σ) (as : List α) : Option σ := walk m.next s as

def Reachable (s : σ) : Prop := ∃ as, m.run m.init as = some s

variable {m} in
/-- One allowed step is a run. -/
theorem run_single {s s' : σ} {a : α} (hen : m.enabled s a = true) (hok : m.step s a = .ok s') :
    m.run s [a] = some s' := by
  rw [run, walk_cons, m.next_eq_some.mpr ⟨hen, hok⟩]
  rfl

variable {m} in
/-- A run's last step. -/
theorem run_snoc {s s' : σ} {as : List α} {a : α} (h : m.run s (as ++ [a]) = some s') :
    ∃ t, m.run s as = some t ∧ m.next t a = some s' := by
  obtain ⟨t, ht, hlast⟩ := walk_split h
  obtain ⟨t', hnext, ht'⟩ := Option.bind_eq_some_iff.mp hlast
  cases ht'
  exact ⟨t, ht, hnext⟩

variable {m} in
/-- A run, up to one of its steps and just after it. -/
theorem run_at {s s' : σ} {before after : List α} {a : α}
    (h : m.run s (before ++ a :: after) = some s') :
    ∃ t t', m.run s before = some t ∧ m.next t a = some t'
      ∧ m.run s (before ++ [a]) = some t' := by
  have hsplit : before ++ a :: after = (before ++ [a]) ++ after := by simp
  rw [hsplit] at h
  obtain ⟨t', ht', -⟩ := walk_split h
  obtain ⟨t, ht, hnext⟩ := run_snoc ht'
  exact ⟨t, t', ht, hnext, ht'⟩

variable {m} in
/-- What every allowed step keeps, a run keeps. -/
theorem run_keeps {P : σ → Prop}
    (hstep : ∀ s a s', P s → m.enabled s a = true → m.step s a = .ok s' → P s')
    {as : List α} {s s' : σ} (hs : P s) (hrun : m.run s as = some s') : P s' := by
  apply walk_keeps _ hs hrun
  intro s a s' hs hnext
  obtain ⟨hen, hok⟩ := m.next_eq_some.mp hnext
  exact hstep s a s' hs hen hok

/-- True at first, and kept by every allowed step. -/
structure Invariant (P : σ → Prop) : Prop where
  init : P m.init
  step : ∀ s a s', P s → m.enabled s a = true → m.step s a = .ok s' → P s'

variable {m} {P : σ → Prop}

/-- **An invariant holds in every reachable state.** -/
theorem Invariant.reachable (h : m.Invariant P) {s : σ} (hs : m.Reachable s) : P s := by
  obtain ⟨as, hrun⟩ := hs
  exact run_keeps h.step h.init hrun

/-! ## §3. Runs under a condition. -/

section Condition

variable (m) (P : σ → Prop) (C : σ → α → Prop)

/-- `P` in every state of the run. -/
def Throughout (s : σ) (as : List α) : Prop :=
  ∀ before after t, as = before ++ after → m.run s before = some t → P t

/-- `C` before every step of the run. -/
def AtEachStep (s : σ) (as : List α) : Prop :=
  ∀ before a after t, as = before ++ a :: after → m.run s before = some t → C t a

/-- Testing a condition along a run. -/
def meets (c : σ → α → Bool) (s : σ) : List α → Bool
  | [] => true
  | a :: as =>
      c s a && match m.next s a with
        | some s' => meets c s' as
        | none => true

variable {m P C}

/-- A condition that is met step by step. -/
theorem atEachStep_cons {s : σ} {a : α} {as : List α} (ha : C s a)
    (has : ∀ s', m.next s a = some s' → m.AtEachStep C s' as) : m.AtEachStep C s (a :: as) := by
  intro before b after t hsplit hrun
  cases before with
  | nil =>
      cases hsplit
      cases hrun
      exact ha
  | cons a' before =>
      cases hsplit
      obtain ⟨s', hnext, hrest⟩ := Option.bind_eq_some_iff.mp hrun
      exact has s' hnext before b after t rfl hrest

theorem atEachStep_of_meets {c : σ → α → Bool} {s : σ} {as : List α}
    (h : m.meets c s as = true) : m.AtEachStep (fun s a => c s a = true) s as := by
  induction as generalizing s with
  | nil =>
      intro before a after t hsplit
      exact absurd hsplit (by simp)
  | cons a as ih =>
      obtain ⟨ha, has⟩ := Bool.and_eq_true_iff.mp h
      refine atEachStep_cons ha (fun s' hnext => ?_)
      rw [hnext] at has
      exact ih has

/-- What every step under the condition keeps, a run whose steps all meet it
keeps. -/
theorem throughout_of_atEachStep
    (hstep : ∀ s a s', P s → C s a → m.next s a = some s' → P s') {s : σ} (hs : P s)
    {as : List α} (h : m.AtEachStep C s as) : m.Throughout P s as := by
  intro before
  induction before using List.reverseRecOn with
  | nil =>
      intro after t _ hrun
      cases hrun
      exact hs
  | append_singleton before a ih =>
      intro after t has hrun
      obtain ⟨u, hu, hnext⟩ := run_snoc hrun
      have has' : as = before ++ a :: after := by simpa using has
      exact hstep u a t (ih (a :: after) u has' hu) (h before a after u has' hu) hnext

/-- A step that breaks the condition is seen in the state after it. -/
theorem atEachStep_of_throughout
    (hbad : ∀ s a s', P s → m.next s a = some s' → P s' → C s a) {s s' : σ} {as : List α}
    (hrun : m.run s as = some s') (h : m.Throughout P s as) : m.AtEachStep C s as := by
  intro before a after t has ht
  rw [has] at hrun
  obtain ⟨u, v, hu, hnext, hv⟩ := run_at hrun
  cases ht.symm.trans hu
  apply hbad t a v (h before (a :: after) t has ht) hnext
  exact h (before ++ [a]) after v (by simpa using has) hv

end Condition

end Machine

end CLib
