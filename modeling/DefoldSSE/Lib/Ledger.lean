/-
  DefoldSSE.Lib.Ledger — what a program took, and what it gave back.

  A LEDGER numbers the resources a program takes, each of some kind.  Giving back
  what is not held (twice, never taken, or under another kind) is a FAULT.  That
  everything taken is held or was given back is a field of the ledger, so it
  need not be proved of any program.

  `Triple own prog post` is the rule to reason with: from any ledger where `own`
  is held, `prog` ends without a fault, holds what `post` says in its place, and
  touches nothing else.  The frame is part of the definition.

  Main result:
    • `Ledger.paidBack` — a stretch of the log after which the ledger holds what
      it held before gave back, once each, exactly what it took.
-/
import Mathlib.Algebra.Order.Group.Multiset
import Mathlib.Data.Multiset.UnionInter
import Mathlib.Tactic.Abel

namespace CLib

/-! ## §1. Ledgers. -/

section Ledger

variable {κ : Type}

/-- An entry of the log. -/
inductive Entry (κ : Type) where
  | took (x : κ × Nat)
  | gave (x : κ × Nat)
  deriving DecidableEq

def taken (es : List (Entry κ)) : List (κ × Nat) :=
  es.filterMap (fun
    | .took x => some x
    | .gave _ => none)

def given (es : List (Entry κ)) : List (κ × Nat) :=
  es.filterMap (fun
    | .took _ => none
    | .gave x => some x)

@[simp] theorem taken_append (es es' : List (Entry κ)) : taken (es ++ es') = taken es ++ taken es' :=
  List.filterMap_append

@[simp] theorem given_append (es es' : List (Entry κ)) : given (es ++ es') = given es ++ given es' :=
  List.filterMap_append

/-- What is held, and how it came to that. -/
structure Ledger (κ : Type) where
  /-- The number of the next resource. -/
  next : Nat
  held : Multiset (κ × Nat)
  log : List (Entry κ)
  balanced : (taken log : Multiset (κ × Nat)) = held + (given log : Multiset (κ × Nat))
  below : ∀ x ∈ taken log, x.2 < next
  nodup : (taken log).Nodup

/-- Everything taken in a stretch of the log was given back in it, once, and
nothing else was. -/
structure PaidBack [DecidableEq κ] (es : List (Entry κ)) : Prop where
  once : ∀ x ∈ taken es, (given es).count x = 1
  only : ∀ x ∈ given es, x ∈ taken es

namespace Ledger

def empty : Ledger κ where
  next := 0
  held := 0
  log := []
  balanced := rfl
  below _ h := by cases h
  nodup := List.nodup_nil

/-- A new resource. -/
def take (L : Ledger κ) (k : κ) : Ledger κ where
  next := L.next + 1
  held := {(k, L.next)} + L.held
  log := L.log ++ [.took (k, L.next)]
  balanced := by
    have hnew : taken [Entry.took (k, L.next)] = [(k, L.next)] := rfl
    have hnone : given [Entry.took (k, L.next)] = [] := rfl
    rw [taken_append, given_append, hnew, hnone, List.append_nil, ← Multiset.coe_add, L.balanced,
      Multiset.coe_singleton]
    abel
  below x hx := by
    rw [taken_append, List.mem_append] at hx
    rcases hx with hold | hnew
    · exact Nat.lt_succ_of_lt (L.below x hold)
    · rw [List.mem_singleton.mp hnew]
      exact Nat.lt_succ_self _
  nodup := by
    rw [taken_append, List.nodup_append]
    refine ⟨L.nodup, List.nodup_singleton _, ?_⟩
    intro x hold y hnew heq
    -- the number is new
    have hlt := L.below x hold
    rw [heq, List.mem_singleton.mp hnew] at hlt
    exact Nat.lt_irrefl _ hlt

/-- A held resource is given back. -/
def give [DecidableEq κ] (L : Ledger κ) (x : κ × Nat) (hx : x ∈ L.held) : Ledger κ where
  next := L.next
  held := L.held.erase x
  log := L.log ++ [.gave x]
  balanced := by
    have hnone : taken [Entry.gave x] = [] := rfl
    have hback : given [Entry.gave x] = [x] := rfl
    rw [taken_append, given_append, hnone, hback, List.append_nil, ← Multiset.coe_add, L.balanced,
      Multiset.coe_singleton]
    nth_rewrite 1 [← Multiset.cons_erase hx]
    rw [← Multiset.singleton_add]
    abel
  below y hy := by
    rw [taken_append, show taken [Entry.gave x] = [] from rfl, List.append_nil] at hy
    exact L.below y hy
  nodup := by
    rw [taken_append, show taken [Entry.gave x] = [] from rfl, List.append_nil]
    exact L.nodup

/-- **Nothing more is held than before: what was taken meanwhile was given back,
once each.** -/
theorem paidBack [DecidableEq κ] {L L' : Ledger κ} {es : List (Entry κ)} (hlog : L'.log = L.log ++ es)
    (hheld : L'.held = L.held) : PaidBack es := by
  have hbefore := L.balanced
  have hafter := L'.balanced
  rw [hlog, hheld, taken_append, given_append, ← Multiset.coe_add, ← Multiset.coe_add, hbefore,
    ← add_assoc, add_left_cancel_iff] at hafter
  have hperm : (taken es).Perm (given es) := Multiset.coe_eq_coe.mp hafter
  have hnodup : (taken es).Nodup := by
    have hall := L'.nodup
    rw [hlog, taken_append] at hall
    exact (List.nodup_append.mp hall).2.1
  refine ⟨fun x hx => ?_, fun x hx => hperm.mem_iff.mpr hx⟩
  rw [← hperm.count_eq]
  exact List.count_eq_one_of_mem hnodup hx

end Ledger

/-! ## §2. Programs. -/

/-- A program over a ledger; the fault names what was not held. -/
abbrev Owning (κ α : Type) : Type := StateT (Ledger κ) (Except (κ × Nat)) α

def acquire (k : κ) : Owning κ Nat := fun L => .ok (L.next, L.take k)

def release [DecidableEq κ] (k : κ) (n : Nat) : Owning κ Unit := fun L =>
  if h : (k, n) ∈ L.held then .ok ((), L.give (k, n) h) else .error (k, n)

/-- Giving back a pointer, which may be null. -/
def releaseAny [DecidableEq κ] (k : κ) : Option Nat → Owning κ Unit
  | none => pure ()
  | some n => release k n

/-- What a pointer holds. -/
def block (k : κ) : Option Nat → Multiset (κ × Nat)
  | none => 0
  | some n => {(k, n)}

@[simp] theorem block_none (k : κ) : block k none = 0 := rfl

@[simp] theorem block_some (k : κ) (n : Nat) : block k (some n) = {(k, n)} := rfl

/-! ## §3. Triples. -/

/-- Where `own` is held, `prog` ends without a fault; it leaves in its place what
`post` says, and the rest alone. -/
def Triple {α : Type} (own : Multiset (κ × Nat)) (prog : Owning κ α)
    (post : α → Multiset (κ × Nat) → Prop) : Prop :=
  ∀ (L : Ledger κ) (rest : Multiset (κ × Nat)), L.held = own + rest →
    ∃ a L' own', prog L = .ok (a, L') ∧ post a own' ∧ L'.held = own' + rest ∧ L.log <+: L'.log

namespace Triple

variable {α β : Type} {own own' : Multiset (κ × Nat)} {prog : Owning κ α}
  {post post' : α → Multiset (κ × Nat) → Prop}

theorem ret {a : α} (h : post a own) : Triple own (pure a) post := fun L _ hheld =>
  ⟨a, L, own, rfl, h, hheld, List.prefix_rfl⟩

theorem bind {f : α → Owning κ β} {post' : β → Multiset (κ × Nat) → Prop}
    (h : Triple own prog post) (hf : ∀ a mid, post a mid → Triple mid (f a) post') :
    Triple own (prog >>= f) post' := by
  intro L rest hheld
  obtain ⟨a, M, mid, hrun, hpost, hmid, hlog⟩ := h L rest hheld
  obtain ⟨b, L', own', hrun', hpost', hheld', hlog'⟩ := hf a mid hpost M rest hmid
  refine ⟨b, L', own', ?_, hpost', hheld', hlog.trans hlog'⟩
  show (prog L >>= fun r => f r.1 r.2) = .ok (b, L')
  rw [hrun]
  exact hrun'

/-- The held resources in another order. -/
theorem of_eq (h : Triple own' prog post) (heq : own = own') : Triple own prog post :=
  heq ▸ h

theorem weaken (h : Triple own prog post) (hpost : ∀ a mid, post a mid → post' a mid) :
    Triple own prog post' := by
  intro L rest hheld
  obtain ⟨a, L', mid, hrun, hmid, hheld', hlog⟩ := h L rest hheld
  exact ⟨a, L', mid, hrun, hpost a mid hmid, hheld', hlog⟩

theorem acquire (k : κ) (own : Multiset (κ × Nat)) :
    Triple own (CLib.acquire k) (fun n mid => mid = {(k, n)} + own) := by
  intro L rest hheld
  refine ⟨L.next, L.take k, {(k, L.next)} + own, rfl, rfl, ?_, List.prefix_append _ _⟩
  show {(k, L.next)} + L.held = {(k, L.next)} + own + rest
  rw [hheld, add_assoc]

theorem release [DecidableEq κ] (k : κ) (n : Nat) (own : Multiset (κ × Nat)) :
    Triple ({(k, n)} + own) (CLib.release k n) (fun _ mid => mid = own) := by
  intro L rest hheld
  have hmem : (k, n) ∈ L.held := by
    rw [hheld, add_assoc, Multiset.singleton_add]
    exact Multiset.mem_cons_self _ _
  refine ⟨(), L.give (k, n) hmem, own, dif_pos hmem, rfl, ?_, List.prefix_append _ _⟩
  show L.held.erase (k, n) = own + rest
  rw [hheld, add_assoc, Multiset.singleton_add, Multiset.erase_cons_head]

theorem releaseAny [DecidableEq κ] (k : κ) (p : Option Nat) (own : Multiset (κ × Nat)) :
    Triple (block k p + own) (CLib.releaseAny k p) (fun _ mid => mid = own) := by
  cases p with
  | none => exact ret (zero_add own)
  | some n => exact release k n own

/-- **A loop over a list, by an invariant** on the turns done so far. -/
theorem foldlM {γ : Type} {f : α → γ → Owning κ α} {I : List γ → α → Multiset (κ × Nat) → Prop}
    (hstep : ∀ done c a mid, I done a mid → Triple mid (f a c) (I (done ++ [c])))
    {a : α} {own : Multiset (κ × Nat)} (hinit : I [] a own) (cs : List γ) :
    Triple own (cs.foldlM f a) (I cs) := by
  have hall : ∀ (cs done : List γ) (a : α) (own : Multiset (κ × Nat)), I done a own →
      Triple own (cs.foldlM f a) (I (done ++ cs)) := by
    intro cs
    induction cs with
    | nil =>
      intro done a own ha
      rw [List.append_nil]
      exact ret ha
    | cons c cs ih =>
      intro done a own ha
      rw [List.foldlM_cons]
      refine (hstep done c a own ha).bind (fun a' mid ha' => ?_)
      have hrest := ih (done ++ [c]) a' mid ha'
      rw [List.append_assoc, List.singleton_append] at hrest
      exact hrest
  exact hall cs [] a own hinit

/-- A loop whose turns each give back what they are about. -/
theorem forM {γ : Type} {f : γ → Owning κ PUnit} {owned : γ → Multiset (κ × Nat)}
    (hstep : ∀ c own, Triple (owned c + own) (f c) (fun _ mid => mid = own)) :
    ∀ (cs : List γ) (own : Multiset (κ × Nat)),
      Triple ((cs.map owned).sum + own) (cs.forM f) (fun _ mid => mid = own) := by
  intro cs
  induction cs with
  | nil =>
    intro own
    exact ret (zero_add own)
  | cons c cs ih =>
    intro own
    rw [List.map_cons, List.sum_cons, add_assoc]
    refine (hstep c ((cs.map owned).sum + own)).bind ?_
    intro _ mid hmid
    subst hmid
    exact ih own

end Triple

end Ledger

end CLib
