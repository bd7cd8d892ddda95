/-
  DefoldSSE.Core.Phase — the life a connection record should lead.

  An automaton over the record's deeds, with nothing of `sse.cpp` in it:

    unborn ─created─▶ fresh ─attached─▶ open ─platformDisconnected─▶ closed
                        │                │                             │
                        │                └ invoked, notSetUp           │
                        ├─────────callbackDestroyed────▶ released ◀────┘
                        ├────────────destroyed─────────▶ gone ◀─destroyed─ released
                        └──────────────lost────────────▶ lost

  A word it accepts destroys at most once, gives attached data back exactly once
  before that, and calls nothing back once the data are gone.  A record that is
  lost is never destroyed.
  `Core/Lifecycle.lean` proves that the machine's histories are such words.
-/
import DefoldSSE.Core.State
import DefoldSSE.Lib.Machine

namespace DefoldSSE

open CLib

inductive Phase where
  | unborn
  | fresh
  | open
  | closed
  | released
  | gone
  | lost
  deriving DecidableEq, Repr

namespace Phase

def next : Phase → Deed → Option Phase
  | .unborn, .created _ => some .fresh
  | .fresh, .attached => some .open
  | .fresh, .callbackDestroyed => some .released
  | .fresh, .destroyed => some .gone
  | .fresh, .lost => some .lost
  | .open, .invoked _ => some .open
  | .open, .notSetUp _ => some .open
  | .open, .platformDisconnected => some .closed
  | .closed, .callbackDestroyed => some .released
  | .released, .destroyed => some .gone
  | _, _ => none

/-- The callback is not called any more. -/
def silent : Phase → Bool
  | .closed => true
  | .released => true
  | .gone => true
  | .lost => true
  | _ => false

theorem silent_next (ph : Phase) (d : Deed) (ph' : Phase) (h : ph.silent = true)
    (hnext : ph.next d = some ph') : ph'.silent = true := by
  cases ph <;> cases d <;> simp_all [silent, next] <;> subst hnext <;> rfl

/-- **A silent record is not called back.** -/
theorem not_invoked_of_silent {ph ph' : Phase} {ds : List Deed} (h : ph.silent = true)
    (hwalk : walk next ph ds = some ph') (e : SSEEvent) : Deed.invoked e ∉ ds := by
  apply not_mem_of_walk silent_next _ h hwalk
  intro ph hsilent
  cases ph <;> first | rfl | cases hsilent

/-- Nothing happens to the record any more. -/
def isOver : Phase → Bool
  | .gone => true
  | .lost => true
  | _ => false

theorem next_isOver {ph : Phase} (h : ph.isOver = true) (d : Deed) : ph.next d = none := by
  cases ph <;> first | rfl | cases h

/-- The books of a record's life so far. -/
structure Account (ds : List Deed) (ph : Phase) : Prop where
  /-- It is destroyed once, at the end. -/
  destroyed : ds.count .destroyed = if ph = .gone then 1 else 0
  unattached : ph = .unborn ∨ ph = .fresh ∨ ph = .lost → Deed.attached ∉ ds
  attached : ph = .open ∨ ph = .closed → Deed.attached ∈ ds
  attached_once : ds.count .attached ≤ 1
  /-- Data that were attached are given back once. -/
  givenBack : Deed.attached ∈ ds →
    ds.count .platformDisconnected = if ph = .open then 0 else 1
  nothing : Deed.attached ∉ ds → ds.count .platformDisconnected = 0

/-- One more deed, transition by transition. -/
theorem Account.next {ds : List Deed} {before : Phase} (h : Account ds before) {d : Deed}
    {ph : Phase} (hd : before.next d = some ph) : Account (ds ++ [d]) ph := by
  obtain ⟨hdes, hun, hat, honce, hback, hnone⟩ := h
  cases before <;> cases d <;> cases hd
  all_goals
    refine ⟨?_, ?_, ?_, ?_, ?_, ?_⟩ <;> simp_all [List.count_append, List.count_eq_zero]

/-- **Every accepted life keeps its books.** -/
theorem account {ds : List Deed} :
    ∀ {ph : Phase}, walk Phase.next .unborn ds = some ph → Account ds ph := by
  induction ds using List.reverseRecOn with
  | nil =>
    intro ph h
    cases h
    exact ⟨rfl, by simp, by simp, by simp, by simp, by simp⟩
  | append_singleton ds d ih =>
    intro ph h
    obtain ⟨before, hbefore, hlast⟩ := walk_split h
    have hd : before.next d = some ph := by
      rw [walk_cons] at hlast
      simpa using hlast
    exact (ih hbefore).next hd

/-- A life begins with its creation. -/
theorem created_of_mem {ds : List Deed} {ph : Phase} (hwalk : walk Phase.next .unborn ds = some ph)
    {d : Deed} (hd : d ∈ ds) : ∃ handle, Deed.created handle ∈ ds := by
  cases ds with
  | nil => cases hd
  | cons first rest =>
      rw [walk_cons] at hwalk
      obtain ⟨ph', hfirst, -⟩ := Option.bind_eq_some_iff.mp hwalk
      cases first <;> cases hfirst
      exact ⟨_, List.mem_cons_self⟩

/-- **Attached data are given back once, and the destruction comes last.** -/
theorem given_back {ds : List Deed} {ph : Phase} (hwalk : walk Phase.next .unborn ds = some ph)
    (hattached : Deed.attached ∈ ds) (hdestroyed : Deed.destroyed ∈ ds) :
    ∃ before, ds = before ++ [Deed.destroyed] ∧ before.count .platformDisconnected = 1 := by
  obtain ⟨before, after, rfl⟩ := List.append_of_mem hdestroyed
  obtain ⟨m, hbefore, hrest⟩ := walk_split hwalk
  rw [walk_cons] at hrest
  obtain ⟨m', hm', hafter⟩ := Option.bind_eq_some_iff.mp hrest
  have hgone : m' = .gone := by
    cases m <;> cases hm' <;> rfl
  subst hgone
  -- nothing happens to a record that is gone
  have hlast : after = [] := by
    cases after with
    | nil => rfl
    | cons d ds =>
        rw [walk_cons] at hafter
        cases d <;> cases hafter
  subst hlast
  have hin : Deed.attached ∈ before := by
    simpa using hattached
  have hbooks := account hbefore
  refine ⟨before, rfl, ?_⟩
  rw [hbooks.givenBack hin, if_neg]
  intro hopen
  subst hopen
  cases hm'

end Phase

end DefoldSSE
