/-
  DefoldSSE.Lib.Replay — a log that is read in attempts.

  A sender keeps a LOG, some of whose entries have keys; a receiver keeps a
  POSITION, the key of an entry.  At each attempt the sender starts after that
  entry.  The entries arrive up to some point, and the receiver accepts or refuses
  each.  Its position moves to the last key before the first refusal.

  Main result:
    • `Accounted.attempt` — however an attempt is cut and answered, the entries
      between the first position and the current one were accepted, in the log's
      order.
-/
import Mathlib.Data.List.Basic
import Mathlib.Data.List.Infix
import Mathlib.Data.List.TakeWhile

namespace CLib.Replay

variable {α ι : Type*}

/-! ## §1. Positions in a log. -/

section Positions

variable (key : α → Option ι)

/-- The last key of some entries. -/
def lastKey (xs : List α) : Option ι := (xs.filterMap key).getLast?

/-- No two entries of the log have the same key. -/
def DistinctKeys (log : List α) : Prop := (log.filterMap key).Nodup

variable [DecidableEq ι]

/-- The entries after the one with this key; all of them if there is none. -/
def replay (log : List α) : Option ι → List α
  | none => log
  | some i =>
      if some i ∈ log.map key then (log.dropWhile (fun x => decide (key x ≠ some i))).drop 1
      else log

theorem replay_suffix (log : List α) (p : Option ι) : replay key log p <:+ log := by
  cases p with
  | none => exact List.suffix_rfl
  | some i =>
      unfold replay
      by_cases hmem : some i ∈ log.map key
      · simp only [if_pos hmem]
        exact (List.drop_suffix _ _).trans (List.dropWhile_suffix _)
      · simp only [if_neg hmem]
        exact List.suffix_rfl

variable {key}

/-- **The sender starts after the entry that has the key.** -/
theorem replay_key {before after : List α} {x : α} {i : ι}
    (hlog : DistinctKeys key (before ++ x :: after)) (hx : key x = some i) :
    replay key (before ++ x :: after) (some i) = after := by
  have hmem : some i ∈ (before ++ x :: after).map key := by
    rw [← hx]
    exact List.mem_map_of_mem (by simp)
  -- no entry before it has the key
  have hbefore : ∀ y ∈ before, decide (key y ≠ some i) = true := by
    intro y hy
    apply decide_eq_true
    intro hyi
    unfold DistinctKeys at hlog
    rw [List.filterMap_append, List.filterMap_cons_some hx, List.nodup_append] at hlog
    exact hlog.2.2 i (List.mem_filterMap.mpr ⟨y, hy, hyi⟩) i List.mem_cons_self rfl
  have hstop : (x :: after).dropWhile (fun y => decide (key y ≠ some i)) = x :: after := by
    rw [List.dropWhile_cons_of_neg (by simp [hx])]
  unfold replay
  simp only [if_pos hmem]
  rw [List.dropWhile_append_of_pos hbefore, hstop]
  rfl

end Positions

section Keys

variable {key : α → Option ι}

@[simp] theorem lastKey_nil : lastKey key [] = none := rfl

theorem lastKey_cons (x : α) (xs : List α) :
    lastKey key (x :: xs) = (lastKey key xs).or (key x) := by
  unfold lastKey
  cases hx : key x with
  | none => rw [List.filterMap_cons_none hx, Option.or_none]
  | some i =>
      rw [List.filterMap_cons_some hx]
      cases xs.filterMap key with
      | nil => rfl
      | cons j js => rw [List.getLast?_cons_cons, List.getLast?_cons]; rfl

/-- The entry that the last key belongs to. -/
theorem exists_of_lastKey {xs : List α} {i : ι} (h : lastKey key xs = some i) :
    ∃ a x b, xs = a ++ x :: b ∧ key x = some i := by
  obtain ⟨x, hx, hkey⟩ := List.mem_filterMap.mp (List.mem_of_getLast? h)
  obtain ⟨a, b, rfl⟩ := List.append_of_mem hx
  exact ⟨a, x, b, rfl, hkey⟩

end Keys

/-! ## §2. Attempts. -/

/-- The entries before the first refusal. -/
def keptRun (offers : List (α × Bool)) : List α := (offers.takeWhile Prod.snd).map Prod.fst

/-- The entries that were accepted. -/
def acceptedOf (offers : List (α × Bool)) : List α := (offers.filter Prod.snd).map Prod.fst

theorem keptRun_sublist (offers : List (α × Bool)) :
    (keptRun offers).Sublist (acceptedOf offers) := by
  have hall : ∀ o ∈ offers.takeWhile Prod.snd, o.2 = true := fun o ho =>
    List.mem_takeWhile_imp ho
  have hsub := (List.takeWhile_prefix (l := offers) Prod.snd).sublist.filter Prod.snd
  rw [List.filter_eq_self.mpr hall] at hsub
  exact hsub.map Prod.fst

theorem keptRun_initial (offers : List (α × Bool)) : keptRun offers <+: offers.map Prod.fst := by
  obtain ⟨rest, hrest⟩ := List.takeWhile_prefix (l := offers) Prod.snd
  refine ⟨rest.map Prod.fst, ?_⟩
  rw [keptRun, ← List.map_append, hrest]

/-- The entries offered in an attempt, with the answers they get: `answers n` is
the answer to the `n`-th. -/
def offersFrom (answers : Nat → Bool) : Nat → List α → List (α × Bool)
  | _, [] => []
  | n, x :: xs => (x, answers n) :: offersFrom answers (n + 1) xs

theorem offersFrom_fst (answers : Nat → Bool) (xs : List α) :
    ∀ n : Nat, (offersFrom answers n xs).map Prod.fst = xs := by
  induction xs with
  | nil => intro n; rfl
  | cons x xs ih =>
      intro n
      rw [offersFrom, List.map_cons, ih]

/-- Where nothing is refused, everything is accepted. -/
theorem acceptedOf_all {offers : List (α × Bool)} (h : ∀ o ∈ offers, o.2 = true) :
    acceptedOf offers = offers.map Prod.fst := by
  rw [acceptedOf, List.filter_eq_self.mpr h]

section Accounted

variable [DecidableEq ι] {key : α → Option ι} {log received : List α} {start position : Option ι}

/-- What lies between the first position and the current one was received, in
the log's order. -/
def Accounted (key : α → Option ι) (log : List α) (start position : Option ι)
    (received : List α) : Prop :=
  ∃ gone, replay key log start = gone ++ replay key log position ∧ gone.Sublist received

theorem Accounted.init : Accounted key log start start [] := ⟨[], rfl, List.Sublist.refl []⟩

/-- **No attempt leaves a gap behind the position.** -/
theorem Accounted.attempt (hlog : DistinctKeys key log)
    (h : Accounted key log start position received) {offers : List (α × Bool)}
    (hoffers : offers.map Prod.fst <+: replay key log position) :
    Accounted key log start ((lastKey key (keptRun offers)).or position)
      (received ++ acceptedOf offers) := by
  obtain ⟨gone, hgone, hsub⟩ := h
  have hgrown : gone.Sublist (received ++ acceptedOf offers) :=
    hsub.trans (List.sublist_append_left _ _)
  cases hlast : lastKey key (keptRun offers) with
  | none => exact ⟨gone, hgone, hgrown⟩
  | some i =>
      obtain ⟨a, x, b, hrun, hx⟩ := exists_of_lastKey hlast
      obtain ⟨pre, hpre⟩ := replay_suffix key log position
      obtain ⟨more, hmore⟩ := (keptRun_initial offers).trans hoffers
      rw [hrun, List.append_assoc, List.cons_append] at hmore
      have hsplit : log = (pre ++ a) ++ x :: (b ++ more) := by
        rw [← hpre, ← hmore, List.append_assoc]
      have hnext : replay key log (some i) = b ++ more := by
        rw [hsplit] at hlog ⊢
        exact replay_key hlog hx
      refine ⟨gone ++ (a ++ [x]), ?_, ?_⟩
      · show _ = _ ++ replay key log (some i)
        rw [hgone, hnext, ← hmore]
        simp
      · -- the run that was kept is in what was accepted
        have hkept : (a ++ [x]).Sublist (acceptedOf offers) := by
          refine List.Sublist.trans ?_ (keptRun_sublist offers)
          rw [hrun]
          exact List.Sublist.append_left (List.singleton_sublist.mpr List.mem_cons_self) a
        exact hsub.append hkept

/-- **An attempt that brings the rest, and has nothing refused, leaves nothing
out.** -/
theorem Accounted.complete (h : Accounted key log start position received)
    {offers : List (α × Bool)} (hoffers : offers.map Prod.fst = replay key log position)
    (hall : ∀ o ∈ offers, o.2 = true) :
    (replay key log start).Sublist (received ++ acceptedOf offers) := by
  obtain ⟨gone, hgone, hsub⟩ := h
  rw [hgone, acceptedOf_all hall, hoffers]
  exact hsub.append (List.Sublist.refl _)

end Accounted

end CLib.Replay
