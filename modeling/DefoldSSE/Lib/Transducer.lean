/-
  DefoldSSE.Lib.Transducer — systems that answer each input with some outputs.

  A transducer is its step function `σ → α → σ × List β`.  `outputs` lists the
  outputs input by input.  A system that writes its outputs down in its state is
  a transducer too: `grown` reads off what a step added to the history.

  One rule compares such a system with a transducer (`outputs_grown_eq`).
-/
import Mathlib.Data.List.Basic

namespace CLib

variable {σ τ α β : Type*}

/-- The outputs for each input. -/
def outputs (f : σ → α → σ × List β) : σ → List α → List (List β)
  | _, [] => []
  | s, a :: as => (f s a).2 :: outputs f (f s a).1 as

/-- A step, and what it adds to the history. -/
def grown (step : σ → α → σ) (history : σ → List β) (s : σ) (a : α) : σ × List β :=
  (step s a, (history (step s a)).drop (history s).length)

/-- **A simulation gives the outputs**: on inputs that meet `P`, each step keeps
`R` and appends to the history what the transducer outputs. -/
theorem outputs_grown_eq {step : σ → α → σ} {history : σ → List β}
    {g : τ → α → τ × List β} {R : σ → τ → Prop} {P : α → Prop}
    (hstep : ∀ s t a, P a → R s t →
      history (step s a) = history s ++ (g t a).2 ∧ R (step s a) (g t a).1)
    {s : σ} {t : τ} (hR : R s t) {as : List α} (has : ∀ a ∈ as, P a) :
    outputs (grown step history) s as = outputs g t as := by
  induction as generalizing s t with
  | nil => rfl
  | cons a as ih =>
      obtain ⟨hhistory, hnext⟩ := hstep s t a (has a List.mem_cons_self) hR
      show (history (step s a)).drop (history s).length
          :: outputs (grown step history) (step s a) as = _
      rw [hhistory, List.drop_left, ih hnext (fun b hb => has b (List.mem_cons_of_mem a hb))]
      rfl

end CLib
