import Mathlib.Data.Nat.Notation

/-! # Transducers: a state machine that reads a list and emits at most one symbol per input

`run_append` is what makes a transducer independent of how its input is cut into pieces: the state
carries everything that the pieces share. `run_image` is the simulation of one transducer by another, and
`run_spells` is for transducers that cut their input into pieces: nothing is lost if no step loses anything.
-/

namespace Rhyve.Transducer
set_option autoImplicit false

variable {σ α β : Type}

/-- Reads a whole list: the final state and the emitted symbols. -/
def run (step : σ → α → σ × Option β) : σ → List α → σ × List β
  | s, [] => (s, [])
  | s, a :: as => ((run step (step s a).1 as).1, (step s a).2.toList ++ (run step (step s a).1 as).2)

variable (step : σ → α → σ × Option β)

theorem run_append (s : σ) (as bs : List α) :
    run step s (as ++ bs) =
      ((run step (run step s as).1 bs).1, (run step s as).2 ++ (run step (run step s as).1 bs).2) := by
  induction as generalizing s with
  | nil => rfl
  | cons a as ih =>
    simp only [List.cons_append, run]
    rw [ih]
    simp only [List.append_assoc]

theorem run_singleton (s : σ) (a : α) : run step s [a] = ((step s a).1, (step s a).2.toList) := by
  simp only [run, List.append_nil]

variable {step} {τ γ : Type}

/-- `step'` does on the images of the states what `step` does, and emits a part of it. -/
theorem run_image {step' : τ → α → τ × Option γ} {f : σ → τ} {g : β → Option γ}
    (h : ∀ s a, step' (f s) a = (f (step s a).1, (step s a).2.bind g)) (s : σ) (as : List α) :
    run step' (f s) as = (f (run step s as).1, (run step s as).2.filterMap g) := by
  induction as generalizing s with
  | nil => rfl
  | cons a as ih =>
    simp only [run]
    rw [h, ih, List.filterMap_append]
    congr 2
    cases (step s a).2 with
    | none => rfl
    | some b =>
      simp only [Option.bind_some, Option.toList_some, List.filterMap_cons, List.filterMap_nil]
      cases g b <;> rfl

/-- `held s` is the input that the state `s` has read and not emitted yet. -/
theorem run_spells {held : σ → List α} {spell : β → List α}
    (h : ∀ s a, (step s a).2.toList.flatMap spell ++ held (step s a).1 = held s ++ [a]) (s : σ)
    (as : List α) :
    (run step s as).2.flatMap spell ++ held (run step s as).1 = held s ++ as := by
  induction as generalizing s with
  | nil => rw [run, List.flatMap_nil, List.nil_append, List.append_nil]
  | cons a as ih =>
    simp only [run]
    rw [List.flatMap_append, List.append_assoc, ih, ← List.append_assoc, h, List.append_assoc,
      List.singleton_append]

/-- Words that lead from `s` back to `s`, one emission for each. -/
theorem run_words {s : σ} {spell : β → List α} (h : ∀ b, run step s (spell b) = (s, [b])) (bs : List β) :
    run step s (bs.flatMap spell) = (s, bs) := by
  induction bs with
  | nil => rfl
  | cons b bs ih =>
    rw [List.flatMap_cons, run_append, h, ih]
    rfl

end Rhyve.Transducer
