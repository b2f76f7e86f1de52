import Mathlib.Logic.Basic

/-! # Computations that fail with an error

* `bind_ok` takes a sequence that succeeded apart, `ok_of_map` one of which a result is known; `bind_isOk_iff`: when
  it succeeds.
* `forall_ok_iff`: a property that does not depend on the result.
* `Avoids bad x`: the computation `x` does not end with a `bad` error. It may still fail in another way.
* `avoids_bind`: the first part of a sequence has to avoid the error, and so does the rest after every value
  that the first part can return.
-/

namespace Rhyve.Errors
set_option autoImplicit false

variable {ε α β : Type} {bad : ε → Prop}

theorem ok_bind (a : α) (f : α → Except ε β) : (Except.ok a >>= f) = f a := rfl

theorem map_ok (f : α → β) (a : α) : (Except.ok a : Except ε α).map f = .ok (f a) := rfl

theorem map_ok_iff {x : Except ε α} {f : α → β} {b : β} : x.map f = .ok b ↔ ∃ a, x = .ok a ∧ f a = b := by
  cases x with
  | error e => exact iff_of_false nofun fun ⟨_, h, _⟩ => nomatch h
  | ok a =>
    rw [map_ok, Except.ok.injEq]
    exact ⟨fun h => ⟨a, rfl, h⟩, fun ⟨a', ha, h⟩ => by rw [Except.ok.inj ha]; exact h⟩

theorem bind_ok {x : Except ε α} {f : α → Except ε β} {b : β} (h : (x >>= f) = .ok b) :
    ∃ a, x = .ok a ∧ f a = .ok b := by
  cases x with
  | error e => cases h
  | ok a => exact ⟨a, rfl, h⟩

theorem bind_isOk_iff {x : Except ε α} {f : α → Except ε β} :
    (∃ b, (x >>= f) = .ok b) ↔ ∃ a, x = .ok a ∧ ∃ b, f a = .ok b := by
  cases x with
  | error e => exact iff_of_false (fun ⟨_, h⟩ => nomatch h) fun ⟨_, h, _⟩ => nomatch h
  | ok a =>
    refine ⟨fun h => ⟨a, rfl, h⟩, ?_⟩
    rintro ⟨a', ha, h⟩
    rw [Except.ok.inj ha]
    exact h

theorem mapError_ok {ε' : Type} {f : ε → ε'} {x : Except ε α} {a : α} : x.mapError f = .ok a ↔ x = .ok a := by
  cases x with
  | error e => exact iff_of_false nofun nofun
  | ok b => exact ⟨fun hb => congrArg _ (Except.ok.inj hb), fun hb => congrArg _ (Except.ok.inj hb)⟩

theorem ok_of_map {x : Except ε α} {f : α → β} {b : β} (h : x.toOption.map f = some b) :
    ∃ a, x = .ok a ∧ f a = b := by
  cases x with
  | error e => cases h
  | ok a => exact ⟨a, rfl, Option.some.inj h⟩

/-- Where a property of every result is one and the same proposition, it holds of the results if there is none or the
proposition is true. -/
theorem forall_ok_iff {x : Except ε α} {P : α → Prop} {Q : Prop} (h : ∀ a, x = .ok a → (P a ↔ Q)) :
    (∀ a, x = .ok a → P a) ↔ (¬ ∃ a, x = .ok a) ∨ Q := by
  rw [← imp_iff_not_or]
  constructor
  · rintro hall ⟨a, ha⟩
    exact (h a ha).mp (hall a ha)
  · intro hQ a ha
    exact (h a ha).mpr (hQ ⟨a, ha⟩)

/-- The computation does not fail in a way that is bad. -/
def Avoids (bad : ε → Prop) : Except ε α → Prop
  | .ok _ => True
  | .error e => ¬ bad e

theorem avoids_bind (x : Except ε α) (f : α → Except ε β) :
    Avoids bad (x >>= f) ↔ Avoids bad x ∧ ∀ a, x = .ok a → Avoids bad (f a) := by
  cases x with
  | error e =>
    refine ⟨fun h => ⟨h, ?_⟩, fun h => h.1⟩
    intro a ha
    cases ha
  | ok a =>
    refine ⟨fun h => ⟨trivial, ?_⟩, fun h => h.2 a rfl⟩
    intro b hb
    cases hb
    exact h

theorem avoids_ite (p : Prop) [Decidable p] (x y : Except ε α) :
    Avoids bad (if p then x else y) ↔ (p → Avoids bad x) ∧ (¬ p → Avoids bad y) := by
  by_cases hp : p
  · rw [if_pos hp]
    exact ⟨fun h => ⟨fun _ => h, fun hn => absurd hp hn⟩, fun h => h.1 hp⟩
  · rw [if_neg hp]
    exact ⟨fun h => ⟨fun hy => absurd hy hp, fun _ => h⟩, fun h => h.2 hp⟩

end Rhyve.Errors
