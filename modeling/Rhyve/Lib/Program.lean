import Mathlib.Data.Nat.Notation

/-! # Programs as the operations they execute

* `Prog Op Ans α`: a program that executes operations, goes on with what they answer, and returns an `α`.
* `exec`: the program runs alone, and a state answers its operations. For programs that may fail, `alone` is
  the same as a computation in the state, and `alone_bind` takes a sequence apart.
* `executed`: what is selected of the operations that a program executes alone, also if it fails. `Avoids`: nothing,
  whatever it is answered. `mem_executed_bind` skips such a program.
* `Exposed`: the program may execute an operation of one kind before one of another kind succeeds.
* `Obeys`: a protocol that says which operations may follow each other.
-/

namespace Rhyve.Program
set_option autoImplicit false

/-- A program over operations, each of which has an answer. -/
inductive Prog (Op : Type) (Ans : Op → Type) (α : Type) where
  | done (a : α)
  | op (o : Op) (k : Ans o → Prog Op Ans α)

namespace Prog
variable {Op : Type} {Ans : Op → Type} {α β γ σ ε : Type}

def bind : Prog Op Ans α → (α → Prog Op Ans β) → Prog Op Ans β
  | .done a, f => f a
  | .op o k, f => .op o fun x => (k x).bind f

instance instMonad : Monad (Prog Op Ans) where
  pure := .done
  bind := Prog.bind

def perform (o : Op) : Prog Op Ans (Ans o) := .op o .done

/-! ## Running alone -/

/-- The result on a machine that answers the operations, and the machine after it. -/
def exec (answer : σ → (o : Op) → Ans o × σ) : Prog Op Ans α → σ → α × σ
  | .done a, s => (a, s)
  | .op o k, s => (k (answer s o).1).exec answer (answer s o).2

variable {answer : σ → (o : Op) → Ans o × σ}

theorem exec_bind (p : Prog Op Ans α) (f : α → Prog Op Ans β) (s : σ) :
    (p.bind f).exec answer s = (f (p.exec answer s).1).exec answer (p.exec answer s).2 := by
  induction p generalizing s with
  | done a => rfl
  | op o k ih => exact ih (answer s o).1 (answer s o).2

/-- A program that may fail; the state is forgotten if it does. -/
def alone (answer : σ → (o : Op) → Ans o × σ) (p : ExceptT ε (Prog Op Ans) α) (s : σ) : Except ε (α × σ) :=
  match p.run.exec answer s with
  | (.ok a, s') => .ok (a, s')
  | (.error e, _) => .error e

theorem alone_bind (p : ExceptT ε (Prog Op Ans) α) (f : α → ExceptT ε (Prog Op Ans) β) (s : σ) :
    alone answer (p >>= f) s = alone answer p s >>= fun r => alone answer (f r.1) r.2 := by
  have hrun : (p >>= f).run = Prog.bind p.run (ExceptT.bindCont f) := rfl
  unfold alone
  rw [hrun, exec_bind]
  cases hp : p.run.exec answer s with
  | mk r s' =>
    cases r with
    | ok a => rfl
    | error e => rfl

/-! ## The operations executed -/

def ops (answer : σ → (o : Op) → Ans o × σ) : Prog Op Ans α → σ → List Op
  | .done _, _ => []
  | .op o k, s => o :: (k (answer s o).1).ops answer (answer s o).2

theorem ops_bind (p : Prog Op Ans α) (f : α → Prog Op Ans β) (s : σ) :
    (p.bind f).ops answer s = p.ops answer s ++ (f (p.exec answer s).1).ops answer (p.exec answer s).2 := by
  induction p generalizing s with
  | done a => rfl
  | op o k ih => exact congrArg (o :: ·) (ih (answer s o).1 (answer s o).2)

/-- No answers make the program execute an operation that is selected. -/
def Avoids (sel : Op → Option γ) : Prog Op Ans α → Prop
  | .done _ => True
  | .op o k => sel o = none ∧ ∀ a, (k a).Avoids sel

section Avoids
variable {sel : Op → Option γ}

theorem Avoids.bind {p : Prog Op Ans α} (h : p.Avoids sel) {f : α → Prog Op Ans β} (hf : ∀ a, (f a).Avoids sel) :
    (p.bind f).Avoids sel := by
  induction p with
  | done a => exact hf a
  | op o k ih => exact ⟨h.1, fun a => ih a (h.2 a)⟩

theorem avoids_bind {p : ExceptT ε (Prog Op Ans) α} (h : p.run.Avoids sel) {f : α → ExceptT ε (Prog Op Ans) β}
    (hf : ∀ a, (f a).run.Avoids sel) : (p >>= f).run.Avoids sel := by
  refine Avoids.bind h ?_
  rintro (e | a)
  · exact trivial
  · exact hf a

/-- What is selected of the operations that a program executes, in order. -/
def executed (sel : Op → Option γ) (answer : σ → (o : Op) → Ans o × σ) (p : ExceptT ε (Prog Op Ans) α) (s : σ) :
    List γ := (p.run.ops answer s).filterMap sel

theorem Avoids.filterMap_ops {p : Prog Op Ans α} (h : p.Avoids sel) (s : σ) :
    (p.ops answer s).filterMap sel = [] := by
  induction p generalizing s with
  | done a => rfl
  | op o k ih => exact (List.filterMap_cons_none h.1).trans (ih _ (h.2 _) _)

theorem executed_avoids {p : ExceptT ε (Prog Op Ans) α} (h : p.run.Avoids sel) (s : σ) :
    executed sel answer p s = [] := h.filterMap_ops s

theorem mem_executed_bind {p : ExceptT ε (Prog Op Ans) α} (h : p.run.Avoids sel) {f : α → ExceptT ε (Prog Op Ans) β}
    {s : σ} {x : γ} :
    x ∈ executed sel answer (p >>= f) s ↔ ∃ r, alone answer p s = .ok r ∧ x ∈ executed sel answer (f r.1) r.2 := by
  have hrun : (p >>= f).run = Prog.bind p.run (ExceptT.bindCont f) := rfl
  unfold executed alone
  rw [hrun, ops_bind, List.filterMap_append, h.filterMap_ops, List.nil_append]
  cases hp : p.run.exec answer s with
  | mk r s' =>
    cases r with
    | ok a =>
      refine ⟨fun hx => ⟨(a, s'), rfl, hx⟩, ?_⟩
      rintro ⟨r, hr, hx⟩
      rw [← Except.ok.inj hr] at hx
      exact hx
    | error e =>
      -- The program ends here.
      refine ⟨nofun, ?_⟩
      rintro ⟨r, hr, -⟩
      cases hr

end Avoids

/-! ## Operations before others -/

/-- An `access` may be executed before an operation has `loads`. -/
def Exposed (loads : (o : Op) → Ans o → Prop) (access : Op → Prop) : Prog Op Ans α → Prop
  | .done _ => False
  | .op o k => access o ∨ ∃ a, ¬ loads o a ∧ Exposed loads access (k a)

/-! ## Protocols -/

section Obeys
variable {φ : Type} {next : φ → (o : Op) → Ans o → φ → Prop}

/-- From a phase on, every operation of the program is one that the protocol allows, whatever is answered, and the
program ends in a phase where it may. -/
inductive Obeys (next : φ → (o : Op) → Ans o → φ → Prop) (final : φ → Prop) : φ → Prog Op Ans α → Prop
  | done {ph : φ} {a : α} : final ph → Obeys next final ph (.done a)
  | op {ph : φ} {o : Op} {k : Ans o → Prog Op Ans α} (after : Ans o → φ) : (∀ a, next ph o a (after a)) →
      (∀ a, Obeys next final (after a) (k a)) → Obeys next final ph (.op o k)

theorem Obeys.bind {mid final : φ → Prop} {p : Prog Op Ans α} {f : α → Prog Op Ans β} {ph : φ}
    (h : p.Obeys next mid ph) (hf : ∀ a ph', mid ph' → (f a).Obeys next final ph') :
    (p.bind f).Obeys next final ph := by
  induction h with
  | done hmid => exact hf _ _ hmid
  | op after hnext _ ih => exact .op after hnext ih

theorem Obeys.mono {mid final : φ → Prop} {p : Prog Op Ans α} {ph : φ} (h : p.Obeys next mid ph)
    (hfinal : ∀ ph', mid ph' → final ph') : p.Obeys next final ph := by
  induction h with
  | done hmid => exact .done (hfinal _ hmid)
  | op after hnext _ ih => exact .op after hnext ih

theorem obeys_perform {final : φ → Prop} {ph ph' : φ} {o : Op} (hnext : ∀ a, next ph o a ph') (h : final ph') :
    (perform o : Prog Op Ans (Ans o)).Obeys next final ph := .op (fun _ => ph') hnext fun _ => .done h

end Obeys

end Prog

end Rhyve.Program
