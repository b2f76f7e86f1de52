import Mathlib.Data.List.Forall2
import Mathlib.Data.Nat.Notation

/-! # Machines driven by an environment

A machine takes one input per step, everything the environment decides in that step. It answers with a
list of outputs, and with its next state unless it stops. Runs are lists of inputs.

* `Along`: a condition on state and input that holds at every step of a run.
* `run_log`: an invariant that relates the state to everything output so far.
* `run_invariant`: what every step keeps. `run_reaches`: a run that does not stop.
* `run_outputs`: every output is good. `outputs_iff`: a condition that holds at every step exactly if all outputs are
  good.
* `run_lockstep`: two machines on corresponding inputs take every step and give the same outputs.
  `run_simulates`: the same where a condition on the first machine is needed, and for machines that may stop.
* `run_skipping`: inputs that have no effect.
* `run_refines`: every run of one machine, as far as its outputs are selected, is a run of another one.
* `run_alone`: inputs without effect on some outputs.
* `AtEach`: every entry of a log is allowed by the entries before it.
* `Legal`: an abstract state that is a function of the log, and what it lets happen next. `run_legal`:
  a machine whose outputs are such a log; `Legal.atEach`: what the log then satisfies.
-/

namespace Rhyve.Machine
set_option autoImplicit false

variable {σ τ ι κ ο ο' : Type}

/-- The state after all inputs, unless the machine stopped, and all outputs. -/
def run (step : σ → ι → Option σ × List ο) : σ → List ι → Option σ × List ο
  | s, [] => (some s, [])
  | s, i :: is =>
    match (step s i).1 with
    | none => (none, (step s i).2)
    | some s' => ((run step s' is).1, (step s i).2 ++ (run step s' is).2)

/-- The condition holds of every state the run reaches and the input it takes there. -/
def Along (step : σ → ι → Option σ × List ο) (C : σ → ι → Prop) : σ → List ι → Prop
  | _, [] => True
  | s, i :: is => C s i ∧ ∀ s', (step s i).1 = some s' → Along step C s' is

section Run
variable {step : σ → ι → Option σ × List ο} {C : σ → ι → Prop}

/-- `P` holds of the outputs of the run, and `I` links them to the state where the run ends. -/
theorem run_log (I : σ → List ο → Prop) (P : List ο → Prop)
    (hstep : ∀ s log i, I s log → C s i → P (log ++ (step s i).2) ∧
      ∀ s', (step s i).1 = some s' → I s' (log ++ (step s i).2))
    {s : σ} (log : List ο) (hI : I s log) (hP : P log) {is : List ι} (hC : Along step C s is) :
    P (log ++ (run step s is).2) ∧
      ∀ s', (run step s is).1 = some s' → I s' (log ++ (run step s is).2) := by
  induction is generalizing s log with
  | nil =>
    simp only [run, List.append_nil]
    refine ⟨hP, ?_⟩
    intro s' hs
    injection hs with hs
    rw [← hs]
    exact hI
  | cons i is ih =>
    obtain ⟨hc, hrest⟩ := hC
    obtain ⟨hP', hnext⟩ := hstep s log i hI hc
    cases hs : (step s i).1 with
    | none =>
      simp only [run, hs]
      refine ⟨hP', ?_⟩
      intro s' h
      cases h
    | some s' =>
      have htail := ih _ (hnext s' hs) hP' (hrest s' hs)
      simp only [run, hs]
      rw [← List.append_assoc]
      exact htail

/-- What links a state to the outputs so far links the last state to all of them. -/
theorem run_linked (I : σ → List ο → Prop)
    (hstep : ∀ s log i, I s log → C s i → ∀ s', (step s i).1 = some s' → I s' (log ++ (step s i).2))
    {s : σ} (hI : I s []) {is : List ι} (hC : Along step C s is) {s' : σ} (hs : (run step s is).1 = some s') :
    I s' (run step s is).2 :=
  (run_log I (fun _ => True) (fun s log i hI hc => ⟨trivial, hstep s log i hI hc⟩) [] hI trivial hC).2 s' hs

theorem run_invariant (Inv : σ → Prop) (hstep : ∀ s i s', Inv s → C s i → (step s i).1 = some s' → Inv s') {s : σ}
    (h : Inv s) {is : List ι} (hC : Along step C s is) {s' : σ} (hs : (run step s is).1 = some s') : Inv s' :=
  (run_log (fun s _ => Inv s) (fun _ => True) (fun s _ i hI hc => ⟨trivial, fun s' => hstep s i s' hI hc⟩) [] h trivial
    hC).2 s' hs

/-- Inputs on which no step stops while the invariant holds. -/
theorem run_reaches (Inv : σ → Prop) (D : ι → Prop)
    (hstep : ∀ s i, Inv s → D i → ∃ s', (step s i).1 = some s' ∧ Inv s') {s : σ} (h : Inv s) {is : List ι}
    (hD : ∀ i ∈ is, D i) : ∃ s', (run step s is).1 = some s' ∧ Inv s' := by
  induction is generalizing s with
  | nil => exact ⟨s, rfl, h⟩
  | cons i is ih =>
    obtain ⟨s', hs, hinv⟩ := hstep s i h (hD i List.mem_cons_self)
    obtain ⟨t, ht, hend⟩ := ih hinv fun j hj => hD j (List.mem_cons_of_mem i hj)
    refine ⟨t, ?_, hend⟩
    simp only [run, hs]
    exact ht

theorem run_total (hstep : ∀ s i, ∃ s', (step s i).1 = some s') (s : σ) (is : List ι) :
    ∃ s', (run step s is).1 = some s' := by
  have hnext : ∀ s i, True → True → ∃ s', (step s i).1 = some s' ∧ True := by
    intro s i _ _
    obtain ⟨s', hs⟩ := hstep s i
    exact ⟨s', hs, trivial⟩
  have hall : ∀ i ∈ is, (fun _ : ι => True) i := fun _ _ => trivial
  obtain ⟨s', hs, -⟩ := run_reaches (fun _ => True) (fun _ => True) hnext (s := s) trivial hall
  exact ⟨s', hs⟩

theorem along_of_forall {D : ι → Prop} {is : List ι} (h : ∀ i ∈ is, D i) (s : σ) :
    Along step (fun _ i => D i) s is := by
  induction is generalizing s with
  | nil => trivial
  | cons i is ih =>
    exact ⟨h i List.mem_cons_self, fun s' _ => ih (fun j hj => h j (List.mem_cons_of_mem i hj)) s'⟩

theorem along_true (s : σ) (is : List ι) : Along step (fun _ _ => True) s is :=
  along_of_forall (fun _ _ => trivial) s

/-- A condition under which every step keeps the invariant and has good outputs. -/
theorem run_outputs (Inv : σ → Prop) (Good : ο → Prop)
    (hstep : ∀ s i, Inv s → C s i → (∀ o ∈ (step s i).2, Good o) ∧ ∀ s', (step s i).1 = some s' → Inv s')
    {s : σ} (h : Inv s) {is : List ι} (hC : Along step C s is) : ∀ o ∈ (run step s is).2, Good o := by
  induction is generalizing s with
  | nil => exact nofun
  | cons i is ih =>
    obtain ⟨hc, hrest⟩ := hC
    obtain ⟨hgood, hinv⟩ := hstep s i h hc
    cases hs : (step s i).1 with
    | none =>
      simp only [run, hs]
      exact hgood
    | some s' =>
      simp only [run, hs]
      intro o ho
      rcases List.mem_append.mp ho with ho | ho
      · exact hgood o ho
      · exact ih (hinv s' hs) (hrest s' hs) o ho

/-- A condition that decides, in every state the run can be in while it holds, whether the outputs of the
next step are good: it holds along a run exactly if all outputs are good. `D` is what may be assumed. -/
theorem outputs_iff {D : σ → ι → Prop} (Inv : σ → Prop) (Good : ο → Prop)
    (hstep : ∀ s i, Inv s → D s i → ((∀ o ∈ (step s i).2, Good o) ↔ C s i) ∧
      (C s i → ∀ s', (step s i).1 = some s' → Inv s'))
    {s : σ} (h : Inv s) {is : List ι} (hD : Along step D s is) :
    (∀ o ∈ (run step s is).2, Good o) ↔ Along step C s is := by
  induction is generalizing s with
  | nil =>
    refine ⟨fun _ => trivial, fun _ o ho => ?_⟩
    cases ho
  | cons i is ih =>
    obtain ⟨hd, hrest⟩ := hD
    obtain ⟨hiff, hinv⟩ := hstep s i h hd
    cases hs : (step s i).1 with
    | none =>
      have hrun : (run step s (i :: is)).2 = (step s i).2 := by
        simp only [run, hs]
      rw [hrun, hiff]
      refine ⟨fun hc => ⟨hc, fun s' hs' => ?_⟩, fun hc => hc.1⟩
      rw [hs] at hs'
      cases hs'
    | some s' =>
      have hrun : (run step s (i :: is)).2 = (step s i).2 ++ (run step s' is).2 := by
        simp only [run, hs]
      rw [hrun]
      refine ⟨?_, ?_⟩
      · intro hgood
        have hc := hiff.mp fun o ho => hgood o (List.mem_append_left _ ho)
        refine ⟨hc, ?_⟩
        intro t ht
        obtain rfl := Option.some.inj (hs.symm.trans ht)
        exact (ih (hinv hc s' hs) (hrest s' hs)).mp fun o ho => hgood o (List.mem_append_right _ ho)
      · rintro ⟨hc, hnext⟩ o ho
        rcases List.mem_append.mp ho with ho | ho
        · exact hiff.mpr hc o ho
        · exact (ih (hinv hc s' hs) (hrest s' hs)).mpr (hnext s' hs) o ho

end Run

/-- Two machines that answer corresponding inputs with the same output: neither stops, and the outputs
agree, one for every input. -/
theorem run_lockstep (step : σ → ι → Option σ × List ο) (step' : τ → κ → Option τ × List ο)
    (R : σ → τ → Prop) (Q : ι → κ → Prop)
    (hstep : ∀ s t i j, R s t → Q i j →
      ∃ s' t' o, step s i = (some s', [o]) ∧ step' t j = (some t', [o]) ∧ R s' t')
    {s : σ} {t : τ} (h : R s t) {is : List ι} {js : List κ} (hin : List.Forall₂ Q is js) :
    ∃ s' t' out, run step s is = (some s', out) ∧ run step' t js = (some t', out) ∧
      out.length = is.length ∧ R s' t' := by
  induction hin generalizing s t with
  | nil => exact ⟨s, t, [], rfl, rfl, rfl, h⟩
  | @cons i j is js hq _ ih =>
    obtain ⟨s1, t1, o, hs, ht, hR⟩ := hstep s t i j h hq
    obtain ⟨s', t', out, hs', ht', hlen, hR'⟩ := ih hR
    refine ⟨s', t', o :: out, ?_, ?_, ?_, hR'⟩
    · simp only [run, hs, hs', List.singleton_append]
    · simp only [run, ht, ht', List.singleton_append]
    · rw [List.length_cons, List.length_cons, hlen]

/-- A machine that follows another one step by step, on the same inputs: as long as `C` holds along the run of the
first, both give the same outputs and stop together. -/
theorem run_simulates {step : σ → ι → Option σ × List ο} {step' : τ → ι → Option τ × List ο} {C : σ → ι → Prop}
    (R : σ → τ → Prop)
    (hstep : ∀ s t i, R s t → C s i → (step s i).2 = (step' t i).2 ∧ Option.Rel R (step s i).1 (step' t i).1)
    {s : σ} {t : τ} (h : R s t) {is : List ι} (hC : Along step C s is) :
    (run step s is).2 = (run step' t is).2 ∧ Option.Rel R (run step s is).1 (run step' t is).1 := by
  induction is generalizing s t with
  | nil => exact ⟨rfl, .some h⟩
  | cons i is ih =>
    obtain ⟨hc, hrest⟩ := hC
    obtain ⟨hout, hnext⟩ := hstep s t i h hc
    cases hs : (step s i).1 with
    | none =>
      rw [hs] at hnext
      have ht : (step' t i).1 = none := by
        generalize (step' t i).1 = next at hnext
        cases hnext
        rfl
      simp only [run, hs, ht]
      exact ⟨hout, .none⟩
    | some s' =>
      rw [hs] at hnext
      obtain ⟨t', ht, hR⟩ : ∃ t', (step' t i).1 = some t' ∧ R s' t' := by
        generalize (step' t i).1 = next at hnext
        cases hnext with
        | some hR => exact ⟨_, rfl, hR⟩
      obtain ⟨hout', hend⟩ := ih hR (hrest s' hs)
      simp only [run, hs, ht]
      rw [hout, hout']
      exact ⟨rfl, hend⟩

theorem run_append {step : σ → ι → Option σ × List ο} {s t : σ} {is js : List ι} {out : List ο}
    (h : run step s is = (some t, out)) :
    run step s (is ++ js) = ((run step t js).1, out ++ (run step t js).2) := by
  induction is generalizing s out with
  | nil =>
    cases h
    rfl
  | cons i is ih =>
    cases hs : (step s i).1 with
    | none =>
      simp only [run, hs] at h
      cases h
    | some s' =>
      simp only [run, hs] at h
      obtain ⟨hstate, rfl⟩ := Prod.mk.inj h
      simp only [List.cons_append, run, hs]
      rw [ih (Prod.ext hstate rfl), List.append_assoc]

/-- Inputs that `f` leaves out pass without effect. -/
def skipping (step : τ → κ → Option τ × List ο) (f : ι → Option κ) (t : τ) (i : ι) : Option τ × List ο :=
  match f i with
  | none => (some t, [])
  | some j => step t j

theorem run_skipping {step : τ → κ → Option τ × List ο} (f : ι → Option κ) (t : τ) (is : List ι) :
    run (skipping step f) t is = run step t (is.filterMap f) := by
  induction is generalizing t with
  | nil => rfl
  | cons i is ih =>
    cases hf : f i with
    | none =>
      simp only [run, skipping, hf, List.filterMap_cons, List.nil_append]
      exact ih t
    | some j => simp only [run, skipping, hf, List.filterMap_cons, ih]

/-- Trace inclusion: every step of one machine is matched by some steps of another, on inputs that are allowed and with
the outputs that `proj` lets through. -/
theorem run_refines {step : σ → ι → Option σ × List ο} {step' : τ → κ → Option τ × List ο'} (proj : ο → Option ο')
    (P : κ → Prop) (R : σ → τ → Prop)
    (hstep : ∀ s t i, R s t → ∃ s' js t', (step s i).1 = some s' ∧
      run step' t js = (some t', (step s i).2.filterMap proj) ∧ (∀ j ∈ js, P j) ∧ R s' t')
    {s : σ} {t : τ} (h : R s t) (is : List ι) :
    ∃ s' js t', (run step s is).1 = some s' ∧ run step' t js = (some t', (run step s is).2.filterMap proj) ∧
      (∀ j ∈ js, P j) ∧ R s' t' := by
  induction is generalizing s t with
  | nil => exact ⟨s, [], t, rfl, rfl, nofun, h⟩
  | cons i is ih =>
    obtain ⟨s₁, js, t₁, hs, hrun, hjs, hR⟩ := hstep s t i h
    obtain ⟨s', js', t', hs', hrest, hjs', hR'⟩ := ih hR
    refine ⟨s', js ++ js', t', ?_, ?_, ?_, hR'⟩
    · simp only [run, hs]
      exact hs'
    · simp only [run, hs, List.filterMap_append]
      rw [run_append hrun, hrest]
    · intro j hj
      rcases List.mem_append.mp hj with hj | hj
      · exact hjs j hj
      · exact hjs' j hj

/-- Non-interference: a machine that is only given the inputs that `own` selects gives the outputs that `mine` selects
from those of the machine that is given all. -/
theorem run_alone {step : σ → ι → Option σ × List ο} (own : ι → Bool) (mine : ο → Bool) (R : σ → σ → Prop)
    (hown : ∀ s t i, R s t → own i = true → ∃ s' t', (step s i).1 = some s' ∧ (step t i).1 = some t' ∧
      (step t i).2 = (step s i).2.filter mine ∧ R s' t')
    (hother : ∀ s t i, R s t → own i = false → ∃ s', (step s i).1 = some s' ∧ (step s i).2.filter mine = [] ∧ R s' t)
    {s t : σ} (h : R s t) (is : List ι) :
    ∃ s' t', (run step s is).1 = some s' ∧ run step t (is.filter own) = (some t', (run step s is).2.filter mine) ∧
      R s' t' := by
  induction is generalizing s t with
  | nil => exact ⟨s, t, rfl, rfl, h⟩
  | cons i is ih =>
    cases hi : own i with
    | true =>
      obtain ⟨s₁, t₁, hs, ht, hout, hR⟩ := hown s t i h hi
      obtain ⟨s', t', hs', hrest, hR'⟩ := ih hR
      refine ⟨s', t', ?_, ?_, hR'⟩
      · simp only [run, hs]
        exact hs'
      · rw [List.filter_cons_of_pos hi]
        simp only [run, hs, ht, hout, hrest, List.filter_append]
    | false =>
      obtain ⟨s₁, hs, hout, hR⟩ := hother s t i h hi
      obtain ⟨s', t', hs', hrest, hR'⟩ := ih hR
      refine ⟨s', t', ?_, ?_, hR'⟩
      · simp only [run, hs]
        exact hs'
      · rw [List.filter_cons_of_neg (by rw [hi]; nofun)]
        simp only [run, hs, hout, hrest, List.filter_append, List.nil_append]

/-! ## Logs -/

/-- Every entry of the log is allowed by the entries before it. -/
def AtEach (P : List ο → ο → Prop) (log : List ο) : Prop :=
  ∀ pre e post, log = pre ++ e :: post → P pre e

section AtEach
variable {P : List ο → ο → Prop} {log : List ο}

theorem atEach_nil : AtEach P [] := by
  intro pre e post h
  simp at h

theorem AtEach.cons {e : ο} (he : P [] e) (h : AtEach (fun pre e' => P (e :: pre) e') log) : AtEach P (e :: log) := by
  intro pre e' post heq
  cases pre with
  | nil =>
    injection heq with heq _
    rw [← heq]
    exact he
  | cons first pre =>
    injection heq with hfirst hrest
    rw [← hfirst]
    exact h pre e' post hrest

theorem AtEach.concat (h : AtEach P log) {e : ο} (he : P log e) : AtEach P (log ++ [e]) := by
  intro pre e' post heq
  -- The entry is the last one or one of the log.
  rcases List.eq_nil_or_concat post with hpost | ⟨post', e'', hpost⟩
  · subst hpost
    obtain ⟨hpre, hlast⟩ := List.append_inj' heq rfl
    injection hlast with hlast
    rw [← hpre, ← hlast]
    exact he
  · rw [hpost, List.concat_eq_append, ← List.cons_append, ← List.append_assoc] at heq
    exact h pre e' post' (List.append_inj' heq rfl).1

theorem AtEach.take (h : AtEach P log) {pre : List ο} (hpre : pre <+: log) : AtEach P pre := by
  obtain ⟨rest, hrest⟩ := hpre
  intro pre' e post heq
  apply h pre' e (post ++ rest)
  rw [← hrest, heq, List.append_assoc, List.cons_append]

end AtEach

/-! ## Event-sourced specifications -/

/-- Starting in `s`, every event of the log is one that the state lets happen. -/
inductive Legal (after : σ → ο → σ) (A : σ → ο → Prop) : σ → List ο → Prop
  | nil {s : σ} : Legal after A s []
  | cons {s : σ} {e : ο} {es : List ο} : A s e → Legal after A (after s e) es → Legal after A s (e :: es)

section Legal
variable {after : τ → ο → τ} {A : τ → ο → Prop}

theorem Legal.append {t : τ} {log log' : List ο} (h : Legal after A t log)
    (h' : Legal after A (log.foldl after t) log') : Legal after A t (log ++ log') := by
  induction h with
  | nil => exact h'
  | cons he _ ih => exact .cons he (ih h')

theorem Legal.and {B : τ → ο → Prop} {t : τ} {log : List ο} (h : Legal after A t log)
    (h' : Legal after B t log) : Legal after (fun t e => A t e ∧ B t e) t log := by
  induction h with
  | nil => exact .nil
  | cons he _ ih =>
    cases h' with
    | cons he' hrest => exact .cons ⟨he, he'⟩ (ih hrest)

theorem legal_singleton {t : τ} {e : ο} (h : A t e) : Legal after A t [e] := .cons h .nil

/-- Events that every state lets happen. -/
theorem legal_of_forall {es : List ο} (h : ∀ e ∈ es, ∀ t, A t e) (t : τ) : Legal after A t es := by
  induction es generalizing t with
  | nil => exact .nil
  | cons e es ih => exact .cons (h e List.mem_cons_self t) (ih (fun e' he => h e' (List.mem_cons_of_mem e he)) _)

/-- A machine that implements the specification: `abs` is the abstract state, `Inv` what the machine
keeps true besides. -/
theorem run_legal {step : σ → ι → Option σ × List ο} {C : σ → ι → Prop} (abs : σ → τ) (Inv : σ → Prop)
    (hstep : ∀ s i, Inv s → C s i → Legal after A (abs s) (step s i).2 ∧
      ∀ s', (step s i).1 = some s' → Inv s' ∧ abs s' = (step s i).2.foldl after (abs s))
    {s : σ} (h : Inv s) {is : List ι} (hC : Along step C s is) :
    Legal after A (abs s) (run step s is).2 ∧
      ∀ s', (run step s is).1 = some s' → abs s' = (run step s is).2.foldl after (abs s) := by
  induction is generalizing s with
  | nil =>
    refine ⟨.nil, ?_⟩
    intro s' hs
    injection hs with hs
    rw [← hs]
    rfl
  | cons i is ih =>
    obtain ⟨hc, hrest⟩ := hC
    obtain ⟨hlegal, hnext⟩ := hstep s i h hc
    cases hs : (step s i).1 with
    | none =>
      simp only [run, hs]
      refine ⟨hlegal, ?_⟩
      intro s' h
      cases h
    | some s1 =>
      obtain ⟨hinv, habs⟩ := hnext s1 hs
      obtain ⟨hlegal', hfinal⟩ := ih hinv (hrest s1 hs)
      simp only [run, hs]
      rw [habs] at hlegal' hfinal
      refine ⟨hlegal.append hlegal', ?_⟩
      intro s' hs'
      rw [List.foldl_append]
      exact hfinal s' hs'

/-- An invariant between abstract state and log gives a property of every entry. -/
theorem Legal.atEach (I : τ → List ο → Prop) {P : List ο → ο → Prop}
    (hstep : ∀ t log e, I t log → A t e → P log e ∧ I (after t e) (log ++ [e]))
    {t : τ} {log es : List ο} (hI : I t log) (hP : AtEach P log) (h : Legal after A t es) :
    AtEach P (log ++ es) := by
  induction h generalizing log with
  | nil =>
    rw [List.append_nil]
    exact hP
  | @cons t e es hA _ ih =>
    obtain ⟨he, hI'⟩ := hstep t log e hI hA
    have hrest := ih hI' (hP.concat he)
    rw [List.append_assoc, List.singleton_append] at hrest
    exact hrest

end Legal

end Rhyve.Machine
