import Rhyve.Svm.Sharing

/-! # The host-save area of a core

Every vCPU has an area for the state of the host, and VM_HSAVE_PA names the area of the vCPU that was set up last.

* `save_area_alive`: a VMRUN saves the host's state to memory of a vCPU that still exists, if no vCPU is dropped while
  another one is about to use its area. `freed_area_used`: otherwise it may not.
-/

namespace Rhyve.Svm
open Apic Backend Machine Program
set_option autoImplicit false

variable {ι : Type}

namespace Core

/-- VM_HSAVE_PA names the area of a vCPU that exists. -/
def AreaAlive (s : Core ι) : Prop := ∃ j a, s.area j = some a ∧ s.hsave = some a

/-- The call has set VM_HSAVE_PA for a VMRUN that is still to come. -/
def Exposed (p : Steps Unit) : Prop := Prog.Exposed (fun o _ => o = .wrmsrHsave) (· = .vmrun) p

def Pending (s : Core ι) (i : ι) : Prop := ∃ p, s.call i = some p ∧ Exposed p

/-- A vCPU whose area is in VM_HSAVE_PA is dropped only while no VMRUN is pending. -/
def Keeps (s : Core ι) : CoreEvent ι → Prop
  | .drop => ∀ a, s.area s.running = some a → s.hsave = some a → ∀ i, ¬ s.Pending i
  | _ => True

/-- Whoever is in a call has a vCPU, and the area that a pending VMRUN uses is alive. -/
structure Alive (s : Core ι) : Prop where
  pending : ∀ i, s.Pending i → s.AreaAlive
  created : ∀ i, s.call i ≠ none → s.area i ≠ none

end Core

/-- A VMRUN saves the host's state to the area of a vCPU that exists. -/
def CoreOutput.SavesAlive : CoreOutput ι → Prop
  | .entered _ s => s.AreaAlive
  | _ => True

namespace Core

/-- A call sets VM_HSAVE_PA before its VMRUN. -/
theorem not_exposed {final : Phase → Prop} {p : Steps Unit} {ph : Phase} (h : p.Obeys PhaseStep final ph)
    (hph : ph = .start ∨ ph = .disabled ∨ ph = .enabled) : ¬ Exposed p := by
  induction h with
  | done _ => exact id
  | @op ph o k after hnext _ ih =>
    rintro (rfl | ⟨a, hload, hrest⟩)
    · -- A VMRUN is not the next instruction in these phases.
      have hstep := hnext GuestRegisters.zero
      generalize after GuestRegisters.zero = ph' at hstep
      cases hstep
      rcases hph with hph | hph | hph
      · cases hph
      · cases hph
      · cases hph
    · refine ih a ?_ hrest
      have hstep := hnext a
      generalize after a = ph' at hstep ⊢
      rcases hph with rfl | rfl | rfl
      · cases hstep with
        | disabled => exact .inr (.inl rfl)
        | enabled _ => exact .inr (.inr rfl)
      · cases hstep with
        | enable _ => exact .inr (.inr rfl)
      · cases hstep with
        | ready => exact absurd rfl hload

theorem fresh_alive (running : ι) (efer : BitVec 64) (hsave : Option Hpa) (interrupts : ι → Bool) :
    (fresh running efer hsave interrupts).Alive := by
  refine ⟨?_, fun i hi => absurd rfl hi⟩
  rintro i ⟨p, hp, -⟩
  cases hp

variable {s : Core ι}

theorem switch_alive (h : s.Alive) (next : ι) :
    (∀ out ∈ (s.switch next).2, out.SavesAlive) ∧ (s.switch next).1.Alive := by
  unfold switch
  split
  · refine ⟨?_, h.pending, h.created⟩
    intro out hout
    rw [List.mem_singleton.mp hout]
    exact trivial
  · exact ⟨nofun, h⟩

variable [DecidableEq ι]

theorem Pending.of_update {t : Core ι} {call : Option (Steps Unit)} {i : ι}
    (hcall : t.call = Function.update s.call s.running call) (h : t.Pending i)
    (hnot : ∀ p, call = some p → ¬ Exposed p) : s.Pending i := by
  obtain ⟨p, hp, hexposed⟩ := h
  rw [hcall] at hp
  by_cases hi : i = s.running
  · rw [hi, Function.update_self] at hp
    exact absurd hexposed (hnot p hp)
  · rw [Function.update_of_ne hi] at hp
    exact ⟨p, hp, hexposed⟩

theorem created_of_update {t : Core ι} {call : Option (Steps Unit)} (h : s.Alive)
    (hcall : t.call = Function.update s.call s.running call) (harea : t.area = s.area)
    (hself : call ≠ none → s.area s.running ≠ none) (i : ι) (hi : t.call i ≠ none) : t.area i ≠ none := by
  rw [hcall] at hi
  rw [harea]
  by_cases hr : i = s.running
  · rw [hr, Function.update_self] at hi
    rw [hr]
    exact hself hi
  · rw [Function.update_of_ne hr] at hi
    exact h.created i hi

theorem exec_alive (h : s.Alive) (other : (o : SvmOp) → o.Ans) :
    (∀ out ∈ (s.exec other).2, out.SavesAlive) ∧ (s.exec other).1.Alive := by
  unfold exec
  split
  · exact ⟨nofun, h⟩
  · refine ⟨?_, ?_, created_of_update h rfl rfl fun hne => absurd rfl hne⟩
    · intro out hout
      rw [List.mem_singleton.mp hout]
      exact trivial
    · intro i hi
      exact h.pending i (hi.of_update rfl nofun)
  · rename_i o k hcall
    have hbusy : s.area s.running ≠ none := h.created _ (by rw [hcall]; exact nofun)
    have harea : (s.effect o).area = s.area := by
      cases o with
      | _ => rfl
    refine ⟨?_, ?_, created_of_update h rfl harea fun _ => hbusy⟩
    · intro out hout
      cases o with
      | vmrun =>
        rw [List.mem_singleton.mp hout]
        exact h.pending s.running ⟨_, hcall, .inl rfl⟩
      | vmsaveGuest =>
        rw [List.mem_singleton.mp hout]
        exact trivial
      | _ => cases hout
    · intro i hi
      by_cases ho : o = .wrmsrHsave
      · subst ho
        obtain ⟨a, ha⟩ := Option.ne_none_iff_exists'.mp hbusy
        exact ⟨s.running, a, ha, ha⟩
      · have hhsave : (s.effect o).hsave = s.hsave := by
          cases o with
          | wrmsrHsave => exact absurd rfl ho
          | _ => rfl
        have hwas : s.AreaAlive := by
          by_cases hexposed : Exposed (k (s.answer other o))
          · exact h.pending s.running ⟨_, hcall, .inr ⟨_, ho, hexposed⟩⟩
          · refine h.pending i (hi.of_update rfl ?_)
            rintro _ ⟨⟩
            exact hexposed
        obtain ⟨j, a, hj, ha⟩ := hwas
        exact ⟨j, a, (congrFun harea j).trans hj, hhsave.trans ha⟩

theorem create_alive (h : s.Alive) (a : Hpa) : (s.create a).Alive := by
  unfold create
  split
  · rename_i hnew
    refine ⟨?_, ?_⟩
    · intro i hi
      have hwas : s.Pending i := by
        refine hi.of_update rfl ?_
        rintro _ ⟨⟩
        exact not_exposed setupSvm_obeys (.inl rfl)
      obtain ⟨j, b, hj, hb⟩ := h.pending i hwas
      have hne : j ≠ s.running := by
        rintro rfl
        rw [hnew.2] at hj
        cases hj
      exact ⟨j, b, (Function.update_of_ne hne _ _).trans hj, hb⟩
    · intro i hi
      by_cases hr : i = s.running
      · rw [hr]
        show Function.update s.area s.running (some a) s.running ≠ none
        rw [Function.update_self]
        exact Option.some_ne_none a
      · have hi' : s.call i ≠ none := fun hnone => hi ((Function.update_of_ne hr _ _).trans hnone)
        exact fun hnone => h.created i hi' ((Function.update_of_ne hr _ _).symm.trans hnone)
  · exact h

theorem start_alive (h : s.Alive) (c : SvmCpu) : (s.start c).Alive := by
  unfold start
  split
  · rename_i hidle
    refine ⟨?_, created_of_update h rfl rfl fun _ => hidle.2⟩
    intro i hi
    refine h.pending i (hi.of_update rfl ?_)
    rintro _ ⟨⟩
    exact not_exposed (run_obeys c) (.inl rfl)
  · exact h

theorem drop_alive (h : s.Alive) (hkeeps : s.Keeps .drop) : s.drop.Alive := by
  unfold drop
  split
  · rename_i hidle
    refine ⟨?_, ?_⟩
    · intro i hi
      obtain ⟨j, a, hj, ha⟩ := h.pending i hi
      have hne : j ≠ s.running := by
        rintro rfl
        exact hkeeps a hj ha i hi
      exact ⟨j, a, (Function.update_of_ne hne _ _).trans hj, ha⟩
    · intro i hi
      have hne : i ≠ s.running := by
        rintro rfl
        exact hi hidle
      exact fun hnone => h.created i hi ((Function.update_of_ne hne _ _).symm.trans hnone)
  · exact h

theorem step_alive (s : Core ι) (e : CoreEvent ι) (h : s.Alive) (hkeeps : s.Keeps e) :
    (∀ out ∈ (s.step e).2, out.SavesAlive) ∧ ∀ s', (s.step e).1 = some s' → s'.Alive := by
  cases e with
  | create a =>
    refine ⟨nofun, ?_⟩
    rintro s' ⟨⟩
    exact create_alive h a
  | run c =>
    refine ⟨nofun, ?_⟩
    rintro s' ⟨⟩
    exact start_alive h c
  | drop =>
    refine ⟨nofun, ?_⟩
    rintro s' ⟨⟩
    exact drop_alive h hkeeps
  | exec other =>
    obtain ⟨hentered, halive⟩ := exec_alive h other
    refine ⟨hentered, ?_⟩
    rintro s' ⟨⟩
    exact halive
  | switch next =>
    obtain ⟨hentered, halive⟩ := switch_alive h next
    refine ⟨hentered, ?_⟩
    rintro s' ⟨⟩
    exact halive

end Core

/-- Any number of vCPUs, in any schedule in which no vCPU goes whose area a pending VMRUN would use. -/
theorem save_area_alive [DecidableEq ι] (running : ι) (efer : BitVec 64) (hsave : Option Hpa) (interrupts : ι → Bool)
    (es : List (CoreEvent ι)) (h : Along Core.step Core.Keeps (Core.fresh running efer hsave interrupts) es) :
    ∀ out ∈ (Machine.run Core.step (Core.fresh running efer hsave interrupts) es).2, out.SavesAlive :=
  run_outputs Core.Alive CoreOutput.SavesAlive Core.step_alive (Core.fresh_alive running efer hsave interrupts) h

/-- VM_HSAVE_PA and the areas at a VMRUN. -/
def CoreOutput.areas : CoreOutput Bool → Option (Option Hpa × Option Hpa × Option Hpa)
  | .entered _ s => some (s.hsave, s.area false, s.area true)
  | _ => none

/-- A vCPU is created and dropped before another one runs. -/
def recreated : List (CoreEvent Bool) :=
  [.create 1#64, .exec quiet, .exec quiet, .exec quiet, .exec quiet, .drop, .create 2#64, .exec quiet, .exec quiet,
    .exec quiet, .run sharedCpu, .exec quiet, .exec quiet, .exec quiet, .exec quiet, .exec quiet, .exec quiet]

theorem recreated_keeps : Along Core.step Core.Keeps (Core.fresh false 0#64 none fun _ => true) recreated := by
  -- Nothing is asked of the four instructions of the first `new`, nor of anything after the drop.
  refine ⟨trivial, ?_⟩
  rintro _ ⟨⟩
  refine ⟨trivial, ?_⟩
  rintro _ ⟨⟩
  refine ⟨trivial, ?_⟩
  rintro _ ⟨⟩
  refine ⟨trivial, ?_⟩
  rintro _ ⟨⟩
  refine ⟨trivial, ?_⟩
  rintro _ ⟨⟩
  refine ⟨?_, fun _ _ => ?_⟩
  · rintro a - - i ⟨p, hp, -⟩
    cases i with
    | false => cases hp
    | true => cases hp
  · iterate 11 refine ⟨trivial, fun _ _ => ?_⟩
    exact trivial

theorem save_area_alive_recreated :
    (Machine.run Core.step (Core.fresh false 0#64 none fun _ => true) recreated).2.filterMap CoreOutput.areas =
      [(some 2#64, some 2#64, none)] ∧
    ∀ out ∈ (Machine.run Core.step (Core.fresh false 0#64 none fun _ => true) recreated).2, out.SavesAlive :=
  ⟨by decide +kernel, save_area_alive false 0#64 none (fun _ => true) recreated recreated_keeps⟩

/-- The first vCPU is preempted between `setup_svm` and VMRUN. The second one is created on the same core and dropped
again. -/
def droppedBetween : List (CoreEvent Bool) :=
  [.create 1#64, .exec quiet, .exec quiet, .exec quiet, .exec quiet, .run sharedCpu, .exec quiet, .exec quiet,
    .switch true, .create 2#64, .exec quiet, .exec quiet, .exec quiet, .drop, .switch false, .exec quiet,
    .exec quiet, .exec quiet, .exec quiet]

/-- Then the first one's VMRUN saves the host's state to memory that has been freed. -/
theorem freed_area_used :
    ∃ out ∈ (Machine.run Core.step (Core.fresh false 0#64 none fun _ => true) droppedBetween).2, ¬ out.SavesAlive := by
  have hareas : (Machine.run Core.step (Core.fresh false 0#64 none fun _ => true) droppedBetween).2.filterMap
      CoreOutput.areas = [(some 2#64, some 1#64, none)] := by decide +kernel
  obtain ⟨out, hout, hsome⟩ := List.mem_filterMap.mp (hareas.symm ▸ List.mem_singleton_self _)
  refine ⟨out, hout, ?_⟩
  cases out with
  | entered i t =>
    rintro ⟨j, a, hj, ha⟩
    obtain ⟨hhsave, hfirst, hsecond⟩ : t.hsave = some 2#64 ∧ t.area false = some 1#64 ∧ t.area true = none := by
      simpa [CoreOutput.areas] using hsome
    obtain rfl : 2#64 = a := Option.some.inj (hhsave.symm.trans ha)
    cases j with
    | false => cases hfirst.symm.trans hj
    | true => cases hsecond.symm.trans hj
  | saved i t => cases hsome
  | returned i t => cases hsome
  | switched i t => cases hsome

end Rhyve.Svm
