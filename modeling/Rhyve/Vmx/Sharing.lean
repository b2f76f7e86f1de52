import Mathlib.Logic.Function.Basic
import Rhyve.Lib.Machine
import Rhyve.Vmx.Alone

/-! # Several vCPUs on one core

The threads that run guests share the cores, and a core has one current VMCS. A thread is switched away from
where its interrupts are enabled, and when it yields between two calls of `run`.

* `Core.step`: the running thread calls `run` or executes an instruction of it, or the scheduler switches.
  What an instruction answers is arbitrary.
* `own_vmcs_accessed`: no vCPU touches another one's VMCS if VMPTRLD is never executed in between.
* `other_vmcs_written`: the first call, preempted after its VMPTRLD.
-/

namespace Rhyve.Vmx
open Apic Backend Machine Program
set_option autoImplicit false

variable {ι : Type} [DecidableEq ι]

/-- A call of `run`, as far as it still has to go. -/
abbrev Call := Prog VmxOp VmxOp.Ans (Except HypervisorError (Handled VmxCpu))

namespace VmxOp

/-- The instruction works on the current VMCS. -/
def accesses : VmxOp → Bool
  | .vmread _ => true
  | .vmwrite _ _ => true
  | .vmresume => true
  | .instructionError => true
  | .hostRsp => true
  | .hostRip => true
  | .vmlaunch => true
  | _ => false

/-- The vCPU's own VMCS is current afterwards. -/
def loads : (o : VmxOp) → o.Ans → Bool
  | .vmptrld, ok => ok
  | _, _ => false

/-- RFLAGS.IF afterwards. A VM-exit clears it. -/
def interrupts (before : Bool) : (o : VmxOp) → o.Ans → Bool
  | .vmresume, exit => before && exit.isNone
  | .vmlaunch, exit => before && exit.isNone
  | .sti, _ => true
  | .cli, _ => false
  | _, _ => before

end VmxOp

/-! ## The core -/

/-- A core, and the threads on it that run vCPUs. -/
structure Core (ι : Type) where
  running : ι
  /-- The vCPU whose VMCS is current. -/
  current : Option ι
  /-- The call that a thread is in. -/
  call : ι → Option Call
  /-- RFLAGS.IF, which belongs to the thread. -/
  interrupts : ι → Bool

/-- What happens on the core. -/
inductive CoreEvent (ι : Type) where
  /-- The running thread calls `run`. -/
  | call (c : VmxCpu) (interrupts : Bool)
  /-- The running thread executes its next instruction, or returns. -/
  | exec (answer : (o : VmxOp) → o.Ans)
  | switch (next : ι)

/-- An instruction of a vCPU that works on the current VMCS. -/
structure VmcsAccess (ι : Type) where
  vcpu : ι
  current : Option ι
  deriving DecidableEq

namespace Core

/-- The next instruction of the running thread's call, and on which VMCS it works. -/
def exec (s : Core ι) (answer : (o : VmxOp) → o.Ans) : Core ι × List (VmcsAccess ι) :=
  match s.call s.running with
  | none => (s, [])
  | some (.done _) => ({ s with call := Function.update s.call s.running none }, [])
  | some (.op o k) =>
    ({ s with
        current := if o.loads (answer o) then some s.running else s.current
        call := Function.update s.call s.running (some (k (answer o)))
        interrupts := Function.update s.interrupts s.running
          (o.interrupts (s.interrupts s.running) (answer o)) },
      if o.accesses then [⟨s.running, s.current⟩] else [])

/-- The running thread calls `run`, if it is in no call. -/
def start (s : Core ι) (c : VmxCpu) (interrupts : Bool) : Core ι :=
  if (s.call s.running).isNone then
    { s with
      call := Function.update s.call s.running (some (ExceptT.run (Steps.run c)))
      interrupts := Function.update s.interrupts s.running interrupts }
  else s

/-- A preemption, or a yield between two calls. -/
def switch (s : Core ι) (next : ι) : Core ι :=
  if s.interrupts s.running || (s.call s.running).isNone then { s with running := next } else s

def step (s : Core ι) : CoreEvent ι → Option (Core ι) × List (VmcsAccess ι)
  | .call c interrupts => (some (s.start c interrupts), [])
  | .exec answer => (some (s.exec answer).1, (s.exec answer).2)
  | .switch next => (some (s.switch next), [])

/-- Instructions that need the VMCS may come before the next VMPTRLD. -/
def Exposed (p : Call) : Prop := Prog.Exposed (fun o a => o.loads a = true) (fun o => o.accesses = true) p

/-- The vCPU is between its VMPTRLD and the last instruction of the call that needs it. -/
def Busy (s : Core ι) (i : ι) : Prop :=
  ∃ p, s.call i = some p ∧ Exposed p

/-- VMPTRLD is executed only while no other vCPU is busy. -/
def Exclusive (s : Core ι) : CoreEvent ι → Prop
  | .exec answer => ∀ o k, s.call s.running = some (.op o k) → o.loads (answer o) = true →
    ∀ j, j ≠ s.running → ¬ s.Busy j
  | _ => True

/-! ## Every access finds the vCPU's own VMCS -/

/-- A busy vCPU has its VMCS loaded. -/
def Loaded (s : Core ι) : Prop := ∀ i, s.Busy i → s.current = some i

/-- A call begins with VMPTRLD, and ends if it fails. -/
theorem run_not_exposed (c : VmxCpu) : ¬ Exposed (ExceptT.run (Steps.run c)) := by
  rintro (haccess | ⟨ok, hload, hrest⟩)
  · cases haccess
  · cases ok with
    | true => exact hload rfl
    | false => exact hrest

theorem Busy.update {s : Core ι} {i j : ι} {current : Option ι} {interrupts : ι → Bool} {call : Option Call}
    (h : Busy { s with current := current, call := Function.update s.call i call, interrupts := interrupts } j)
    (hj : j ≠ i) : s.Busy j := by
  obtain ⟨p, hp, hexposed⟩ := h
  exact ⟨p, (Function.update_of_ne hj _ _).symm.trans hp, hexposed⟩

theorem Busy.updated {s : Core ι} {i : ι} {current : Option ι} {interrupts : ι → Bool} {call : Option Call}
    (h : Busy { s with current := current, call := Function.update s.call i call, interrupts := interrupts } i) :
    ∃ p, call = some p ∧ Exposed p := by
  obtain ⟨p, hp, hexposed⟩ := h
  have hself : Function.update s.call i call i = call := Function.update_self _ _ _
  exact ⟨p, hself.symm.trans hp, hexposed⟩

theorem exec_loaded {s : Core ι} (h : s.Loaded) (answer : (o : VmxOp) → o.Ans)
    (hexcl : s.Exclusive (.exec answer)) :
    (∀ a ∈ (s.exec answer).2, a.current = some a.vcpu) ∧ (s.exec answer).1.Loaded := by
  unfold exec
  split
  · exact ⟨nofun, h⟩
  · refine ⟨nofun, ?_⟩
    intro i hbusy
    by_cases hi : i = s.running
    · subst hi
      obtain ⟨p, hp, -⟩ := Busy.updated hbusy
      cases hp
    · exact h i (hbusy.update hi)
  · rename_i o k hcall
    refine ⟨?_, ?_⟩
    · -- An instruction that is executed next exposes the call.
      intro a ha
      cases haccess : o.accesses with
      | false =>
        rw [haccess] at ha
        cases ha
      | true =>
        rw [haccess] at ha
        rw [List.mem_singleton.mp ha]
        exact h s.running ⟨_, hcall, .inl haccess⟩
    · intro i hbusy
      show (if o.loads (answer o) = true then some s.running else s.current) = some i
      cases hload : o.loads (answer o) with
      | true =>
        by_cases hi : i = s.running
        · rw [hi]
          rfl
        · exact absurd (hbusy.update hi) (hexcl o k hcall hload i hi)
      | false =>
        show s.current = some i
        by_cases hi : i = s.running
        · subst hi
          obtain ⟨p, hp, hexposed⟩ := Busy.updated hbusy
          rw [← Option.some.inj hp] at hexposed
          have hnot : ¬ o.loads (answer o) = true := by
            rw [hload]
            exact Bool.false_ne_true
          exact h s.running ⟨_, hcall, .inr ⟨answer o, hnot, hexposed⟩⟩
        · exact h i (hbusy.update hi)

theorem start_loaded {s : Core ι} (h : s.Loaded) (c : VmxCpu) (interrupts : Bool) :
    (s.start c interrupts).Loaded := by
  unfold start
  split
  · intro i hbusy
    by_cases hi : i = s.running
    · subst hi
      obtain ⟨p, hp, hexposed⟩ := Busy.updated hbusy
      rw [← Option.some.inj hp] at hexposed
      exact absurd hexposed (run_not_exposed c)
    · exact h i (hbusy.update hi)
  · exact h

theorem step_loaded (s : Core ι) (e : CoreEvent ι) (h : s.Loaded) (hexcl : s.Exclusive e) :
    (∀ a ∈ (s.step e).2, a.current = some a.vcpu) ∧ ∀ s', (s.step e).1 = some s' → s'.Loaded := by
  cases e with
  | call c interrupts =>
    refine ⟨nofun, ?_⟩
    rintro s' ⟨⟩
    exact start_loaded h c interrupts
  | exec answer =>
    obtain ⟨hown, hloaded⟩ := exec_loaded h answer hexcl
    refine ⟨hown, ?_⟩
    rintro s' ⟨⟩
    exact hloaded
  | switch next =>
    refine ⟨nofun, ?_⟩
    rintro s' ⟨⟩
    unfold switch
    split
    · exact h
    · exact h

end Core

/-- Any number of vCPUs, in any schedule, from a time on when none is in a call. -/
theorem own_vmcs_accessed (running : ι) (current : Option ι) (interrupts : ι → Bool) (es : List (CoreEvent ι))
    (h : Along Core.step Core.Exclusive ⟨running, current, fun _ => none, interrupts⟩ es) :
    ∀ a ∈ (Machine.run Core.step ⟨running, current, fun _ => none, interrupts⟩ es).2,
      a.current = some a.vcpu := by
  have hstart : Core.Loaded (⟨running, current, fun _ => none, interrupts⟩ : Core ι) := by
    rintro i ⟨p, hp, -⟩
    cases hp
  exact run_outputs Core.Loaded (fun a => a.current = some a.vcpu) Core.step_loaded hstart h

def idleCpu : VmxCpu := ⟨⟨fun _ => 0#64, fun _ => true⟩, GuestRegisters.zero, false, ApicTimer.default, none, 0#8⟩

/-- Every instruction succeeds; the guest exits for an external interrupt. -/
def succeed : (o : VmxOp) → o.Ans
  | .vmptrld => true
  | .vmread _ => .ok 1#64
  | .vmwrite _ _ => .ok ()
  | .vmresume => some GuestRegisters.zero
  | .vmlaunch => some GuestRegisters.zero
  | .instructionError => 0#64
  | .host => ⟨0#64, fun _ _ => ⟨0, 0, 0, 0⟩⟩
  | .hostRsp => ()
  | .hostRip => ()
  | .sti => ()
  | .cli => ()
  | .xsetbv _ => ()

/-- The first vCPU is preempted before its VMPTRLD. -/
theorem own_vmcs_accessed_preempted :
    (Machine.run Core.step ⟨false, none, fun _ => none, fun _ => true⟩
        [.call idleCpu true, .switch true, .call idleCpu false, .exec succeed, .exec succeed]).2 =
      [⟨true, some true⟩] ∧
    ∀ a ∈ (Machine.run Core.step ⟨false, none, fun _ => none, fun _ => true⟩
        [.call idleCpu true, .switch true, .call idleCpu false, .exec succeed, .exec succeed]).2,
      a.current = some a.vcpu := by
  refine ⟨rfl, own_vmcs_accessed false none (fun _ => true) _ ?_⟩
  refine ⟨trivial, ?_⟩
  rintro _ ⟨⟩
  refine ⟨trivial, ?_⟩
  rintro _ ⟨⟩
  refine ⟨trivial, ?_⟩
  rintro _ ⟨⟩
  refine ⟨?_, ?_⟩
  · rintro o k - - j hj ⟨p, hp, hexposed⟩
    cases j with
    | true => exact hj rfl
    | false =>
      have hfirst : p = ExceptT.run (Steps.run idleCpu) := (Option.some.inj hp).symm
      rw [hfirst] at hexposed
      exact Core.run_not_exposed idleCpu hexposed
  · rintro _ ⟨⟩
    refine ⟨?_, fun _ _ => trivial⟩
    rintro o k ⟨⟩ ⟨⟩

/-- The first vCPU is preempted after its VMPTRLD, the second after its own. Then the first one writes RIP into
the VMCS of the second. -/
theorem other_vmcs_written :
    (Machine.run Core.step ⟨false, none, fun _ => none, fun _ => true⟩
        [.call idleCpu true, .exec succeed, .switch true, .call idleCpu true, .exec succeed, .switch false,
          .exec succeed]).2 =
      [⟨false, some true⟩] := rfl

end Rhyve.Vmx
