import Rhyve.Svm.Turn
import Rhyve.Vmx.Turn

/-! # Injected interrupts are sound and come at most once

Every run of either backend, from the creation of the vCPU on, produces a log that the timer unit allows.
What such a log says about injected events holds of both.
-/

namespace Rhyve.Backend
open Apic Machine Vmx Svm
set_option autoImplicit false

/-- Every entry that carries an event is sound, every expiry has the vector and the mask that the guest wrote last, and
at no time have there been more such entries than expiries of an armed timer. -/
structure InjectsSoundly (log : List TimerEvent) : Prop where
  sound : AtEach SoundAt log
  inForce : AtEach InForceAt log
  bounded : ∀ pre, pre <+: log → pre.countP isInjection ≤ pre.countP isExpiry

theorem legal_injectsSoundly {log : List TimerEvent}
    (h : Legal TimerUnit.after TimerUnit.allows TimerUnit.new log) : InjectsSoundly log := by
  refine ⟨legal_sound h, legal_in_force h, ?_⟩
  intro pre hpre
  have hle := injections_le_expiries ((legal_sound h).take hpre)
  omega

/-! ## Whole runs -/

/-- What every call keeps to, a run keeps to, and the timer unit at its end is the outcome of its events. -/
theorem vmx_run_legal {P : TimerUnit → TimerEvent → Prop} {C : VmxCpu → VmxTurn → Prop} {c : VmxCpu}
    (hturn : ∀ c' i, Idle c' → c'.preemptScale = c.preemptScale → C c' i →
      Legal TimerUnit.after P c'.timerUnit (Vmx.turn c' i).2)
    (hidle : Idle c) {is : List VmxTurn} (hC : Along Vmx.turn C c is) :
    Legal TimerUnit.after P c.timerUnit (Machine.run Vmx.turn c is).2 ∧
      ∀ c', (Machine.run Vmx.turn c is).1 = some c' →
        c'.timerUnit = (Machine.run Vmx.turn c is).2.foldl TimerUnit.after c.timerUnit := by
  refine run_legal VmxCpu.timerUnit (fun c' => Idle c' ∧ c'.preemptScale = c.preemptScale) ?_ ⟨hidle, rfl⟩ hC
  intro c' i hinv hcond
  refine ⟨hturn c' i hinv.1 hinv.2 hcond, ?_⟩
  intro c'' hc
  obtain ⟨hidle', hscale, hunit⟩ := (Vmx.turn_unit hinv.1 i).2 c'' hc
  exact ⟨⟨hidle', hscale.trans hinv.2⟩, hunit⟩

theorem svm_run_legal {P : TimerUnit → TimerEvent → Prop} {C : SvmCpu → SvmTurn → Prop} {c : SvmCpu}
    (hturn : ∀ c' i, C c' i → Legal TimerUnit.after P c'.timerUnit (Svm.turn c' i).2)
    {is : List SvmTurn} (hC : Along Svm.turn C c is) :
    Legal TimerUnit.after P c.timerUnit (Machine.run Svm.turn c is).2 ∧
      ∀ c', (Machine.run Svm.turn c is).1 = some c' →
        c'.timerUnit = (Machine.run Svm.turn c is).2.foldl TimerUnit.after c.timerUnit := by
  refine run_legal SvmCpu.timerUnit (fun _ => True) ?_ trivial hC
  intro c' i _ hcond
  exact ⟨hturn c' i hcond, fun c'' hc => ⟨trivial, (Svm.turn_unit c' i).2 c'' hc⟩⟩

/-- A log of the timer unit from its reset state on, and the state it leads to. -/
structure Logs (log : List TimerEvent) (final : Option TimerUnit) : Prop where
  legal : Legal TimerUnit.after TimerUnit.allows TimerUnit.new log
  leads : ∀ u, final = some u → u = log.foldl TimerUnit.after TimerUnit.new

theorem leads_map {σ : Type} (abs : σ → TimerUnit) {log : List TimerEvent} {final : Option σ}
    (hfinal : ∀ s, final = some s → abs s = log.foldl TimerUnit.after TimerUnit.new) :
    ∀ u, final.map abs = some u → u = log.foldl TimerUnit.after TimerUnit.new := by
  intro u hu
  obtain ⟨s, hs, rfl⟩ := Option.map_eq_some_iff.mp hu
  exact hfinal s hs

theorem vmx_logs {h : VmxCpu.HostCpu} {eptp apicAccessHpa cpuId entryPoint guestRsp : BitVec 64} {c : VmxCpu}
    (hc : VmxCpu.new h eptp apicAccessHpa cpuId entryPoint guestRsp = .ok c) (is : List VmxTurn) :
    Logs (Machine.run Vmx.turn c is).2 ((Machine.run Vmx.turn c is).1.map VmxCpu.timerUnit) := by
  obtain ⟨hidle, hunit⟩ := Vmx.new_unit hc
  obtain ⟨hlegal, hfinal⟩ :=
    vmx_run_legal (fun c' i hidle _ _ => (Vmx.turn_unit hidle i).1) hidle (along_true c is)
  rw [hunit] at hlegal hfinal
  exact ⟨hlegal, leads_map VmxCpu.timerUnit hfinal⟩

theorem svm_logs (ncr3 iopmPa msrpmPa cpuId entryPoint guestRsp : BitVec 64) (is : List SvmTurn) :
    Logs (Machine.run Svm.turn (SvmCpu.new ncr3 iopmPa msrpmPa cpuId entryPoint guestRsp) is).2
      ((Machine.run Svm.turn (SvmCpu.new ncr3 iopmPa msrpmPa cpuId entryPoint guestRsp) is).1.map
        SvmCpu.timerUnit) := by
  obtain ⟨hlegal, hfinal⟩ := svm_run_legal (fun c' i _ => (Svm.turn_unit c' i).1)
    (along_true (SvmCpu.new ncr3 iopmPa msrpmPa cpuId entryPoint guestRsp) is)
  exact ⟨hlegal, leads_map SvmCpu.timerUnit hfinal⟩

/-- Whatever the guest and the host do in the calls of `run`. -/
theorem injection_sound (h : VmxCpu.HostCpu)
    (pointer apicAccessHpa iopmPa msrpmPa cpuId entryPoint guestRsp : BitVec 64) :
    (∀ c, VmxCpu.new h pointer apicAccessHpa cpuId entryPoint guestRsp = .ok c →
      ∀ is, InjectsSoundly (Machine.run Vmx.turn c is).2) ∧
    ∀ is, InjectsSoundly
      (Machine.run Svm.turn (SvmCpu.new pointer iopmPa msrpmPa cpuId entryPoint guestRsp) is).2 := by
  refine ⟨?_, ?_⟩
  · intro c hc is
    exact legal_injectsSoundly (vmx_logs hc is).legal
  · intro is
    exact legal_injectsSoundly (svm_logs pointer iopmPa msrpmPa cpuId entryPoint guestRsp is).legal

/-- An exit with these registers, exit code, EXITINFO1 and RAX. -/
def svmExitWith (regs : GuestRegisters) (code info1 rax : BitVec 64) : SvmCpu.SvmExit :=
  ⟨regs, ByteMem.ofWords fun i =>
    if i = exitcodeField / 8 then code else if i = exitinfo1 / 8 then info1
    else if i = saveRax / 8 then rax else 0#64⟩

/-- The guest writes 5 to IA32_TSC_DEADLINE. -/
def armDeadline : SvmTurn :=
  ⟨GuestRegisters.zero, 0#64, svmExitWith { GuestRegisters.zero with rcx := 0x6e0#64 } 0x7C#64 1#64 5#64,
    1#64, fun _ _ => ⟨0, 0, 0, 0⟩⟩

/-- An entry after the deadline, with interrupts enabled. -/
def afterDeadline : SvmTurn :=
  ⟨{ GuestRegisters.zero with rflags := 0x202#64 }, 10#64,
    svmExitWith GuestRegisters.zero 0x60#64 0#64 0#64, 11#64, fun _ _ => ⟨0, 0, 0, 0⟩⟩

/-- The guest sets the vector 0x20, in TSC-deadline mode and unmasked. -/
def setVector : SvmTurn :=
  ⟨GuestRegisters.zero, 0#64, svmExitWith { GuestRegisters.zero with rcx := 0x832#64 } 0x7C#64 1#64 0x40020#64,
    0#64, fun _ _ => ⟨0, 0, 0, 0⟩⟩

/-- A run in which its vector is injected, once. -/
theorem injection_sound_once :
    InjectsSoundly (Machine.run Svm.turn (SvmCpu.new 0 0 0 0 0 0)
      [setVector, armDeadline, afterDeadline, afterDeadline]).2 ∧
    ((Machine.run Svm.turn (SvmCpu.new 0 0 0 0 0 0)
      [setVector, armDeadline, afterDeadline, afterDeadline]).2.filter isInjection) =
        [.entered 0x202#64 0#64 0x80000020#64] := by
  refine ⟨?_, by decide +kernel⟩
  exact (injection_sound blankHost 0 0 0 0 0 0 0).2 _

end Rhyve.Backend
