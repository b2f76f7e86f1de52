import Rhyve.Apic.Mode
import Rhyve.Backend.Timing

/-! # Masking, and the mode of the timer

What logs of the timer unit satisfy, for the runs of both backends from the creation of the vCPU on. The
timer of the vCPU is at any time the outcome of the events so far.

* `masking_silences`: a masked timer has no deadline and no period, and makes nothing pending until it is
  unmasked and given a new time.
* `timer_obeys_mode_iff`: the timer follows its LVT mode in exactly the runs whose writes are orderly.
* `timer_ignores_mode`: runs with writes that are not.
-/

namespace Rhyve.Backend
open Apic Machine Vmx Svm
set_option autoImplicit false

/-! ## Masking -/

/-- A run whose timer is silent at all times, and makes nothing pending that the guest has masked. -/
structure MasksSilently (log : List TimerEvent) (final : Option TimerUnit) : Prop where
  /-- After every event of the run. -/
  states : ∀ pre, pre <+: log → (pre.foldl TimerUnit.after TimerUnit.new).timer.Silent
  logged : ∀ u, final = some u → u = log.foldl TimerUnit.after TimerUnit.new
  silent : AtEach SilentAt log

theorem Logs.masksSilently {log : List TimerEvent} {final : Option TimerUnit} (h : Logs log final) :
    MasksSilently log final :=
  ⟨fun pre _ => silent_foldl pre, h.leads, legal_silent h.legal⟩

theorem masking_silences (h : VmxCpu.HostCpu)
    (pointer apicAccessHpa iopmPa msrpmPa cpuId entryPoint guestRsp : BitVec 64) :
    (∀ c, VmxCpu.new h pointer apicAccessHpa cpuId entryPoint guestRsp = .ok c →
      ∀ is, MasksSilently (Machine.run Vmx.turn c is).2
        ((Machine.run Vmx.turn c is).1.map VmxCpu.timerUnit)) ∧
    ∀ is, MasksSilently
      (Machine.run Svm.turn (SvmCpu.new pointer iopmPa msrpmPa cpuId entryPoint guestRsp) is).2
      ((Machine.run Svm.turn (SvmCpu.new pointer iopmPa msrpmPa cpuId entryPoint guestRsp) is).1.map
        SvmCpu.timerUnit) := by
  refine ⟨?_, ?_⟩
  · intro c hc is
    exact (vmx_logs hc is).masksSilently
  · intro is
    exact (svm_logs pointer iopmPa msrpmPa cpuId entryPoint guestRsp is).masksSilently

/-- WRMSR with a value below `2 ^ 32`, on VT-x. -/
def vmxWrmsr (msr value : BitVec 64) : VmxTurn :=
  vmxTurnWith 32#64 { GuestRegisters.zero with rcx := msr, rax := value } 0#64

/-- The guest writes an MSR. -/
def svmWrmsr (msr value : BitVec 64) : SvmTurn :=
  ⟨GuestRegisters.zero, 0#64, svmExitWith { GuestRegisters.zero with rcx := msr } 0x7C#64 1#64 value,
    0#64, fun _ _ => ⟨0, 0, 0, 0⟩⟩

/-- Armed, masked and run past the deadline: on both backends nothing expires. -/
theorem masking_silences_armed :
    (MasksSilently (Machine.run Vmx.turn blankCpu
        [vmxWrmsr 0x6e0#64 5#64, vmxWrmsr 0x832#64 0x10020#64, preemptionExit 5#64]).2
        ((Machine.run Vmx.turn blankCpu
          [vmxWrmsr 0x6e0#64 5#64, vmxWrmsr 0x832#64 0x10020#64, preemptionExit 5#64]).1.map
            VmxCpu.timerUnit) ∧
      (Machine.run Vmx.turn blankCpu
        [vmxWrmsr 0x6e0#64 5#64, vmxWrmsr 0x832#64 0x10020#64, preemptionExit 5#64]).2.countP
          isExpiry = 0) ∧
    MasksSilently (Machine.run Svm.turn (SvmCpu.new 0 0 0 0 0 0)
        [armDeadline, svmWrmsr 0x832#64 0x10020#64, afterDeadline]).2
        ((Machine.run Svm.turn (SvmCpu.new 0 0 0 0 0 0)
          [armDeadline, svmWrmsr 0x832#64 0x10020#64, afterDeadline]).1.map SvmCpu.timerUnit) ∧
      (Machine.run Svm.turn (SvmCpu.new 0 0 0 0 0 0)
        [armDeadline, svmWrmsr 0x832#64 0x10020#64, afterDeadline]).2.countP isExpiry = 0 := by
  obtain ⟨hvmx, hsvm⟩ := masking_silences blankHost 0 0 0 0 0 0 0
  exact ⟨⟨hvmx blankCpu blankCpu_new _, by decide +kernel⟩, hsvm _, by decide +kernel⟩

/-! ## The LVT mode -/

/-- The run follows the rule if and only if its writes are orderly, and the trace it is about is that of the
vCPU's own timer. -/
structure FollowsMode (log : List TimerEvent) (final : Option TimerUnit) : Prop where
  iff : ObeysMode log ↔ AtEach (fun pre e => Orderly (trace pre) e) log
  traced : ∀ u, final = some u → u = (trace log).unit

theorem Logs.followsMode {log : List TimerEvent} {final : Option TimerUnit} (h : Logs log final) :
    FollowsMode log final := by
  refine ⟨obeysMode_iff log, ?_⟩
  intro u hu
  rw [trace_unit]
  exact h.leads u hu

theorem timer_obeys_mode_iff (h : VmxCpu.HostCpu)
    (pointer apicAccessHpa iopmPa msrpmPa cpuId entryPoint guestRsp : BitVec 64) :
    (∀ c, VmxCpu.new h pointer apicAccessHpa cpuId entryPoint guestRsp = .ok c →
      ∀ is, FollowsMode (Machine.run Vmx.turn c is).2
        ((Machine.run Vmx.turn c is).1.map VmxCpu.timerUnit)) ∧
    ∀ is, FollowsMode
      (Machine.run Svm.turn (SvmCpu.new pointer iopmPa msrpmPa cpuId entryPoint guestRsp) is).2
      ((Machine.run Svm.turn (SvmCpu.new pointer iopmPa msrpmPa cpuId entryPoint guestRsp) is).1.map
        SvmCpu.timerUnit) := by
  refine ⟨?_, ?_⟩
  · intro c hc is
    exact (vmx_logs hc is).followsMode
  · intro is
    exact (svm_logs pointer iopmPa msrpmPa cpuId entryPoint guestRsp is).followsMode

/-- TSC-deadline mode, then a deadline: the writes are orderly, and the mode is obeyed. -/
theorem timer_obeys_mode_deadline :
    ObeysMode (Machine.run Vmx.turn blankCpu
        [vmxWrmsr 0x832#64 0x40020#64, vmxWrmsr 0x6e0#64 5#64]).2 ∧
      ((Machine.run Vmx.turn blankCpu
        [vmxWrmsr 0x832#64 0x40020#64, vmxWrmsr 0x6e0#64 5#64]).1.map
          fun c => c.apicTimer.deadline) = some (some 5#64) := by
  obtain ⟨hvmx, -⟩ := timer_obeys_mode_iff blankHost 0 0 0 0 0 0 0
  refine ⟨(hvmx blankCpu blankCpu_new _).iff.mpr ?_, by decide +kernel⟩
  have hlog : (Machine.run Vmx.turn blankCpu [vmxWrmsr 0x832#64 0x40020#64, vmxWrmsr 0x6e0#64 5#64]).2 =
      [.entered 0#64 0#64 0#64, .wrote 0#64 ia32X2apicLvtTimer 0x40020#64, .entered 0#64 0#64 0#64,
        .wrote 0#64 ia32TscDeadline 5#64] := by decide +kernel
  rw [hlog]
  refine AtEach.concat (AtEach.concat (AtEach.concat (AtEach.concat atEach_nil ?_) ?_) ?_) ?_
  · trivial
  · exact ⟨fun _ => .inr (.inr rfl), fun h => absurd h (by decide), fun h => absurd h (by decide)⟩
  · trivial
  · exact ⟨fun h => absurd h (by decide), fun _ => .inl (by decide), fun h => absurd h (by decide)⟩

/-- A periodic timer that is switched to one-shot mode keeps its period, and is armed again after it expires;
a deadline is armed in one-shot mode; a count removes the deadline in TSC-deadline mode. -/
theorem timer_ignores_mode :
    ¬ ObeysMode (Machine.run Svm.turn (SvmCpu.new 0 0 0 0 0 0)
        [svmWrmsr 0x832#64 0x20020#64, svmWrmsr 0x838#64 5#64, svmWrmsr 0x832#64 0x20#64, afterDeadline]).2 ∧
      ((Machine.run Svm.turn (SvmCpu.new 0 0 0 0 0 0)
        [svmWrmsr 0x832#64 0x20020#64, svmWrmsr 0x838#64 5#64, svmWrmsr 0x832#64 0x20#64,
          afterDeadline]).1.map fun c => (c.apicTimer.periodic, c.apicTimer.deadline)) =
        some (false, some 10#64) ∧
    ¬ ObeysMode (Machine.run Svm.turn (SvmCpu.new 0 0 0 0 0 0) [armDeadline]).2 ∧
    ¬ ObeysMode (Machine.run Svm.turn (SvmCpu.new 0 0 0 0 0 0)
        [svmWrmsr 0x832#64 0x40020#64, armDeadline, svmWrmsr 0x838#64 7#64]).2 := by
  refine ⟨?_, by decide +kernel, ?_, ?_⟩
  · intro h
    have hmode := (h.states _ (List.prefix_refl _)).period (by decide +kernel)
    exact absurd hmode (by decide +kernel)
  · intro h
    have hmode := (h.states _ (List.prefix_refl _)).deadline (by decide +kernel) (by decide +kernel)
    exact absurd hmode (by decide +kernel)
  · intro h
    have hwrite := (h.writes [.entered 0#64 0#64 0#64, .wrote 0#64 ia32X2apicLvtTimer 0x40020#64,
      .entered 0#64 0#64 0#64, .wrote 1#64 ia32TscDeadline 5#64, .entered 0#64 0#64 0#64]
      (.wrote 0#64 ia32X2apicInitCount 7#64) [] (by decide +kernel)).2 (.inr (by decide))
    exact absurd hwrite (by decide)

end Rhyve.Backend
