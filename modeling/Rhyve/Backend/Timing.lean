import Rhyve.Backend.Equivalence
import Rhyve.Backend.Injection

/-! # When the timer expires

On AMD-V an expiry is found by comparing the TSC with the deadline. On VT-x the processor raises an exit when
the preemption timer has counted down, and the handler does not look at the TSC.

* `Honest`: the processor counts down all the ticks that were loaded.
* `VmxFits`, `SvmFits`: the additions do not overflow, and the remaining time fits into the preemption
  timer.
* `timer_never_early`: in runs that meet these conditions no expiry comes early.
* `timer_early_on_far_deadline`: a deadline too far away for the preemption timer.
-/

namespace Rhyve.Backend
open Apic Machine Vmx Svm
set_option autoImplicit false

/-! ## Conditions -/

/-- The preemption-timer exit comes no earlier than the ticks loaded before the entry. -/
def Honest (c : VmxCpu) (i : VmxTurn) : Prop :=
  ∀ entered, VmxCpu.enter { c with regs := i.regs } i.input.entryTsc = .ok entered →
    i.input.exit.basic = some .vmxPreemptionTimerExpired →
    i.input.entryTsc.toNat +
        (entered.vmcs.value Guest.vmxPreemptionTimerValue).toNat * 2 ^ c.preemptScale.toNat ≤
      i.exitTsc.toNat

/-- The numbers of a call fit their types. -/
structure VmxFits (c : VmxCpu) (i : VmxTurn) : Prop where
  /-- A count that arms the timer does not overflow. -/
  count : i.input.exit.basic = some .wrmsr →
    TimerUnit.Arms c.apicTimer i.input.exit.regs.msrIndex i.input.exit.regs.edxEax →
    i.input.env.tsc.toNat + i.input.exit.regs.edxEax.toNat < 2 ^ 64
  /-- The next period does not overflow. -/
  period : i.input.exit.basic = some .vmxPreemptionTimerExpired →
    ∀ deadline period, c.apicTimer.deadline = some deadline → c.apicTimer.period = some period →
      deadline.toNat + period.toNat < 2 ^ 64
  /-- The remaining time fits into the preemption timer. -/
  ticks : i.input.exit.basic = some .vmxPreemptionTimerExpired →
    ∀ deadline, c.apicTimer.deadline = some deadline →
      (deadline.toNat - i.input.entryTsc.toNat) / 2 ^ c.preemptScale.toNat ≤ 2 ^ 32 - 1

/-- The same on AMD-V, which has no preemption timer. -/
structure SvmFits (c : SvmCpu) (i : SvmTurn) : Prop where
  count : isWrmsr (exitState c i) →
    TimerUnit.Arms (exitState c i).apicTimer (exitState c i).regs.msrIndex (exitState c i).regs.edxEax →
    i.input.env.tsc.toNat + (exitState c i).regs.edxEax.toNat < 2 ^ 64
  period : ∀ deadline period, c.apicTimer.deadline = some deadline → c.apicTimer.period = some period →
    deadline ≤ i.input.entryTsc → deadline.toNat + period.toNat < 2 ^ 64

/-! ## The preemption timer -/

theorem saturatingSub_toNat (a b : BitVec 64) :
    (VmxCpu.saturatingSub a b).toNat = a.toNat - b.toNat := by
  unfold VmxCpu.saturatingSub
  have ha := a.isLt
  have hb := b.isLt
  split
  · rename_i hle
    exact BitVec.toNat_sub_of_le hle
  · rename_i hle
    rw [BitVec.le_def] at hle
    rw [BitVec.toNat_zero]
    omega

/-- The ticks that are loaded when the remaining time fits. -/
theorem preemptionValue_toNat {deadline tsc : BitVec 64} {scale : BitVec 8}
    (hfit : (deadline.toNat - tsc.toNat) / 2 ^ scale.toNat ≤ 2 ^ 32 - 1) :
    (truncate Guest.vmxPreemptionTimerValue
      (VmxCpu.preemptionValue (some deadline) tsc scale)).toNat =
        (deadline.toNat - tsc.toNat) / 2 ^ scale.toNat := by
  have hticks : (VmxCpu.saturatingSub deadline tsc >>> scale.toNat).toNat =
      (deadline.toNat - tsc.toNat) / 2 ^ scale.toNat := by
    rw [BitVec.toNat_ushiftRight, Nat.shiftRight_eq_div_pow, saturatingSub_toNat]
  have hle : VmxCpu.saturatingSub deadline tsc >>> scale.toNat ≤ VmxCpu.u32Max := by
    rw [BitVec.le_def, hticks]
    exact hfit
  have hmask : (0xffffffff#64).toNat = 2 ^ 32 - 1 := by decide
  show (VmxCpu.preemptionValue (some deadline) tsc scale &&& 0xffffffff#64).toNat = _
  rw [VmxCpu.preemptionValue, if_pos hle, BitVec.toNat_and, hmask, Nat.and_two_pow_sub_one_eq_mod, hticks]
  exact Nat.mod_eq_of_lt (by omega)

theorem expiry_after_ticks {deadline tsc exitTsc unit : ℕ} (hunit : 0 < unit)
    (h : tsc + (deadline - tsc) / unit * unit ≤ exitTsc) : deadline < exitTsc + unit := by
  have hmod := Nat.div_add_mod (deadline - tsc) unit
  have hlt := Nat.mod_lt (deadline - tsc) hunit
  rw [Nat.mul_comm] at hmod
  omega

/-! ## One call -/

theorem vmx_exit_timely {c entered : VmxCpu} {i : VmxTurn}
    (henter : VmxCpu.enter { c with regs := i.regs } i.input.entryTsc = .ok entered) (hidle : Idle c)
    (hh : Honest c i) (hf : VmxFits c i) {u : TimerUnit} (hu : u.timer = c.apicTimer) :
    Legal TimerUnit.after (TimerUnit.timely (2 ^ c.preemptScale.toNat)) u (eventsAfter c i) := by
  have hticks := (enter_unit henter hidle).ticks
  unfold eventsAfter
  cases hbasic : i.input.exit.basic with
  | none => exact .nil
  | some basic =>
    show Legal _ _ u (Vmx.exitEvents _ _ _ _ basic)
    unfold Vmx.exitEvents
    split
    · apply legal_singleton
      intro harms
      rw [hu] at harms
      exact hf.count hbasic harms
    · split
      · apply legal_singleton
        intro deadline hd
        rw [hu] at hd
        have hexit := hh entered henter hbasic
        have hfit := hf.ticks hbasic deadline hd
        change _ = truncate Guest.vmxPreemptionTimerValue
          (VmxCpu.preemptionValue c.apicTimer.deadline i.input.entryTsc c.preemptScale) at hticks
        rw [hticks, hd, preemptionValue_toNat hfit] at hexit
        refine ⟨expiry_after_ticks (Nat.two_pow_pos _) hexit, ?_⟩
        intro period hp
        rw [hu] at hp
        exact hf.period hbasic deadline period hd hp
      · exact .nil
    · exact .nil

theorem vmx_turn_timely {c : VmxCpu} {i : VmxTurn} (hidle : Idle c) (hh : Honest c i) (hf : VmxFits c i) :
    Legal TimerUnit.after (TimerUnit.timely (2 ^ c.preemptScale.toNat)) c.timerUnit (Vmx.turn c i).2 := by
  rcases turn_cases c i with h | ⟨entered, henter, h | ⟨r, -, h⟩⟩
  · rw [h]
    exact .nil
  · rw [h]
    exact legal_singleton trivial
  · rw [h]
    exact .cons trivial (vmx_exit_timely henter hidle hh hf (TimerUnit.entered_timer _ _ _ _))

theorem svm_before_timely {c : SvmCpu} {i : SvmTurn} (hf : SvmFits c i) :
    Legal TimerUnit.after (TimerUnit.timely 1) c.timerUnit (eventsBefore c i) := by
  unfold eventsBefore
  refine Legal.append ?_ (legal_singleton trivial)
  unfold pollEvents
  split
  · exact .nil
  · rename_i deadline hd
    split
    · exact .nil
    · rename_i hlt
      have hle : deadline ≤ i.input.entryTsc := BitVec.not_lt.mp hlt
      apply legal_singleton
      intro deadline' hd'
      have hsame : deadline' = deadline := Option.some.inj (hd'.symm.trans hd)
      rw [hsame]
      refine ⟨?_, ?_⟩
      · rw [BitVec.le_def] at hle
        omega
      · intro period hp
        exact hf.period deadline period hd hp hle

theorem svm_turn_timely {c : SvmCpu} {i : SvmTurn} (hf : SvmFits c i) :
    Legal TimerUnit.after (TimerUnit.timely 1) c.timerUnit (Svm.turn c i).2 := by
  have hbefore := svm_before_timely hf
  cases hrun : SvmCpu.run { c with regs := i.regs } i.input with
  | error e =>
    rw [turn_error hrun]
    exact hbefore
  | ok r =>
    rw [turn_ok hrun]
    refine hbefore.append ?_
    rw [← eventsBefore_unit c i]
    unfold Svm.exitEvents
    split
    · rename_i hwrite
      exact legal_singleton (fun harms => hf.count hwrite harms)
    · exact .nil

/-! ## Whole runs -/

/-- No expiry that makes the vector pending is early, and the timer unit at the end of the run is the
outcome of the logged events: nothing else changed the pending vector. -/
structure NeverEarly (slack : ℕ) (log : List TimerEvent) (final : Option TimerUnit) : Prop where
  notEarly : AtEach (NotEarly slack) log
  logged : ∀ u, final = some u → u = log.foldl TimerUnit.after TimerUnit.new

theorem vmx_run_timely {c : VmxCpu} (hidle : Idle c) (hunit : c.timerUnit = TimerUnit.new)
    {is : List VmxTurn} (hC : Along Vmx.turn (fun c i => Honest c i ∧ VmxFits c i) c is) :
    NeverEarly (2 ^ c.preemptScale.toNat) (Machine.run Vmx.turn c is).2
      ((Machine.run Vmx.turn c is).1.map VmxCpu.timerUnit) := by
  have hturn : ∀ (c' : VmxCpu) (i : VmxTurn), Idle c' → c'.preemptScale = c.preemptScale →
      Honest c' i ∧ VmxFits c' i →
      Legal TimerUnit.after (fun u e => u.allows e ∧ u.timely (2 ^ c.preemptScale.toNat) e) c'.timerUnit
        (Vmx.turn c' i).2 := by
    intro c' i hidle hscale hcond
    have htimely := vmx_turn_timely hidle hcond.1 hcond.2
    rw [hscale] at htimely
    exact (Vmx.turn_unit hidle i).1.and htimely
  obtain ⟨hlegal, hfinal⟩ := vmx_run_legal hturn hidle hC
  rw [hunit] at hlegal hfinal
  exact ⟨legal_not_early hlegal, leads_map VmxCpu.timerUnit hfinal⟩

theorem svm_run_timely {c : SvmCpu} (hunit : c.timerUnit = TimerUnit.new) {is : List SvmTurn}
    (hC : Along Svm.turn SvmFits c is) :
    NeverEarly 1 (Machine.run Svm.turn c is).2 ((Machine.run Svm.turn c is).1.map SvmCpu.timerUnit) := by
  obtain ⟨hlegal, hfinal⟩ :=
    svm_run_legal (fun c' i hcond => (Svm.turn_unit c' i).1.and (svm_turn_timely hcond)) hC
  rw [hunit] at hlegal hfinal
  exact ⟨legal_not_early hlegal, leads_map SvmCpu.timerUnit hfinal⟩

/-- VT-x may be up to one tick of the preemption timer early, AMD-V not at all. -/
theorem timer_never_early (h : VmxCpu.HostCpu)
    (pointer apicAccessHpa iopmPa msrpmPa cpuId entryPoint guestRsp : BitVec 64) :
    (∀ c, VmxCpu.new h pointer apicAccessHpa cpuId entryPoint guestRsp = .ok c →
      ∀ is, Along Vmx.turn (fun c i => Honest c i ∧ VmxFits c i) c is →
        NeverEarly (2 ^ c.preemptScale.toNat) (Machine.run Vmx.turn c is).2
          ((Machine.run Vmx.turn c is).1.map VmxCpu.timerUnit)) ∧
    ∀ is, Along Svm.turn SvmFits (SvmCpu.new pointer iopmPa msrpmPa cpuId entryPoint guestRsp) is →
      NeverEarly 1
        (Machine.run Svm.turn (SvmCpu.new pointer iopmPa msrpmPa cpuId entryPoint guestRsp) is).2
        ((Machine.run Svm.turn (SvmCpu.new pointer iopmPa msrpmPa cpuId entryPoint guestRsp) is).1.map
          SvmCpu.timerUnit) := by
  refine ⟨?_, ?_⟩
  · intro c hc is hC
    obtain ⟨hidle, hunit⟩ := Vmx.new_unit hc
    exact vmx_run_timely hidle hunit hC
  · intro is hC
    exact svm_run_timely rfl hC

/-! ## A near and a far deadline -/

/-- A vCPU on a processor whose preemption timer counts at the rate of the TSC. -/
def blankCpu : VmxCpu :=
  match VmxCpu.new blankHost 0 0 0 0 0 with
  | .ok c => c
  | .error _ => svmeVmx

theorem blankCpu_new : VmxCpu.new blankHost 0 0 0 0 0 = .ok blankCpu := by
  obtain ⟨c, hc⟩ := blankHost_creates 0 0 0 0 0
  rw [blankCpu, hc]

/-- A call with this exit reason and these registers. -/
def vmxTurnWith (reason : BitVec 64) (regs : GuestRegisters) (exitTsc : BitVec 64) : VmxTurn where
  regs := GuestRegisters.zero
  input :=
    { activated := true
      entryTsc := 0#64
      entryFailed := false
      exit := ⟨regs, fun f => if f = Ro.exitReason then reason else 0#64⟩
      env := blankEnv }
  exitTsc := exitTsc

theorem vmxTurnWith_basic (reason : BitVec 64) (regs : GuestRegisters) (exitTsc : BitVec 64) :
    (vmxTurnWith reason regs exitTsc).input.exit.basic =
      VmxBasicExitReason.fromU32 (reason.setWidth 32) := by
  show VmxBasicExitReason.fromU32
    ((if Ro.exitReason = Ro.exitReason then reason else 0#64).setWidth 32) = _
  rw [if_pos rfl]

def writeDeadline (rdx rax : BitVec 64) : VmxTurn :=
  vmxTurnWith 32#64 { GuestRegisters.zero with rcx := 0x6e0#64, rdx := rdx, rax := rax } 0#64

def preemptionExit (exitTsc : BitVec 64) : VmxTurn :=
  vmxTurnWith 52#64 GuestRegisters.zero exitTsc

theorem writeDeadline_basic (rdx rax : BitVec 64) :
    (writeDeadline rdx rax).input.exit.basic ≠ some .vmxPreemptionTimerExpired := by
  rw [writeDeadline, vmxTurnWith_basic]
  decide

theorem preemptionExit_basic (exitTsc : BitVec 64) :
    (preemptionExit exitTsc).input.exit.basic ≠ some .wrmsr := by
  rw [preemptionExit, vmxTurnWith_basic]
  decide

theorem writeDeadline_honest (c : VmxCpu) (rdx rax : BitVec 64) : Honest c (writeDeadline rdx rax) := by
  intro entered _ hexit
  exact absurd hexit (writeDeadline_basic rdx rax)

theorem next_eq {c c' : VmxCpu} {i : VmxTurn} (h : (Vmx.turn c i).1 = some c') :
    c' = (Vmx.turn c i).1.getD c := by
  rw [h, Option.getD_some]

theorem honest_of_ticks {c : VmxCpu} {exitTsc : BitVec 64} (ticks : BitVec 64)
    (hticks : (VmxCpu.enter { c with regs := GuestRegisters.zero } 0#64).toOption.map
      (fun entered => entered.vmcs.value Guest.vmxPreemptionTimerValue) = some ticks)
    (hle : ticks.toNat * 2 ^ c.preemptScale.toNat ≤ exitTsc.toNat) : Honest c (preemptionExit exitTsc) := by
  intro entered henter _
  have henter' : VmxCpu.enter { c with regs := GuestRegisters.zero } 0#64 = .ok entered := henter
  rw [henter'] at hticks
  have hvalue : entered.vmcs.value Guest.vmxPreemptionTimerValue = ticks := Option.some.inj hticks
  rw [hvalue]
  show 0 + _ ≤ exitTsc.toNat
  rw [Nat.zero_add]
  exact hle

/-- Deadlines that are met: in both runs the vector becomes pending once. -/
theorem timer_never_early_deadlines :
    (NeverEarly (2 ^ blankCpu.preemptScale.toNat)
        (Machine.run Vmx.turn blankCpu [writeDeadline 0#64 5#64, preemptionExit 5#64]).2
        ((Machine.run Vmx.turn blankCpu [writeDeadline 0#64 5#64, preemptionExit 5#64]).1.map
          VmxCpu.timerUnit) ∧
      (Machine.run Vmx.turn blankCpu [writeDeadline 0#64 5#64, preemptionExit 5#64]).2.countP
        isExpiry = 1) ∧
    NeverEarly 1
        (Machine.run Svm.turn (SvmCpu.new 0 0 0 0 0 0) [armDeadline, afterDeadline]).2
        ((Machine.run Svm.turn (SvmCpu.new 0 0 0 0 0 0) [armDeadline, afterDeadline]).1.map
          SvmCpu.timerUnit) ∧
      (Machine.run Svm.turn (SvmCpu.new 0 0 0 0 0 0) [armDeadline, afterDeadline]).2.countP
        isExpiry = 1 := by
  obtain ⟨hvmx, hsvm⟩ := timer_never_early blankHost 0 0 0 0 0 0 0
  refine ⟨⟨hvmx blankCpu blankCpu_new _ ⟨⟨writeDeadline_honest _ _ _, ?_⟩, ?_⟩, by decide +kernel⟩,
    hsvm _ ⟨?_, ?_⟩, by decide +kernel⟩
  · exact ⟨fun _ _ => by decide, fun hexit => absurd hexit (writeDeadline_basic _ _),
      fun hexit => absurd hexit (writeDeadline_basic _ _)⟩
  · intro c hc
    have hdeadline : c.apicTimer.deadline = some 5#64 := by
      rw [next_eq hc]
      decide +kernel
    have hperiod : c.apicTimer.period = none := by
      rw [next_eq hc]
      decide +kernel
    have hhonest : Honest c (preemptionExit 5#64) := by
      rw [next_eq hc]
      exact honest_of_ticks 5#64 (by decide +kernel) (by decide +kernel)
    refine ⟨⟨hhonest, fun hexit => absurd hexit (preemptionExit_basic _), ?_, ?_⟩, fun _ _ => trivial⟩
    · intro _ deadline period _ hp
      rw [hperiod] at hp
      cases hp
    · intro _ deadline hd
      rw [hdeadline] at hd
      rw [← Option.some.inj hd]
      exact (Nat.div_le_self _ _).trans (by decide)
  · refine ⟨fun _ _ => by decide +kernel, ?_⟩
    intro deadline period _ hp
    cases hp
  · intro c hc
    have hedx : (exitState c afterDeadline).regs.edxEax = 0#64 := by
      have h : ((Svm.turn (SvmCpu.new 0 0 0 0 0 0) armDeadline).1.map fun c =>
          (exitState c afterDeadline).regs.edxEax) = some 0#64 := by decide +kernel
      rw [hc] at h
      exact Option.some.inj h
    have hperiod : c.apicTimer.period = none := by
      have h : ((Svm.turn (SvmCpu.new 0 0 0 0 0 0) armDeadline).1.map fun c =>
          c.apicTimer.period) = some none := by decide +kernel
      rw [hc] at h
      exact Option.some.inj h
    refine ⟨⟨fun _ _ => ?_, ?_⟩, fun _ _ => trivial⟩
    · rw [hedx]
      decide
    · intro deadline period _ hp
      rw [hperiod] at hp
      cases hp

/-- The guest asks for the deadline `2 ^ 40`. The preemption timer cannot count that far: it is loaded with
`2 ^ 32 - 1`, and the exit after that many ticks makes the vector pending. -/
theorem timer_early_on_far_deadline :
    VmxCpu.new blankHost 0 0 0 0 0 = .ok blankCpu ∧
    Along Vmx.turn Honest blankCpu [writeDeadline 0x100#64 0#64, preemptionExit 0xffffffff#64] ∧
    ¬ AtEach (NotEarly (2 ^ blankCpu.preemptScale.toNat))
      (Machine.run Vmx.turn blankCpu [writeDeadline 0x100#64 0#64, preemptionExit 0xffffffff#64]).2 := by
  refine ⟨blankCpu_new, ⟨writeDeadline_honest _ _ _, ?_⟩, ?_⟩
  · intro c hc
    rw [next_eq hc]
    exact ⟨honest_of_ticks 0xffffffff#64 (by decide +kernel) (by decide +kernel),
      fun _ _ => trivial⟩
  · intro h
    have hearly := h [.entered 0#64 0#64 0#64, .wrote 0#64 0x6e0#32 0x10000000000#64, .entered 0#64 0#64 0#64]
      (.expired 0xffffffff#64 0#8 false) [] (by decide +kernel)
    obtain ⟨r, hr, hdue⟩ := hearly rfl
    have hrequest : r = .deadline (2 ^ 40) := Option.some.inj (hr.symm.trans (by decide))
    have hscale : blankCpu.preemptScale = 0#8 := by decide +kernel
    rw [hrequest, hscale] at hdue
    exact absurd hdue (by decide)

end Rhyve.Backend
