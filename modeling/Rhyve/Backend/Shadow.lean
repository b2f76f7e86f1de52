import Rhyve.Backend.TimerMode

/-! # The interrupt shadow of an emulated instruction

The shadow of STI or MOV SS lasts for one instruction. If that instruction exits and is emulated, the processor
saves the shadow at the exit, and both backends look at the saved field before they inject.

* `Advances`: the exits after which RIP is moved past the instruction.
* `handle_vmcs`: the handlers leave the interruptibility state alone.
* `injected_after_skip_iff`: at the next entry a pending vector is injected exactly if no shadow was saved.
* `halted_guest_starves`: a guest that idles in a loop of STI and HLT does not get its timer interrupt.
-/

namespace Rhyve.Backend
open Apic Errors Machine Vmx Svm
set_option autoImplicit false

/-- The exits of VT-x that emulate an instruction. -/
def VmxAdvances : VmxBasicExitReason → Prop
  | .cpuid | .rdmsr | .wrmsr | .xsetbv | .ioInstruction => True
  | _ => False

/-- The exit codes of AMD-V that do. -/
def SvmAdvances (code : BitVec 64) : Prop :=
  code = ExitCode.cpuid ∨ code = ExitCode.msr ∨ code = ExitCode.xsetbv ∨ code = ExitCode.ioio ∨
    code = ExitCode.hlt ∨ code = ExitCode.pause

/-- The entry carries the vector as an event. -/
def Injects : TimerEvent → BitVec 8 → Prop
  | .entered _ _ info, vector => isValid info = true ∧ vectorOf info = vector
  | _, _ => False

theorem flag_and_ne_zero {rflags : BitVec 64} (h : rflags.getLsbD 9 = true) :
    rflags &&& (1#64 <<< 9) ≠ 0#64 := by
  intro hzero
  have hbit : (rflags &&& (1#64 <<< 9)).getLsbD 9 = false := by
    rw [hzero]
    rfl
  rw [BitVec.getLsbD_and, h, Bool.true_and] at hbit
  exact absurd hbit (by decide)

/-! ## VT-x -/

section Vmx
variable {c : VmxCpu}

theorem writeMsr_vmcs {c' : VmxCpu} {tsc value : BitVec 64} {msr : BitVec 32} {f : FieldId}
    (h : c.writeMsr tsc msr value = .ok c') (hf : f ∉ msrFields) : c'.vmcs.value f = c.vmcs.value f := by
  rcases writeMsr_ok h with ⟨-, g, hg, rfl⟩ | rfl | ⟨-, rfl⟩
  · apply Vmcs.set_other
    rintro rfl
    exact hf hg
  · rfl
  · rfl

theorem handle_vmcs {env : HostEnv} {basic : VmxBasicExitReason} {r : Handled VmxCpu}
    (h : c.handle env basic = .ok r) {f : FieldId} (hf : f ∉ msrFields) :
    r.cpu.vmcs.value f = c.vmcs.value f := by
  cases Vmx.handle_handles h with
  | timer => rw [timerExpired_vmcs]
  | wrmsr hwrite len =>
    have hkept := writeMsr_vmcs hwrite hf
    exact hkept
  | externalInterrupt | interruptWindow | tripleFault | rdmsr | cpuid | xsetbv | ioInstruction => rfl

theorem run_dispatch {x : VmxCpu.VmxInput} {r : Handled VmxCpu} (h : c.run x = .ok r) :
    ∃ entered, c.enter x.entryTsc = .ok entered ∧ (entered.exited x.exit).dispatch x.env = .ok r := by
  unfold VmxCpu.run at h
  split at h
  · cases h
  · obtain ⟨entered, henter, h⟩ := bind_ok h
    split at h
    · cases hread : entered.vmcs.read Ro.vmInstructionError with
      | error e =>
        rw [hread] at h
        cases h
      | ok error =>
        rw [hread] at h
        cases h
    · exact ⟨entered, henter, h⟩

/-- After a call the interruptibility state is the one saved at its exit, and no event is left. -/
theorem run_interruptibility {x : VmxCpu.VmxInput} {r : Handled VmxCpu} (h : c.run x = .ok r) :
    r.cpu.vmcs.value Guest.interruptibilityState = x.exit.fields Guest.interruptibilityState ∧ Idle r.cpu := by
  obtain ⟨entered, -, hdispatch⟩ := run_dispatch h
  obtain ⟨rip, rsp, rflags, basic, -, hhandle⟩ := dispatch_handle hdispatch
  refine ⟨?_, ?_⟩
  · rw [handle_vmcs hhandle (by decide)]
    exact afterExit_value (by decide) (by decide)
  · unfold Idle
    rw [handle_vmcs hhandle (by decide)]
    exact exited_idle entered x.exit

theorem injects_of_info {entered : VmxCpu} {vector : BitVec 8}
    (h : entered.vmcs.value Control.vmentryInterruptionInfoField = VmxCpu.eventInfo vector) :
    Injects (Vmx.entryEvent entered) vector := by
  obtain ⟨-, hvalid, hvec, -⟩ := Vmx.eventInfo_fields vector
  unfold Vmx.entryEvent
  rw [h]
  exact ⟨hvalid, hvec⟩

/-- With interrupts enabled, a pending vector is injected exactly if nothing blocks it. -/
theorem enter_injects_iff {entered : VmxCpu} {tsc : BitVec 64} {vector : BitVec 8}
    (henter : c.enter tsc = .ok entered) (hidle : Idle c) (hvector : c.pendingVector = some vector)
    (hif : c.regs.rflags.getLsbD 9 = true) :
    Injects (Vmx.entryEvent entered) vector ↔
      c.vmcs.value Guest.interruptibilityState &&& 0b11#64 = 0#64 := by
  have hint : entered.vmcs.value Guest.interruptibilityState = c.vmcs.value Guest.interruptibilityState :=
    Vmx.enter_other henter (by decide)
  cases enter_injection henter with
  | nothing hnone _ _ _ =>
    rw [hnone] at hvector
    cases hvector
  | injected vector' hvector' hcan _ _ hinfo =>
    obtain rfl : vector' = vector := Option.some.inj (hvector'.symm.trans hvector)
    refine iff_of_true (injects_of_info hinfo) ?_
    rw [← hint]
    exact hcan.2
  | waiting hcannot _ _ hinfo =>
    refine iff_of_false ?_ ?_
    · -- The field still holds what the last exit left there.
      intro hinj
      have hvalid := hinj.1
      rw [hinfo, show isValid (c.vmcs.value Control.vmentryInterruptionInfoField) = false from hidle] at hvalid
      cases hvalid
    · intro hclear
      refine hcannot ⟨?_, ?_⟩
      · rw [enter_rflags henter]
        exact flag_and_ne_zero hif
      · rw [hint]
        exact hclear

end Vmx

/-! ## AMD-V -/

section Svm
variable {c : SvmCpu}

/-- The interrupt shadow is not among the bytes that the backend writes before an entry or in a handler. -/
theorem writeMsr_shadow (c : SvmCpu) (tsc : BitVec 64) (index : BitVec 32) (value : BitVec 64) :
    (c.writeMsr tsc index value).vmcb.readU64 intState = c.vmcb.readU64 intState := by
  unfold SvmCpu.writeMsr
  split
  · exact Vmcb.readU64_writeU64_other _ (by decide)
  split
  · exact Vmcb.readU64_writeU64_other _ (by decide)
  split
  · exact Vmcb.readU64_writeU64_other _ (by decide)
  split <;> rfl

theorem run_shadow {x : SvmCpu.SvmInput} {r : Handled SvmCpu} (h : c.run x = .ok r) :
    r.cpu.vmcb.readU64 intState = x.exit.vmcb.readU64 intState := by
  have hsaved : (((c.enter x.entryTsc).exited x.exit).saveGuestRegisters).vmcb.readU64 intState =
      x.exit.vmcb.readU64 intState :=
    Vmcb.readU64_saved (c.enter x.entryTsc).vmcb x.exit.vmcb intState (by decide)
  rw [← hsaved]
  unfold SvmCpu.run SvmCpu.dispatch at h
  rcases SvmCpu.handle_ok h with ⟨-, -, hr⟩ | ⟨-, regs, hr⟩
  · rw [hr]
    exact writeMsr_shadow _ _ _ _
  · rw [hr]

theorem injectPending_injects_iff {vector : BitVec 8} (hvector : c.pendingVector = some vector)
    (hif : c.regs.rflags.getLsbD 9 = true) :
    Injects (Svm.entryEvent c.injectPending) vector ↔ c.vmcb.readU64 intState &&& 1#64 = 0#64 := by
  unfold SvmCpu.injectPending
  rw [hvector]
  dsimp only
  by_cases hclear : c.vmcb.readU64 intState &&& 1#64 = 0#64
  · obtain ⟨hvalid, hvec, -⟩ := Svm.eventInfo_fields vector
    rw [if_pos ⟨flag_and_ne_zero hif, hclear⟩]
    refine ⟨fun _ => hclear, fun _ => ?_⟩
    simp only [Injects, Svm.entryEvent, SvmCpu.write]
    rw [Vmcb.readU64_writeU64]
    exact ⟨hvalid, hvec⟩
  · rw [if_neg fun hcan => hclear hcan.2]
    refine ⟨fun hinj => ?_, fun h => absurd h hclear⟩
    have hvalid := hinj.1
    simp only [SvmCpu.write] at hvalid
    rw [Vmcb.readU64_writeU64] at hvalid
    exact absurd hvalid (by decide)

theorem enter_injects_iff_svm {tsc : BitVec 64} {vector : BitVec 8}
    (hvector : (c.loadGuestRegisters.serviceTimer tsc).pendingVector = some vector)
    (hif : c.regs.rflags.getLsbD 9 = true) :
    Injects (Svm.entryEvent (c.enter tsc)) vector ↔ c.vmcb.readU64 intState &&& 1#64 = 0#64 := by
  obtain ⟨-, hvmcb, hregs⟩ := serviceTimer_unit c.loadGuestRegisters tsc
  have hshadow : (c.loadGuestRegisters.serviceTimer tsc).vmcb.readU64 intState =
      c.vmcb.readU64 intState := by
    rw [hvmcb]
    exact loadGuestRegisters_other c (by decide)
  have hrflags : (c.loadGuestRegisters.serviceTimer tsc).regs.rflags = c.regs.rflags :=
    congrArg GuestRegisters.rflags hregs
  have h := injectPending_injects_iff hvector (by rw [hrflags]; exact hif)
  rw [hshadow] at h
  exact h

end Svm

/-! ## Both backends -/

/-- After an exit that moved RIP past the instruction, with interrupts enabled at the next entry: the pending
vector is injected there if and only if the exit saved no shadow. -/
theorem injected_after_skip_iff (regs : GuestRegisters) (hif : regs.rflags.getLsbD 9 = true) (tsc : BitVec 64)
    (vector : BitVec 8) :
    (∀ (c : VmxCpu) (x : VmxCpu.VmxInput) (r : Handled VmxCpu) (basic : VmxBasicExitReason) (entered : VmxCpu),
      c.run x = .ok r → x.exit.basic = some basic → VmxAdvances basic →
      VmxCpu.enter { r.cpu with regs := regs } tsc = .ok entered → r.cpu.pendingVector = some vector →
      (Injects (Vmx.entryEvent entered) vector ↔
        x.exit.fields Guest.interruptibilityState &&& 0b11#64 = 0#64)) ∧
    ∀ (c : SvmCpu) (x : SvmCpu.SvmInput) (r : Handled SvmCpu),
      c.run x = .ok r → SvmAdvances (x.exit.vmcb.readU64 exitcodeField) →
      (SvmCpu.serviceTimer (SvmCpu.loadGuestRegisters { r.cpu with regs := regs }) tsc).pendingVector =
        some vector →
      (Injects (Svm.entryEvent (SvmCpu.enter { r.cpu with regs := regs } tsc)) vector ↔
        x.exit.vmcb.readU64 intState &&& 1#64 = 0#64) := by
  refine ⟨?_, ?_⟩
  · intro c x r basic entered hrun _ _ henter hvector
    obtain ⟨hint, hidle⟩ := run_interruptibility hrun
    rw [← hint]
    exact enter_injects_iff (c := { r.cpu with regs := regs }) henter hidle hvector hif
  · intro c x r hrun _ hvector
    rw [← run_shadow hrun]
    exact enter_injects_iff_svm (c := { r.cpu with regs := regs }) hvector hif

/-- A call that ends in an exit with these registers and these fields of the VMCB. -/
def svmCall (entryTsc : BitVec 64) (regs : GuestRegisters) (fields : List (ℕ × BitVec 64)) :
    SvmCpu.SvmInput where
  entryTsc := entryTsc
  exit := ⟨regs, ByteMem.ofWords fun i => ((fields.find? fun f => f.1 / 8 == i).map Prod.snd).getD 0#64⟩
  env := ⟨0#64, fun _ _ => ⟨0, 0, 0, 0⟩⟩

/-- The guest writes 5 to IA32_TSC_DEADLINE with interrupts disabled. -/
def armCall : SvmCpu.SvmInput :=
  svmCall 0#64 { GuestRegisters.zero with rcx := 0x6e0#64 }
    [(exitcodeField, ExitCode.msr), (exitinfo1, 1#64), (saveRax, 5#64), (saveRflags, 0x2#64)]

/-- HLT with interrupts enabled, after STI or not. -/
def haltCall (entryTsc shadow : BitVec 64) : SvmCpu.SvmInput :=
  svmCall entryTsc GuestRegisters.zero
    [(exitcodeField, ExitCode.hlt), (intState, shadow), (saveRflags, 0x202#64)]

/-- The vector pending at the entry at TSC 10, the interrupt flag, and whether an event is injected. -/
def atEntry (c : SvmCpu) : Option (BitVec 8) × Bool × Bool :=
  ((c.loadGuestRegisters.serviceTimer 10#64).pendingVector, c.regs.rflags.getLsbD 9,
    isValid ((c.enter 10#64).vmcb.readU64 eventinj))

/-- Without STI before it, the HLT is followed by the interrupt. -/
theorem injected_after_skip_halt :
    ∃ r : Handled SvmCpu, (do
        let a ← (SvmCpu.new 0 0 0 0 0 0).run armCall
        a.cpu.run (haltCall 1#64 0#64)) = .ok r ∧
      Injects (Svm.entryEvent (r.cpu.enter 10#64)) 0#8 := by
  obtain ⟨r, hr, hpending, hflag⟩ : ∃ r : Handled SvmCpu, (do
        let a ← (SvmCpu.new 0 0 0 0 0 0).run armCall
        a.cpu.run (haltCall 1#64 0#64)) = .ok r ∧
      (r.cpu.loadGuestRegisters.serviceTimer 10#64).pendingVector = some 0#8 ∧
      r.cpu.regs.rflags.getLsbD 9 = true := by
    obtain ⟨r, hr, hentry⟩ := ok_of_map (x := do
        let a ← (SvmCpu.new 0 0 0 0 0 0).run armCall
        a.cpu.run (haltCall 1#64 0#64)) (f := fun r => atEntry r.cpu) (b := (some 0#8, true, true))
      (by decide +kernel)
    obtain ⟨hpending, hrest⟩ := Prod.mk.inj hentry
    exact ⟨r, hr, hpending, (Prod.mk.inj hrest).1⟩
  obtain ⟨a, -, hrun⟩ := bind_ok hr
  refine ⟨r, hr, ?_⟩
  have hhlt : SvmAdvances ((haltCall 1#64 0#64).exit.vmcb.readU64 exitcodeField) :=
    .inr (.inr (.inr (.inr (.inl (by decide +kernel)))))
  exact ((injected_after_skip_iff r.cpu.regs hflag 10#64 0#8).2 a.cpu (haltCall 1#64 0#64) r hrun hhlt
    hpending).mpr (by decide +kernel)

/-- The loop of STI and HLT: the deadline has passed, interrupts are enabled and the vector is pending, but
after the first HLT and after the second it is not injected. -/
theorem halted_guest_starves :
    (do
      let a ← (SvmCpu.new 0 0 0 0 0 0).run armCall
      let b ← a.cpu.run (haltCall 1#64 1#64)
      let c ← b.cpu.run (haltCall 10#64 1#64)
      return (atEntry b.cpu, atEntry c.cpu) : Except HypervisorError _).toOption =
    some ((some 0#8, true, false), (some 0#8, true, false)) := by
  decide +kernel

end Rhyve.Backend
