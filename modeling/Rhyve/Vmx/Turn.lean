import Rhyve.Vmx.Entry

/-! # The VT-x backend implements the timer unit

`turn` is one call of `run`, with the events it produces. A call that fails ends the run, because
`Cpu::run` returns then; its events up to the failure count.

* `dispatch_unit`: what happens after the VM-exit; up to the entry it is `enter_unit`.
* `turn_unit`: the events of a call are ones that the timer unit allows, and lead to its new state.
-/

namespace Rhyve.Vmx
open Apic Backend Errors Machine VmxCpu
set_option autoImplicit false

/-- One call of `run`: the registers as `Cpu::run` left them, what the processor and the host do, and the
TSC at the VM-exit. -/
structure VmxTurn where
  regs : GuestRegisters
  input : VmxInput
  exitTsc : BitVec 64

/-- What happens to the timer after a VM-exit. An expiry counts only if a deadline is armed. -/
def exitEvents (timer : ApicTimer) (regs : GuestRegisters) (tsc exitTsc : BitVec 64) :
    VmxBasicExitReason → List TimerEvent
  | .wrmsr => [.wrote tsc regs.msrIndex regs.edxEax]
  | .vmxPreemptionTimerExpired =>
    if timer.deadline.isSome then [.expired exitTsc timer.vector timer.masked] else []
  | _ => []

/-- The reason that the processor reports. -/
def VmxCpu.VmxExit.basic (x : VmxExit) : Option VmxBasicExitReason :=
  VmxBasicExitReason.fromU32 ((x.fields Ro.exitReason).setWidth 32)

def eventsAfter (c : VmxCpu) (i : VmxTurn) : List TimerEvent :=
  i.input.exit.basic.elim [] (exitEvents c.apicTimer i.input.exit.regs i.input.env.tsc i.exitTsc)

/-- A call of `run` with its events. -/
def turn (c : VmxCpu) (i : VmxTurn) : Option VmxCpu × List TimerEvent :=
  let c := { c with regs := i.regs }
  if i.input.activated = false then (none, [])
  else
    match c.enter i.input.entryTsc with
    | .error _ => (none, [])
    | .ok entered =>
      match c.run i.input with
      | .error _ => (none, [entryEvent entered])
      | .ok r => (some r.cpu, entryEvent entered :: eventsAfter c i)

/-! ## After the VM-exit -/

section Exit
variable {c c' : VmxCpu} {env : HostEnv}

/-- What the handlers leave alone. -/
structure Keeps (c c' : VmxCpu) : Prop where
  info : c'.vmcs.value Control.vmentryInterruptionInfoField =
    c.vmcs.value Control.vmentryInterruptionInfoField
  preemptScale : c'.preemptScale = c.preemptScale

def msrFields : List FieldId := [Guest.fsBase, Guest.gsBase, Guest.ia32EferFull]

theorem writeField_ok {f : FieldId} {value : BitVec 64} (h : c.writeField f value = .ok c') :
    c' = { c with vmcs := c.vmcs.set f value } := by
  obtain ⟨vmcs, hvmcs, hc⟩ := bind_ok h
  rw [← Except.ok.inj hc, (Vmcs.write_ok hvmcs).2]

/-- A WRMSR writes a field, or reaches the timer, or does nothing. -/
theorem writeMsr_ok {tsc value : BitVec 64} {msr : BitVec 32} (h : c.writeMsr tsc msr value = .ok c') :
    (ApicTimer.isTimerMsr msr = false ∧ ∃ f ∈ msrFields, c' = { c with vmcs := c.vmcs.set f value }) ∨
      c' = c.writeApicTimerMsr tsc msr value ∨ (ApicTimer.isTimerMsr msr = false ∧ c' = c) := by
  unfold VmxCpu.writeMsr at h
  split at h
  · rename_i hmsr
    exact .inl ⟨by rw [hmsr]; decide, _, by decide, writeField_ok h⟩
  split at h
  · rename_i hmsr
    exact .inl ⟨by rw [hmsr]; decide, _, by decide, writeField_ok h⟩
  split at h
  · rename_i hmsr
    exact .inl ⟨by rw [hmsr]; decide, _, by decide, writeField_ok h⟩
  split at h
  · exact .inr (.inl (Except.ok.inj h).symm)
  · rename_i hmsr
    exact .inr (.inr ⟨Bool.not_eq_true _ ▸ hmsr, (Except.ok.inj h).symm⟩)

theorem writeMsr_unit {tsc value : BitVec 64} {msr : BitVec 32} (h : c.writeMsr tsc msr value = .ok c') :
    Keeps c c' ∧ c'.timerUnit = c.timerUnit.after (.wrote tsc msr value) := by
  rcases writeMsr_ok h with ⟨hother, f, hf, rfl⟩ | rfl | ⟨hother, rfl⟩
  · have hinfo : Control.vmentryInterruptionInfoField ≠ f := by
      rintro rfl
      exact absurd hf (by decide)
    rw [TimerUnit.after_wrote_other hother]
    exact ⟨⟨Vmcs.set_other hinfo, rfl⟩, rfl⟩
  · exact ⟨⟨rfl, rfl⟩, rfl⟩
  · rw [TimerUnit.after_wrote_other hother]
    exact ⟨⟨rfl, rfl⟩, rfl⟩

theorem timerExpired_vmcs (c : VmxCpu) : c.timerExpired.vmcs = c.vmcs := by
  unfold VmxCpu.timerExpired
  split <;> rfl

theorem timerExpired_unit (c : VmxCpu) :
    Keeps c c.timerExpired ∧ c.timerExpired.timerUnit = c.timerUnit.expire := by
  unfold VmxCpu.timerExpired
  split
  · rename_i hnone
    rw [TimerUnit.expire_none (u := c.timerUnit) hnone]
    exact ⟨⟨rfl, rfl⟩, rfl⟩
  · rename_i deadline hd
    rw [TimerUnit.expire_some (u := c.timerUnit) hd]
    exact ⟨⟨rfl, rfl⟩, rfl⟩

theorem expire_foldl (u : TimerUnit) (tsc : BitVec 64) (vector : BitVec 8) (masked : Bool) :
    (if u.timer.deadline.isSome then [TimerEvent.expired tsc vector masked] else []).foldl
      TimerUnit.after u = u.expire := by
  cases hd : u.timer.deadline with
  | none => exact (TimerUnit.expire_none hd).symm
  | some deadline => rfl

/-- The exits that are handled without an error. Emulating an instruction ends with advancing RIP. -/
inductive Handles (c : VmxCpu) (env : HostEnv) : VmxBasicExitReason → Handled VmxCpu → Prop
  | externalInterrupt : Handles c env .externalInterrupt ⟨.success, none, c⟩
  | interruptWindow : Handles c env .interruptWindow ⟨.success, none, c⟩
  | tripleFault : Handles c env .tripleFault ⟨.shutdown, none, c⟩
  | timer : Handles c env .vmxPreemptionTimerExpired ⟨.success, none, c.timerExpired⟩
  | rdmsr (value len : BitVec 64) : Handles c env .rdmsr
      ⟨.success, none, { c with regs := (c.regs.setEdxEax value).advance len }⟩
  | wrmsr {c' : VmxCpu} (h : c.writeMsr env.tsc c.regs.msrIndex c.regs.edxEax = .ok c') (len : BitVec 64) :
      Handles c env .wrmsr ⟨.success, none, { c' with regs := c'.regs.advance len }⟩
  | cpuid (len : BitVec 64) : Handles c env .cpuid
      ⟨.success, none, { c with regs := (c.regs.setCpuid env).advance len }⟩
  | xsetbv (len : BitVec 64) : Handles c env .xsetbv
      ⟨.success, some c.regs.xsetbv, { c with regs := c.regs.advance len }⟩
  | ioInstruction (len : BitVec 64) : Handles c env .ioInstruction
      ⟨.ioInstruction (c.vmcs.value Ro.exitQualification), none, { c with regs := c.regs.advance len }⟩

theorem skip_ok (h : c.skip = .ok c') : ∃ len, c' = { c with regs := c.regs.advance len } := by
  obtain ⟨len, -, hc⟩ := bind_ok h
  exact ⟨len, (Except.ok.inj hc).symm⟩

theorem handle_handles {basic : VmxBasicExitReason} {r : Handled VmxCpu} (h : c.handle env basic = .ok r) :
    Handles c env basic r := by
  cases basic with
  | externalInterrupt =>
    rw [← Except.ok.inj h]
    exact .externalInterrupt
  | interruptWindow =>
    rw [← Except.ok.inj h]
    exact .interruptWindow
  | tripleFault =>
    rw [← Except.ok.inj h]
    exact .tripleFault
  | vmxPreemptionTimerExpired =>
    rw [← Except.ok.inj h]
    exact .timer
  | rdmsr =>
    obtain ⟨value, -, h⟩ := bind_ok h
    obtain ⟨c1, hskip, h⟩ := bind_ok h
    obtain ⟨len, rfl⟩ := skip_ok hskip
    rw [← Except.ok.inj h]
    exact .rdmsr value len
  | wrmsr =>
    obtain ⟨c1, hwrite, h⟩ := bind_ok h
    obtain ⟨c2, hskip, h⟩ := bind_ok h
    obtain ⟨len, rfl⟩ := skip_ok hskip
    rw [← Except.ok.inj h]
    exact .wrmsr hwrite len
  | cpuid =>
    obtain ⟨c1, hskip, h⟩ := bind_ok h
    obtain ⟨len, rfl⟩ := skip_ok hskip
    rw [← Except.ok.inj h]
    exact .cpuid len
  | xsetbv =>
    obtain ⟨c1, hskip, h⟩ := bind_ok h
    obtain ⟨len, rfl⟩ := skip_ok hskip
    rw [← Except.ok.inj h]
    exact .xsetbv len
  | ioInstruction =>
    obtain ⟨q, hq, h⟩ := bind_ok h
    obtain ⟨c1, hskip, h⟩ := bind_ok h
    obtain ⟨len, rfl⟩ := skip_ok hskip
    rw [← Except.ok.inj h, Vmcs.read_eq hq]
    exact .ioInstruction len
  | other code => cases h

theorem handle_unit {basic : VmxBasicExitReason} {r : Handled VmxCpu} (h : c.handle env basic = .ok r)
    (exitTsc : BitVec 64) :
    Keeps c r.cpu ∧ r.cpu.timerUnit =
      (exitEvents c.apicTimer c.regs env.tsc exitTsc basic).foldl TimerUnit.after c.timerUnit := by
  cases handle_handles h with
  | timer =>
    obtain ⟨hkeep, hunit⟩ := timerExpired_unit c
    exact ⟨hkeep, hunit.trans (expire_foldl c.timerUnit exitTsc _ _).symm⟩
  | wrmsr hwrite len =>
    obtain ⟨hkeep, hunit⟩ := writeMsr_unit hwrite
    exact ⟨⟨hkeep.info, hkeep.preemptScale⟩, hunit⟩
  | externalInterrupt | interruptWindow | tripleFault | rdmsr | cpuid | xsetbv | ioInstruction =>
    exact ⟨⟨rfl, rfl⟩, rfl⟩

theorem saveGuestRegisters_iff :
    c.saveGuestRegisters = .ok c' ↔
      (c.vmcs.supported Guest.rip = true ∧ c.vmcs.supported Guest.rsp = true ∧
        c.vmcs.supported Guest.rflags = true) ∧
      c' = { c with regs := { c.regs with
        rip := c.vmcs.value Guest.rip, rsp := c.vmcs.value Guest.rsp, rflags := c.vmcs.value Guest.rflags } } := by
  unfold VmxCpu.saveGuestRegisters
  constructor
  · intro h
    obtain ⟨rip, h1, h⟩ := bind_ok h
    obtain ⟨rsp, h2, h⟩ := bind_ok h
    obtain ⟨rflags, h3, h⟩ := bind_ok h
    obtain ⟨hrip, rfl⟩ := Vmcs.read_ok_iff.mp h1
    obtain ⟨hrsp, rfl⟩ := Vmcs.read_ok_iff.mp h2
    obtain ⟨hrflags, rfl⟩ := Vmcs.read_ok_iff.mp h3
    exact ⟨⟨hrip, hrsp, hrflags⟩, (Except.ok.inj h).symm⟩
  · rintro ⟨⟨hrip, hrsp, hrflags⟩, rfl⟩
    rw [Vmcs.read_ok hrip, ok_bind, Vmcs.read_ok hrsp, ok_bind,
      Vmcs.read_ok hrflags, ok_bind]
    rfl

theorem dispatch_handle {x : VmxExit} {r : Handled VmxCpu} (h : (c.exited x).dispatch env = .ok r) :
    ∃ rip rsp rflags basic, x.basic = some basic ∧
      VmxCpu.handle { c.exited x with regs := { x.regs with rip := rip, rsp := rsp, rflags := rflags } } env
        basic = .ok r := by
  obtain ⟨c1, hsave, h⟩ := bind_ok h
  obtain ⟨-, rfl⟩ := saveGuestRegisters_iff.mp hsave
  obtain ⟨reason, hreason, h⟩ := bind_ok h
  rw [Vmcs.read_eq hreason] at h
  split at h
  · cases h
  · rename_i basic hbasic
    exact ⟨_, _, _, basic, hbasic, h⟩

theorem dispatch_unit {x : VmxExit} {r : Handled VmxCpu} (h : (c.exited x).dispatch env = .ok r)
    (exitTsc : BitVec 64) :
    ∃ basic, x.basic = some basic ∧ Keeps (c.exited x) r.cpu ∧ r.cpu.timerUnit =
      (exitEvents c.apicTimer x.regs env.tsc exitTsc basic).foldl TimerUnit.after c.timerUnit := by
  obtain ⟨rip, rsp, rflags, basic, hbasic, hhandle⟩ := dispatch_handle h
  obtain ⟨hkeep, hunit⟩ := handle_unit hhandle exitTsc
  exact ⟨basic, hbasic, ⟨hkeep.info, hkeep.preemptScale⟩, hunit⟩

theorem exited_idle (c : VmxCpu) (x : VmxExit) :
    isValid ((c.exited x).vmcs.value Control.vmentryInterruptionInfoField) = false := by
  have hclear : (c.exited x).vmcs.value Control.vmentryInterruptionInfoField =
      c.vmcs.value Control.vmentryInterruptionInfoField &&& ~~~(1#64 <<< 31) := by
    simp only [VmxCpu.exited, Vmcs.afterExit, if_true]
  have hbit : (~~~(1#64 <<< 31)).getLsbD 31 = false := by decide
  rw [hclear, isValid, BitVec.getLsbD_and, hbit, Bool.and_false]

end Exit

/-! ## A whole call -/

/-- No event is left in the VM-entry interruption-information field between two calls. -/
def Idle (c : VmxCpu) : Prop :=
  isValid (c.vmcs.value Control.vmentryInterruptionInfoField) = false

/-- A call: it produces nothing, or an entry and then nothing, or it returns. -/
theorem turn_cases (c : VmxCpu) (i : VmxTurn) :
    turn c i = (none, []) ∨ ∃ entered, VmxCpu.enter { c with regs := i.regs } i.input.entryTsc = .ok entered ∧
      (turn c i = (none, [entryEvent entered]) ∨ ∃ r, (entered.exited i.input.exit).dispatch i.input.env = .ok r ∧
        turn c i = (some r.cpu, entryEvent entered :: eventsAfter c i)) := by
  unfold turn VmxCpu.run
  dsimp only
  split
  · exact .inl rfl
  · rename_i hactive
    cases henter : VmxCpu.enter { c with regs := i.regs } i.input.entryTsc with
    | error e => exact .inl rfl
    | ok entered =>
      refine .inr ⟨entered, rfl, ?_⟩
      dsimp only [bind, Except.bind]
      cases i.input.entryFailed with
      | true =>
        left
        cases entered.vmcs.read Ro.vmInstructionError <;> rfl
      | false =>
        cases hdispatch : (entered.exited i.input.exit).dispatch i.input.env with
        | error e =>
          left
          simp
        | ok r =>
          right
          refine ⟨r, rfl, ?_⟩
          simp only [Bool.false_eq_true, if_false]
          rfl

theorem turn_some {c c' : VmxCpu} {i : VmxTurn} (h : (turn c i).1 = some c') :
    ∃ entered r, VmxCpu.enter { c with regs := i.regs } i.input.entryTsc = .ok entered ∧
      (entered.exited i.input.exit).dispatch i.input.env = .ok r ∧ c' = r.cpu ∧
      (turn c i).2 = entryEvent entered :: eventsAfter c i := by
  rcases turn_cases c i with hnone | ⟨entered, henter, hfail | ⟨r, hdispatch, hok⟩⟩
  · rw [hnone] at h
    cases h
  · rw [hfail] at h
    cases h
  · rw [hok] at h ⊢
    exact ⟨entered, r, henter, hdispatch, (Option.some.inj h).symm, rfl⟩

theorem eventsAfter_basic {c : VmxCpu} {i : VmxTurn} {basic : VmxBasicExitReason}
    (h : i.input.exit.basic = some basic) :
    eventsAfter c i = exitEvents c.apicTimer i.input.exit.regs i.input.env.tsc i.exitTsc basic := by
  rw [eventsAfter, h]
  rfl

theorem exitEvents_legal (u : TimerUnit) (regs : GuestRegisters) (tsc exitTsc : BitVec 64)
    (basic : VmxBasicExitReason) :
    Legal TimerUnit.after TimerUnit.allows u (exitEvents u.timer regs tsc exitTsc basic) := by
  unfold exitEvents
  split
  · exact legal_singleton trivial
  · split
    · rename_i hsome
      exact legal_singleton ⟨hsome, rfl, rfl⟩
    · exact .nil
  · exact .nil

theorem turn_unit {c : VmxCpu} (hidle : Idle c) (i : VmxTurn) :
    Legal TimerUnit.after TimerUnit.allows c.timerUnit (turn c i).2 ∧
      ∀ c', (turn c i).1 = some c' → Idle c' ∧ c'.preemptScale = c.preemptScale ∧
        c'.timerUnit = (turn c i).2.foldl TimerUnit.after c.timerUnit := by
  rcases turn_cases c i with h | ⟨entered, henter, h⟩
  · rw [h]
    refine ⟨.nil, ?_⟩
    intro c' hc
    cases hc
  have hent := enter_unit henter hidle
  rcases h with h | ⟨r, hdispatch, h⟩
  · rw [h]
    refine ⟨legal_singleton hent.allows, ?_⟩
    intro c' hc
    cases hc
  · obtain ⟨basic, hbasic, hkeep, hunit⟩ := dispatch_unit hdispatch i.exitTsc
    have htimer : c.apicTimer = (c.timerUnit.after (entryEvent entered)).timer :=
      hent.apicTimer.symm.trans (congrArg TimerUnit.timer hent.after)
    rw [hent.apicTimer, hent.after] at hunit
    rw [h, eventsAfter_basic hbasic]
    refine ⟨.cons hent.allows ?_, ?_⟩
    · rw [htimer]
      exact exitEvents_legal _ _ _ _ _
    · intro c' hc
      injection hc with hc
      subst hc
      refine ⟨?_, hkeep.preemptScale.trans hent.preemptScale, hunit⟩
      unfold Idle
      rw [hkeep.info]
      exact exited_idle entered i.input.exit

/-- A fresh vCPU: setup clears the field. -/
theorem new_unit {h : HostCpu} {eptp apicAccessHpa cpuId entryPoint guestRsp : BitVec 64} {c : VmxCpu}
    (hc : VmxCpu.new h eptp apicAccessHpa cpuId entryPoint guestRsp = .ok c) :
    Idle c ∧ c.timerUnit = TimerUnit.new := by
  obtain ⟨virtualApicHpa, vmcs, hvmcs, rfl⟩ := new_ok hc
  have hinfo : vmcs.value Control.vmentryInterruptionInfoField = 0#64 :=
    Vmcs.writeAll_value hvmcs Control.vmentryInterruptionInfoField
  refine ⟨?_, rfl⟩
  show isValid (vmcs.value Control.vmentryInterruptionInfoField) = false
  rw [hinfo]
  rfl

end Rhyve.Vmx
