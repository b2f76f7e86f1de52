import Rhyve.Vmx.Steps

/-! # `VmxCpu::run` alone on the core

The program `Steps.run` executes its instructions on the current VMCS of a core. If no one else uses the core, that is
the VMCS of the vCPU.

* `Alone`: the core during such a call.
* `alone_run`: the program computes what `VmxCpu.run` computes.
-/

namespace Rhyve.Vmx
open Apic Backend Errors Program
set_option autoImplicit false

/-- The core during a call of `run`. -/
structure Alone where
  vmcs : Vmcs
  input : VmxCpu.VmxInput
  /-- The VMCS has not been launched since it was cleared. -/
  clear : Bool
  exited : Bool

namespace Alone

def write (s : Alone) (f : FieldId) (value : BitVec 64) : Except HypervisorError Unit × Alone :=
  match s.vmcs.write f value with
  | .ok vmcs => (.ok (), { s with vmcs := vmcs })
  | .error e => (.error e, s)

/-- The entry, and the VM-exit if it succeeds. -/
def enterGuest (s : Alone) : Option GuestRegisters × Alone :=
  if s.input.entryFailed then (none, s)
  else (some s.input.exit.regs, { s with vmcs := s.vmcs.afterExit s.input.exit.fields, exited := true })

def env (s : Alone) : HostEnv :=
  if s.exited then s.input.env else { s.input.env with tsc := s.input.entryTsc }

/-- VM-instruction error 5 is that of a VMRESUME without a VMLAUNCH. -/
def answer (s : Alone) : (o : VmxOp) → o.Ans × Alone
  | .vmptrld => (s.input.activated, s)
  | .vmread f => (s.vmcs.read f, s)
  | .vmwrite f value => s.write f value
  | .vmresume => if s.clear then (none, s) else s.enterGuest
  | .instructionError => (if s.clear then 5#64 else 0#64, s)
  | .vmlaunch => s.enterGuest
  | .host => (s.env, s)
  | .hostRsp => ((), s)
  | .hostRip => ((), s)
  | .sti => ((), s)
  | .cli => ((), s)
  | .xsetbv _ => ((), s)

/-- The vCPU with the VMCS that is on the core. -/
def cpu (s : Alone) (c : VmxCpu) : VmxCpu := { c with vmcs := s.vmcs }

/-- What a call returns, with the VMCS it leaves behind. -/
def returned (r : Handled VmxCpu × Alone) : Handled VmxCpu := { r.1 with cpu := r.2.cpu r.1.cpu }

end Alone

namespace Steps
open Alone

theorem alone_vmptrld (s : Alone) : Prog.alone answer vmptrld s = .ok (s.input.activated, s) := rfl

theorem alone_vmresume (s : Alone) :
    Prog.alone answer vmresume s = .ok (if s.clear then (none, s) else s.enterGuest) := rfl

theorem alone_instructionError (s : Alone) :
    Prog.alone answer instructionError s = .ok (if s.clear then 5#64 else 0#64, s) := rfl

theorem alone_host (s : Alone) : Prog.alone answer host s = .ok (s.env, s) := rfl

theorem alone_vmread (f : FieldId) (s : Alone) :
    Prog.alone answer (vmread f) s = (s.vmcs.read f).map fun v => (v, s) := by
  have hexec : (ExceptT.run (vmread f)).exec answer s = (s.vmcs.read f, s) := rfl
  unfold Prog.alone
  rw [hexec]
  cases s.vmcs.read f with
  | ok v => rfl
  | error e => rfl

theorem alone_vmwrite (f : FieldId) (value : BitVec 64) (s : Alone) :
    Prog.alone answer (vmwrite f value) s =
      (s.vmcs.write f value).map fun vmcs => ((), { s with vmcs := vmcs }) := by
  have hexec : (ExceptT.run (vmwrite f value)).exec answer s = s.write f value := rfl
  unfold Prog.alone
  rw [hexec]
  unfold write
  cases s.vmcs.write f value with
  | ok v => rfl
  | error e => rfl

theorem alone_activate (s : Alone) :
    Prog.alone answer activate s = if s.input.activated then .ok ((), s) else .error .vmclearFailed := by
  unfold activate
  rw [Prog.alone_bind, alone_vmptrld, ok_bind]
  dsimp only
  split
  · rfl
  · rfl

theorem alone_loadGuestRegisters (c : VmxCpu) (s : Alone) :
    Prog.alone answer (loadGuestRegisters c.regs) s =
      (s.cpu c).loadGuestRegisters.map fun c' => ((), { s with vmcs := c'.vmcs }) := by
  unfold loadGuestRegisters VmxCpu.loadGuestRegisters
  simp only [Prog.alone_bind, alone_vmwrite, Vmcs.writeAll, Alone.cpu]
  cases s.vmcs.write Guest.rip c.regs.rip with
  | error e => rfl
  | ok v1 =>
    simp only [map_ok, ok_bind]
    cases v1.write Guest.rsp c.regs.rsp with
    | error e => rfl
    | ok v2 =>
      simp only [map_ok, ok_bind]
      cases v2.write Guest.rflags c.regs.rflags with
      | error e => rfl
      | ok v3 => rfl

theorem alone_setInterruptWindow (c : VmxCpu) (enable : Bool) (s : Alone) :
    Prog.alone answer (setInterruptWindow enable) s =
      ((s.cpu c).setInterruptWindow enable).map fun c' => ((), { s with vmcs := c'.vmcs }) := by
  unfold setInterruptWindow VmxCpu.setInterruptWindow
  simp only [Prog.alone_bind, alone_vmread, alone_vmwrite, Alone.cpu]
  cases s.vmcs.read Control.primaryProcbasedExecControls with
  | error e => rfl
  | ok ctrls =>
    simp only [map_ok, ok_bind]
    cases s.vmcs.write Control.primaryProcbasedExecControls (if enable then
        ctrls ||| VmxCpu.interruptWindowExiting else ctrls &&& ~~~VmxCpu.interruptWindowExiting) with
    | error e => rfl
    | ok v => rfl

theorem alone_window (c : VmxCpu) (enable : Bool) (s : Alone) :
    Prog.alone answer (setInterruptWindow enable >>= fun _ => return c.pendingVector) s =
      ((s.cpu c).setInterruptWindow enable).map fun c' => (c'.pendingVector, { s with vmcs := c'.vmcs }) := by
  rw [Prog.alone_bind, alone_setInterruptWindow c]
  cases h : (s.cpu c).setInterruptWindow enable with
  | error e => rfl
  | ok c' =>
    rw [setInterruptWindow_ok h]
    rfl

theorem alone_injectPending (c : VmxCpu) (s : Alone) :
    Prog.alone answer (injectPending c.pendingVector) s =
      (s.cpu c).injectPending.map fun c' => (c'.pendingVector, { s with vmcs := c'.vmcs }) := by
  unfold injectPending VmxCpu.injectPending
  have hcpu : (s.cpu c).pendingVector = c.pendingVector := rfl
  rw [hcpu]
  cases hpending : c.pendingVector with
  | none =>
    show Except.ok (none, s) = Except.ok (c.pendingVector, s)
    rw [hpending]
  | some vector =>
    simp only [Prog.alone_bind, alone_vmread, Alone.cpu]
    cases s.vmcs.read Guest.rflags with
    | error e => rfl
    | ok rflags =>
      simp only [map_ok, ok_bind]
      cases s.vmcs.read Guest.interruptibilityState with
      | error e => rfl
      | ok interruptibility =>
        simp only [map_ok, ok_bind]
        split
        · rw [Prog.alone_bind, alone_vmwrite]
          cases s.vmcs.write Control.vmentryInterruptionInfoField (VmxCpu.eventInfo vector) with
          | error e => rfl
          | ok v =>
            exact alone_window { c with pendingVector := none } false { s with vmcs := v }
        · have hwindow := alone_window c true s
          rw [hpending] at hwindow
          exact hwindow

theorem alone_armPreemptionTimer (c : VmxCpu) (s : Alone) :
    Prog.alone answer (armPreemptionTimer c.apicTimer.deadline c.preemptScale) s =
      ((s.cpu c).armPreemptionTimer s.env.tsc).map fun c' => ((), { s with vmcs := c'.vmcs }) := by
  unfold armPreemptionTimer VmxCpu.armPreemptionTimer
  simp only [Prog.alone_bind, alone_host, alone_vmwrite, ok_bind, Alone.cpu]
  cases s.vmcs.write Guest.vmxPreemptionTimerValue
      (VmxCpu.preemptionValue c.apicTimer.deadline s.env.tsc c.preemptScale) with
  | error e => rfl
  | ok v => rfl

theorem injectPending_frame {c c' : VmxCpu} (h : c.injectPending = .ok c') :
    { c with vmcs := c'.vmcs, pendingVector := c'.pendingVector } = c' := by
  rcases injectPending_ok h with ⟨-, h⟩ | ⟨vector, -, -, h⟩ | ⟨vector, -, -, h⟩
  · rw [h]
  · rw [h]
  · rw [h]

/-- `enter` changes the VMCS and what is pending. -/
theorem enter_frame {c c' : VmxCpu} {tsc : BitVec 64} (h : c.enter tsc = .ok c') :
    c' = { c with vmcs := c'.vmcs, pendingVector := c'.pendingVector } := by
  obtain ⟨c1, hload, h⟩ := bind_ok h
  obtain ⟨c2, hinject, harm⟩ := bind_ok h
  obtain ⟨v1, hc1, -, -⟩ := loadGuestRegisters_ok hload
  rw [armPreemptionTimer_ok harm, ← injectPending_frame hinject, hc1]

theorem alone_enter (c : VmxCpu) (s : Alone) :
    Prog.alone answer (enter c) s =
      ((s.cpu c).enter s.env.tsc).map fun c' => (c'.pendingVector, { s with vmcs := c'.vmcs }) := by
  unfold enter VmxCpu.enter
  rw [Prog.alone_bind, alone_loadGuestRegisters c]
  cases hload : (s.cpu c).loadGuestRegisters with
  | error e => rfl
  | ok c1 =>
    obtain ⟨v1, rfl, -, -⟩ := loadGuestRegisters_ok hload
    rw [map_ok, ok_bind, ok_bind, Prog.alone_bind, alone_injectPending c]
    show (Except.map _ (({ s with vmcs := v1 } : Alone).cpu c).injectPending >>= _) =
      ((({ s with vmcs := v1 } : Alone).cpu c).injectPending >>= _).map _
    cases hinject : (({ s with vmcs := v1 } : Alone).cpu c).injectPending with
    | error e => rfl
    | ok c2 =>
      have hc2 : ({ s with vmcs := c2.vmcs } : Alone).cpu { c with pendingVector := c2.pendingVector } = c2 := by
        have hframe := injectPending_frame hinject
        exact hframe
      have harm := alone_armPreemptionTimer { c with pendingVector := c2.pendingVector }
        { s with vmcs := c2.vmcs }
      rw [hc2] at harm
      rw [map_ok, ok_bind, ok_bind, Prog.alone_bind]
      refine (congrArg (· >>= _) harm).trans ?_
      show (Except.map _ (c2.armPreemptionTimer s.env.tsc) >>= _) = (c2.armPreemptionTimer s.env.tsc).map _
      cases hc3 : c2.armPreemptionTimer s.env.tsc with
      | error e => rfl
      | ok c3 =>
        rw [armPreemptionTimer_ok hc3]
        rfl

theorem enterGuest_none {s s' : Alone} (h : s.enterGuest = (none, s')) : s = s' := by
  unfold enterGuest at h
  split at h
  · exact congrArg Prod.snd h
  · cases h

/-- Whatever the launch state, there is one attempt to enter the guest that can succeed. -/
theorem alone_runVmxVm (s : Alone) : Prog.alone answer runVmxVm s = .ok s.enterGuest := by
  unfold runVmxVm
  rw [Prog.alone_bind, alone_vmresume, ok_bind]
  cases hclear : s.clear with
  | true =>
    show Prog.alone answer (instructionError >>= _) s = _
    rw [Prog.alone_bind, alone_instructionError, ok_bind, hclear]
    rfl
  | false =>
    rw [if_neg Bool.false_ne_true]
    cases hentry : s.enterGuest with
    | mk regs s' =>
      cases regs with
      | some regs => rfl
      | none =>
        obtain rfl := enterGuest_none hentry
        show Prog.alone answer (instructionError >>= _) s = _
        rw [Prog.alone_bind, alone_instructionError, ok_bind, hclear]
        rfl

theorem alone_saveGuestRegisters (c : VmxCpu) (s : Alone) :
    Prog.alone answer (saveGuestRegisters c.regs) s =
      (s.cpu c).saveGuestRegisters.map fun c' => (c'.regs, s) := by
  unfold saveGuestRegisters VmxCpu.saveGuestRegisters
  simp only [Prog.alone_bind, alone_vmread, Alone.cpu]
  cases s.vmcs.read Guest.rip with
  | error e => rfl
  | ok rip =>
    simp only [map_ok, ok_bind]
    cases s.vmcs.read Guest.rsp with
    | error e => rfl
    | ok rsp =>
      simp only [map_ok, ok_bind]
      cases s.vmcs.read Guest.rflags with
      | error e => rfl
      | ok rflags => rfl

theorem saveGuestRegisters_frame {c c' : VmxCpu} {s : Alone} (h : (s.cpu c).saveGuestRegisters = .ok c') :
    c' = s.cpu { c with regs := c'.regs } := by
  rw [(saveGuestRegisters_iff.mp h).2]
  rfl

theorem alone_readMsr (c : VmxCpu) (index : BitVec 32) (s : Alone) :
    Prog.alone answer (readMsr c index) s = ((s.cpu c).readMsr index).map fun v => (v, s) := by
  unfold readMsr VmxCpu.readMsr
  split
  · exact alone_vmread _ s
  split
  · exact alone_vmread _ s
  split
  · exact alone_vmread _ s
  split
  · rfl
  · rfl

theorem alone_writeField (c : VmxCpu) (f : FieldId) (value : BitVec 64) (s : Alone) :
    Prog.alone answer (vmwrite f value >>= fun _ => return c) s =
      ((s.cpu c).writeField f value).map fun c' => ({ c' with vmcs := c.vmcs }, { s with vmcs := c'.vmcs }) := by
  unfold VmxCpu.writeField
  simp only [Prog.alone_bind, alone_vmwrite, Alone.cpu]
  cases s.vmcs.write f value with
  | error e => rfl
  | ok v => rfl

theorem alone_writeMsr (c : VmxCpu) (msr : BitVec 32) (value : BitVec 64) (s : Alone) :
    Prog.alone answer (writeMsr c msr value) s = ((s.cpu c).writeMsr s.env.tsc msr value).map fun c' =>
      ({ c' with vmcs := c.vmcs }, { s with vmcs := c'.vmcs }) := by
  unfold writeMsr VmxCpu.writeMsr
  split
  · exact alone_writeField c _ value s
  split
  · exact alone_writeField c _ value s
  split
  · exact alone_writeField c _ value s
  split
  · rfl
  · rfl

/-- Advancing ends the emulation of an instruction. -/
theorem alone_finish (c : VmxCpu) (reason : ExitReason) (op : Option Xsetbv) (s : Alone) :
    (Prog.alone answer (skip c >>= fun c => return ⟨reason, op, c⟩) s).map returned =
      (s.cpu c).skip.map fun c => ⟨reason, op, c⟩ := by
  unfold skip VmxCpu.skip
  simp only [Prog.alone_bind, alone_vmread, Alone.cpu]
  cases s.vmcs.read Ro.vmexitInstructionLen with
  | error e => rfl
  | ok len => rfl

theorem alone_handle (c : VmxCpu) (basic : VmxBasicExitReason) (s : Alone) :
    (Prog.alone answer (handle c basic) s).map returned = (s.cpu c).handle s.env basic := by
  cases basic with
  | externalInterrupt | interruptWindow | tripleFault | other => rfl
  | rdmsr =>
    show (Prog.alone answer (readMsr c c.regs.msrIndex >>= _) s).map returned =
      ((s.cpu c).readMsr c.regs.msrIndex >>= _)
    rw [Prog.alone_bind, alone_readMsr]
    cases (s.cpu c).readMsr c.regs.msrIndex with
    | error e => rfl
    | ok value => exact alone_finish { c with regs := c.regs.setEdxEax value } .success none s
  | wrmsr =>
    show (Prog.alone answer (writeMsr c c.regs.msrIndex c.regs.edxEax >>= _) s).map returned =
      ((s.cpu c).writeMsr s.env.tsc c.regs.msrIndex c.regs.edxEax >>= _)
    rw [Prog.alone_bind, alone_writeMsr]
    cases (s.cpu c).writeMsr s.env.tsc c.regs.msrIndex c.regs.edxEax with
    | error e => rfl
    | ok c' => exact alone_finish { c' with vmcs := c.vmcs } .success none { s with vmcs := c'.vmcs }
  | cpuid => exact alone_finish { c with regs := c.regs.setCpuid s.env } .success none s
  | xsetbv => exact alone_finish c .success (some c.regs.xsetbv) s
  | ioInstruction =>
    show (Prog.alone answer (vmread Ro.exitQualification >>= _) s).map returned =
      (s.vmcs.read Ro.exitQualification >>= _)
    rw [Prog.alone_bind, alone_vmread]
    cases s.vmcs.read Ro.exitQualification with
    | error e => rfl
    | ok q => exact alone_finish c (.ioInstruction q) none s
  | vmxPreemptionTimerExpired =>
    have htimer : s.cpu c.timerExpired = (s.cpu c).timerExpired := by
      unfold VmxCpu.timerExpired Alone.cpu
      cases c.apicTimer.deadline with
      | none => rfl
      | some deadline => rfl
    exact congrArg (fun c => Except.ok (Handled.mk .success none c)) htimer

theorem alone_dispatch (c : VmxCpu) (s : Alone) :
    (Prog.alone answer (dispatch c) s).map returned = (s.cpu c).dispatch s.env := by
  unfold dispatch VmxCpu.dispatch
  rw [Prog.alone_bind, alone_saveGuestRegisters]
  cases hsave : (s.cpu c).saveGuestRegisters with
  | error e => rfl
  | ok c1 =>
    have hc1 : c1 = s.cpu { c with regs := c1.regs } := saveGuestRegisters_frame hsave
    rw [map_ok, ok_bind, ok_bind, Prog.alone_bind, alone_vmread]
    have hvmcs : c1.vmcs = s.vmcs := by rw [hc1]; rfl
    rw [hvmcs]
    cases s.vmcs.read Ro.exitReason with
    | error e => rfl
    | ok reason =>
      rw [map_ok, ok_bind, ok_bind]
      cases VmxBasicExitReason.fromU32 (reason.setWidth 32) with
      | none => rfl
      | some basic =>
        have hhandle := alone_handle { c with regs := c1.regs } basic s
        rw [← hc1] at hhandle
        exact hhandle

theorem alone_failed (c : VmxCpu) {s : Alone} (h : s.input.entryFailed = true) :
    Prog.alone answer (runVmxVm >>= afterEntry c) s =
      .error (.vmEntryFailed ((s.vmcs.read Ro.vmInstructionError).toOption.getD 0#64)) := by
  have henter : s.enterGuest = (none, s) := if_pos h
  rw [Prog.alone_bind, alone_runVmxVm, henter]
  rfl

theorem alone_entered (c : VmxCpu) {s : Alone} (h : s.input.entryFailed = false) :
    (Prog.alone answer (runVmxVm >>= afterEntry c) s).map returned =
      ((s.cpu c).exited s.input.exit).dispatch s.input.env := by
  have henter : s.enterGuest = (some s.input.exit.regs,
      { s with vmcs := s.vmcs.afterExit s.input.exit.fields, exited := true }) := if_neg (by rw [h]; decide)
  rw [Prog.alone_bind, alone_runVmxVm, henter, ok_bind]
  exact alone_dispatch _ _

/-- A vCPU that has the core for itself. -/
theorem alone_run (c : VmxCpu) (x : VmxCpu.VmxInput) (clear : Bool) :
    (Prog.alone answer (run c) ⟨c.vmcs, x, clear, false⟩).map returned = c.run x := by
  unfold run VmxCpu.run
  rw [Prog.alone_bind, alone_activate]
  cases hactivated : x.activated with
  | false => rfl
  | true =>
    have hc : Alone.cpu ⟨c.vmcs, x, clear, false⟩ c = c := rfl
    have htsc : (Alone.env ⟨c.vmcs, x, clear, false⟩).tsc = x.entryTsc := rfl
    rw [if_pos rfl, if_neg Bool.true_eq_false.mp, ok_bind, Prog.alone_bind, alone_enter, hc, htsc]
    cases henter : c.enter x.entryTsc with
    | error e => rfl
    | ok c' =>
      have hframe := enter_frame henter
      rw [map_ok, ok_bind, ok_bind]
      cases hfailed : x.entryFailed with
      | true =>
        have hfail := alone_failed { c with pendingVector := c'.pendingVector }
          (s := ⟨c'.vmcs, x, clear, false⟩) hfailed
        rw [if_pos rfl]
        refine (congrArg (Except.map returned) hfail).trans ?_
        cases c'.vmcs.read Ro.vmInstructionError with
        | ok error => rfl
        | error e => rfl
      | false =>
        have hentered := alone_entered { c with pendingVector := c'.pendingVector }
          (s := ⟨c'.vmcs, x, clear, false⟩) hfailed
        exact hentered.trans (by rw [hframe]; rfl)

end Steps

end Rhyve.Vmx
