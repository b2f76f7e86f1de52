import Rhyve.Vmx.Alone

/-! # The XSETBV that a call of `run` executes (VT-x)

The handler executes XSETBV before it reads the length of the instruction. If that VMREAD fails, the call returns an
error and XCR0 has changed all the same. So the instructions are taken from the program, not from its result.

* `xsetbvs`: the operands of every XSETBV among the instructions of a call that has the core for itself.
* `VmxXsetbv`: the call ends with an XSETBV exit and gets to the handler.
* `mem_xsetbvs_iff`: there is no other XSETBV, and its operands are those of the guest.
-/

namespace Rhyve.Vmx
open Backend Errors Program
set_option autoImplicit false

def VmxOp.operand : VmxOp → Option Xsetbv
  | .xsetbv op => some op
  | _ => none

namespace Steps
open Alone

def xsetbvs (c : VmxCpu) (x : VmxCpu.VmxInput) : List Xsetbv :=
  Prog.executed VmxOp.operand answer (run c) ⟨c.vmcs, x, !c.launched, false⟩

/-! ## Steps without XSETBV -/

abbrev Quiet {α : Type} (p : Steps α) : Prop := (ExceptT.run p).Avoids VmxOp.operand

section Quiet

theorem quiet_pure {α : Type} (a : α) : Quiet (pure a : Steps α) := trivial

theorem quiet_throw {α : Type} (e : HypervisorError) : Quiet (throw e : Steps α) := trivial

theorem quiet_perform {o : VmxOp} (h : o.operand = none) : Quiet (perform o) := ⟨h, fun _ => trivial⟩

theorem quiet_vmread (f : FieldId) : Quiet (vmread f) := ⟨rfl, fun _ => trivial⟩

theorem quiet_vmwrite (f : FieldId) (value : BitVec 64) : Quiet (vmwrite f value) := ⟨rfl, fun _ => trivial⟩

theorem quiet_bind {α β : Type} {p : Steps α} (h : Quiet p) {f : α → Steps β} (hf : ∀ a, Quiet (f a)) :
    Quiet (p >>= f) := Prog.avoids_bind h hf

theorem quiet_activate : Quiet activate := by
  refine quiet_bind (quiet_perform rfl) ?_
  intro ok
  cases ok with
  | false => exact quiet_throw _
  | true => exact quiet_pure _

theorem quiet_loadGuestRegisters (regs : GuestRegisters) : Quiet (loadGuestRegisters regs) :=
  quiet_bind (quiet_vmwrite _ _) fun _ => quiet_bind (quiet_vmwrite _ _) fun _ => quiet_vmwrite _ _

theorem quiet_setInterruptWindow (enable : Bool) : Quiet (setInterruptWindow enable) :=
  quiet_bind (quiet_vmread _) fun _ => quiet_vmwrite _ _

theorem quiet_injectPending (pendingVector : Option (BitVec 8)) : Quiet (injectPending pendingVector) := by
  cases pendingVector with
  | none => exact quiet_pure _
  | some vector =>
    refine quiet_bind (quiet_vmread _) fun rflags => quiet_bind (quiet_vmread _) fun interruptibility => ?_
    split
    · exact quiet_bind (quiet_vmwrite _ _) fun _ => quiet_bind (quiet_setInterruptWindow _) fun _ => quiet_pure _
    · exact quiet_bind (quiet_setInterruptWindow _) fun _ => quiet_pure _

theorem quiet_enter (c : VmxCpu) : Quiet (enter c) := by
  refine quiet_bind (quiet_loadGuestRegisters _) fun _ => quiet_bind (quiet_injectPending _) fun pending => ?_
  have harm : Quiet (armPreemptionTimer c.apicTimer.deadline c.preemptScale) :=
    quiet_bind (quiet_perform rfl) fun _ => quiet_vmwrite _ _
  exact quiet_bind harm fun _ => quiet_pure _

theorem quiet_runVmxVm : Quiet runVmxVm := by
  refine quiet_bind (quiet_perform rfl) ?_
  intro resumed
  cases resumed with
  | some regs => exact quiet_pure _
  | none =>
    refine quiet_bind (quiet_perform rfl) fun error => ?_
    split
    · exact quiet_bind (quiet_perform rfl) fun _ => quiet_bind (quiet_perform rfl) fun _ => quiet_perform rfl
    · exact quiet_pure _

theorem quiet_saveGuestRegisters (regs : GuestRegisters) : Quiet (saveGuestRegisters regs) :=
  quiet_bind (quiet_vmread _) fun _ => quiet_bind (quiet_vmread _) fun _ => quiet_bind (quiet_vmread _) fun _ =>
    quiet_pure _

theorem quiet_skip (c : VmxCpu) : Quiet (skip c) := quiet_bind (quiet_vmread _) fun _ => quiet_pure _

theorem quiet_finish (c : VmxCpu) (reason : ExitReason) (op : Option Xsetbv) :
    Quiet (skip c >>= fun c => return (⟨reason, op, c⟩ : Handled VmxCpu)) := quiet_bind (quiet_skip c) fun _ => quiet_pure _

theorem quiet_readMsr (c : VmxCpu) (index : BitVec 32) : Quiet (readMsr c index) := by
  unfold readMsr
  split
  · exact quiet_vmread _
  split
  · exact quiet_vmread _
  split
  · exact quiet_vmread _
  split
  · exact quiet_pure _
  · exact quiet_pure _

theorem quiet_writeMsr (c : VmxCpu) (msr : BitVec 32) (value : BitVec 64) : Quiet (writeMsr c msr value) := by
  have hfield : ∀ f, Quiet (vmwrite f value >>= fun _ => return c) :=
    fun f => quiet_bind (quiet_vmwrite f value) fun _ => quiet_pure _
  unfold writeMsr
  split
  · exact hfield _
  split
  · exact hfield _
  split
  · exact hfield _
  split
  · exact quiet_bind (quiet_perform rfl) fun _ => quiet_pure _
  · exact quiet_pure _

theorem quiet_handle (c : VmxCpu) {basic : VmxBasicExitReason} (h : basic ≠ .xsetbv) : Quiet (handle c basic) := by
  cases basic with
  | xsetbv => exact absurd rfl h
  | externalInterrupt => exact quiet_bind (quiet_perform rfl) fun _ => quiet_bind (quiet_perform rfl) fun _ => quiet_pure _
  | rdmsr => exact quiet_bind (quiet_readMsr c _) fun _ => quiet_finish _ _ _
  | wrmsr => exact quiet_bind (quiet_writeMsr c _ _) fun _ => quiet_finish _ _ _
  | cpuid => exact quiet_bind (quiet_perform rfl) fun _ => quiet_finish _ _ _
  | ioInstruction => exact quiet_bind (quiet_vmread _) fun _ => quiet_finish _ _ _
  | vmxPreemptionTimerExpired | interruptWindow | tripleFault => exact quiet_pure _
  | other => exact quiet_throw _

end Quiet

/-! ## The handler -/

theorem executed_handle (c : VmxCpu) (s : Alone) :
    Prog.executed VmxOp.operand answer (handle c .xsetbv) s = [c.regs.xsetbv] := by
  have hrest : Prog.executed VmxOp.operand answer
      (skip c >>= fun c' => return (⟨.success, some c.regs.xsetbv, c'⟩ : Handled VmxCpu)) s = [] :=
    Prog.executed_avoids (quiet_finish c .success (some c.regs.xsetbv)) s
  exact congrArg (c.regs.xsetbv :: ·) hrest

theorem mem_handle_iff (c : VmxCpu) (basic : VmxBasicExitReason) (s : Alone) (op : Xsetbv) :
    op ∈ Prog.executed VmxOp.operand answer (handle c basic) s ↔ basic = .xsetbv ∧ op = c.regs.xsetbv := by
  by_cases hbasic : basic = .xsetbv
  · rw [hbasic, executed_handle, List.mem_singleton]
    exact ⟨fun hop => ⟨rfl, hop⟩, And.right⟩
  · rw [Prog.executed_avoids (quiet_handle c hbasic)]
    exact iff_of_false nofun fun h => hbasic h.1

/-- The fields that are read before a handler is called. -/
structure Readable (v : Vmcs) : Prop where
  rip : v.supported Guest.rip = true
  rsp : v.supported Guest.rsp = true
  rflags : v.supported Guest.rflags = true
  exitReason : v.supported Ro.exitReason = true

theorem mem_reason_iff (c : VmxCpu) (s : Alone) (op : Xsetbv) :
    op ∈ Prog.executed VmxOp.operand answer (vmread Ro.exitReason >>= fun reason =>
      match VmxBasicExitReason.fromU32 (reason.setWidth 32) with
      | none => throw .unknownVmExitReason
      | some basic => handle c basic) s ↔
    s.vmcs.supported Ro.exitReason = true ∧
      VmxBasicExitReason.fromU32 ((s.vmcs.value Ro.exitReason).setWidth 32) = some .xsetbv ∧ op = c.regs.xsetbv := by
  rw [Prog.mem_executed_bind (quiet_vmread _), alone_vmread]
  cases hreason : VmxBasicExitReason.fromU32 ((s.vmcs.value Ro.exitReason).setWidth 32) with
  | none =>
    refine iff_of_false ?_ (fun h => nomatch h.2.1)
    rintro ⟨r, hread, hop⟩
    obtain ⟨reason, hr, rfl⟩ := map_ok_iff.mp hread
    obtain ⟨-, rfl⟩ := Vmcs.read_ok_iff.mp hr
    rw [hreason] at hop
    cases hop
  | some basic =>
    rw [Option.some.injEq, ← mem_handle_iff c basic s op]
    constructor
    · rintro ⟨r, hread, hop⟩
      obtain ⟨reason, hr, rfl⟩ := map_ok_iff.mp hread
      obtain ⟨hsup, rfl⟩ := Vmcs.read_ok_iff.mp hr
      rw [hreason] at hop
      exact ⟨hsup, hop⟩
    · rintro ⟨hsup, hop⟩
      refine ⟨_, map_ok_iff.mpr ⟨_, Vmcs.read_ok hsup, rfl⟩, ?_⟩
      dsimp only
      rw [hreason]
      exact hop

theorem mem_dispatch_iff (c : VmxCpu) (s : Alone) (op : Xsetbv) :
    op ∈ Prog.executed VmxOp.operand answer (dispatch c) s ↔
      Readable s.vmcs ∧
      VmxBasicExitReason.fromU32 ((s.vmcs.value Ro.exitReason).setWidth 32) = some .xsetbv ∧ op = c.regs.xsetbv := by
  unfold dispatch
  rw [Prog.mem_executed_bind (quiet_saveGuestRegisters _), alone_saveGuestRegisters]
  constructor
  · rintro ⟨r, hsave, hop⟩
    obtain ⟨c', hc', rfl⟩ := map_ok_iff.mp hsave
    obtain ⟨⟨hrip, hrsp, hrflags⟩, rfl⟩ := saveGuestRegisters_iff.mp hc'
    obtain ⟨hsup, hreason, hop⟩ := (mem_reason_iff _ s op).mp hop
    exact ⟨⟨hrip, hrsp, hrflags, hsup⟩, hreason, hop⟩
  · rintro ⟨hread, hreason, hop⟩
    have hsave := (saveGuestRegisters_iff (c := s.cpu c)).mpr ⟨⟨hread.rip, hread.rsp, hread.rflags⟩, rfl⟩
    exact ⟨_, map_ok_iff.mpr ⟨_, hsave, rfl⟩, (mem_reason_iff _ s op).mpr ⟨hread.exitReason, hreason, hop⟩⟩

/-! ## A call of `run` -/

/-- The guest is entered and leaves for an XSETBV, and the call gets to the handler. -/
structure VmxXsetbv (c : VmxCpu) (x : VmxCpu.VmxInput) : Prop where
  activated : x.activated = true
  enters : ∃ entered, c.enter x.entryTsc = .ok entered ∧ Readable entered.vmcs
  entered : x.entryFailed = false
  reason : x.exit.basic = some .xsetbv

theorem mem_afterEntry_iff (c : VmxCpu) (s : Alone) (op : Xsetbv) :
    op ∈ Prog.executed VmxOp.operand answer (runVmxVm >>= afterEntry c) s ↔
      s.input.entryFailed = false ∧ Readable s.vmcs ∧ s.input.exit.basic = some .xsetbv ∧
        op = s.input.exit.regs.xsetbv := by
  rw [Prog.mem_executed_bind quiet_runVmxVm, alone_runVmxVm]
  cases hfailed : s.input.entryFailed with
  | true =>
    have henter : s.enterGuest = (none, s) := if_pos hfailed
    have hquiet : Quiet (afterEntry c none) := quiet_bind (quiet_perform rfl) fun _ => quiet_throw _
    refine iff_of_false ?_ (fun h => nomatch h.1)
    rintro ⟨r, hr, hop⟩
    rw [← Except.ok.inj hr, henter, Prog.executed_avoids hquiet] at hop
    cases hop
  | false =>
    have henter : s.enterGuest = (some s.input.exit.regs,
        { s with vmcs := s.vmcs.afterExit s.input.exit.fields, exited := true }) :=
      if_neg (by rw [hfailed]; exact Bool.false_ne_true)
    have hdispatch := mem_dispatch_iff
      { c with
        regs := { s.input.exit.regs with rip := c.regs.rip, rsp := c.regs.rsp, rflags := c.regs.rflags }
        launched := true }
      { s with vmcs := s.vmcs.afterExit s.input.exit.fields, exited := true } op
    rw [henter]
    constructor
    · rintro ⟨r, hr, hop⟩
      rw [← Except.ok.inj hr] at hop
      obtain ⟨hread, hrest⟩ := hdispatch.mp hop
      exact ⟨rfl, ⟨hread.rip, hread.rsp, hread.rflags, hread.exitReason⟩, hrest⟩
    · rintro ⟨-, hread, hrest⟩
      exact ⟨_, rfl, hdispatch.mpr ⟨⟨hread.rip, hread.rsp, hread.rflags, hread.exitReason⟩, hrest⟩⟩

theorem mem_xsetbvs_iff (c : VmxCpu) (x : VmxCpu.VmxInput) (op : Xsetbv) :
    op ∈ xsetbvs c x ↔ VmxXsetbv c x ∧ op = x.exit.regs.xsetbv := by
  have hcpu : Alone.cpu ⟨c.vmcs, x, !c.launched, false⟩ c = c := rfl
  have htsc : (Alone.env ⟨c.vmcs, x, !c.launched, false⟩).tsc = x.entryTsc := rfl
  unfold xsetbvs run
  rw [Prog.mem_executed_bind quiet_activate, alone_activate]
  constructor
  · rintro ⟨r, hr, hop⟩
    split at hr
    · rename_i hactivated
      rw [← Except.ok.inj hr, Prog.mem_executed_bind (quiet_enter c), alone_enter, hcpu, htsc] at hop
      obtain ⟨r', hr', hop⟩ := hop
      obtain ⟨entered, henter, rfl⟩ := map_ok_iff.mp hr'
      obtain ⟨hfailed, hread, hreason, hop⟩ := (mem_afterEntry_iff _ _ op).mp hop
      exact ⟨⟨hactivated, ⟨entered, henter, hread⟩, hfailed, hreason⟩, hop⟩
    · cases hr
  · rintro ⟨⟨hactivated, ⟨entered, henter, hread⟩, hfailed, hreason⟩, hop⟩
    refine ⟨_, if_pos hactivated, ?_⟩
    rw [Prog.mem_executed_bind (quiet_enter c), alone_enter, hcpu, htsc]
    exact ⟨_, map_ok_iff.mpr ⟨entered, henter, rfl⟩, (mem_afterEntry_iff _ _ op).mpr ⟨hfailed, hread, hreason, hop⟩⟩

/-- A call that does not fail has executed what its result says. -/
theorem run_xsetbv_iff {c : VmxCpu} {x : VmxCpu.VmxInput} {r : Handled VmxCpu} (h : c.run x = .ok r) (op : Xsetbv) :
    r.xsetbv = some op ↔ op ∈ xsetbvs c x := by
  rw [mem_xsetbvs_iff]
  unfold VmxCpu.run at h
  split at h
  · cases h
  rename_i hactivated
  obtain ⟨entered, henter, h⟩ := bind_ok h
  split at h
  · split at h
    · cases h
    · cases h
  rename_i hfailed
  obtain ⟨saved, hsave, hrest⟩ := bind_ok h
  obtain ⟨reason, hread, -⟩ := bind_ok hrest
  obtain ⟨⟨hrip, hrsp, hrflags⟩, rfl⟩ := saveGuestRegisters_iff.mp hsave
  have hreadable : Readable entered.vmcs := ⟨hrip, hrsp, hrflags, (Vmcs.read_ok_iff.mp hread).1⟩
  obtain ⟨rip, rsp, rflags, basic, hbasic, hhandle⟩ := dispatch_handle h
  constructor
  · intro hop
    cases handle_handles hhandle with
    | xsetbv len =>
      have hreached : VmxXsetbv c x :=
        ⟨Bool.not_eq_false _ ▸ hactivated, ⟨entered, henter, hreadable⟩, Bool.not_eq_true _ ▸ hfailed, hbasic⟩
      exact ⟨hreached, (Option.some.inj hop).symm⟩
    | externalInterrupt | interruptWindow | tripleFault | rdmsr | wrmsr | cpuid | ioInstruction | timer => cases hop
  · rintro ⟨hreached, rfl⟩
    obtain rfl : basic = .xsetbv := Option.some.inj (hbasic.symm.trans hreached.reason)
    cases handle_handles hhandle with
    | xsetbv len => rfl

end Steps

end Rhyve.Vmx
