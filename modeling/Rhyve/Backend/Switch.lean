import Rhyve.Backend.Shadow
import Rhyve.Vmx.Xsetbv

/-! # Calls of `run`, as the FP registers see them

Both `run` functions switch the FP registers around the entry, and execute the XSETBV of a guest on the host.

* `SwitchCall`: whether a call gets to the switch and to the guest, and what it returns.
* `VmxAsks`, `SvmAsks`: the guest has left with an XSETBV, with these operands.
* `XsetbvPath`: how the operands of the guest get to the host; `vmxPath`, `svmPath`.
-/

namespace Rhyve.Backend
open Machine Vmx Svm
set_option autoImplicit false

variable {β ι : Type}

/-- A call of `run` as the FP switch sees it. -/
structure SwitchCall (β : Type) where
  /-- It does not return before the FP switch. -/
  reached : Bool
  entered : Bool
  result : Except HypervisorError (Handled β)

/-- The registers are what the driver left in them. -/
def vmxSwitchCall (c : VmxCpu) (i : GuestRegisters × VmxCpu.VmxInput) : SwitchCall VmxCpu :=
  let c := { c with regs := i.1 }
  { reached := i.2.activated && (c.enter i.2.entryTsc).toBool
    entered := !i.2.entryFailed
    result := c.run i.2 }

/-- On AMD-V the switch is always reached, and a refused VMRUN has its own exit code. -/
def svmSwitchCall (c : SvmCpu) (i : GuestRegisters × SvmCpu.SvmInput) : SwitchCall SvmCpu :=
  let c := { c with regs := i.1 }
  { reached := true
    entered := ((c.enter i.2.entryTsc).exited i.2.exit).vmcb.readU64 exitcodeField != ExitCode.invalid
    result := c.run i.2 }

/-- Between the guest's registers and the host's XSETBV nothing is checked or changed. -/
structure XsetbvPath (call : β → ι → SwitchCall β) (executed : β → ι → List Xsetbv) (asked : β → ι → Xsetbv → Prop) :
    Prop where
  operands : ∀ c i op, op ∈ executed c i ↔ asked c i op
  reached : ∀ c i op, op ∈ executed c i → (call c i).reached = true
  result : ∀ c i r, (call c i).result = .ok r → ∀ op, r.xsetbv = some op ↔ op ∈ executed c i

/-! ## The two backends -/

/-- ECX, EAX and EDX, as the instruction takes them. -/
def askedXsetbv (r : GuestRegisters) : Xsetbv := ⟨r.rcx.setWidth 32, r.rax.setWidth 32, r.rdx.setWidth 32⟩

theorem xsetbv_asked (r : GuestRegisters) : r.xsetbv = askedXsetbv r := by
  have hmask : ∀ k : Fin 64, (0xffffffff#64).getLsbD k.val = decide (k.val < 32) := by decide
  have heax : r.edxEax.setWidth 32 = r.rax.setWidth 32 := by
    apply BitVec.eq_of_getLsbD_eq
    intro i hi
    have hlow : (0xffffffff#64).getLsbD i = decide (i < 32) := hmask ⟨i, by omega⟩
    rw [BitVec.getLsbD_setWidth, BitVec.getLsbD_setWidth, GuestRegisters.edxEax, BitVec.getLsbD_or,
      BitVec.getLsbD_shiftLeft, BitVec.getLsbD_and, hlow]
    simp [hi]
  have hedx : (r.edxEax >>> 32).setWidth 32 = r.rdx.setWidth 32 := by
    apply BitVec.eq_of_getLsbD_eq
    intro i hi
    have hhigh : (0xffffffff#64).getLsbD (32 + i) = decide (32 + i < 32) := hmask ⟨32 + i, by omega⟩
    have hlt : 32 + i < 64 := by omega
    rw [BitVec.getLsbD_setWidth, BitVec.getLsbD_setWidth, BitVec.getLsbD_ushiftRight, GuestRegisters.edxEax,
      BitVec.getLsbD_or, BitVec.getLsbD_shiftLeft, BitVec.getLsbD_and, hhigh]
    simp [hlt]
  unfold GuestRegisters.xsetbv askedXsetbv
  rw [heax, hedx]

def vmxXsetbvs (c : VmxCpu) (i : GuestRegisters × VmxCpu.VmxInput) : List Xsetbv :=
  Steps.xsetbvs { c with regs := i.1 } i.2

def VmxAsks (c : VmxCpu) (i : GuestRegisters × VmxCpu.VmxInput) (op : Xsetbv) : Prop :=
  Steps.VmxXsetbv { c with regs := i.1 } i.2 ∧ op = askedXsetbv i.2.exit.regs

theorem vmxPath : XsetbvPath vmxSwitchCall vmxXsetbvs VmxAsks := by
  have hoperands : ∀ c i op, op ∈ vmxXsetbvs c i ↔ VmxAsks c i op := by
    intro c i op
    unfold vmxXsetbvs VmxAsks
    rw [Steps.mem_xsetbvs_iff, xsetbv_asked]
  refine ⟨hoperands, ?_, ?_⟩
  · intro c i op hop
    obtain ⟨⟨hactivated, ⟨entered, henter, -⟩, -, -⟩, -⟩ := (hoperands c i op).mp hop
    unfold vmxSwitchCall
    dsimp only
    rw [hactivated, henter]
    rfl
  · intro c i r hr op
    exact Steps.run_xsetbv_iff hr op

/-- The handler cannot fail after its XSETBV. -/
def svmXsetbvs (c : SvmCpu) (i : GuestRegisters × SvmCpu.SvmInput) : List Xsetbv :=
  ((svmSwitchCall c i).result.toOption.bind Handled.xsetbv).toList

/-- The guest has executed an XSETBV with this operand. RAX is in the VMCB. -/
def SvmAsks (_ : SvmCpu) (i : GuestRegisters × SvmCpu.SvmInput) (op : Xsetbv) : Prop :=
  i.2.exit.vmcb.readU64 exitcodeField = ExitCode.xsetbv ∧
    op = askedXsetbv { i.2.exit.regs with rax := i.2.exit.vmcb.readU64 saveRax }

theorem svm_handle_xsetbv (c : SvmCpu) (env : HostEnv) (code : BitVec 64) (op : Xsetbv) :
    (∃ r, c.handle env code = .ok r ∧ r.xsetbv = some op) ↔ code = ExitCode.xsetbv ∧ op = c.regs.xsetbv := by
  constructor
  · rintro ⟨r, hr, hop⟩
    cases SvmCpu.handle_handles hr with
    | xsetbv => exact ⟨rfl, (Option.some.inj hop).symm⟩
    | intr | pause | hlt | cpuid | wrmsr | rdmsr | ioio | shutdown => cases hop
  · rintro ⟨rfl, rfl⟩
    exact ⟨_, rfl, rfl⟩

theorem svm_dispatch_xsetbv (c : SvmCpu) (x : SvmCpu.SvmExit) (env : HostEnv) (op : Xsetbv) :
    (∃ r, (c.exited x).dispatch env = .ok r ∧ r.xsetbv = some op) ↔
      x.vmcb.readU64 exitcodeField = ExitCode.xsetbv ∧
        op = askedXsetbv { x.regs with rax := x.vmcb.readU64 saveRax } := by
  have hcode : (c.exited x).saveGuestRegisters.vmcb.readU64 exitcodeField = x.vmcb.readU64 exitcodeField :=
    Vmcb.readU64_saved c.vmcb x.vmcb exitcodeField (by decide)
  have hrax : (c.exited x).saveGuestRegisters.regs.rax = x.vmcb.readU64 saveRax :=
    Vmcb.readU64_saved c.vmcb x.vmcb saveRax (by decide)
  have hop : askedXsetbv (c.exited x).saveGuestRegisters.regs =
      askedXsetbv { x.regs with rax := x.vmcb.readU64 saveRax } := by
    unfold askedXsetbv
    rw [hrax]
    rfl
  unfold SvmCpu.dispatch
  dsimp only
  rw [svm_handle_xsetbv, hcode, xsetbv_asked, hop]

theorem svmPath : XsetbvPath svmSwitchCall svmXsetbvs SvmAsks := by
  have hmem : ∀ c i op, op ∈ svmXsetbvs c i ↔ ∃ r, (svmSwitchCall c i).result = .ok r ∧ r.xsetbv = some op := by
    intro c i op
    unfold svmXsetbvs
    rw [Option.mem_toList, Option.bind_eq_some_iff]
    cases (svmSwitchCall c i).result with
    | error e => simp [Except.toOption]
    | ok r => simp [Except.toOption]
  refine ⟨?_, fun _ _ _ _ => rfl, ?_⟩
  · intro c i op
    have hdispatch := svm_dispatch_xsetbv (({ c with regs := i.1 } : SvmCpu).enter i.2.entryTsc) i.2.exit i.2.env op
    rw [hmem]
    unfold svmSwitchCall SvmAsks SvmCpu.run
    dsimp only
    rw [hdispatch]
  · intro c i r hr op
    rw [hmem]
    constructor
    · exact fun hop => ⟨r, hr, hop⟩
    · rintro ⟨r', hr', hop⟩
      rw [Except.ok.inj (hr.symm.trans hr')]
      exact hop

end Rhyve.Backend
