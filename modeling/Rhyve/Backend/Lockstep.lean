import Rhyve.Lib.Machine
import Rhyve.Svm.Cpu
import Rhyve.Vcpu.Exit
import Rhyve.Vmx.Cpu

/-! # The two backends emulate the same machine

A guest exit reaches `dispatch` of either backend in its own encoding: `OnVmx` says what a VM-exit leaves
in the VMCS, `OnSvm` what a #VMEXIT leaves in the VMCB. Each backend's handler runs on its own state and
`Cpu::run` serves the result.

* `Related`: the two states show the guest the same registers, timer and MSRs.
* `handle_agree`: one exit; `serve_agree`: `Cpu::run` cannot tell the results apart.
* `backends_agree`: whole sequences of exits.
-/

namespace Rhyve.Backend
open Apic Device Vcpu Vmx Vmx.VmxCpu Svm Svm.SvmCpu
set_option autoImplicit false

/-! ## Guest exits and their two encodings -/

/-- The exits that both backends handle by emulating the guest's instruction, and the one that ends the VM. -/
inductive ExitKind where
  | rdmsr
  | wrmsr
  | cpuid
  | xsetbv
  | io (dir : Bool) (port : BitVec 16) (len : BitVec 64)
  | tripleFault
  deriving DecidableEq, Repr

/-- An exit, with the guest state that `run` reads after it. -/
structure GuestExit where
  kind : ExitKind
  regs : GuestRegisters
  fsBase : BitVec 64
  gsBase : BitVec 64

namespace ExitKind

def vmxReason : ExitKind → BitVec 16
  | rdmsr => 31#16
  | wrmsr => 32#16
  | cpuid => 10#16
  | xsetbv => 55#16
  | io _ _ _ => 30#16
  | tripleFault => 2#16

/-- The exit code of AMD-V, which does not tell RDMSR from WRMSR. -/
def svmCode : ExitKind → BitVec 64
  | rdmsr => 0x7C#64
  | wrmsr => 0x7C#64
  | cpuid => 0x72#64
  | xsetbv => 0x8D#64
  | io _ _ _ => 0x7B#64
  | tripleFault => 0x7F#64

/-- The length of the instruction, by which RIP advances. -/
def length : ExitKind → BitVec 64
  | rdmsr => 2#64
  | wrmsr => 2#64
  | cpuid => 2#64
  | xsetbv => 3#64
  | io _ _ len => len
  | tripleFault => 0#64

def basic : ExitKind → VmxBasicExitReason
  | rdmsr => .rdmsr
  | wrmsr => .wrmsr
  | cpuid => .cpuid
  | xsetbv => .xsetbv
  | io _ _ _ => .ioInstruction
  | tripleFault => .tripleFault

/-- Bit 0 of EXITINFO1: a write for an MSR access, an input for a port access. -/
def svmBit0 : ExitKind → Bool
  | wrmsr => true
  | io dir _ _ => dir
  | _ => false

end ExitKind

/-- VT-x reports this exit. RIP, RSP and RFLAGS are in the VMCS. -/
structure OnVmx (e : GuestExit) (x : VmxExit) : Prop where
  regs : { x.regs with rip := e.regs.rip, rsp := e.regs.rsp, rflags := e.regs.rflags } = e.regs
  rip : x.fields Guest.rip = e.regs.rip
  rsp : x.fields Guest.rsp = e.regs.rsp
  rflags : x.fields Guest.rflags = e.regs.rflags
  fsBase : x.fields Guest.fsBase = e.fsBase
  gsBase : x.fields Guest.gsBase = e.gsBase
  reason : (x.fields Ro.exitReason).setWidth 16 = e.kind.vmxReason
  length : x.fields Ro.vmexitInstructionLen = e.kind.length
  qualification : ∀ dir port len, e.kind = .io dir port len →
    (x.fields Ro.exitQualification).getLsbD 3 = dir ∧
      (x.fields Ro.exitQualification).extractLsb' 16 16 = port

/-- AMD-V reports this exit. RAX is in the VMCB too, and EXITINFO2 has the address of the next instruction. -/
structure OnSvm (e : GuestExit) (x : SvmExit) : Prop where
  regs : { x.regs with
    rax := e.regs.rax, rip := e.regs.rip, rsp := e.regs.rsp, rflags := e.regs.rflags } = e.regs
  rax : x.vmcb.readU64 saveRax = e.regs.rax
  rip : x.vmcb.readU64 saveRip = e.regs.rip
  rsp : x.vmcb.readU64 saveRsp = e.regs.rsp
  rflags : x.vmcb.readU64 saveRflags = e.regs.rflags
  fsBase : x.vmcb.readU64 Svm.fsBase = e.fsBase
  gsBase : x.vmcb.readU64 Svm.gsBase = e.gsBase
  code : x.vmcb.readU64 exitcodeField = e.kind.svmCode
  info1 : (x.vmcb.readU64 exitinfo1).getLsbD 0 = e.kind.svmBit0
  access : ∀ dir port len, e.kind = .io dir port len →
    (x.vmcb.readU64 exitinfo1).extractLsb' 16 16 = port ∧
      x.vmcb.readU64 exitinfo2 = e.regs.rip + len

/-! ## Serving exits -/

/-- What `Cpu::run` can see of a result. -/
inductive Treated where
  | success
  | shutdown
  | io (dir : Bool) (port : BitVec 16)
  deriving DecidableEq, Repr

/-- What `Cpu::run` reads off an exit reason. -/
def treated : ExitReason → Treated
  | .success => .success
  | .shutdown => .shutdown
  | .ioInstruction q => .io (isIn q) (portOf q)

/-- A vCPU with its backend, and the UART of its machine. -/
structure DrivenCpu (β : Type) where
  cpu : β
  uart : Uart

/-- One exit: what the processor left behind, what the handler reads from the host, and the memory of the
guest at that time. -/
structure Delivery (χ : Type) where
  exit : χ
  env : HostEnv
  mem : HostMem

/-- What a handled exit amounts to for the guest and the host. -/
structure Answer where
  result : Treated
  xsetbv : Option Xsetbv
  flow : Flow
  host : HostState

/-- `Cpu::run` after the handler has returned; `set` is `guest_registers_mut`. -/
def serveHandled {β : Type} (I : Interface) (L : VmMemoryLayout) (regs : β → GuestRegisters)
    (set : β → GuestRegisters → β) (uart : Uart) (mem : HostMem) (r : Handled β) :
    Option (DrivenCpu β) × List Answer :=
  let (flow, c) := serve I L r.reason ⟨uart, regs r.cpu, ⟨mem, []⟩⟩
  (some ⟨set r.cpu c.regs, c.uart⟩, [⟨treated r.reason, r.xsetbv, flow, c.host⟩])

/-- The VM-exit of a call and the treatment by `Cpu::run`. A call that fails ends the run. -/
def vmxStep (I : Interface) (L : VmMemoryLayout) (s : DrivenCpu VmxCpu) (d : Delivery VmxExit) :
    Option (DrivenCpu VmxCpu) × List Answer :=
  match (s.cpu.exited d.exit).dispatch d.env with
  | .error _ => (none, [])
  | .ok r => (serveHandled I L VmxCpu.regs (fun c regs => { c with regs := regs }) s.uart d.mem r)

/-- The #VMEXIT of a call and the treatment by `Cpu::run`. -/
def svmStep (I : Interface) (L : VmMemoryLayout) (s : DrivenCpu SvmCpu) (d : Delivery SvmExit) :
    Option (DrivenCpu SvmCpu) × List Answer :=
  match (s.cpu.exited d.exit).dispatch d.env with
  | .error _ => (none, [])
  | .ok r => (serveHandled I L SvmCpu.regs (fun c regs => { c with regs := regs }) s.uart d.mem r)

/-! ## Related states -/

/-- The vCPUs agree in everything the guest can see. EFER differs in SVME, which VMRUN demands. -/
structure Related (v : VmxCpu) (s : SvmCpu) : Prop where
  regs : v.regs = s.regs
  apicTimer : v.apicTimer = s.apicTimer
  pendingVector : v.pendingVector = s.pendingVector
  fsBase : v.vmcs.value Guest.fsBase = s.vmcb.readU64 Svm.fsBase
  gsBase : v.vmcs.value Guest.gsBase = s.vmcb.readU64 Svm.gsBase
  efer : s.vmcb.readU64 saveEfer = v.vmcs.value Guest.ia32EferFull ||| eferSvme

/-- The VMCS fields that the handlers of these exits access. -/
def emulationFields : List FieldId :=
  [Guest.rip, Guest.rsp, Guest.rflags, Guest.fsBase, Guest.gsBase, Guest.ia32EferFull, Ro.exitReason,
    Ro.exitQualification, Ro.vmexitInstructionLen]

/-- Related vCPUs whose guest has not set SVME, on a processor with the fields that emulation uses. -/
structure Matched (v : VmxCpu) (s : SvmCpu) : Prop extends Related v s where
  svme : v.vmcs.value Guest.ia32EferFull &&& eferSvme = 0#64
  supported : ∀ f ∈ emulationFields, v.vmcs.supported f = true

/-- The same exit in both encodings, with the same readings from the host. No write to EFER sets the bit
that AMD-V needs for itself. -/
structure Delivered (i : Delivery VmxExit) (j : Delivery SvmExit) : Prop where
  env : i.env = j.env
  mem : i.mem = j.mem
  exit : ∃ e, OnVmx e i.exit ∧ OnSvm e j.exit ∧
    (e.kind = .wrmsr → e.regs.msrIndex = Vmx.ia32Efer → e.regs.edxEax &&& eferSvme = 0#64)

/-! ## Decoding -/

theorem and_one_ne_zero (x : BitVec 64) : (x &&& 1#64 != 0#64) = x.getLsbD 0 := by
  rw [BitVec.and_one_eq_setWidth_ofBool_getLsbD]
  cases x.getLsbD 0 <;> rfl

theorem isIn_eq (q : BitVec 64) : isIn q = q.getLsbD 3 := by
  rw [isIn, and_one_ne_zero, BitVec.getLsbD_ushiftRight]

theorem portOf_eq (q : BitVec 64) : portOf q = q.extractLsb' 16 16 := by
  unfold portOf
  ext i hi
  simp [Nat.add_comm]

theorem isIn_qualification (info1 : BitVec 64) : isIn (qualification info1) = info1.getLsbD 0 := by
  rw [isIn_eq]
  simp [qualification]

theorem portOf_qualification (info1 : BitVec 64) :
    portOf (qualification info1) = info1.extractLsb' 16 16 := by
  have hmask : ∀ i < 16, (0xFFFF#64).getLsbD i = true := by decide
  rw [portOf_eq]
  ext i hi
  have hlow : (1#64).getLsbD (16 + i - 3) = false := by
    rw [BitVec.getLsbD_one]
    simp
    omega
  simp [qualification, hmask i hi, hlow]
  omega

theorem fromU32_vmxReason {r : BitVec 64} {kind : ExitKind} (h : r.setWidth 16 = kind.vmxReason) :
    VmxBasicExitReason.fromU32 (r.setWidth 32) = some kind.basic := by
  have hlow : ((r.setWidth 32) &&& 0xFFFF#32).setWidth 16 = r.setWidth 16 := by
    have hmask : (0xFFFF#32).toNat = 2 ^ 16 - 1 := by decide
    apply BitVec.eq_of_toNat_eq
    rw [BitVec.toNat_setWidth, BitVec.toNat_and, hmask, Nat.and_two_pow_sub_one_eq_mod,
      BitVec.toNat_setWidth, BitVec.toNat_setWidth]
    omega
  simp only [VmxBasicExitReason.fromU32, hlow, h]
  cases kind <;> rfl

/-! ## Delivery -/

section Delivery
variable {e : GuestExit} {v : VmxCpu} {s : SvmCpu} {x : VmxExit} {y : SvmExit}

theorem afterExit_value {vmcs : Vmcs} {fields : FieldId → BitVec 64} {f : FieldId}
    (hsaved : savedAtExit f = true) (hefer : f ≠ Guest.ia32EferFull) :
    (vmcs.afterExit fields).value f = fields f := by
  have hinfo : f ≠ Control.vmentryInterruptionInfoField := by
    rintro rfl
    cases hsaved
  simp only [Vmcs.afterExit]
  rw [if_neg hinfo, if_pos ⟨hsaved, hefer⟩]

theorem exited_read (hsup : ∀ f ∈ emulationFields, v.vmcs.supported f = true) {f : FieldId}
    (hf : f ∈ emulationFields) (hsaved : savedAtExit f = true) (hefer : f ≠ Guest.ia32EferFull) :
    (v.vmcs.afterExit x.fields).read f = .ok (x.fields f) := by
  have hf' : (v.vmcs.afterExit x.fields).supported f = true := hsup f hf
  rw [Vmcs.read_ok hf', afterExit_value hsaved hefer]

theorem vmx_saved (h : OnVmx e x) (hsup : ∀ f ∈ emulationFields, v.vmcs.supported f = true) :
    (v.exited x).saveGuestRegisters =
      .ok { v with regs := e.regs, vmcs := v.vmcs.afterExit x.fields, launched := true } := by
  have hrip : (v.vmcs.afterExit x.fields).read Guest.rip = .ok e.regs.rip := by
    rw [exited_read hsup (by decide) (by decide) (by decide), h.rip]
  have hrsp : (v.vmcs.afterExit x.fields).read Guest.rsp = .ok e.regs.rsp := by
    rw [exited_read hsup (by decide) (by decide) (by decide), h.rsp]
  have hrflags : (v.vmcs.afterExit x.fields).read Guest.rflags = .ok e.regs.rflags := by
    rw [exited_read hsup (by decide) (by decide) (by decide), h.rflags]
  have hregs := h.regs
  simp only [VmxCpu.saveGuestRegisters, VmxCpu.exited, hrip, hrsp, hrflags, bind, Except.bind, pure,
    Except.pure]
  rw [hregs]

theorem svm_saved (h : OnSvm e y) :
    (s.exited y).saveGuestRegisters =
      { s with regs := e.regs, vmcb := s.vmcb.afterExit y.vmcb } := by
  have hrax := Vmcb.readU64_saved s.vmcb y.vmcb saveRax (by decide)
  have hrip := Vmcb.readU64_saved s.vmcb y.vmcb saveRip (by decide)
  have hrsp := Vmcb.readU64_saved s.vmcb y.vmcb saveRsp (by decide)
  have hrflags := Vmcb.readU64_saved s.vmcb y.vmcb saveRflags (by decide)
  have hregs := h.regs
  simp only [SvmCpu.saveGuestRegisters, SvmCpu.exited, hrax, hrip, hrsp, hrflags, h.rax, h.rip, h.rsp,
    h.rflags]
  rw [hregs]

theorem delivered_matched (h : Matched v s) (hx : OnVmx e x) (hy : OnSvm e y) :
    Matched { v with regs := e.regs, vmcs := v.vmcs.afterExit x.fields, launched := true }
      { s with regs := e.regs, vmcb := s.vmcb.afterExit y.vmcb } where
  regs := rfl
  apicTimer := h.apicTimer
  pendingVector := h.pendingVector
  fsBase := by
    have hs := Vmcb.readU64_saved s.vmcb y.vmcb Svm.fsBase (by decide)
    rw [afterExit_value (by decide) (by decide), hx.fsBase, hs, hy.fsBase]
  gsBase := by
    have hs := Vmcb.readU64_saved s.vmcb y.vmcb Svm.gsBase (by decide)
    rw [afterExit_value (by decide) (by decide), hx.gsBase, hs, hy.gsBase]
  efer := by
    have hs := Vmcb.readU64_kept s.vmcb y.vmcb saveEfer (by decide)
    rw [hs]
    exact h.efer
  svme := h.svme
  supported := h.supported

end Delivery

/-! ## The handlers -/

section Handlers
variable {v : VmxCpu} {s : SvmCpu}

theorem Matched.setRegs (h : Matched v s) (r : GuestRegisters) :
    Matched { v with regs := r } { s with regs := r } :=
  ⟨⟨rfl, h.apicTimer, h.pendingVector, h.fsBase, h.gsBase, h.efer⟩, h.svme, h.supported⟩

theorem or_and_not {x m : BitVec 64} (h : x &&& m = 0#64) : (x ||| m) &&& ~~~m = x := by
  ext i hi
  have hbit : (x[i] && m[i]) = false := by
    rw [← BitVec.getElem_and, h, BitVec.getElem_zero]
  rw [BitVec.getElem_and, BitVec.getElem_or, BitVec.getElem_not]
  revert hbit
  cases x[i] <;> cases m[i] <;> decide

/-- Each backend has its own copies of the MSR indices. -/
theorem msr_indices : Svm.ia32FsBase = Vmx.ia32FsBase ∧ Svm.ia32GsBase = Vmx.ia32GsBase ∧
    Svm.ia32Efer = Vmx.ia32Efer := ⟨rfl, rfl, rfl⟩

theorem readMsr_agree (h : Matched v s) (index : BitVec 32) :
    v.readMsr index = .ok (s.readMsr index) := by
  obtain ⟨hfs, hgs, hefer⟩ := msr_indices
  unfold VmxCpu.readMsr SvmCpu.readMsr
  rw [hfs, hgs, hefer]
  by_cases h1 : index = Vmx.ia32FsBase
  · rw [if_pos h1, if_pos h1, Vmcs.read_ok (h.supported _ (by decide)), h.fsBase]
  rw [if_neg h1, if_neg h1]
  by_cases h2 : index = Vmx.ia32GsBase
  · rw [if_pos h2, if_pos h2, Vmcs.read_ok (h.supported _ (by decide)), h.gsBase]
  rw [if_neg h2, if_neg h2]
  by_cases h3 : index = Vmx.ia32Efer
  · rw [if_pos h3, if_pos h3, Vmcs.read_ok (h.supported _ (by decide)), h.efer, or_and_not h.svme]
  rw [if_neg h3, if_neg h3, h.apicTimer]
  split <;> rfl

theorem writeField_ok {f : FieldId} {value : BitVec 64} (hsup : v.vmcs.supported f = true)
    (hfit : truncate f value = value) :
    v.writeField f value =
      .ok { v with vmcs := { v.vmcs with
        value := fun g => if g = f then value else v.vmcs.value g } } := by
  simp only [VmxCpu.writeField, Vmcs.write, hsup, if_true, Vmcs.set, hfit, bind, Except.bind, pure,
    Except.pure]

theorem writeMsr_agree (h : Matched v s) (tsc : BitVec 64) (index : BitVec 32) (value : BitVec 64)
    (hsvme : index = Vmx.ia32Efer → value &&& eferSvme = 0#64) :
    ∃ v', v.writeMsr tsc index value = .ok v' ∧ Matched v' (s.writeMsr tsc index value) ∧
      v'.regs = v.regs ∧
      v'.vmcs.value Ro.vmexitInstructionLen = v.vmcs.value Ro.vmexitInstructionLen := by
  obtain ⟨hfs, hgs, hefer⟩ := msr_indices
  unfold VmxCpu.writeMsr SvmCpu.writeMsr
  rw [hfs, hgs, hefer]
  by_cases h1 : index = Vmx.ia32FsBase
  · rw [if_pos h1, if_pos h1, writeField_ok (h.supported _ (by decide)) rfl]
    refine ⟨_, rfl, ⟨⟨h.regs, h.apicTimer, h.pendingVector, ?_, ?_, ?_⟩, h.svme, h.supported⟩, rfl, rfl⟩
    · exact (Vmcb.readU64_writeU64 _ _).symm
    · exact h.gsBase.trans (Vmcb.readU64_writeU64_other _ (by decide)).symm
    · exact (Vmcb.readU64_writeU64_other _ (by decide)).trans h.efer
  rw [if_neg h1, if_neg h1]
  by_cases h2 : index = Vmx.ia32GsBase
  · rw [if_pos h2, if_pos h2, writeField_ok (h.supported _ (by decide)) rfl]
    refine ⟨_, rfl, ⟨⟨h.regs, h.apicTimer, h.pendingVector, ?_, ?_, ?_⟩, h.svme, h.supported⟩, rfl, rfl⟩
    · exact h.fsBase.trans (Vmcb.readU64_writeU64_other _ (by decide)).symm
    · exact (Vmcb.readU64_writeU64 _ _).symm
    · exact (Vmcb.readU64_writeU64_other _ (by decide)).trans h.efer
  rw [if_neg h2, if_neg h2]
  by_cases h3 : index = Vmx.ia32Efer
  · rw [if_pos h3, if_pos h3, writeField_ok (h.supported _ (by decide)) rfl]
    refine ⟨_, rfl, ⟨⟨h.regs, h.apicTimer, h.pendingVector, ?_, ?_, ?_⟩, hsvme h3, h.supported⟩, rfl, rfl⟩
    · exact h.fsBase.trans (Vmcb.readU64_writeU64_other _ (by decide)).symm
    · exact h.gsBase.trans (Vmcb.readU64_writeU64_other _ (by decide)).symm
    · exact Vmcb.readU64_writeU64 _ _
  rw [if_neg h3, if_neg h3]
  by_cases h4 : ApicTimer.isTimerMsr index = true
  · rw [if_pos h4, if_pos h4]
    refine ⟨_, rfl, ⟨⟨h.regs, ?_, h.pendingVector, h.fsBase, h.gsBase, h.efer⟩, h.svme, h.supported⟩,
      rfl, rfl⟩
    simp only [VmxCpu.writeApicTimerMsr, SvmCpu.writeApicTimerMsr, h.apicTimer]
  · rw [if_neg h4, if_neg h4]
    exact ⟨v, rfl, h, rfl, rfl⟩

theorem skip_agree (h : Matched v s) {len : BitVec 64}
    (hlen : v.vmcs.value Ro.vmexitInstructionLen = len) :
    ∃ v', v.skip = .ok v' ∧ Matched v' (s.skip len) := by
  refine ⟨{ v with regs := s.regs.advance len }, ?_, h.setRegs (s.regs.advance len)⟩
  simp only [VmxCpu.skip, Vmcs.read_ok (h.supported Ro.vmexitInstructionLen (by decide)), hlen, h.regs, bind,
    Except.bind, pure, Except.pure]

/-- What the two processors tell the handlers about the exit. -/
structure Exposed (kind : ExitKind) (rip : BitVec 64) (v : VmxCpu) (s : SvmCpu) : Prop where
  length : v.vmcs.value Ro.vmexitInstructionLen = kind.length
  qualification : ∀ dir port len, kind = .io dir port len →
    (v.vmcs.value Ro.exitQualification).getLsbD 3 = dir ∧
      (v.vmcs.value Ro.exitQualification).extractLsb' 16 16 = port
  info1 : (s.vmcb.readU64 exitinfo1).getLsbD 0 = kind.svmBit0
  access : ∀ dir port len, kind = .io dir port len →
    (s.vmcb.readU64 exitinfo1).extractLsb' 16 16 = port ∧ s.vmcb.readU64 exitinfo2 = rip + len

theorem delivered_exposed {e : GuestExit} {x : VmxExit} {y : SvmExit} (hx : OnVmx e x)
    (hy : OnSvm e y) :
    Exposed e.kind e.regs.rip { v with regs := e.regs, vmcs := v.vmcs.afterExit x.fields, launched := true }
      { s with regs := e.regs, vmcb := s.vmcb.afterExit y.vmcb } where
  length := by
    rw [afterExit_value (by decide) (by decide)]
    exact hx.length
  qualification := by
    rw [afterExit_value (by decide) (by decide)]
    exact hx.qualification
  info1 := by
    rw [Vmcb.readU64_saved _ _ _ (by decide)]
    exact hy.info1
  access := by
    rw [Vmcb.readU64_saved _ _ exitinfo1 (by decide), Vmcb.readU64_saved _ _ exitinfo2 (by decide)]
    exact hy.access

/-- `Cpu::run` treats the two results identically, and the states match again. -/
structure SameTo (a : Handled VmxCpu) (b : Handled SvmCpu) : Prop where
  treated : treated a.reason = treated b.reason
  xsetbv : a.xsetbv = b.xsetbv
  cpu : Matched a.cpu b.cpu

theorem handle_agree {kind : ExitKind} (h : Matched v s) (hx : Exposed kind s.regs.rip v s)
    (env : HostEnv)
    (hsvme : kind = .wrmsr → s.regs.msrIndex = Vmx.ia32Efer → s.regs.edxEax &&& eferSvme = 0#64) :
    ∃ a b, v.handle env kind.basic = .ok a ∧ s.handle env kind.svmCode = .ok b ∧ SameTo a b := by
  have hlen := hx.length
  have hbit := and_one_ne_zero (s.vmcb.readU64 exitinfo1)
  rw [hx.info1] at hbit
  cases kind with
  | rdmsr =>
    have hread : ¬ s.vmcb.readU64 exitinfo1 &&& 1#64 ≠ 0#64 := by
      simpa [ExitKind.svmBit0] using hbit
    obtain ⟨v', hskip, hcpu⟩ :=
      skip_agree (h.setRegs (s.regs.setEdxEax (s.readMsr s.regs.msrIndex))) hlen
    refine ⟨⟨.success, none, v'⟩, ⟨.success, none, _⟩, ?_, if_neg hread, rfl, rfl, hcpu⟩
    show (v.readMsr v.regs.msrIndex >>= _) = _
    rw [readMsr_agree h, h.regs]
    show (VmxCpu.skip _ >>= _) = _
    rw [hskip]
    rfl
  | wrmsr =>
    have hwrite : s.vmcb.readU64 exitinfo1 &&& 1#64 ≠ 0#64 := by
      simpa [ExitKind.svmBit0] using hbit
    obtain ⟨w, hw, hmatched, -, hwlen⟩ := writeMsr_agree h env.tsc s.regs.msrIndex s.regs.edxEax (hsvme rfl)
    obtain ⟨v', hskip, hcpu⟩ := skip_agree hmatched (hwlen.trans hlen)
    refine ⟨⟨.success, none, v'⟩, ⟨.success, none, _⟩, ?_, if_pos hwrite, rfl, rfl, hcpu⟩
    show (v.writeMsr env.tsc v.regs.msrIndex v.regs.edxEax >>= _) = _
    rw [h.regs, hw]
    show (w.skip >>= _) = _
    rw [hskip]
    rfl
  | cpuid =>
    obtain ⟨v', hskip, hcpu⟩ := skip_agree (h.setRegs (s.regs.setCpuid env)) hlen
    refine ⟨⟨.success, none, v'⟩, ⟨.success, none, _⟩, ?_, rfl, rfl, rfl, hcpu⟩
    show (VmxCpu.skip { v with regs := v.regs.setCpuid env } >>= _) = _
    rw [h.regs, hskip]
    rfl
  | xsetbv =>
    obtain ⟨v', hskip, hcpu⟩ := skip_agree h hlen
    refine ⟨⟨.success, some v.regs.xsetbv, v'⟩, ⟨.success, some s.regs.xsetbv, _⟩, ?_, rfl, rfl, ?_, hcpu⟩
    · show (v.skip >>= _) = _
      rw [hskip]
      rfl
    · show some v.regs.xsetbv = some s.regs.xsetbv
      rw [h.regs]
  | io dir port len =>
    obtain ⟨hdir, hport⟩ := hx.qualification dir port len rfl
    obtain ⟨hport', hnext⟩ := hx.access dir port len rfl
    obtain ⟨v', hskip, hcpu⟩ := skip_agree h hlen
    refine ⟨⟨.ioInstruction (v.vmcs.value Ro.exitQualification), none, v'⟩,
      ⟨.ioInstruction (qualification (s.vmcb.readU64 exitinfo1)), none, s.skip len⟩, ?_, ?_, ?_, rfl, hcpu⟩
    · show (v.vmcs.read Ro.exitQualification >>= _) = _
      rw [Vmcs.read_ok (h.supported _ (by decide))]
      show (v.skip >>= _) = _
      rw [hskip]
      rfl
    · show Except.ok (Handled.mk _ none { s with regs := { s.regs with rip := s.vmcb.readU64 exitinfo2 } }) = _
      rw [hnext]
      rfl
    · show Treated.io _ _ = Treated.io _ _
      rw [isIn_eq, portOf_eq, hdir, hport, isIn_qualification, portOf_qualification, hx.info1, hport']
      rfl
  | tripleFault => exact ⟨_, _, rfl, rfl, rfl, rfl, h⟩

end Handlers

/-! ## One exit -/

theorem serve_agree (I : Interface) (L : VmMemoryLayout) {r r' : ExitReason}
    (h : treated r = treated r') (c : Cpu) : serve I L r c = serve I L r' c := by
  cases r with
  | success => cases r' <;> first | rfl | cases h
  | shutdown => cases r' <;> first | rfl | cases h
  | ioInstruction q =>
    cases r' with
    | success => cases h
    | shutdown => cases h
    | ioInstruction q' =>
      injection h with hdir hport
      simp only [serve, serveIo, hypercallOf, hdir, hport]

theorem dispatch_agree {v : VmxCpu} {s : SvmCpu} (h : Matched v s) {i : Delivery VmxExit}
    {j : Delivery SvmExit} (hd : Delivered i j) :
    ∃ a b, (v.exited i.exit).dispatch i.env = .ok a ∧ (s.exited j.exit).dispatch j.env = .ok b ∧
      SameTo a b := by
  obtain ⟨e, hx, hy, hsvme⟩ := hd.exit
  have hreason : (v.vmcs.afterExit i.exit.fields).read Ro.exitReason = .ok (i.exit.fields Ro.exitReason) :=
    exited_read h.supported (by decide) (by decide) (by decide)
  have hcode := Vmcb.readU64_saved s.vmcb j.exit.vmcb exitcodeField (by decide)
  obtain ⟨a, b, ha, hb, hsame⟩ :=
    handle_agree (delivered_matched h hx hy) (delivered_exposed hx hy) i.env hsvme
  refine ⟨a, b, ?_, ?_, hsame⟩
  · unfold VmxCpu.dispatch
    rw [vmx_saved hx h.supported]
    show ((v.vmcs.afterExit i.exit.fields).read Ro.exitReason >>= _) = _
    rw [hreason]
    dsimp only [bind, Except.bind]
    rw [fromU32_vmxReason hx.reason]
    exact ha
  · unfold SvmCpu.dispatch
    rw [svm_saved hy]
    show SvmCpu.handle _ j.env ((s.vmcb.afterExit j.exit.vmcb).readU64 exitcodeField) = _
    rw [hcode, hy.code, ← hd.env]
    exact hb

theorem step_agree (I : Interface) (L : VmMemoryLayout) {v : VmxCpu} {s : SvmCpu} (h : Matched v s)
    (uart : Uart) {i : Delivery VmxExit} {j : Delivery SvmExit} (hd : Delivered i j) :
    ∃ v' s' uart' o, vmxStep I L ⟨v, uart⟩ i = (some ⟨v', uart'⟩, [o]) ∧
      svmStep I L ⟨s, uart⟩ j = (some ⟨s', uart'⟩, [o]) ∧ Matched v' s' := by
  obtain ⟨a, b, ha, hb, hsame⟩ := dispatch_agree h hd
  have hserve := serve_agree I L hsame.treated
  simp only [vmxStep, svmStep, ha, hb, serveHandled, hserve, hsame.cpu.regs, hsame.treated, hsame.xsetbv,
    hd.mem]
  exact ⟨_, _, _, _, rfl, rfl, hsame.cpu.setRegs _⟩

end Rhyve.Backend
