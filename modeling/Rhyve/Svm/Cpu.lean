import Rhyve.Backend.Common
import Rhyve.Svm.Vmcb

/-! # The AMD-V backend of a vCPU (`svm/mod.rs`)

As in the VT-x backend, `run` is cut at the VMRUN into `enter` and `dispatch`. There is no preemption
timer: `serviceTimer` polls the deadline before every entry. The trampoline, the host-save area of the core
and the FPU state have modules of their own.
-/

namespace Rhyve.Svm
open Apic Backend ByteMem
set_option autoImplicit false

namespace ExitCode

def intr : BitVec 64 := 0x60#64
def cpuid : BitVec 64 := 0x72#64
def pause : BitVec 64 := 0x77#64
def hlt : BitVec 64 := 0x78#64
def ioio : BitVec 64 := 0x7B#64
def msr : BitVec 64 := 0x7C#64
def shutdown : BitVec 64 := 0x7F#64
def xsetbv : BitVec 64 := 0x8D#64
def invalid : BitVec 64 := BitVec.allOnes 64

end ExitCode

def ia32FsBase : BitVec 32 := 0xC0000100#32
def ia32GsBase : BitVec 32 := 0xC0000101#32
def ia32Efer : BitVec 32 := 0xC0000080#32

/-- `SvmCpu`, without the maps and areas that the trampoline and `new` use. -/
structure SvmCpu where
  vmcb : Vmcb
  regs : GuestRegisters
  apicTimer : ApicTimer
  pendingVector : Option (BitVec 8)

namespace SvmCpu

/-! ## Before the entry -/

def write (c : SvmCpu) (offset : ℕ) (value : BitVec 64) : SvmCpu :=
  { c with vmcb := (writeU64 offset value).apply c.vmcb }

/-- Mirrors the cached registers into the VMCB. -/
def loadGuestRegisters (c : SvmCpu) : SvmCpu :=
  { c with
    vmcb := c.vmcb.stores
      [writeU64 saveRax c.regs.rax, writeU64 saveRip c.regs.rip, writeU64 saveRsp c.regs.rsp,
        writeU64 saveRflags c.regs.rflags] }

/-- `service_timer`: AMD-V has no preemption timer, so the deadline is looked at before every entry. -/
def serviceTimer (c : SvmCpu) (tsc : BitVec 64) : SvmCpu :=
  match c.apicTimer.deadline with
  | none => c
  | some deadline =>
    if tsc < deadline then c
    else
      let (timer, pending) := c.apicTimer.expire deadline c.pendingVector
      { c with apicTimer := timer, pendingVector := pending }

/-- Valid (bit 31), external-interrupt type (bits 10:8 = 0), vector. -/
def eventInfo (vector : BitVec 8) : BitVec 64 := (1#64 <<< 31) ||| vector.setWidth 64

/-- RFLAGS.IF is set and there is no interrupt shadow. -/
def interruptible (rflags state : BitVec 64) : Prop :=
  rflags &&& (1#64 <<< 9) ≠ 0#64 ∧ state &&& 1#64 = 0#64

instance (rflags state : BitVec 64) : Decidable (interruptible rflags state) :=
  inferInstanceAs (Decidable (_ ∧ _))

/-- `inject_pending`. Without an injection EVENTINJ is cleared. -/
def injectPending (c : SvmCpu) : SvmCpu :=
  match c.pendingVector with
  | some vector =>
    if interruptible c.regs.rflags (c.vmcb.readU64 intState) then
      { c.write eventinj (eventInfo vector) with pendingVector := none }
    else c.write eventinj 0#64
  | none => c.write eventinj 0#64

def enter (c : SvmCpu) (tsc : BitVec 64) : SvmCpu :=
  ((c.loadGuestRegisters).serviceTimer tsc).injectPending

/-! ## The processor -/

/-- What a #VMEXIT leaves behind: the registers that the trampoline stores, and the bytes of the VMCB
that the processor may write. -/
structure SvmExit where
  regs : GuestRegisters
  vmcb : Vmcb

/-- The state after a #VMEXIT, before `run` has looked at it. RAX, RIP, RSP and RFLAGS are still the old ones.
-/
def exited (c : SvmCpu) (x : SvmExit) : SvmCpu :=
  { c with
    regs := { x.regs with
      rax := c.regs.rax, rip := c.regs.rip, rsp := c.regs.rsp, rflags := c.regs.rflags }
    vmcb := c.vmcb.afterExit x.vmcb }

/-! ## After the exit -/

def saveGuestRegisters (c : SvmCpu) : SvmCpu :=
  { c with regs := { c.regs with
      rax := c.vmcb.readU64 saveRax
      rip := c.vmcb.readU64 saveRip
      rsp := c.vmcb.readU64 saveRsp
      rflags := c.vmcb.readU64 saveRflags } }

/-- `read_msr`: MSRs that are not kept read as zero, and SVME is hidden. -/
def readMsr (c : SvmCpu) (index : BitVec 32) : BitVec 64 :=
  if index = ia32FsBase then c.vmcb.readU64 fsBase
  else if index = ia32GsBase then c.vmcb.readU64 gsBase
  else if index = ia32Efer then c.vmcb.readU64 saveEfer &&& ~~~eferSvme
  else if index = ia32TscDeadline then c.apicTimer.deadline.getD 0#64
  else 0#64

def writeApicTimerMsr (c : SvmCpu) (tsc : BitVec 64) (msr : BitVec 32) (value : BitVec 64) : SvmCpu :=
  { c with apicTimer := c.apicTimer.writeMsr tsc msr value }

/-- `write_msr`: writes to MSRs that are not kept are ignored. -/
def writeMsr (c : SvmCpu) (tsc : BitVec 64) (index : BitVec 32) (value : BitVec 64) : SvmCpu :=
  if index = ia32FsBase then c.write fsBase value
  else if index = ia32GsBase then c.write gsBase value
  else if index = ia32Efer then c.write saveEfer (value ||| eferSvme)
  else if ApicTimer.isTimerMsr index then c.writeApicTimerMsr tsc index value
  else c

def skip (c : SvmCpu) (len : BitVec 64) : SvmCpu := { c with regs := c.regs.advance len }

/-- The access repackaged into the layout of the VT-x exit qualification. -/
def qualification (info1 : BitVec 64) : BitVec 64 :=
  (((info1 >>> 16) &&& 0xFFFF#64) <<< 16) ||| ((info1 &&& 1#64) <<< 3)

/-- The match of `run` on the exit code, in the order of the source. -/
def handle (c : SvmCpu) (env : HostEnv) (exitcode : BitVec 64) :
    Except HypervisorError (Handled SvmCpu) :=
  if exitcode = ExitCode.intr then .ok ⟨.success, none, c⟩
  else if exitcode = ExitCode.pause then .ok ⟨.success, none, c.skip 2#64⟩
  else if exitcode = ExitCode.hlt then .ok ⟨.success, none, c.skip 1#64⟩
  else if exitcode = ExitCode.cpuid then
    .ok ⟨.success, none, skip { c with regs := c.regs.setCpuid env } 2#64⟩
  else if exitcode = ExitCode.msr then
    if c.vmcb.readU64 exitinfo1 &&& 1#64 ≠ 0#64 then
      .ok ⟨.success, none, (c.writeMsr env.tsc c.regs.msrIndex c.regs.edxEax).skip 2#64⟩
    else
      .ok ⟨.success, none, skip { c with regs := c.regs.setEdxEax (c.readMsr c.regs.msrIndex) } 2#64⟩
  else if exitcode = ExitCode.xsetbv then .ok ⟨.success, some c.regs.xsetbv, c.skip 3#64⟩
  else if exitcode = ExitCode.ioio then
    .ok ⟨.ioInstruction (qualification (c.vmcb.readU64 exitinfo1)), none,
      { c with regs := { c.regs with rip := c.vmcb.readU64 exitinfo2 } }⟩
  else if exitcode = ExitCode.shutdown then .ok ⟨.shutdown, none, c⟩
  else if exitcode = ExitCode.invalid then .error (.vmEntryFailed 0)
  else .error .unknownVmExitReason

/-- The exits that are handled without an error. -/
inductive Handles (c : SvmCpu) (env : HostEnv) : BitVec 64 → Handled SvmCpu → Prop
  | intr : Handles c env ExitCode.intr ⟨.success, none, c⟩
  | pause : Handles c env ExitCode.pause ⟨.success, none, c.skip 2#64⟩
  | hlt : Handles c env ExitCode.hlt ⟨.success, none, c.skip 1#64⟩
  | cpuid : Handles c env ExitCode.cpuid ⟨.success, none, skip { c with regs := c.regs.setCpuid env } 2#64⟩
  | wrmsr (h : c.vmcb.readU64 exitinfo1 &&& 1#64 ≠ 0#64) : Handles c env ExitCode.msr
      ⟨.success, none, (c.writeMsr env.tsc c.regs.msrIndex c.regs.edxEax).skip 2#64⟩
  | rdmsr (h : ¬ c.vmcb.readU64 exitinfo1 &&& 1#64 ≠ 0#64) : Handles c env ExitCode.msr
      ⟨.success, none, skip { c with regs := c.regs.setEdxEax (c.readMsr c.regs.msrIndex) } 2#64⟩
  | xsetbv : Handles c env ExitCode.xsetbv ⟨.success, some c.regs.xsetbv, c.skip 3#64⟩
  | ioio : Handles c env ExitCode.ioio ⟨.ioInstruction (qualification (c.vmcb.readU64 exitinfo1)), none,
      { c with regs := { c.regs with rip := c.vmcb.readU64 exitinfo2 } }⟩
  | shutdown : Handles c env ExitCode.shutdown ⟨.shutdown, none, c⟩

theorem handle_handles {c : SvmCpu} {env : HostEnv} {exitcode : BitVec 64} {r : Handled SvmCpu}
    (h : c.handle env exitcode = .ok r) : Handles c env exitcode r := by
  unfold handle at h
  by_cases hintr : exitcode = ExitCode.intr
  · rw [if_pos hintr] at h
    rw [hintr, ← Except.ok.inj h]
    exact .intr
  rw [if_neg hintr] at h
  by_cases hpause : exitcode = ExitCode.pause
  · rw [if_pos hpause] at h
    rw [hpause, ← Except.ok.inj h]
    exact .pause
  rw [if_neg hpause] at h
  by_cases hhlt : exitcode = ExitCode.hlt
  · rw [if_pos hhlt] at h
    rw [hhlt, ← Except.ok.inj h]
    exact .hlt
  rw [if_neg hhlt] at h
  by_cases hcpuid : exitcode = ExitCode.cpuid
  · rw [if_pos hcpuid] at h
    rw [hcpuid, ← Except.ok.inj h]
    exact .cpuid
  rw [if_neg hcpuid] at h
  by_cases hmsr : exitcode = ExitCode.msr
  · rw [if_pos hmsr] at h
    rw [hmsr]
    by_cases hwrite : c.vmcb.readU64 exitinfo1 &&& 1#64 ≠ 0#64
    · rw [if_pos hwrite] at h
      rw [← Except.ok.inj h]
      exact .wrmsr hwrite
    · rw [if_neg hwrite] at h
      rw [← Except.ok.inj h]
      exact .rdmsr hwrite
  rw [if_neg hmsr] at h
  by_cases hxsetbv : exitcode = ExitCode.xsetbv
  · rw [if_pos hxsetbv] at h
    rw [hxsetbv, ← Except.ok.inj h]
    exact .xsetbv
  rw [if_neg hxsetbv] at h
  by_cases hioio : exitcode = ExitCode.ioio
  · rw [if_pos hioio] at h
    rw [hioio, ← Except.ok.inj h]
    exact .ioio
  rw [if_neg hioio] at h
  by_cases hshutdown : exitcode = ExitCode.shutdown
  · rw [if_pos hshutdown] at h
    rw [hshutdown, ← Except.ok.inj h]
    exact .shutdown
  rw [if_neg hshutdown] at h
  -- The last two arms are errors.
  split at h
  · cases h
  · cases h

/-- A WRMSR goes through `writeMsr`; every other exit that is handled changes the registers only. -/
theorem handle_ok {c : SvmCpu} {env : HostEnv} {exitcode : BitVec 64} {r : Handled SvmCpu}
    (h : c.handle env exitcode = .ok r) :
    (exitcode = ExitCode.msr ∧ c.vmcb.readU64 exitinfo1 &&& 1#64 ≠ 0#64 ∧
      r.cpu = (c.writeMsr env.tsc c.regs.msrIndex c.regs.edxEax).skip 2#64) ∨
    (¬ (exitcode = ExitCode.msr ∧ c.vmcb.readU64 exitinfo1 &&& 1#64 ≠ 0#64) ∧
      ∃ regs, r.cpu = { c with regs := regs }) := by
  cases handle_handles h with
  | wrmsr hwrite => exact .inl ⟨rfl, hwrite, rfl⟩
  | rdmsr hread => exact .inr ⟨fun hw => hread hw.2, _, rfl⟩
  | intr | pause | hlt | cpuid | xsetbv | ioio | shutdown =>
    exact .inr ⟨fun hw => absurd hw.1 (by decide), _, rfl⟩

/-- `run` after the trampoline. -/
def dispatch (c : SvmCpu) (env : HostEnv) : Except HypervisorError (Handled SvmCpu) :=
  let c := c.saveGuestRegisters
  c.handle env (c.vmcb.readU64 exitcodeField)

/-- What the host and the processor do in a call of `run`. -/
structure SvmInput where
  /-- The reading of the TSC in `service_timer`. -/
  entryTsc : BitVec 64
  exit : SvmExit
  env : HostEnv

def run (c : SvmCpu) (x : SvmInput) : Except HypervisorError (Handled SvmCpu) :=
  ((c.enter x.entryTsc).exited x.exit).dispatch x.env

/-- What a call of `run` leaves behind, also when it returns an error. -/
def afterRun (c : SvmCpu) (x : SvmInput) : SvmCpu :=
  match c.run x with
  | .ok r => r.cpu
  | .error _ => ((c.enter x.entryTsc).exited x.exit).saveGuestRegisters

/-! ## Construction -/

/-- A zeroed VMCB, set up; the two maps' physical addresses are those of their allocations. -/
def new (ncr3 iopmPa msrpmPa cpuId entryPoint guestRsp : BitVec 64) : SvmCpu where
  vmcb := (Vmcb.stores (fun _ => 0#8) (setupControl ncr3 iopmPa msrpmPa)).stores
    (setupGuest entryPoint guestRsp)
  regs := bootRegisters cpuId entryPoint guestRsp
  apicTimer := ApicTimer.default
  pendingVector := none

end SvmCpu

end Rhyve.Svm
