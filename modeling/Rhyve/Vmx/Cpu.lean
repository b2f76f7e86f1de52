import Rhyve.Backend.Common
import Rhyve.Vmx.Vmcs

/-! # The VT-x backend of a vCPU (`vmx/mod.rs`)

`VmxCpu.run` is cut at the VM-entry: `enter` is everything before it, `dispatch` everything after the
VM-exit. Between the two the processor runs the guest; what it leaves behind is an input (`VmxExit`).
Its creation, the trampoline and the FPU state have modules of their own.
-/

namespace Rhyve.Vmx
open Apic Backend
set_option autoImplicit false

/-- `VmxCpu`, without the regions behind it. -/
structure VmxCpu where
  vmcs : Vmcs
  regs : GuestRegisters
  launched : Bool
  apicTimer : ApicTimer
  pendingVector : Option (BitVec 8)
  preemptScale : BitVec 8

/-! ## Exit reasons -/

/-- `VmxBasicExitReason`. -/
inductive VmxBasicExitReason where
  | externalInterrupt
  | tripleFault
  | interruptWindow
  | cpuid
  | ioInstruction
  | rdmsr
  | wrmsr
  | vmxPreemptionTimerExpired
  | xsetbv
  /-- Named by the source, but not handled by `run`. -/
  | other (code : BitVec 16)
  deriving DecidableEq, Repr

/-- Numbers below 76 that name no exit reason. -/
def unusedReasons : List (BitVec 16) := [35#16, 38#16, 42#16, 71#16]

/-- Bits 15:0 of the reason. The upper ones, the entry failure among them, are ignored. -/
def VmxBasicExitReason.fromU32 (value : BitVec 32) : Option VmxBasicExitReason :=
  let basic : BitVec 16 := (value &&& 0xFFFF#32).setWidth 16
  if basic = 1#16 then some .externalInterrupt
  else if basic = 2#16 then some .tripleFault
  else if basic = 7#16 then some .interruptWindow
  else if basic = 10#16 then some .cpuid
  else if basic = 30#16 then some .ioInstruction
  else if basic = 31#16 then some .rdmsr
  else if basic = 32#16 then some .wrmsr
  else if basic = 52#16 then some .vmxPreemptionTimerExpired
  else if basic = 55#16 then some .xsetbv
  else if basic ≤ 75#16 ∧ ¬ unusedReasons.contains basic then some (.other basic)
  else none

namespace VmxCpu

/-! ## Before the entry -/

def loadGuestRegisters (c : VmxCpu) : Except HypervisorError VmxCpu := do
  let vmcs ← c.vmcs.writeAll
    [(Guest.rip, c.regs.rip), (Guest.rsp, c.regs.rsp), (Guest.rflags, c.regs.rflags)]
  return { c with vmcs := vmcs }

def interruptWindowExiting : BitVec 64 := 1#64 <<< 2

def setInterruptWindow (c : VmxCpu) (enable : Bool) : Except HypervisorError VmxCpu := do
  let ctrls ← c.vmcs.read Control.primaryProcbasedExecControls
  let ctrls := if enable then ctrls ||| interruptWindowExiting else ctrls &&& ~~~interruptWindowExiting
  let vmcs ← c.vmcs.write Control.primaryProcbasedExecControls ctrls
  return { c with vmcs := vmcs }

/-- Valid (bit 31), external-interrupt type (bits 10:8 = 0), vector. -/
def eventInfo (vector : BitVec 8) : BitVec 64 := (1#64 <<< 31) ||| vector.setWidth 64

/-- RFLAGS.IF is set and nothing blocks interrupts. -/
def interruptible (rflags interruptibility : BitVec 64) : Prop :=
  rflags &&& (1#64 <<< 9) ≠ 0#64 ∧ interruptibility &&& 0b11#64 = 0#64

instance (rflags interruptibility : BitVec 64) : Decidable (interruptible rflags interruptibility) :=
  inferInstanceAs (Decidable (_ ∧ _))

/-- `inject_pending`: the vector is injected if the guest can take it, and otherwise the guest exits as soon as
it can. -/
def injectPending (c : VmxCpu) : Except HypervisorError VmxCpu :=
  match c.pendingVector with
  | none => .ok c
  | some vector => do
    let rflags ← c.vmcs.read Guest.rflags
    let interruptibility ← c.vmcs.read Guest.interruptibilityState
    if interruptible rflags interruptibility then
      let vmcs ← c.vmcs.write Control.vmentryInterruptionInfoField (eventInfo vector)
      setInterruptWindow { c with vmcs := vmcs, pendingVector := none } false
    else setInterruptWindow c true

def u32Max : BitVec 64 := 0xffffffff#64

def saturatingSub (a b : BitVec 64) : BitVec 64 := if b ≤ a then a - b else 0#64

/-- The number of preemption-timer ticks until the deadline. -/
def preemptionValue (deadline : Option (BitVec 64)) (tsc : BitVec 64) (scale : BitVec 8) : BitVec 64 :=
  match deadline with
  | some deadline =>
    let ticks := saturatingSub deadline tsc >>> scale.toNat
    if ticks ≤ u32Max then ticks else u32Max
  | none => u32Max

/-- `arm_preemption_timer`, before every entry. -/
def armPreemptionTimer (c : VmxCpu) (tsc : BitVec 64) : Except HypervisorError VmxCpu := do
  let vmcs ← c.vmcs.write Guest.vmxPreemptionTimerValue
    (preemptionValue c.apicTimer.deadline tsc c.preemptScale)
  return { c with vmcs := vmcs }

/-- `run` up to the trampoline. -/
def enter (c : VmxCpu) (tsc : BitVec 64) : Except HypervisorError VmxCpu := do
  let c ← c.loadGuestRegisters
  let c ← c.injectPending
  c.armPreemptionTimer tsc

/-! ## The processor -/

/-- What a VM-exit leaves behind: the general-purpose registers that the trampoline stores, and the fields
that the processor saves. -/
structure VmxExit where
  regs : GuestRegisters
  fields : FieldId → BitVec 64

/-- The state after a VM-exit, before `run` has looked at it. RIP, RSP and RFLAGS are still the old ones. -/
def exited (c : VmxCpu) (x : VmxExit) : VmxCpu :=
  { c with
    regs := { x.regs with rip := c.regs.rip, rsp := c.regs.rsp, rflags := c.regs.rflags }
    vmcs := c.vmcs.afterExit x.fields
    launched := true }

/-! ## After the exit -/

def saveGuestRegisters (c : VmxCpu) : Except HypervisorError VmxCpu := do
  let rip ← c.vmcs.read Guest.rip
  let rsp ← c.vmcs.read Guest.rsp
  let rflags ← c.vmcs.read Guest.rflags
  return { c with regs := { c.regs with rip := rip, rsp := rsp, rflags := rflags } }

/-- Advances past the emulated instruction. -/
def skip (c : VmxCpu) : Except HypervisorError VmxCpu := do
  let len ← c.vmcs.read Ro.vmexitInstructionLen
  return { c with regs := c.regs.advance len }

/-- `read_msr`: MSRs that are not kept read as zero. -/
def readMsr (c : VmxCpu) (index : BitVec 32) : Except HypervisorError (BitVec 64) :=
  if index = ia32FsBase then c.vmcs.read Guest.fsBase
  else if index = ia32GsBase then c.vmcs.read Guest.gsBase
  else if index = ia32Efer then c.vmcs.read Guest.ia32EferFull
  else if index = ia32TscDeadline then .ok (c.apicTimer.deadline.getD 0#64)
  else .ok 0#64

def writeApicTimerMsr (c : VmxCpu) (tsc : BitVec 64) (msr : BitVec 32) (value : BitVec 64) : VmxCpu :=
  { c with apicTimer := c.apicTimer.writeMsr tsc msr value }

def writeField (c : VmxCpu) (f : FieldId) (value : BitVec 64) : Except HypervisorError VmxCpu := do
  let vmcs ← c.vmcs.write f value
  return { c with vmcs := vmcs }

/-- `write_msr`: writes to MSRs that are not kept are ignored. -/
def writeMsr (c : VmxCpu) (tsc : BitVec 64) (msr : BitVec 32) (value : BitVec 64) :
    Except HypervisorError VmxCpu :=
  if msr = ia32FsBase then c.writeField Guest.fsBase value
  else if msr = ia32GsBase then c.writeField Guest.gsBase value
  else if msr = ia32Efer then c.writeField Guest.ia32EferFull value
  else if ApicTimer.isTimerMsr msr then .ok (c.writeApicTimerMsr tsc msr value)
  else .ok c

/-- The arm for an expired preemption timer. It does not look at the TSC. -/
def timerExpired (c : VmxCpu) : VmxCpu :=
  match c.apicTimer.deadline with
  | none => c
  | some deadline =>
    let (timer, pending) := c.apicTimer.expire deadline c.pendingVector
    { c with apicTimer := timer, pendingVector := pending }

/-- The match of `run` on the exit reason. -/
def handle (c : VmxCpu) (env : HostEnv) (basic : VmxBasicExitReason) :
    Except HypervisorError (Handled VmxCpu) :=
  match basic with
  | .externalInterrupt => .ok ⟨.success, none, c⟩
  | .rdmsr => do
    let value ← c.readMsr c.regs.msrIndex
    let c ← skip { c with regs := c.regs.setEdxEax value }
    return ⟨.success, none, c⟩
  | .wrmsr => do
    let c ← c.writeMsr env.tsc c.regs.msrIndex c.regs.edxEax
    let c ← c.skip
    return ⟨.success, none, c⟩
  | .cpuid => do
    let c ← skip { c with regs := c.regs.setCpuid env }
    return ⟨.success, none, c⟩
  | .xsetbv => do
    let c' ← c.skip
    return ⟨.success, some c.regs.xsetbv, c'⟩
  | .ioInstruction => do
    let q ← c.vmcs.read Ro.exitQualification
    let c ← c.skip
    return ⟨.ioInstruction q, none, c⟩
  | .vmxPreemptionTimerExpired => .ok ⟨.success, none, c.timerExpired⟩
  | .interruptWindow => .ok ⟨.success, none, c⟩
  | .tripleFault => .ok ⟨.shutdown, none, c⟩
  | .other _ => .error .unknownVmExitReason

/-- `run` after the trampoline. -/
def dispatch (c : VmxCpu) (env : HostEnv) : Except HypervisorError (Handled VmxCpu) := do
  let c ← c.saveGuestRegisters
  let reason ← c.vmcs.read Ro.exitReason
  match VmxBasicExitReason.fromU32 (reason.setWidth 32) with
  | none => .error .unknownVmExitReason
  | some basic => c.handle env basic

/-- What the host and the processor do in a call of `run`. -/
structure VmxInput where
  /-- VMPTRLD succeeded. -/
  activated : Bool
  /-- The reading of the TSC that arms the preemption timer. -/
  entryTsc : BitVec 64
  /-- ZF or CF was set: the entry failed and no VM-exit occurred. -/
  entryFailed : Bool
  exit : VmxExit
  env : HostEnv

def run (c : VmxCpu) (x : VmxInput) : Except HypervisorError (Handled VmxCpu) :=
  if x.activated = false then .error .vmclearFailed
  else do
    let c ← c.enter x.entryTsc
    if x.entryFailed then
      match c.vmcs.read Ro.vmInstructionError with
      | .ok error => .error (.vmEntryFailed error)
      | .error _ => .error (.vmEntryFailed 0)
    else (c.exited x.exit).dispatch x.env

end VmxCpu

end Rhyve.Vmx
