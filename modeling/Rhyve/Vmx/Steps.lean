import Rhyve.Lib.Program
import Rhyve.Vmx.Turn

/-! # `VmxCpu::run` as a sequence of VMX instructions

`VmxCpu.run` treats the VMCS as a part of the vCPU. On the processor it is not: VMREAD, VMWRITE and the two
VM-entries work on whatever VMCS is current. Here `run` is the program that executes these instructions, in
the order of the source, with the trampoline's own ones.

* `VmxOp`: the instructions, and where interrupts are enabled and disabled.
* `Steps.run`: the program. It never looks at the `vmcs` field of the vCPU.
-/

namespace Rhyve.Vmx
open Apic Backend Errors Program
set_option autoImplicit false

/-- The privileged instructions of a call of `run`. -/
inductive VmxOp where
  | vmptrld
  | vmread (f : FieldId)
  | vmwrite (f : FieldId) (value : BitVec 64)
  | vmresume
  /-- The trampoline's VMREAD of the VM-instruction error. -/
  | instructionError
  /-- The trampoline's VMWRITE of its stack pointer. -/
  | hostRsp
  /-- The trampoline's VMWRITE of its label `3`. -/
  | hostRip
  | vmlaunch
  /-- RDTSC and CPUID. -/
  | host
  | sti
  | cli
  | xsetbv (op : Xsetbv)

/-- An entry answers with the registers that the trampoline stores, or it fails. -/
@[reducible]
def VmxOp.Ans : VmxOp → Type
  | .vmptrld => Bool
  | .vmread _ => Except HypervisorError (BitVec 64)
  | .vmwrite _ _ => Except HypervisorError Unit
  | .vmresume => Option GuestRegisters
  | .vmlaunch => Option GuestRegisters
  | .instructionError => BitVec 64
  | .host => HostEnv
  | .hostRsp => Unit
  | .hostRip => Unit
  | .sti => Unit
  | .cli => Unit
  | .xsetbv _ => Unit

abbrev Steps (α : Type) := ExceptT HypervisorError (Prog VmxOp VmxOp.Ans) α

namespace Steps

def perform (o : VmxOp) : Steps o.Ans := ExceptT.lift (Prog.perform o)

def vmptrld : Steps Bool := perform .vmptrld
def vmresume : Steps (Option GuestRegisters) := perform .vmresume
def vmlaunch : Steps (Option GuestRegisters) := perform .vmlaunch
def instructionError : Steps (BitVec 64) := perform .instructionError
def hostRsp : Steps Unit := perform .hostRsp
def hostRip : Steps Unit := perform .hostRip
def host : Steps HostEnv := perform .host
def sti : Steps Unit := perform .sti
def cli : Steps Unit := perform .cli
def xsetbv (op : Xsetbv) : Steps Unit := perform (.xsetbv op)

/-- VMREAD without `?`. -/
def tryVmread (f : FieldId) : Steps (Except HypervisorError (BitVec 64)) := perform (.vmread f)

def vmread (f : FieldId) : Steps (BitVec 64) := ExceptT.mk (Prog.perform (VmxOp.vmread f))

def vmwrite (f : FieldId) (value : BitVec 64) : Steps Unit := ExceptT.mk (Prog.perform (VmxOp.vmwrite f value))

/-! ## Before the entry -/

def activate : Steps Unit := do
  let ok ← vmptrld
  if ok then return () else throw .vmclearFailed

def loadGuestRegisters (regs : GuestRegisters) : Steps Unit := do
  vmwrite Guest.rip regs.rip
  vmwrite Guest.rsp regs.rsp
  vmwrite Guest.rflags regs.rflags

def setInterruptWindow (enable : Bool) : Steps Unit := do
  let ctrls ← vmread Control.primaryProcbasedExecControls
  vmwrite Control.primaryProcbasedExecControls
    (if enable then ctrls ||| VmxCpu.interruptWindowExiting else ctrls &&& ~~~VmxCpu.interruptWindowExiting)

/-- Returns what is pending afterwards. -/
def injectPending (pendingVector : Option (BitVec 8)) : Steps (Option (BitVec 8)) :=
  match pendingVector with
  | none => return none
  | some vector => do
    let rflags ← vmread Guest.rflags
    let interruptibility ← vmread Guest.interruptibilityState
    if VmxCpu.interruptible rflags interruptibility then
      vmwrite Control.vmentryInterruptionInfoField (VmxCpu.eventInfo vector)
      setInterruptWindow false
      return none
    else
      setInterruptWindow true
      return some vector

def armPreemptionTimer (deadline : Option (BitVec 64)) (scale : BitVec 8) : Steps Unit := do
  let env ← host
  vmwrite Guest.vmxPreemptionTimerValue (VmxCpu.preemptionValue deadline env.tsc scale)

/-- Everything between VMPTRLD and the trampoline; returns what is pending at the entry. -/
def enter (c : VmxCpu) : Steps (Option (BitVec 8)) := do
  loadGuestRegisters c.regs
  let pending ← injectPending c.pendingVector
  armPreemptionTimer c.apicTimer.deadline c.preemptScale
  return pending

/-! ## The trampoline -/

/-- `run_vmx_vm`: VMRESUME, and VMLAUNCH if that fails because the VMCS is clear. -/
def runVmxVm : Steps (Option GuestRegisters) := do
  let resumed ← vmresume
  match resumed with
  | some regs => return some regs
  | none =>
    let error ← instructionError
    if error = 5#64 then
      hostRsp
      hostRip
      vmlaunch
    else return none

/-! ## After the exit -/

def saveGuestRegisters (regs : GuestRegisters) : Steps GuestRegisters := do
  let rip ← vmread Guest.rip
  let rsp ← vmread Guest.rsp
  let rflags ← vmread Guest.rflags
  return { regs with rip := rip, rsp := rsp, rflags := rflags }

def skip (c : VmxCpu) : Steps VmxCpu := do
  let len ← vmread Ro.vmexitInstructionLen
  return { c with regs := c.regs.advance len }

def readMsr (c : VmxCpu) (index : BitVec 32) : Steps (BitVec 64) :=
  if index = ia32FsBase then vmread Guest.fsBase
  else if index = ia32GsBase then vmread Guest.gsBase
  else if index = ia32Efer then vmread Guest.ia32EferFull
  else if index = ia32TscDeadline then return c.apicTimer.deadline.getD 0#64
  else return 0#64

/-- `write_msr`. Only a write to the timer reads the TSC. -/
def writeMsr (c : VmxCpu) (msr : BitVec 32) (value : BitVec 64) : Steps VmxCpu :=
  if msr = ia32FsBase then do
    vmwrite Guest.fsBase value
    return c
  else if msr = ia32GsBase then do
    vmwrite Guest.gsBase value
    return c
  else if msr = ia32Efer then do
    vmwrite Guest.ia32EferFull value
    return c
  else if ApicTimer.isTimerMsr msr then do
    let env ← host
    return c.writeApicTimerMsr env.tsc msr value
  else return c

/-- The match on the exit reason. -/
def handle (c : VmxCpu) (basic : VmxBasicExitReason) : Steps (Handled VmxCpu) :=
  match basic with
  | .externalInterrupt => do
    -- The host's own handler runs here.
    sti
    cli
    return ⟨.success, none, c⟩
  | .rdmsr => do
    let value ← readMsr c c.regs.msrIndex
    let c ← skip { c with regs := c.regs.setEdxEax value }
    return ⟨.success, none, c⟩
  | .wrmsr => do
    let c ← writeMsr c c.regs.msrIndex c.regs.edxEax
    let c ← skip c
    return ⟨.success, none, c⟩
  | .cpuid => do
    let env ← host
    let c ← skip { c with regs := c.regs.setCpuid env }
    return ⟨.success, none, c⟩
  | .xsetbv => do
    let op := c.regs.xsetbv
    xsetbv op
    let c ← skip c
    return ⟨.success, some op, c⟩
  | .ioInstruction => do
    let q ← vmread Ro.exitQualification
    let c ← skip c
    return ⟨.ioInstruction q, none, c⟩
  | .vmxPreemptionTimerExpired => return ⟨.success, none, c.timerExpired⟩
  | .interruptWindow => return ⟨.success, none, c⟩
  | .tripleFault => return ⟨.shutdown, none, c⟩
  | .other _ => throw .unknownVmExitReason

/-- `run` after the trampoline. -/
def dispatch (c : VmxCpu) : Steps (Handled VmxCpu) := do
  let regs ← saveGuestRegisters c.regs
  let reason ← vmread Ro.exitReason
  match VmxBasicExitReason.fromU32 (reason.setWidth 32) with
  | none => throw .unknownVmExitReason
  | some basic => handle { c with regs := regs } basic

/-- `launched` is set in either case, but a failed entry ends the run. -/
def afterEntry (c : VmxCpu) : Option GuestRegisters → Steps (Handled VmxCpu)
  | none => do
    let error ← tryVmread Ro.vmInstructionError
    throw (.vmEntryFailed (error.toOption.getD 0#64))
  | some regs =>
    dispatch { c with
      regs := { regs with rip := c.regs.rip, rsp := c.regs.rsp, rflags := c.regs.rflags }
      launched := true }

/-- `VmxCpu::run`, as a program. -/
def run (c : VmxCpu) : Steps (Handled VmxCpu) := do
  activate
  let pending ← enter c
  let entered ← runVmxVm
  afterEntry { c with pendingVector := pending } entered

end Steps

end Rhyve.Vmx
