import Rhyve.Apic.Timer
import Rhyve.Boot.GuestMemory
import Rhyve.Core

/-! # What the two backends share

Both `run` functions enter the guest, decode the exit and emulate the instruction that caused it, and their
emulation reads the same things from the host: `HostEnv`. The arithmetic on the guest registers is the
same in both and is defined here once.
-/

namespace Rhyve.Backend
open Apic
set_option autoImplicit false

/-- `CpuidResult`, of `__cpuid_count`. -/
structure CpuidResult where
  eax : BitVec 32
  ebx : BitVec 32
  ecx : BitVec 32
  edx : BitVec 32
  deriving DecidableEq, Repr

/-- What a handler reads from the host: the TSC, and CPUID by leaf and sub-leaf. -/
structure HostEnv where
  tsc : BitVec 64
  cpuid : BitVec 32 → BitVec 32 → CpuidResult

/-- The operands of an `XSETBV` that a handler executes for the guest. -/
structure Xsetbv where
  ecx : BitVec 32
  eax : BitVec 32
  edx : BitVec 32
  deriving DecidableEq, Repr

/-- What a handler returns and does to the host. -/
structure Handled (β : Type) where
  reason : ExitReason
  xsetbv : Option Xsetbv
  cpu : β

/-- The registers of a vCPU that has not run: the boot information and its number as arguments, and interrupts
off. -/
def bootRegisters (cpuId entryPoint guestRsp : BitVec 64) : GuestRegisters :=
  { GuestRegisters.zero with
    rdi := BitVec.ofNat 64 Boot.bootInfoOffset
    rsi := cpuId
    rip := entryPoint
    rsp := guestRsp
    rflags := 0x2#64 }

end Rhyve.Backend

namespace Rhyve.GuestRegisters
open Backend
set_option autoImplicit false

/-- The 64-bit operand in `edx:eax`. -/
def edxEax (r : GuestRegisters) : BitVec 64 := (r.rdx <<< 32) ||| (r.rax &&& 0xffffffff#64)

def setEdxEax (r : GuestRegisters) (value : BitVec 64) : GuestRegisters :=
  { r with rax := value &&& 0xffffffff#64, rdx := value >>> 32 }

def msrIndex (r : GuestRegisters) : BitVec 32 := r.rcx.setWidth 32

/-- CPUID, executed on the host with the guest's leaf and subleaf. The results are zero-extended. -/
def setCpuid (r : GuestRegisters) (env : HostEnv) : GuestRegisters :=
  let result := env.cpuid (r.rax.setWidth 32) (r.rcx.setWidth 32)
  { r with
    rax := result.eax.setWidth 64
    rbx := result.ebx.setWidth 64
    rcx := result.ecx.setWidth 64
    rdx := result.edx.setWidth 64 }

def xsetbv (r : GuestRegisters) : Xsetbv :=
  ⟨r.rcx.setWidth 32, r.edxEax.setWidth 32, (r.edxEax >>> 32).setWidth 32⟩

def advance (r : GuestRegisters) (len : BitVec 64) : GuestRegisters := { r with rip := r.rip + len }

end Rhyve.GuestRegisters
