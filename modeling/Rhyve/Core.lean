import Mathlib.Data.Nat.Notation

/-! # The backend-independent core: errors, exit reasons and guest registers

`HypervisorError` and `ExitReason` are those of `rhyve-core`, `GuestRegisters` is the register file that
both backends hand to `Cpu::run`. A Rust function that returns
`Result<T, HypervisorError>` and may also panic is modelled as `Except Abort T`: the binary is built
with `panic_abort`, so a panic is not an error value that anyone receives.
-/

namespace Rhyve
set_option autoImplicit false

/-- `HypervisorError`. -/
inductive HypervisorError where
  | ioError
  | parseError
  | cpuUnsupported
  | vmxUnsupported
  | vmclearFailed
  | vmreadFailed
  | vmwriteFailed
  | vmEntryFailed (code : BitVec 64)
  | allocationFailed
  | vmUnsupported
  | unknownVmExitReason
  deriving DecidableEq, Repr

/-- The places of the modelled code that panic. -/
inductive Panic where
  | guestBaseNotPageAligned
  | guestSizeNotPageMultiple
  | guestLargerThanOneGiB
  | mapAbove512GiB
  | mapInFirstGiB
  | sliceOutOfRange
  | unwrapNone
  | capacityOverflow
  | unableToInitializeVmx
  deriving DecidableEq, Repr

/-- Why a function does not return a value: `Err`, or a panic. -/
inductive Abort where
  | error (e : HypervisorError)
  | panic (p : Panic)
  deriving DecidableEq, Repr

/-- `ok_or(e)?`. -/
def orError {α : Type} (e : HypervisorError) : Option α → Except Abort α
  | some a => .ok a
  | none => .error (.error e)

/-- `unwrap` and `expect`. -/
def unwrap {α : Type} : Option α → Except Abort α
  | some a => .ok a
  | none => .error (.panic .unwrapNone)

theorem orError_ok {α : Type} {e : HypervisorError} {o : Option α} {a : α} : orError e o = .ok a ↔ o = some a := by
  cases o with
  | none => exact iff_of_false nofun nofun
  | some b => exact ⟨fun h => congrArg some (Except.ok.inj h), fun h => congrArg Except.ok (Option.some.inj h)⟩

theorem unwrap_ok {α : Type} {o : Option α} {a : α} : unwrap o = .ok a ↔ o = some a := by
  cases o with
  | none => exact iff_of_false nofun nofun
  | some b => exact ⟨fun h => congrArg some (Except.ok.inj h), fun h => congrArg Except.ok (Option.some.inj h)⟩

/-- Why a vCPU returned control to `Cpu::run`. -/
inductive ExitReason where
  | success
  | ioInstruction (qualification : BitVec 64)
  | shutdown
  deriving DecidableEq, Repr

/-- `GuestRegisters`, which the trampolines access by offset. -/
structure GuestRegisters where
  rax : BitVec 64
  rbx : BitVec 64
  rcx : BitVec 64
  rdx : BitVec 64
  rdi : BitVec 64
  rsi : BitVec 64
  rbp : BitVec 64
  r8 : BitVec 64
  r9 : BitVec 64
  r10 : BitVec 64
  r11 : BitVec 64
  r12 : BitVec 64
  r13 : BitVec 64
  r14 : BitVec 64
  r15 : BitVec 64
  rip : BitVec 64
  rsp : BitVec 64
  rflags : BitVec 64
  deriving DecidableEq, Repr

def GuestRegisters.zero : GuestRegisters :=
  ⟨0, 0, 0, 0, 0, 0, 0, 0, 0, 0, 0, 0, 0, 0, 0, 0, 0, 0⟩

end Rhyve
