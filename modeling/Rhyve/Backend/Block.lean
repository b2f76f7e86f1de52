import Rhyve.Backend.Common
import Rhyve.Lib.X86

/-! # `GuestRegisters` in memory

The trampolines load and store the general-purpose registers of the guest through fixed offsets into
`GuestRegisters`, which `#[repr(C)]` lays out in the order of its fields. RSP is not among them: it is in the
VMCS or VMCB.

* `getBlock`, `putBlock`: `GuestRegisters` at an address.
* `HostCall`: the host when `run` calls a trampoline. `HostContext`: what the ABI wants back.
-/

namespace Rhyve.Backend
open WordMem X86
set_option autoImplicit false

/-- The registers that the trampolines handle, in the order of the fields. -/
def gprs : List Reg :=
  [.rax, .rbx, .rcx, .rdx, .rdi, .rsi, .rbp, .r8, .r9, .r10, .r11, .r12, .r13, .r14, .r15]

/-- The constants `registers_rax` to `registers_r15` and `svm_rax` to `svm_r15`. -/
def offset : Reg → ℕ
  | .rax => 0x00
  | .rbx => 0x08
  | .rcx => 0x10
  | .rdx => 0x18
  | .rdi => 0x20
  | .rsi => 0x28
  | .rbp => 0x30
  | .r8 => 0x38
  | .r9 => 0x40
  | .r10 => 0x48
  | .r11 => 0x50
  | .r12 => 0x58
  | .r13 => 0x60
  | .r14 => 0x68
  | .r15 => 0x70
  | .rsp => 0x80

def blockSize : ℕ := 0x90

def calleeSaved : List Reg := [.rbx, .rbp, .r12, .r13, .r14, .r15]

theorem calleeSaved_ne {r : Reg} (h : r ∈ calleeSaved) : r ≠ .rax ∧ r ≠ .rsp := by
  revert h
  cases r <;> decide

/-- The registers that the block `GuestRegisters` has a field for. -/
inductive GuestReg where
  | gpr (r : Reg)
  | rip
  | rflags
  deriving DecidableEq, Repr

/-- The offsets of `repr(C)`. The field at 0x80 is `rsp`, which is among the general-purpose registers here. -/
def GuestReg.offset : GuestReg → ℕ
  | .gpr r => Backend.offset r
  | .rip => 0x78
  | .rflags => 0x88

def field (p : BitVec 64) (q : GuestReg) : BitVec 64 := p + BitVec.ofNat 64 q.offset

def slot (p : BitVec 64) (r : Reg) : BitVec 64 := field p (.gpr r)

theorem GuestReg.offset_bound (q : GuestReg) : q.offset + 8 ≤ blockSize := by
  cases q with
  | gpr r => cases r <;> decide
  | rip => decide
  | rflags => decide

theorem field_apart (p : BitVec 64) {q q' : GuestReg} (h : q ≠ q') : Apart (field p q) (field p q') := by
  have hoff : q.offset + 8 ≤ q'.offset ∨ q'.offset + 8 ≤ q.offset := by
    cases q with
    | gpr r =>
      cases q' with
      | gpr r' =>
        revert h
        cases r <;> cases r' <;> decide
      | _ => cases r <;> decide
    | _ =>
      cases q' with
      | gpr r' => cases r' <;> decide
      | _ => first | decide | exact absurd rfl h
  have hq := q.offset_bound
  have hq' := q'.offset_bound
  unfold blockSize at hq hq'
  exact apart_offsets p hoff (by omega) (by omega)

theorem slot_apart (p : BitVec 64) {r q : Reg} (h : r ≠ q) : Apart (slot p r) (slot p q) :=
  field_apart p fun heq => h (GuestReg.gpr.inj heq)

/-- The words below and at the stack pointer that a trampoline uses, and the block. -/
def FrameApart (sp p : BitVec 64) (words : ℕ) : Prop :=
  Separate (sp - BitVec.ofNat 64 (8 * words)) (8 * (words + 1)) p blockSize

theorem FrameApart.field {sp p : BitVec 64} {words k : ℕ} (h : FrameApart sp p words) (hk : k ≤ words)
    (q : GuestReg) : Apart (sp - BitVec.ofNat 64 (8 * k)) (field p q) := by
  have haddr : sp - BitVec.ofNat 64 (8 * k) =
      sp - BitVec.ofNat 64 (8 * words) + BitVec.ofNat 64 (8 * (words - k)) := by
    bv_omega
  rw [haddr]
  exact Separate.apart h (by omega) q.offset_bound

/-- A word that is not one of those below the stack pointer that a trampoline uses. -/
def OffFrame (sp : BitVec 64) (words : ℕ) (a : BitVec 64) : Prop :=
  ∀ k < words, Apart (sp - BitVec.ofNat 64 (8 * (k + 1))) a

theorem FrameApart.offFrame {sp p : BitVec 64} {words : ℕ} (h : FrameApart sp p words) (q : GuestReg) :
    OffFrame sp words (Backend.field p q) := by
  intro k hk
  exact h.field hk q

/-! ## Storing registers into the block -/

def slots (gpr : Reg → BitVec 64) (rs : List Reg) : List (ℕ × BitVec 64) := rs.map fun r => (offset r, gpr r)

theorem load_slots {m : Memory} {p : BitVec 64} {gpr : Reg → BitVec 64} {rs : List Reg} (h : rs.Nodup) {r : Reg}
    (hr : r ∈ rs) : WordMem.load (storeWords m p (slots gpr rs)) (slot p r) = gpr r := by
  have hpairs : (slots gpr rs).Pairwise fun u w =>
      Apart (p + BitVec.ofNat 64 w.1) (p + BitVec.ofNat 64 u.1) := by
    refine List.pairwise_map.mpr (h.imp ?_)
    intro q r hne
    exact slot_apart p (Ne.symm hne)
  exact load_storeWords_mem hpairs (List.mem_map.mpr ⟨r, hr, rfl⟩)

theorem load_slots_apart {m : Memory} {p b : BitVec 64} {gpr : Reg → BitVec 64} {rs : List Reg}
    (h : ∀ r ∈ rs, Apart (slot p r) b) : WordMem.load (storeWords m p (slots gpr rs)) b = WordMem.load m b := by
  apply load_storeWords
  intro w hw
  obtain ⟨r, hr, rfl⟩ := List.mem_map.mp hw
  exact h r hr

/-! ## The whole block -/

def values (g : GuestRegisters) : GuestReg → BitVec 64
  | .gpr .rax => g.rax
  | .gpr .rbx => g.rbx
  | .gpr .rcx => g.rcx
  | .gpr .rdx => g.rdx
  | .gpr .rdi => g.rdi
  | .gpr .rsi => g.rsi
  | .gpr .rbp => g.rbp
  | .gpr .rsp => g.rsp
  | .gpr .r8 => g.r8
  | .gpr .r9 => g.r9
  | .gpr .r10 => g.r10
  | .gpr .r11 => g.r11
  | .gpr .r12 => g.r12
  | .gpr .r13 => g.r13
  | .gpr .r14 => g.r14
  | .gpr .r15 => g.r15
  | .rip => g.rip
  | .rflags => g.rflags

/-- RSP, RIP and RFLAGS are kept apart from the registers that a trampoline handles. -/
def ofGprs (gpr : Reg → BitVec 64) (rip rsp rflags : BitVec 64) : GuestRegisters :=
  { GuestRegisters.zero with
    rax := gpr .rax, rbx := gpr .rbx, rcx := gpr .rcx, rdx := gpr .rdx, rdi := gpr .rdi, rsi := gpr .rsi
    rbp := gpr .rbp, r8 := gpr .r8, r9 := gpr .r9, r10 := gpr .r10, r11 := gpr .r11, r12 := gpr .r12
    r13 := gpr .r13, r14 := gpr .r14, r15 := gpr .r15, rip := rip, rsp := rsp, rflags := rflags }

theorem ofGprs_congr {f g : Reg → BitVec 64} (h : ∀ r ∈ gprs, f r = g r) (rip rsp rflags : BitVec 64) :
    ofGprs f rip rsp rflags = ofGprs g rip rsp rflags := by
  unfold ofGprs
  rw [h .rax (by decide), h .rbx (by decide), h .rcx (by decide), h .rdx (by decide), h .rdi (by decide),
    h .rsi (by decide), h .rbp (by decide), h .r8 (by decide), h .r9 (by decide), h .r10 (by decide),
    h .r11 (by decide), h .r12 (by decide), h .r13 (by decide), h .r14 (by decide), h .r15 (by decide)]

def gprsOf (g : GuestRegisters) (r : Reg) : BitVec 64 := values g (.gpr r)

def getBlock (m : Memory) (p : BitVec 64) : GuestRegisters :=
  ofGprs (fun r => WordMem.load m (slot p r)) (WordMem.load m (field p .rip))
    (WordMem.load m (slot p .rsp)) (WordMem.load m (field p .rflags))

def allFields : List GuestReg :=
  gprs.map .gpr ++ [.rip, .gpr .rsp, .rflags]

def putBlock (m : Memory) (p : BitVec 64) (g : GuestRegisters) : Memory :=
  storeWords m p (allFields.map fun q => (q.offset, values g q))

theorem load_putBlock (m : Memory) (p : BitVec 64) (g : GuestRegisters) (q : GuestReg) :
    WordMem.load (putBlock m p g) (field p q) = values g q := by
  have hpairs : (allFields.map fun q => (q.offset, values g q)).Pairwise fun u w =>
      Apart (p + BitVec.ofNat 64 w.1) (p + BitVec.ofNat 64 u.1) := by
    refine List.pairwise_map.mpr ((by decide : allFields.Nodup).imp ?_)
    intro q q' hne
    exact field_apart p (Ne.symm hne)
  have hin : q ∈ allFields := by
    cases q with
    | gpr r => cases r <;> decide
    | _ => decide
  exact load_storeWords_mem hpairs (List.mem_map.mpr ⟨q, hin, rfl⟩)

theorem getBlock_of_load {m : Memory} {p : BitVec 64} {g : GuestRegisters}
    (h : ∀ q, WordMem.load m (field p q) = values g q) : getBlock m p = g := by
  have hgprs : ∀ r ∈ gprs, WordMem.load m (slot p r) = gprsOf g r := fun r _ => h (.gpr r)
  unfold getBlock slot
  rw [h .rip, h (.gpr .rsp), h .rflags]
  exact ofGprs_congr hgprs _ _ _

/-! ## Calls of a trampoline -/

/-- The host when a trampoline that uses so many words of its stack is called: RDI points to the registers of the
vCPU, which are not on that part of the stack. -/
structure HostCall (words : ℕ) where
  gpr : Reg → BitVec 64
  rflags : BitVec 64
  mem : Memory
  ret : BitVec 64
  apart : FrameApart (gpr .rsp - 8#64) (gpr .rdi) words

namespace HostCall
variable {η : Type} {words : ℕ}

def machine (h : HostCall words) (regs : GuestRegisters) (hw : η) : Machine η :=
  Machine.pushWord ⟨h.gpr, h.rflags, putBlock h.mem (h.gpr .rdi) regs, hw⟩ h.ret

variable (h : HostCall words) (regs : GuestRegisters) (hw : η)

theorem machine_rsp : (h.machine regs hw).gpr .rsp = h.gpr .rsp - 8#64 := Machine.pushWord_rsp _ _

theorem machine_gpr {r : Reg} (hr : r ≠ .rsp) : (h.machine regs hw).gpr r = h.gpr r :=
  Machine.pushWord_other _ _ hr

theorem machine_rdi : (h.machine regs hw).gpr .rdi = h.gpr .rdi := h.machine_gpr regs hw (by decide)

theorem machine_ret : Holds (h.machine regs hw).mem ((h.machine regs hw).gpr .rsp) [h.ret] := by
  rw [machine_rsp]
  exact ⟨load_store_same _ _ _, trivial⟩

theorem machine_apart : FrameApart ((h.machine regs hw).gpr .rsp) ((h.machine regs hw).gpr .rdi) words := by
  rw [machine_rsp, machine_rdi]
  exact h.apart

theorem machine_block (q : GuestReg) :
    WordMem.load (h.machine regs hw).mem (field (h.gpr .rdi) q) = values regs q := by
  have hfield := h.apart.field (Nat.zero_le words) q
  rw [Nat.mul_zero, BitVec.sub_zero] at hfield
  exact (load_store_apart hfield).trans (load_putBlock _ _ _ _)

theorem saved_eq {m : Machine η} (hm : ∀ r ∈ calleeSaved, m.gpr r = (h.machine regs hw).gpr r) :
    calleeSaved.map m.gpr = calleeSaved.map h.gpr := by
  apply List.map_congr_left
  intro r hr
  exact (hm r hr).trans (h.machine_gpr regs hw (calleeSaved_ne hr).2)

end HostCall

/-- What a caller can rely on: where control is, the stack pointer, the callee-saved registers, and whether
interrupts are enabled. -/
structure HostContext where
  rip : BitVec 64
  rsp : BitVec 64
  saved : List (BitVec 64)
  interrupts : Bool
  deriving DecidableEq, Repr

def interruptFlag (rflags : BitVec 64) : Bool := rflags.getLsbD 9

def HostCall.context {words : ℕ} (h : HostCall words) : HostContext :=
  ⟨h.ret, h.gpr .rsp, calleeSaved.map h.gpr, interruptFlag h.rflags⟩

/-- What a call of `run` on a backend `β` does, if it returns: `η` is the state of the processor. -/
structure Called (η β : Type) where
  /-- What `run` returns; nothing if the trampoline does not return to it. -/
  result : Option (Except HypervisorError (Handled β))
  hw : η
  context : HostContext
  /-- The registers that the guest was entered with. -/
  entered : Option GuestRegisters

end Rhyve.Backend
