import Rhyve.Svm.Trampoline
import Rhyve.Svm.Turn

/-! # `run` with its trampoline (`svm/mod.rs`)

The counterpart of the VT-x module: `call` is `SvmCpu.run` with the registers of the vCPU in memory and the
trampoline in it. RAX goes through the VMCB, and its word of the block is not used.

* `call_exits`: `call` enters the guest with the registers of the vCPU, returns what `run` returns, and keeps the
  context of the host.
-/

namespace Rhyve.Svm
open Backend SvmCpu Trampoline WordMem X86
set_option autoImplicit false

/-- One call of `run`; `hw` is the processor then. -/
structure SvmCall (H : Type) where
  host : HostCall 9
  input : SvmInput
  hw : SvmHw H

def SvmCall.start {H : Type} (i : SvmCall H) : SvmHw H :=
  { i.hw with guest := gprsOf i.input.exit.regs, entered := none }

namespace SvmCpu
variable {H : Type}

/-- The guest's registers at the entry. VMRUN takes RAX, RIP, RSP and RFLAGS from the VMCB. -/
def loaded (c : SvmCpu) (gpr : Reg → BitVec 64) : GuestRegisters :=
  { ofGprs gpr (c.vmcb.readU64 saveRip) (c.vmcb.readU64 saveRsp) (c.vmcb.readU64 saveRflags) with
    rax := c.vmcb.readU64 saveRax }

/-- The vCPU after the trampoline: the block as it lies in memory, and the VMCB as the processor left it. -/
def resumed (c : SvmCpu) (i : SvmCall H) (m : Machine (SvmHw H)) : SvmCpu :=
  { c with
    regs := getBlock m.mem (i.host.gpr .rdi)
    vmcb := c.vmcb.afterExit i.input.exit.vmcb }

/-- From the call of the trampoline on. The routine has no labels. -/
def trampoline (c : SvmCpu) (i : SvmCall H) : Option (Called (SvmHw H) SvmCpu) :=
  match exec SvmHw.sem (fun _ => 0#64) runSvmVm none (i.host.machine c.regs i.start) with
  | none => none
  | some (m, ret) =>
    some {
      result := if ret = i.host.ret then some ((c.resumed i m).dispatch i.input.env) else none
      hw := m.hw
      context := ⟨ret, m.gpr .rsp, calleeSaved.map m.gpr, interruptFlag m.rflags⟩
      entered := m.hw.entered.map c.loaded }

def call (c : SvmCpu) (i : SvmCall H) : Option (Called (SvmHw H) SvmCpu) :=
  (c.enter i.input.entryTsc).trampoline i

end SvmCpu

/-! ## The trampoline -/

theorem interruptFlag_setStatus (rflags status : BitVec 64) :
    interruptFlag (setStatus rflags status) = interruptFlag rflags := by
  have hout : statusFlags.getLsbD 9 = false := by decide
  unfold interruptFlag setStatus
  rw [BitVec.getLsbD_or, BitVec.getLsbD_and, BitVec.getLsbD_and, BitVec.getLsbD_not, hout]
  simp

section Trampoline
variable {H : Type} {c : SvmCpu} {i : SvmCall H}

theorem getBlock_exited {m : Machine (SvmHw H)} (h : Exited (i.host.machine c.regs i.start) m) :
    getBlock m.mem (i.host.gpr .rdi) =
      { i.input.exit.regs with
        rax := c.regs.rax, rip := c.regs.rip, rsp := c.regs.rsp, rflags := c.regs.rflags } := by
  have hrdi := i.host.machine_rdi c.regs i.start
  have hapart := i.host.machine_apart c.regs i.start
  have hblock := h.block
  rw [hrdi] at hapart hblock
  have hkept : ∀ q, (∀ r ∈ gprs, r ≠ .rax → q ≠ .gpr r) →
      WordMem.load m.mem (field (i.host.gpr .rdi) q) = values c.regs q := by
    intro q hq
    have helse := h.elsewhere (field (i.host.gpr .rdi) q) (hapart.offFrame q)
    rw [hrdi] at helse
    exact (helse fun r hr hrax => field_apart _ (Ne.symm (hq r hr hrax))).trans
      (i.host.machine_block c.regs _ q)
  have hrax : WordMem.load m.mem (slot (i.host.gpr .rdi) .rax) = c.regs.rax := hkept (.gpr .rax) (by decide)
  have hrip : WordMem.load m.mem (field (i.host.gpr .rdi) .rip) = c.regs.rip := hkept .rip (by decide)
  have hrsp : WordMem.load m.mem (slot (i.host.gpr .rdi) .rsp) = c.regs.rsp := hkept (.gpr .rsp) (by decide)
  have hrflags : WordMem.load m.mem (field (i.host.gpr .rdi) .rflags) = c.regs.rflags :=
    hkept .rflags (by decide)
  have hgprs : ∀ r ∈ gprs, WordMem.load m.mem (slot (i.host.gpr .rdi) r) =
      Function.update (gprsOf i.input.exit.regs) .rax c.regs.rax r := by
    intro r hr
    by_cases hr' : r = .rax
    · rw [hr', Function.update_self]
      exact hrax
    · rw [Function.update_of_ne hr']
      exact hblock r hr hr'
  unfold getBlock
  rw [hrip, hrsp, hrflags, ofGprs_congr hgprs]
  rfl

theorem trampoline_exits (c : SvmCpu) (i : SvmCall H) :
    ∃ called, c.trampoline i = some called ∧
      called.result = some ((c.exited i.input.exit).dispatch i.input.env) ∧
      called.context = i.host.context ∧ called.entered = some (c.loaded (gprsOf c.regs)) := by
  obtain ⟨m, hexec, hexited⟩ := runSvmVm_exits (fun _ => 0#64) (i.host.machine_ret c.regs i.start)
    (i.host.machine_apart c.regs i.start)
  obtain ⟨e, hentered, hloaded⟩ := hexited.entered
  obtain ⟨status, hflags⟩ := hexited.rflags
  have hrsp := hexited.rsp
  rw [i.host.machine_rsp] at hrsp
  have hresumed : c.resumed i m = c.exited i.input.exit := by
    unfold resumed
    rw [getBlock_exited hexited]
    rfl
  have hsaved := i.host.saved_eq c.regs i.start hexited.gpr
  have hinterrupts : interruptFlag m.rflags = interruptFlag i.host.rflags := by
    rw [hflags, interruptFlag_setStatus]
    rfl
  unfold trampoline
  rw [hexec]
  refine ⟨_, rfl, ?_, ?_, ?_⟩
  · rw [if_pos rfl, hresumed]
  · rw [hrsp, hsaved, hinterrupts, BitVec.sub_add_cancel]
    rfl
  · rw [hentered]
    refine congrArg some ?_
    have hgprs : ∀ r ∈ gprs, Function.update e .rax 0#64 r = Function.update (gprsOf c.regs) .rax 0#64 r := by
      intro r hr
      by_cases hr' : r = .rax
      · rw [hr', Function.update_self, Function.update_self]
      · rw [Function.update_of_ne hr', Function.update_of_ne hr', hloaded r hr hr', i.host.machine_rdi]
        exact i.host.machine_block c.regs _ (.gpr r)
    -- RAX is the one of the VMCB on both sides.
    exact congrArg (fun g : GuestRegisters => { g with rax := c.vmcb.readU64 saveRax })
      (ofGprs_congr hgprs (c.vmcb.readU64 saveRip) (c.vmcb.readU64 saveRsp) (c.vmcb.readU64 saveRflags))

end Trampoline

/-! ## A whole call -/

theorem loadGuestRegisters_value (c : SvmCpu) :
    c.loadGuestRegisters.vmcb.readU64 saveRax = c.regs.rax ∧
      c.loadGuestRegisters.vmcb.readU64 saveRip = c.regs.rip ∧
      c.loadGuestRegisters.vmcb.readU64 saveRsp = c.regs.rsp ∧
      c.loadGuestRegisters.vmcb.readU64 saveRflags = c.regs.rflags :=
  ⟨Vmcb.readU64_stores rfl, Vmcb.readU64_stores rfl, Vmcb.readU64_stores rfl, Vmcb.readU64_stores rfl⟩

/-- Polling the timer and injecting an event do not touch RAX, RIP, RSP and RFLAGS. -/
theorem enter_keeps (c : SvmCpu) (tsc : BitVec 64) :
    (c.enter tsc).regs = c.regs ∧ ∀ o, eventinj + 8 ≤ o →
      (c.enter tsc).vmcb.readU64 o = c.loadGuestRegisters.vmcb.readU64 o := by
  obtain ⟨-, hvmcb, hregs⟩ := serviceTimer_unit c.loadGuestRegisters tsc
  have hinject : ∀ c : SvmCpu, c.injectPending.regs = c.regs ∧
      ∀ o, eventinj + 8 ≤ o → c.injectPending.vmcb.readU64 o = c.vmcb.readU64 o := by
    intro c
    have hwrite : ∀ v o, eventinj + 8 ≤ o →
        ((writeU64 eventinj v).apply c.vmcb).readU64 o = c.vmcb.readU64 o :=
      fun v o ho => Vmcb.readU64_writeU64_other v (.inl ho)
    unfold SvmCpu.injectPending
    split
    · split
      · exact ⟨rfl, hwrite _⟩
      · exact ⟨rfl, hwrite _⟩
    · exact ⟨rfl, hwrite _⟩
  obtain ⟨hregs', hread⟩ := hinject (c.loadGuestRegisters.serviceTimer tsc)
  refine ⟨hregs'.trans hregs, ?_⟩
  intro o ho
  exact (hread o ho).trans (congrArg (fun m => Vmcb.readU64 m o) hvmcb)

theorem enter_loaded (c : SvmCpu) (tsc : BitVec 64) :
    (c.enter tsc).loaded (gprsOf (c.enter tsc).regs) = c.regs := by
  obtain ⟨hregs, hkept⟩ := enter_keeps c tsc
  obtain ⟨hrax, hrip, hrsp, hrflags⟩ := loadGuestRegisters_value c
  unfold SvmCpu.loaded
  rw [hregs, hkept saveRip (by decide), hkept saveRsp (by decide), hkept saveRflags (by decide),
    hkept saveRax (by decide), hrax, hrip, hrsp, hrflags]
  rfl

theorem call_exits {H : Type} (c : SvmCpu) (i : SvmCall H) :
    ∃ called, c.call i = some called ∧ called.result = some (c.run i.input) ∧
      called.context = i.host.context ∧ called.entered = some c.regs := by
  obtain ⟨called, hcall, hresult, hcontext, hentered⟩ := trampoline_exits (c.enter i.input.entryTsc) i
  refine ⟨called, hcall, hresult, hcontext, ?_⟩
  rw [hentered, enter_loaded]

end Rhyve.Svm
