import Rhyve.Backend.Shadow
import Rhyve.Lib.Words
import Rhyve.Vcpu.Confinement

/-! # Port input and the width of its operand

An `IN` loads one, two or four bytes. Each vendor encodes the width in its own way. The AMD-V backend repackages the
access into the layout of VT-x, without the width, and `Cpu::run` then writes the accumulator.

* `VmxIn`, `SvmIn`: what the processor reports about an `IN`.
* `loadRax`: what the instruction does to RAX; `emulatedRax`: what `Cpu::run` does to it.
* `port_input_width_iff`: when the two agree. Both backends lead to the same result.
-/

namespace Rhyve.Backend
open Apic Device Errors Vcpu Vmx Svm Words
set_option autoImplicit false

/-- The operand sizes of IN. -/
inductive Width where
  | byte
  | word
  | dword
  deriving DecidableEq, Repr

namespace Width

/-- Bits 2:0 of the exit qualification of VT-x. -/
def vmx : Width → BitVec 3
  | .byte => 0#3
  | .word => 1#3
  | .dword => 3#3

/-- Bits 6:4 of EXITINFO1. -/
def svm : Width → BitVec 3
  | .byte => 1#3
  | .word => 2#3
  | .dword => 4#3

/-- The bits of RAX that the instruction writes. Writing EAX clears the upper half. -/
def written : Width → BitVec 64
  | .byte => 0xff#64
  | .word => 0xffff#64
  | .dword => BitVec.allOnes 64

end Width

/-- The exit qualification of an IN from this port. -/
structure VmxIn (q : BitVec 64) (w : Width) (port : BitVec 16) : Prop where
  size : q.extractLsb' 0 3 = w.vmx
  isIn : q.getLsbD 3 = true
  string : q.getLsbD 4 = false
  port : q.extractLsb' 16 16 = port

/-- EXITINFO1 of an IN from this port. -/
structure SvmIn (info1 : BitVec 64) (w : Width) (port : BitVec 16) : Prop where
  size : info1.extractLsb' 4 3 = w.svm
  isIn : info1.getLsbD 0 = true
  string : info1.getLsbD 2 = false
  port : info1.extractLsb' 16 16 = port

def deviceValue (u : Uart) (port : BitVec 16) : BitVec 8 :=
  if isSerial port then u.read (port - Vcpu.serialBase) else 0#8

/-- The instruction: the value is extended to the width of the operand. -/
def loadRax (w : Width) (value : BitVec 8) (rax : BitVec 64) : BitVec 64 :=
  (rax &&& ~~~w.written) ||| value.setWidth 64

def emulatedRax (value : BitVec 8) (rax : BitVec 64) : BitVec 64 :=
  (rax &&& ~~~0xff#64) ||| value.setWidth 64

/-- Bits above the low byte that the instruction overwrites are zero already. -/
def NothingStale (w : Width) (rax : BitVec 64) : Prop := rax &&& w.written &&& ~~~0xff#64 = 0#64

instance (w : Width) (rax : BitVec 64) : Decidable (NothingStale w rax) :=
  inferInstanceAs (Decidable (_ = _))

theorem emulatedRax_iff (w : Width) (value : BitVec 8) (rax : BitVec 64) :
    emulatedRax value rax = loadRax w value rax ↔ NothingStale w rax := by
  refine mask_eq_iff ?_ ?_
  · cases w <;> decide
  · revert value
    decide

/-! ## What `Cpu::run` does -/

theorem serveIo_input (I : Interface) (L : VmMemoryLayout) {q : BitVec 64} (hin : isIn q = true) (c : Cpu) :
    serveIo I L q c = (.next, { c with regs := { c.regs with
      rax := emulatedRax (deviceValue c.uart (portOf q)) c.regs.rax } }) := by
  have hnone : hypercallOf I q = none := by rw [hypercallOf, if_pos hin]
  unfold serveIo
  rw [if_neg (by rw [hin]; simp), hnone]
  simp only [hin, if_true]
  rfl

/-- RAX once `Cpu::run` has served the exit that a backend returned. -/
def servedRax (I : Interface) (L : VmMemoryLayout) (u : Uart) (host : HostState) (reason : ExitReason)
    (regs : GuestRegisters) : BitVec 64 :=
  (serve I L reason ⟨u, regs, host⟩).2.regs.rax

section Backends
variable (I : Interface) (L : VmMemoryLayout) (u : Uart) (host : HostState) {w : Width} {port : BitVec 16}

theorem vmx_servedRax {c : VmxCpu} {x : VmxCpu.VmxInput} {r : Handled VmxCpu} (hrun : c.run x = .ok r)
    (hio : x.exit.basic = some .ioInstruction) (hq : VmxIn (x.exit.fields Ro.exitQualification) w port) :
    servedRax I L u host r.reason r.cpu.regs = emulatedRax (deviceValue u port) x.exit.regs.rax := by
  obtain ⟨entered, -, hdispatch⟩ := run_dispatch hrun
  obtain ⟨rip, rsp, rflags, basic, hbasic, hhandle⟩ := dispatch_handle hdispatch
  obtain rfl := Option.some.inj (hio.symm.trans hbasic)
  cases Vmx.handle_handles hhandle with
  | ioInstruction len =>
    have hsaved : (entered.vmcs.afterExit x.exit.fields).value Ro.exitQualification =
        x.exit.fields Ro.exitQualification := afterExit_value (by decide) (by decide)
    have hin : isIn (x.exit.fields Ro.exitQualification) = true := by rw [isIn_eq, hq.isIn]
    simp only [servedRax, serve, VmxCpu.exited, hsaved]
    rw [serveIo_input I L hin, portOf_eq, hq.port]
    rfl

theorem svm_servedRax {c : SvmCpu} {x : SvmCpu.SvmInput} {r : Handled SvmCpu} (hrun : c.run x = .ok r)
    (hio : x.exit.vmcb.readU64 exitcodeField = ExitCode.ioio)
    (hq : SvmIn (x.exit.vmcb.readU64 exitinfo1) w port) :
    servedRax I L u host r.reason r.cpu.regs =
      emulatedRax (deviceValue u port) (x.exit.vmcb.readU64 saveRax) := by
  have hsaved : ∀ o, (∀ f ∈ keptFields, f.1 + f.2 ≤ o ∨ o + 8 ≤ f.1) →
      ((c.enter x.entryTsc).vmcb.afterExit x.exit.vmcb).readU64 o = x.exit.vmcb.readU64 o :=
    fun o ho => Vmcb.readU64_saved _ _ o ho
  have hhandle : (((c.enter x.entryTsc).exited x.exit).saveGuestRegisters).handle x.env
      (((c.enter x.entryTsc).vmcb.afterExit x.exit.vmcb).readU64 exitcodeField) = .ok r := hrun
  rw [hsaved exitcodeField (by decide), hio] at hhandle
  cases SvmCpu.handle_handles hhandle with
  | ioio =>
    have hinfo : (((c.enter x.entryTsc).exited x.exit).saveGuestRegisters).vmcb.readU64 exitinfo1 =
        x.exit.vmcb.readU64 exitinfo1 := hsaved exitinfo1 (by decide)
    have hrax : (((c.enter x.entryTsc).exited x.exit).saveGuestRegisters).regs.rax =
        x.exit.vmcb.readU64 saveRax := hsaved saveRax (by decide)
    have hin : isIn (SvmCpu.qualification (x.exit.vmcb.readU64 exitinfo1)) = true := by
      rw [isIn_qualification, hq.isIn]
    simp only [servedRax, serve, hinfo, hrax]
    rw [serveIo_input I L hin, portOf_qualification, hq.port]

end Backends

/-- On both backends RAX is what the instruction makes it if and only if no bit between the low byte and
the end of the operand was set before. -/
theorem port_input_width_iff (I : Interface) (L : VmMemoryLayout) (u : Uart) (host : HostState) (w : Width)
    (port : BitVec 16) (rax : BitVec 64) :
    (∀ (c : VmxCpu) (x : VmxCpu.VmxInput) (r : Handled VmxCpu), c.run x = .ok r →
      x.exit.basic = some .ioInstruction → VmxIn (x.exit.fields Ro.exitQualification) w port →
      x.exit.regs.rax = rax →
      servedRax I L u host r.reason r.cpu.regs = emulatedRax (deviceValue u port) rax ∧
        (servedRax I L u host r.reason r.cpu.regs = loadRax w (deviceValue u port) rax ↔
          NothingStale w rax)) ∧
    ∀ (c : SvmCpu) (x : SvmCpu.SvmInput) (r : Handled SvmCpu), c.run x = .ok r →
      x.exit.vmcb.readU64 exitcodeField = ExitCode.ioio → SvmIn (x.exit.vmcb.readU64 exitinfo1) w port →
      x.exit.vmcb.readU64 saveRax = rax →
      servedRax I L u host r.reason r.cpu.regs = emulatedRax (deviceValue u port) rax ∧
        (servedRax I L u host r.reason r.cpu.regs = loadRax w (deviceValue u port) rax ↔
          NothingStale w rax) := by
  refine ⟨?_, ?_⟩
  · intro c x r hrun hio hq hrax
    rw [vmx_servedRax I L u host hrun hio hq, hrax]
    exact ⟨rfl, emulatedRax_iff w _ rax⟩
  · intro c x r hrun hio hq hrax
    rw [svm_servedRax I L u host hrun hio hq, hrax]
    exact ⟨rfl, emulatedRax_iff w _ rax⟩

/-- An IN from the line status register. -/
def lsrInput (w : Width) (rax : BitVec 64) : SvmCpu.SvmInput :=
  svmCall 0#64 GuestRegisters.zero
    [(exitcodeField, ExitCode.ioio), (exitinfo1, 0x08050001#64 ||| (w.svm.setWidth 64 <<< 4)), (saveRax, rax)]

/-- The RAX that the guest goes on with. -/
def lsrRax (w : Width) (rax : BitVec 64) : Option (BitVec 64) :=
  ((SvmCpu.new 0 0 0 0 0 0).run (lsrInput w rax)).toOption.map fun r =>
    servedRax uhyveInterface onePage Uart.new ⟨fun _ => 0#8, []⟩ r.reason r.cpu.regs

/-- `IN AL`: the upper bits stay. -/
theorem port_input_width_byte :
    ∃ r : Handled SvmCpu, (SvmCpu.new 0 0 0 0 0 0).run (lsrInput .byte 0x1234#64) = .ok r ∧
      servedRax uhyveInterface onePage Uart.new ⟨fun _ => 0#8, []⟩ r.reason r.cpu.regs = 0x1260#64 := by
  obtain ⟨r, hr, -⟩ := ok_of_map (x := (SvmCpu.new 0 0 0 0 0 0).run (lsrInput .byte 0x1234#64))
    (f := fun r => r.cpu.regs.rax) (b := 0x1234#64) (by decide +kernel)
  refine ⟨r, hr, ?_⟩
  have hload := ((port_input_width_iff uhyveInterface onePage Uart.new ⟨fun _ => 0#8, []⟩ .byte 0x805#16
    0x1234#64).2 _ _ r hr (by decide +kernel)
      ⟨by decide +kernel, by decide +kernel, by decide +kernel, by decide +kernel⟩
      (by decide +kernel)).2.mpr (by decide)
  rw [hload]
  decide

/-- `IN AX` and `IN EAX` leave the old second byte, and the old upper half of RAX, in place. -/
theorem wide_input_keeps_stale_bits :
    lsrRax .word 0x1234#64 = some 0x1260#64 ∧
      loadRax .word (deviceValue Uart.new 0x805#16) 0x1234#64 = 0x60#64 ∧
      lsrRax .dword 0xFFFFFFFF00001234#64 = some 0xFFFFFFFF00001260#64 ∧
      loadRax .dword (deviceValue Uart.new 0x805#16) 0xFFFFFFFF00001234#64 = 0x60#64 := by
  decide +kernel

end Rhyve.Backend
