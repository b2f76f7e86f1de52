import Rhyve.Lib.Program
import Rhyve.Svm.Cpu

/-! # `SvmCpu::run` as a sequence of instructions

The VMCB is memory that belongs to the vCPU, but a part of what `run` uses belongs to the core: EFER, the address of
the host-save area, the hidden segment state and the global interrupt flag. Here `run` is the program of the
instructions that work on these, in the order of `svm/mod.rs` and of the trampoline.

* `SvmOp`: the instructions. `Steps.run`: the program.
* `exec_run`: if no one else uses the core, it computes what `SvmCpu.run` computes.
-/

namespace Rhyve.Svm
open Apic Backend Program
set_option autoImplicit false

/-- The privileged instructions of a call of `run`. -/
inductive SvmOp where
  | rdmsrEfer
  | wrmsrEfer (value : BitVec 64)
  /-- VM_HSAVE_PA gets the address of the vCPU's own host-save area. -/
  | wrmsrHsave
  /-- VMSAVE to the scratch VMCB. -/
  | vmsaveHost
  | clgi
  /-- VMLOAD from the VMCB of the guest. -/
  | vmloadGuest
  | vmrun
  | vmsaveGuest
  | vmloadHost
  | stgi
  /-- RDTSC and CPUID. -/
  | host
  | xsetbv (op : Xsetbv)

/-- A VMRUN answers with the registers that the trampoline stores, the VMSAVE after it with what the processor has
written to the VMCB by then. -/
@[reducible]
def SvmOp.Ans : SvmOp → Type
  | .rdmsrEfer => BitVec 64
  | .vmrun => GuestRegisters
  | .vmsaveGuest => Vmcb
  | .host => HostEnv
  | _ => Unit

abbrev Steps (α : Type) := Prog SvmOp SvmOp.Ans α

namespace Steps

/-- EFER is written if SVME is not set in it. -/
def enableSvm (efer : BitVec 64) : Steps Unit :=
  if efer &&& eferSvme = 0#64 then Prog.perform (SvmOp.wrmsrEfer (efer ||| eferSvme)) else return ()

def setupSvm : Steps Unit := do
  let efer : BitVec 64 ← Prog.perform SvmOp.rdmsrEfer
  enableSvm efer
  Prog.perform SvmOp.wrmsrHsave

/-- The TSC is read if there is a deadline. -/
def serviceTimer (c : SvmCpu) : Steps SvmCpu :=
  match c.apicTimer.deadline with
  | none => return c
  | some _ => do
    let env : HostEnv ← Prog.perform SvmOp.host
    return c.serviceTimer env.tsc

/-- The trampoline. -/
def runSvmVm : Steps SvmCpu.SvmExit := do
  let _ : Unit ← Prog.perform SvmOp.vmsaveHost
  let _ : Unit ← Prog.perform SvmOp.clgi
  let _ : Unit ← Prog.perform SvmOp.vmloadGuest
  let regs : GuestRegisters ← Prog.perform SvmOp.vmrun
  let vmcb : Vmcb ← Prog.perform SvmOp.vmsaveGuest
  let _ : Unit ← Prog.perform SvmOp.vmloadHost
  let _ : Unit ← Prog.perform SvmOp.stgi
  return ⟨regs, vmcb⟩

def quietEnv : HostEnv := ⟨0#64, fun _ _ => ⟨0#32, 0#32, 0#32, 0#32⟩⟩

/-- The exit is one whose handler executes CPUID or RDTSC. -/
def asksHost (c : SvmCpu) (exitcode : BitVec 64) : Bool :=
  exitcode == ExitCode.cpuid ||
    (exitcode == ExitCode.msr && c.vmcb.readU64 exitinfo1 &&& 1#64 != 0#64 && ApicTimer.isTimerMsr c.regs.msrIndex)

/-- The match on the exit code: only some exits ask the host, and XSETBV is executed for the guest. -/
def handle (c : SvmCpu) (exitcode : BitVec 64) : Steps (Except HypervisorError (Handled SvmCpu)) :=
  if asksHost c exitcode then do
    let env : HostEnv ← Prog.perform SvmOp.host
    return c.handle env exitcode
  else if exitcode = ExitCode.xsetbv then do
    let _ : Unit ← Prog.perform (SvmOp.xsetbv c.regs.xsetbv)
    return c.handle quietEnv exitcode
  else return c.handle quietEnv exitcode

/-- `run` after the trampoline. -/
def dispatch (c : SvmCpu) : Steps (Except HypervisorError (Handled SvmCpu)) :=
  let c := c.saveGuestRegisters
  handle c (c.vmcb.readU64 exitcodeField)

/-- `SvmCpu::run`, as a program. -/
def run (c : SvmCpu) : Steps (Except HypervisorError (Handled SvmCpu)) := do
  setupSvm
  let c ← serviceTimer c.loadGuestRegisters
  let c := c.injectPending
  let exit ← runSvmVm
  dispatch (c.exited exit)

end Steps

/-! ## Alone on the core -/

/-- The core during a call of `run`. -/
structure Alone where
  efer : BitVec 64
  input : SvmCpu.SvmInput
  exited : Bool

namespace Alone

def env (s : Alone) : HostEnv :=
  if s.exited then s.input.env else { s.input.env with tsc := s.input.entryTsc }

/-- A core that no one else uses. -/
def answer (s : Alone) : (o : SvmOp) → o.Ans × Alone
  | .rdmsrEfer => (s.efer, s)
  | .wrmsrEfer value => ((), { s with efer := value })
  | .vmrun => (s.input.exit.regs, { s with exited := true })
  | .vmsaveGuest => (s.input.exit.vmcb, s)
  | .host => (s.env, s)
  | .wrmsrHsave => ((), s)
  | .vmsaveHost => ((), s)
  | .clgi => ((), s)
  | .vmloadGuest => ((), s)
  | .vmloadHost => ((), s)
  | .stgi => ((), s)
  | .xsetbv _ => ((), s)

end Alone

namespace Steps
open Alone SvmCpu

theorem svme_set (efer : BitVec 64) : (efer ||| eferSvme) &&& eferSvme ≠ 0#64 := by
  have hself : (efer ||| eferSvme) &&& eferSvme = eferSvme := by
    ext i hi
    rw [BitVec.getElem_and, BitVec.getElem_or]
    cases eferSvme[i] with
    | true => rw [Bool.or_true, Bool.and_true]
    | false => rw [Bool.and_false]
  rw [hself]
  decide

theorem exec_setupSvm (s : Alone) : ∃ efer, setupSvm.exec answer s = ((), { s with efer := efer }) := by
  have hrun : setupSvm.exec answer s = (enableSvm s.efer >>= fun _ => Prog.perform SvmOp.wrmsrHsave).exec answer s := rfl
  rw [hrun]
  unfold enableSvm
  split
  · exact ⟨_, rfl⟩
  · exact ⟨_, rfl⟩

theorem exec_serviceTimer (c : SvmCpu) {s : Alone} (h : s.exited = false) :
    (serviceTimer c).exec answer s = (c.serviceTimer s.input.entryTsc, s) := by
  unfold serviceTimer
  cases hd : c.apicTimer.deadline with
  | none =>
    have hidle : c.serviceTimer s.input.entryTsc = c := by
      unfold SvmCpu.serviceTimer
      rw [hd]
    rw [hidle]
    rfl
  | some deadline =>
    have henv : s.env.tsc = s.input.entryTsc := by
      unfold env
      rw [h]
      rfl
    rw [← henv]
    rfl

theorem exec_runSvmVm (s : Alone) : runSvmVm.exec answer s = (s.input.exit, { s with exited := true }) := rfl

/-- A handler that executes neither CPUID nor RDTSC. -/
theorem handle_quiet {c : SvmCpu} {exitcode : BitVec 64} (h : asksHost c exitcode = false) (env : HostEnv) :
    c.handle quietEnv exitcode = c.handle env exitcode := by
  unfold asksHost at h
  rw [Bool.or_eq_false_iff, beq_eq_false_iff_ne] at h
  obtain ⟨hcpuid, hmsr⟩ := h
  unfold SvmCpu.handle
  by_cases hcode : exitcode = ExitCode.msr
  · by_cases hwrite : c.vmcb.readU64 exitinfo1 &&& 1#64 ≠ 0#64
    · have htimer : ApicTimer.isTimerMsr c.regs.msrIndex = false := by
        simpa [hcode, hwrite] using hmsr
      have hsame : ∀ tsc value, c.writeMsr tsc c.regs.msrIndex value = c.writeMsr 0#64 c.regs.msrIndex value := by
        intro tsc value
        unfold SvmCpu.writeMsr
        rw [htimer]
        rfl
      simp only [hsame env.tsc, hsame quietEnv.tsc, hcpuid, if_false]
    · simp only [hwrite, if_false, hcpuid]
  · simp only [hcode, if_false, hcpuid]

theorem exec_handle (c : SvmCpu) (exitcode : BitVec 64) (s : Alone) :
    (handle c exitcode).exec answer s = (c.handle s.env exitcode, s) := by
  unfold handle
  cases hasks : asksHost c exitcode with
  | true => rfl
  | false =>
    rw [if_neg Bool.false_ne_true, ← handle_quiet hasks s.env]
    split
    · rfl
    · rfl

end Steps

/-- On a core of its own, the program returns what `SvmCpu.run` returns. -/
theorem exec_run (c : SvmCpu) (efer : BitVec 64) (x : SvmCpu.SvmInput) :
    ((Steps.run c).exec Alone.answer ⟨efer, x, false⟩).1 = c.run x := by
  have hrun : Steps.run c = Steps.setupSvm.bind fun _ => (Steps.serviceTimer c.loadGuestRegisters).bind fun c =>
      Steps.runSvmVm.bind fun exit => Steps.dispatch (c.injectPending.exited exit) := rfl
  obtain ⟨efer', hsetup⟩ := Steps.exec_setupSvm ⟨efer, x, false⟩
  rw [hrun, Prog.exec_bind, hsetup, Prog.exec_bind, Steps.exec_serviceTimer _ rfl, Prog.exec_bind, Steps.exec_runSvmVm]
  have henv : Alone.env ⟨efer', x, true⟩ = x.env := rfl
  unfold Steps.dispatch SvmCpu.run SvmCpu.dispatch SvmCpu.enter
  dsimp only
  rw [Steps.exec_handle, henv]

end Rhyve.Svm
