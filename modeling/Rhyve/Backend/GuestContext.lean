import Rhyve.Backend.HostContext
import Rhyve.Backend.Injection
import Rhyve.Backend.Lockstep
import Rhyve.Backend.Survival

/-! # The registers of the guest across exits

A vCPU driven by the loop of `Cpu::run`: a call of the backend with its trampoline, then the exit is served, and
so on until something ends the loop. The log has the registers of the guest at every entry, as the processor
loads them, and at every exit, as the processor leaves them.

* `vmxDrive`, `svmDrive`: one turn of the loop. The exit is served on a memory in which the registers are where the
  trampoline was told that they are.
* `vmxNames`, `svmNames`: the memory that the guest names at an exit.
* `guest_registers_survive`: whole runs of both backends. `guest_registers_overwritten`: a hypercall on the block.
-/

namespace Rhyve.Backend
open Device Errors Machine Svm Svm.SvmCpu Vcpu Vmx Vmx.VmxCpu X86
set_option autoImplicit false

/-! ## VT-x -/

def vmxExitRegs (x : VmxExit) : GuestRegisters :=
  { x.regs with rip := x.fields Guest.rip, rsp := x.fields Guest.rsp, rflags := x.fields Guest.rflags }

/-- The instruction behind a VM-exit, as far as `run` goes on after it. -/
def vmxExitedBy (x : VmxExit) : VmxBasicExitReason → Option ExitedBy
  | .externalInterrupt => some .asynchronous
  | .tripleFault => none
  | .interruptWindow => some .asynchronous
  | .cpuid => some .cpuid
  | .ioInstruction => some (.ofDirection ((x.fields Ro.exitQualification).getLsbD 3))
  | .rdmsr => some .rdmsr
  | .wrmsr => some .wrmsr
  | .vmxPreemptionTimerExpired => some .asynchronous
  | .xsetbv => some .xsetbv
  | .other _ => none

/-- Nothing is named unless the exit is an I/O instruction. -/
def vmxNames (I : Interface) (L : VmMemoryLayout) (mem : HostMem) (x : VmxExit) : List Region :=
  match x.basic with
  | some .ioInstruction => named I L (x.fields Ro.exitQualification) (vmxExitRegs x) mem
  | _ => []

section Vmx
variable {I : Interface} {L : VmMemoryLayout} {uart uart' : Uart} {block : BitVec 64} {mem : HostMem}
variable {regs' : GuestRegisters}
variable {c c' : VmxCpu} {env : HostEnv} {x : VmxExit}

theorem writeMsr_regs {tsc value : BitVec 64} {msr : BitVec 32} (h : c.writeMsr tsc msr value = .ok c') :
    c'.regs = c.regs := by
  rcases writeMsr_ok h with ⟨-, f, -, rfl⟩ | rfl | ⟨-, rfl⟩
  · rfl
  · rfl
  · rfl

theorem timerExpired_regs (c : VmxCpu) : c.timerExpired.regs = c.regs := by
  unfold VmxCpu.timerExpired
  split
  · rfl
  · rfl

theorem survives_success {kind : ExitedBy} {g regs : GuestRegisters} (hregs : Differ kind.changes g regs)
    (hserve : serveNext I L uart block mem .success regs = some (regs', uart')) : Survives (some kind) g regs' := by
  rw [serveNext_success hserve]
  exact ⟨kind, rfl, hregs⟩

/-- An exit is handled and served, and the loop goes on. -/
theorem handle_survives {basic : VmxBasicExitReason} {r : Handled VmxCpu} (h : c.handle env basic = .ok r)
    (hqual : c.vmcs.value Ro.exitQualification = x.fields Ro.exitQualification)
    (hkept : basic = .ioInstruction → Kept L block (named I L (x.fields Ro.exitQualification) c.regs mem))
    (hserve : serveNext I L uart block mem r.reason r.cpu.regs = some (regs', uart')) :
    Survives (vmxExitedBy x basic) c.regs regs' := by
  cases Vmx.handle_handles h with
  | externalInterrupt | interruptWindow => exact survives_success (Differ.refl _ _) hserve
  | timer =>
    rw [timerExpired_regs] at hserve
    exact survives_success (Differ.refl _ _) hserve
  | tripleFault => cases hserve
  | rdmsr value len =>
    exact survives_success ((differ_setEdxEax c.regs value).trans (differ_advance _ len)) hserve
  | wrmsr hwrite len =>
    rw [writeMsr_regs hwrite] at hserve
    exact survives_success (differ_advance _ len) hserve
  | cpuid len => exact survives_success ((differ_setCpuid c.regs env).trans (differ_advance _ len)) hserve
  | xsetbv len => exact survives_success (differ_advance _ len) hserve
  | ioInstruction len =>
    rw [hqual] at hserve
    have hdiffer := serveNext_io (differ_advance c.regs len) (hkept rfl) hserve
    rw [isIn_eq] at hdiffer
    exact ⟨_, rfl, hdiffer⟩

/-- The fields that the code reads after an exit are those the processor has saved. -/
theorem dispatch_survives {r : Handled VmxCpu} (h : (c.exited x).dispatch env = .ok r)
    (hkept : Kept L block (vmxNames I L mem x))
    (hserve : serveNext I L uart block mem r.reason r.cpu.regs = some (regs', uart')) :
    Survives (x.basic.bind (vmxExitedBy x)) (vmxExitRegs x) regs' := by
  obtain ⟨c1, hsave, h⟩ := bind_ok h
  obtain ⟨-, rfl⟩ := saveGuestRegisters_iff.mp hsave
  obtain ⟨reason, hreason, h⟩ := bind_ok h
  rw [Vmcs.read_eq hreason] at h
  split at h
  · cases h
  · rename_i basic hbasic
    have hkind : x.basic = some basic := hbasic
    have hqual : (c.exited x).vmcs.value Ro.exitQualification = x.fields Ro.exitQualification := rfl
    rw [hkind]
    refine handle_survives h hqual ?_ hserve
    rintro rfl
    unfold vmxNames at hkept
    rw [hkind] at hkept
    exact hkept

end Vmx

/-- One turn: the call of `run`, and the memory when the exit is served. -/
structure VmxTurnInput where
  call : VmxCall
  mem : HostMem

/-- The address of the registers is the argument of the trampoline. -/
def VmxTurnInput.Kept (I : Interface) (L : VmMemoryLayout) (i : VmxTurnInput) : Prop :=
  Backend.Kept L (i.call.host.gpr .rdi) (vmxNames I L i.mem i.call.input.exit)

/-- A call of `run` and what `Cpu::run` does with its result, in the memory that also holds the register block.
-/
def vmxDrive (P : Placement) (I : Interface) (L : VmMemoryLayout) (s : Driven VmxHw VmxCpu) (i : VmxTurnInput) :
    Option (Driven VmxHw VmxCpu) × List GuestEvent :=
  match s.cpu.call P s.hw i.call with
  | none => (none, [])
  | some called =>
    (nextTurn I L VmxCpu.regs (fun c regs => { c with regs := regs }) s.uart (i.call.host.gpr .rdi) i.mem called,
      turnEvents called (i.call.input.exit.basic.bind (vmxExitedBy i.call.input.exit))
        (vmxExitRegs i.call.input.exit))

/-- The launch was at this stack pointer. -/
def LaunchedAt (P : Placement) (sp : BitVec 64) (hw : VmxHw) : Prop :=
  hw.launched = true → sp = hw.hostRsp + 136#64 ∧ hw.hostRip = P.addr 3

theorem vmxDrive_turn {P : Placement} {I : Interface} {L : VmMemoryLayout} {s : Driven VmxHw VmxCpu}
    {i : VmxTurnInput} {sp : BitVec 64} (hinv : LaunchedAt P sp s.hw) (hsp : i.call.host.gpr .rsp = sp)
    (hkept : i.Kept I L) :
    vmxDrive P I L s i = (none, []) ∨
      ∃ kind g, (vmxDrive P I L s i).2 = [.entered s.cpu.regs, .exited kind g] ∧
        ∀ s', (vmxDrive P I L s i).1 = some s' → LaunchedAt P sp s'.hw ∧ Survives kind g s'.cpu.regs := by
  rcases call_cases P s.cpu s.hw i.call with ⟨c, hreach⟩ | ⟨-, called, hcall, hrefused⟩
  · right
    subst hsp
    obtain ⟨called, hcall, hresult, hregs, hentered⟩ := Vmx.call_exits hreach hinv
    unfold vmxDrive
    rw [hcall]
    dsimp only
    refine ⟨_, _, turnEvents_entered hregs _ _, ?_⟩
    intro s' hs
    obtain ⟨r, regs', hr, hserve, hcpu, hhw⟩ := nextTurn_ok hs
    rw [hentered.result] at hr
    have hdispatch := Option.some.inj hr
    rw [hcpu, hhw]
    exact ⟨fun _ => ⟨hentered.hostRsp, hentered.hostRip⟩, dispatch_survives hdispatch hkept hserve⟩
  · left
    obtain ⟨e, hresult⟩ := hrefused.result
    unfold vmxDrive
    rw [hcall]
    dsimp only
    unfold nextTurn turnEvents
    rw [hresult, hrefused.entered]
    rfl

/-! ## AMD-V -/

/-- RAX, RIP, RSP and RFLAGS are in the VMCB after an exit, the other registers where the trampoline left them.
-/
def svmExitRegs (x : SvmExit) : GuestRegisters :=
  { x.regs with
    rax := x.vmcb.readU64 saveRax
    rip := x.vmcb.readU64 saveRip
    rsp := x.vmcb.readU64 saveRsp
    rflags := x.vmcb.readU64 saveRflags }

/-- Bit 0 of EXITINFO1 is a write for an MSR access and an input for a port access. -/
def svmExitedBy (exitcode info1 : BitVec 64) : Option ExitedBy :=
  if exitcode = ExitCode.intr then some .asynchronous
  else if exitcode = ExitCode.pause then some .pause
  else if exitcode = ExitCode.hlt then some .hlt
  else if exitcode = ExitCode.cpuid then some .cpuid
  else if exitcode = ExitCode.msr then if info1 &&& 1#64 ≠ 0#64 then some .wrmsr else some .rdmsr
  else if exitcode = ExitCode.xsetbv then some .xsetbv
  else if exitcode = ExitCode.ioio then some (.ofDirection (info1.getLsbD 0))
  else none

/-- The memory that the hypercall of this exit names, if it is one. -/
def svmNames (I : Interface) (L : VmMemoryLayout) (mem : HostMem) (x : SvmExit) : List Region :=
  if x.vmcb.readU64 exitcodeField = ExitCode.ioio then
    named I L (qualification (x.vmcb.readU64 exitinfo1)) (svmExitRegs x) mem
  else []

section Svm
variable {I : Interface} {L : VmMemoryLayout} {uart uart' : Uart} {block : BitVec 64} {mem : HostMem}
variable {regs' : GuestRegisters}
variable {c : SvmCpu} {env : HostEnv} {x : SvmExit}

theorem svm_writeMsr_regs (c : SvmCpu) (tsc value : BitVec 64) (index : BitVec 32) :
    (c.writeMsr tsc index value).regs = c.regs := by
  unfold SvmCpu.writeMsr
  split
  · rfl
  split
  · rfl
  split
  · rfl
  split
  · rfl
  · rfl

theorem svm_handle_survives {exitcode : BitVec 64} {r : Handled SvmCpu} (h : c.handle env exitcode = .ok r)
    (hkept : exitcode = ExitCode.ioio →
      Kept L block (named I L (qualification (c.vmcb.readU64 exitinfo1)) c.regs mem))
    (hserve : serveNext I L uart block mem r.reason r.cpu.regs = some (regs', uart')) :
    Survives (svmExitedBy exitcode (c.vmcb.readU64 exitinfo1)) c.regs regs' := by
  cases SvmCpu.handle_handles h with
  | intr => exact survives_success (Differ.refl _ _) hserve
  | pause | hlt | xsetbv => exact survives_success (differ_advance _ _) hserve
  | cpuid => exact survives_success ((differ_setCpuid c.regs env).trans (differ_advance _ _)) hserve
  | wrmsr hwrite =>
    have hkind : svmExitedBy ExitCode.msr (c.vmcb.readU64 exitinfo1) = some .wrmsr := if_pos hwrite
    have hregs : ((c.writeMsr env.tsc c.regs.msrIndex c.regs.edxEax).skip 2#64).regs = c.regs.advance 2#64 :=
      congrArg (GuestRegisters.advance · 2#64) (svm_writeMsr_regs c _ _ _)
    rw [hkind]
    rw [hregs] at hserve
    exact survives_success (differ_advance _ _) hserve
  | rdmsr hread =>
    have hkind : svmExitedBy ExitCode.msr (c.vmcb.readU64 exitinfo1) = some .rdmsr := if_neg hread
    rw [hkind]
    exact survives_success ((differ_setEdxEax c.regs _).trans (differ_advance _ _)) hserve
  | ioio =>
    have hdiffer := serveNext_io (differ_rip c.regs _) (hkept rfl) hserve
    rw [isIn_qualification] at hdiffer
    exact ⟨_, rfl, hdiffer⟩
  | shutdown => cases hserve

theorem svm_dispatch_survives {r : Handled SvmCpu} (h : (c.exited x).dispatch env = .ok r)
    (hkept : Kept L block (svmNames I L mem x))
    (hserve : serveNext I L uart block mem r.reason r.cpu.regs = some (regs', uart')) :
    Survives (svmExitedBy (x.vmcb.readU64 exitcodeField) (x.vmcb.readU64 exitinfo1)) (svmExitRegs x) regs' := by
  have hcode := Vmcb.readU64_saved c.vmcb x.vmcb exitcodeField (by decide)
  have hinfo := Vmcb.readU64_saved c.vmcb x.vmcb exitinfo1 (by decide)
  have hrax := Vmcb.readU64_saved c.vmcb x.vmcb saveRax (by decide)
  have hrip := Vmcb.readU64_saved c.vmcb x.vmcb saveRip (by decide)
  have hrsp := Vmcb.readU64_saved c.vmcb x.vmcb saveRsp (by decide)
  have hrflags := Vmcb.readU64_saved c.vmcb x.vmcb saveRflags (by decide)
  have hregs : (c.exited x).saveGuestRegisters.regs = svmExitRegs x := by
    unfold svmExitRegs
    rw [← hrax, ← hrip, ← hrsp, ← hrflags]
    rfl
  have hnamed : (c.exited x).vmcb.readU64 exitcodeField = ExitCode.ioio → Kept L block (named I L
      (qualification ((c.exited x).vmcb.readU64 exitinfo1)) (c.exited x).saveGuestRegisters.regs mem) := by
    intro hio
    unfold svmNames at hkept
    rw [if_pos (hcode.symm.trans hio), ← hinfo, ← hregs] at hkept
    exact hkept
  have hhandle := svm_handle_survives (c := (c.exited x).saveGuestRegisters) h hnamed hserve
  rw [hregs] at hhandle
  rw [← hcode, ← hinfo]
  exact hhandle

end Svm

/-- A call, and the memory of the host when it returns. -/
structure SvmTurnInput (H : Type) where
  call : SvmCall H
  mem : HostMem

def SvmTurnInput.Kept {H : Type} (I : Interface) (L : VmMemoryLayout) (i : SvmTurnInput H) : Prop :=
  Backend.Kept L (i.call.host.gpr .rdi) (svmNames I L i.mem i.call.input.exit)

/-- The same on AMD-V. -/
def svmDrive {H : Type} (I : Interface) (L : VmMemoryLayout) (s : Driven (SvmHw H) SvmCpu) (i : SvmTurnInput H) :
    Option (Driven (SvmHw H) SvmCpu) × List GuestEvent :=
  match s.cpu.call i.call with
  | none => (none, [])
  | some called =>
    (nextTurn I L SvmCpu.regs (fun c regs => { c with regs := regs }) s.uart (i.call.host.gpr .rdi) i.mem called,
      turnEvents called (svmExitedBy (i.call.input.exit.vmcb.readU64 exitcodeField)
        (i.call.input.exit.vmcb.readU64 exitinfo1)) (svmExitRegs i.call.input.exit))

theorem svmDrive_turn {H : Type} {I : Interface} {L : VmMemoryLayout} (s : Driven (SvmHw H) SvmCpu)
    {i : SvmTurnInput H} (hkept : i.Kept I L) :
    ∃ kind g, (svmDrive I L s i).2 = [.entered s.cpu.regs, .exited kind g] ∧
      ∀ s', (svmDrive I L s i).1 = some s' → Survives kind g s'.cpu.regs := by
  obtain ⟨called, hcall, hresult, -, hregs⟩ := Svm.call_exits s.cpu i.call
  unfold svmDrive
  rw [hcall]
  dsimp only
  refine ⟨_, _, turnEvents_entered hregs _ _, ?_⟩
  intro s' hs
  obtain ⟨r, regs', hr, hserve, hcpu, -⟩ := nextTurn_ok hs
  rw [hresult] at hr
  have hrun := Option.some.inj hr
  unfold SvmCpu.run at hrun
  rw [hcpu]
  exact svm_dispatch_survives hrun hkept hserve

/-! ## Whole runs -/

/-- Every re-entry of every run in which the exits name only guest memory, on VT-x if all calls are made at one stack
pointer. -/
theorem guest_registers_survive (I : Interface) (L : VmMemoryLayout) :
    (∀ (P : Placement) (sp : BitVec 64) (s : Driven VmxHw VmxCpu), s.hw.launched = false →
      ∀ is : List VmxTurnInput, (∀ i ∈ is, i.call.host.gpr .rsp = sp ∧ i.Kept I L) →
        AtEach Resumed (run (vmxDrive P I L) s is).2) ∧
    ∀ (H : Type) (s : Driven (SvmHw H) SvmCpu) (is : List (SvmTurnInput H)), (∀ i ∈ is, i.Kept I L) →
      AtEach Resumed (run (svmDrive I L) s is).2 := by
  refine ⟨?_, ?_⟩
  · intro P sp s hclear is his
    have hstart : LaunchedAt P sp s.hw := by
      intro hlaunched
      rw [hclear] at hlaunched
      cases hlaunched
    exact run_resumed (fun s => s.cpu.regs) (fun s => LaunchedAt P sp s.hw)
      (fun s i hinv hi => vmxDrive_turn hinv hi.1 hi.2) hstart (along_of_forall his s)
  · intro H s is his
    refine run_resumed (fun s => s.cpu.regs) (fun _ => True) ?_ trivial (along_of_forall his s)
    intro s i _ hi
    obtain ⟨kind, g, hevents, hnext⟩ := svmDrive_turn (I := I) (L := L) s hi
    exact .inr ⟨kind, g, hevents, fun s' hs => ⟨trivial, hnext s' hs⟩⟩

/-- One page of guest memory at 64 KiB, below the vCPU. -/
def lowPage : VmMemoryLayout := { onePage with startAddr := 0x10000#64, fits := by decide }

/-- The exit of a guest that calls `FileClose` with its parameters at `gpa`. -/
def vmxClose (gpa : BitVec 64) : VmxTurnInput where
  call := { (lowUse 2#64).call with
    input := { exampleInput with
      exit := ⟨{ exampleRegs with rdi := gpa }, fun f =>
        if f = Ro.exitReason then 30#64 else if f = Ro.exitQualification then 0x11200000#64 else 0#64⟩ } }
  mem := fun _ => 0#8

def vmxCpuid : VmxTurnInput := ⟨(lowUse 2#64).call, fun _ => 0#8⟩

/-- A call on a fixed stack, with this exit. -/
def svmTurn (x : SvmExit) : SvmTurnInput Unit where
  call :=
    { host := ⟨exampleGpr 0x8000#64, 0x202#64, fun _ => 0#8, 0x400000#64, by decide, by decide⟩
      input := ⟨0#64, x, exampleInput.env⟩
      hw := ⟨true, (), fun _ => (), fun _ => 0#64, (), none⟩ }
  mem := fun _ => 0#8

def svmClose (gpa : BitVec 64) : SvmTurnInput Unit :=
  svmTurn (svmExitWith { exampleRegs with rdi := gpa } ExitCode.ioio 0x11200000#64 7#64)

def svmCpuid : SvmTurnInput Unit := svmTurn (svmExitWith exampleRegs ExitCode.cpuid 0#64 7#64)

def vmxStart : Driven VmxHw VmxCpu := ⟨exampleVcpu, clearedHw, Uart.new⟩

def svmStart : Driven (SvmHw Unit) SvmCpu := ⟨SvmCpu.new 0 0 0 0 0 0, svmCpuid.call.hw, Uart.new⟩

/-- On both backends the guest executes CPUID, which answers zeros, and calls `FileClose` in its memory. AMD-V advances
RIP over CPUID by the length of the instruction, VT-x by what the processor reports. -/
theorem guest_registers_survive_close :
    (AtEach Resumed (run (vmxDrive examplePlacement uhyveInterface lowPage) vmxStart
        [vmxCpuid, vmxClose 0x100#64, vmxCpuid]).2 ∧
      (run (vmxDrive examplePlacement uhyveInterface lowPage) vmxStart [vmxCpuid, vmxClose 0x100#64, vmxCpuid]).2.drop 1 =
        [.exited (some .cpuid) exampleRegs,
          .entered { exampleRegs with rax := 0#64, rbx := 0#64, rcx := 0#64, rdx := 0#64 },
          .exited (some .output) { exampleRegs with rdi := 0x100#64 },
          .entered { exampleRegs with rdi := 0x100#64 },
          .exited (some .cpuid) exampleRegs]) ∧
    AtEach Resumed (run (svmDrive uhyveInterface lowPage) svmStart [svmCpuid, svmClose 0x100#64, svmCpuid]).2 ∧
      (run (svmDrive uhyveInterface lowPage) svmStart [svmCpuid, svmClose 0x100#64, svmCpuid]).2.drop 1 =
        [.exited (some .cpuid) exampleRegs,
          .entered { exampleRegs with rax := 0#64, rbx := 0#64, rcx := 0#64, rdx := 0#64, rip := 2#64 },
          .exited (some .output) { exampleRegs with rdi := 0x100#64 },
          .entered { exampleRegs with rdi := 0x100#64 },
          .exited (some .cpuid) exampleRegs] := by
  obtain ⟨hvmx, hsvm⟩ := guest_registers_survive uhyveInterface lowPage
  have hapart : WordMem.Separate lowPage.startAddr lowPage.len 0x100000#64 blockSize := ⟨by decide, by decide⟩
  refine ⟨⟨hvmx examplePlacement 0x8000#64 _ rfl _ ?_, by decide +kernel⟩, hsvm Unit _ _ ?_, by decide +kernel⟩
  · intro i hi
    simp only [List.mem_cons, List.not_mem_nil, or_false] at hi
    rcases hi with rfl | rfl | rfl
    · exact ⟨rfl, by decide +kernel, hapart⟩
    · exact ⟨rfl, by decide +kernel, hapart⟩
    · exact ⟨rfl, by decide +kernel, hapart⟩
  · intro i hi
    simp only [List.mem_cons, List.not_mem_nil, or_false] at hi
    rcases hi with rfl | rfl | rfl
    · exact ⟨by decide +kernel, hapart⟩
    · exact ⟨by decide +kernel, hapart⟩
    · exact ⟨by decide +kernel, hapart⟩

/-- RBX is not a register that an `OUT` changes. -/
theorem not_resumed {log rest : List GuestEvent}
    (h : log.drop 1 = .exited (some .output) { exampleRegs with rdi := 0xf0004#64 } ::
      .entered { exampleRegs with rdi := 0xf0004#64, rbx := 0xffffffff#64 } :: rest) : ¬ AtEach Resumed log := by
  intro heach
  have hsplit := List.take_append_drop 1 log
  rw [h] at hsplit
  obtain ⟨k, hk, hdiffer⟩ := heach (log.take 1 ++ [.exited (some .output) { exampleRegs with rdi := 0xf0004#64 }]) _ rest
    (by rw [List.append_assoc]; exact hsplit.symm) _ _ _ _ rfl rfl
  obtain rfl := Option.some.inj hk
  exact absurd (hdiffer (.gpr .rbx) (by decide)) (by decide)

/-- The parameters are where the result goes into the RBX of the vCPU, behind guest memory. -/
theorem guest_registers_overwritten :
    (run (vmxDrive examplePlacement uhyveInterface lowPage) vmxStart [vmxClose 0xf0004#64, vmxCpuid]).2.drop 1 =
      [.exited (some .output) { exampleRegs with rdi := 0xf0004#64 },
        .entered { exampleRegs with rdi := 0xf0004#64, rbx := 0xffffffff#64 },
        .exited (some .cpuid) exampleRegs] ∧
    ¬ AtEach Resumed (run (vmxDrive examplePlacement uhyveInterface lowPage) vmxStart
      [vmxClose 0xf0004#64, vmxCpuid]).2 ∧
    (run (svmDrive uhyveInterface lowPage) svmStart [svmClose 0xf0004#64, svmCpuid]).2.drop 1 =
      [.exited (some .output) { exampleRegs with rdi := 0xf0004#64 },
        .entered { exampleRegs with rdi := 0xf0004#64, rbx := 0xffffffff#64 },
        .exited (some .cpuid) exampleRegs] ∧
    ¬ AtEach Resumed (run (svmDrive uhyveInterface lowPage) svmStart [svmClose 0xf0004#64, svmCpuid]).2 := by
  have hvmx : (run (vmxDrive examplePlacement uhyveInterface lowPage) vmxStart [vmxClose 0xf0004#64, vmxCpuid]).2.drop 1 =
      [.exited (some .output) { exampleRegs with rdi := 0xf0004#64 },
        .entered { exampleRegs with rdi := 0xf0004#64, rbx := 0xffffffff#64 },
        .exited (some .cpuid) exampleRegs] := by decide +kernel
  have hsvm : (run (svmDrive uhyveInterface lowPage) svmStart [svmClose 0xf0004#64, svmCpuid]).2.drop 1 =
      [.exited (some .output) { exampleRegs with rdi := 0xf0004#64 },
        .entered { exampleRegs with rdi := 0xf0004#64, rbx := 0xffffffff#64 },
        .exited (some .cpuid) exampleRegs] := by decide +kernel
  exact ⟨hvmx, not_resumed hvmx, hsvm, not_resumed hsvm⟩

end Rhyve.Backend
