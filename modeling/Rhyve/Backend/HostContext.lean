import Rhyve.Lib.Machine
import Rhyve.Svm.Call
import Rhyve.Vmx.Call

/-! # The context of the host across calls of `run`

Any number of calls on one vCPU, made anywhere: each with its own host registers, flags, stack pointer and
memory, and with whatever the vCPU is then. A call that enters the guest is logged with the context it was
made in and the one it returns in.

* `vmxCross`, `svmCross`: one call.
* On VT-x only the launch writes HOST_RSP, and a VM-exit clears RFLAGS.IF: `vmx_context_iff`.
* On AMD-V the VMRUN saves both: `svm_context`.
-/

namespace Rhyve.Backend
open Machine Svm Vmx X86
set_option autoImplicit false

/-- The context a call that enters the guest was made in, and the one it returned in, if it did. -/
abbrev Crossing := HostContext × Option HostContext

def Crossing.Preserved (o : Crossing) : Prop := o.2 = some o.1

/-! ## VT-x -/

/-- A call of `run`, of any vCPU. -/
structure VmxUse where
  cpu : VmxCpu
  call : VmxCall

/-- The host's context before and after a call that got as far as an entry. -/
def vmxCross (P : Placement) (hw : VmxHw) (i : VmxUse) : Option VmxHw × List Crossing :=
  match i.cpu.call P hw i.call with
  | none => (none, [(i.call.host.context, none)])
  | some called =>
    (some called.hw, if called.entered.isSome then [(i.call.host.context, some called.context)] else [])

/-- A call that gets to the VM-entry is made with interrupts disabled and, once the VMCS has been launched, at
the stack pointer that is in its host-state area. -/
def SafeCall (hw : VmxHw) (i : VmxUse) : Prop :=
  ∀ c, Reaches i.cpu i.call c → interruptFlag i.call.host.rflags = false ∧
    (hw.launched = true → i.call.host.gpr .rsp = hw.hostRsp + 136#64)

section Vmx
variable {P : Placement} {hw : VmxHw} {i : VmxUse}

/-- The launch has written HOST_RIP. -/
def HostRip (P : Placement) (hw : VmxHw) : Prop := hw.launched = true → hw.hostRip = P.addr 3

theorem vmxCross_some {called : Called VmxHw VmxCpu} (h : i.cpu.call P hw i.call = some called) :
    vmxCross P hw i =
      (some called.hw, if called.entered.isSome then [(i.call.host.context, some called.context)] else []) := by
  unfold vmxCross
  rw [h]

/-- At the right stack pointer everything but RFLAGS.IF is preserved. -/
theorem vmxCross_there {c : VmxCpu} (hrip : HostRip P hw) (h : Reaches i.cpu i.call c)
    (hrsp : hw.launched = true → i.call.host.gpr .rsp = hw.hostRsp + 136#64) :
    ∃ hw', vmxCross P hw i =
        (some hw', [(i.call.host.context, some { i.call.host.context with interrupts := false })]) ∧
      hw'.launched = true ∧ i.call.host.gpr .rsp = hw'.hostRsp + 136#64 ∧ hw'.hostRip = P.addr 3 := by
  obtain ⟨called, hcall, -, hregs, hentered⟩ := call_exits h fun hlaunched => ⟨hrsp hlaunched, hrip hlaunched⟩
  refine ⟨called.hw, ?_, hentered.launched, hentered.hostRsp, hentered.hostRip⟩
  rw [vmxCross_some hcall, hregs, hentered.context]
  rfl

/-- At another one the call returns with the stack pointer of the launch. -/
theorem vmxCross_elsewhere {c : VmxCpu} (hrip : HostRip P hw) (h : Reaches i.cpu i.call c)
    (hlaunched : hw.launched = true) :
    ∃ hw' context, vmxCross P hw i = (some hw', [(i.call.host.context, some context)]) ∧
      context.rsp = hw.hostRsp + 136#64 := by
  obtain ⟨called, hcall, hrsp, -, hentered⟩ := trampoline_elsewhere (c := c) h.ok hlaunched (hrip hlaunched)
  refine ⟨called.hw, called.context, ?_, hrsp⟩
  rw [vmxCross_some ((h.call P hw).trans hcall), if_pos hentered]

theorem vmxCross_refused (P : Placement) (hw : VmxHw) (h : ¬ ∃ c, Reaches i.cpu i.call c) :
    ∃ hw', vmxCross P hw i = (some hw', []) ∧ hw'.launched = hw.launched ∧
      (hw.launched = true → hw'.hostRip = hw.hostRip) := by
  rcases call_cases P i.cpu hw i.call with hreach | ⟨-, called, hcall, hrefused⟩
  · exact absurd hreach h
  · refine ⟨called.hw, ?_, hrefused.launched, fun hlaunched => (hrefused.host hlaunched).2⟩
    rw [vmxCross_some hcall, hrefused.entered]
    rfl

theorem vmxCross_iff (hrip : HostRip P hw) :
    ((∀ o ∈ (vmxCross P hw i).2, o.Preserved) ↔ SafeCall hw i) ∧
      (SafeCall hw i → ∀ hw', (vmxCross P hw i).1 = some hw' → HostRip P hw') := by
  by_cases hreach : ∃ c, Reaches i.cpu i.call c
  · obtain ⟨c, h⟩ := hreach
    by_cases hrsp : hw.launched = true → i.call.host.gpr .rsp = hw.hostRsp + 136#64
    · obtain ⟨hw', hstep, -, -, hrip'⟩ := vmxCross_there hrip h hrsp
      have hcontext : Crossing.Preserved
          (i.call.host.context, some { i.call.host.context with interrupts := false }) ↔
          interruptFlag i.call.host.rflags = false := by
        refine ⟨?_, ?_⟩
        · intro hpreserved
          exact (congrArg HostContext.interrupts (Option.some.inj hpreserved)).symm
        · intro hflag
          show some _ = some _
          rw [← hflag]
          rfl
      rw [hstep]
      refine ⟨⟨?_, ?_⟩, ?_⟩
      · intro hall c' _
        exact ⟨hcontext.mp (hall _ List.mem_cons_self), hrsp⟩
      · intro hsafe o ho
        obtain rfl := List.mem_singleton.mp ho
        exact hcontext.mpr (hsafe c h).1
      · intro _ hw'' heq _
        obtain rfl := Option.some.inj heq
        exact hrip'
    · -- The VMCS has been launched at another stack pointer.
      have hlaunched : hw.launched = true := by
        by_contra hnot
        exact hrsp fun htrue => absurd htrue hnot
      have hne : i.call.host.gpr .rsp ≠ hw.hostRsp + 136#64 := fun heq => hrsp fun _ => heq
      have hunsafe : ¬ SafeCall hw i := fun hsafe => hrsp (hsafe c h).2
      obtain ⟨hw', context, hstep, hcontext⟩ := vmxCross_elsewhere hrip h hlaunched
      refine ⟨⟨?_, fun hsafe => absurd hsafe hunsafe⟩, fun hsafe => absurd hsafe hunsafe⟩
      rw [hstep]
      intro hall
      have hpreserved := hall _ List.mem_cons_self
      have heq := congrArg HostContext.rsp (Option.some.inj hpreserved)
      rw [hcontext] at heq
      exact absurd heq.symm hne
  · obtain ⟨hw', hstep, hlaunched, hhost⟩ := vmxCross_refused P hw hreach
    rw [hstep]
    refine ⟨⟨fun _ c h => absurd ⟨c, h⟩ hreach, fun _ => nofun⟩, ?_⟩
    intro _ hw'' heq hlaunched'
    obtain rfl := Option.some.inj heq
    rw [hlaunched] at hlaunched'
    exact (hhost hlaunched').trans (hrip hlaunched')

theorem vmx_context_iff (P : Placement) {hw : VmxHw} (h : hw.launched = false) (is : List VmxUse) :
    (∀ o ∈ (run (vmxCross P) hw is).2, o.Preserved) ↔ Along (vmxCross P) SafeCall hw is := by
  have hstart : HostRip P hw := by
    intro hlaunched
    rw [h] at hlaunched
    cases hlaunched
  exact outputs_iff (HostRip P) Crossing.Preserved (fun _ _ hinv _ => vmxCross_iff hinv) hstart (along_true hw is)

end Vmx

/-! ## AMD-V -/

/-- A call of `run` on AMD-V, of any vCPU. -/
structure SvmUse (H : Type) where
  cpu : SvmCpu
  call : SvmCall H

/-- No call depends on the ones before it. -/
def svmCross {H : Type} (_ : Unit) (i : SvmUse H) : Option Unit × List Crossing :=
  match i.cpu.call i.call with
  | none => (none, [(i.call.host.context, none)])
  | some called =>
    (some (), if called.entered.isSome then [(i.call.host.context, some called.context)] else [])

theorem svm_context {H : Type} (is : List (SvmUse H)) : ∀ o ∈ (run svmCross () is).2, o.Preserved := by
  refine run_outputs (C := fun _ _ => True) (fun _ => True) Crossing.Preserved ?_ trivial (along_true () is)
  intro s i _ _
  obtain ⟨called, hcall, -, hcontext, hentered⟩ := Svm.call_exits i.cpu i.call
  have hstep : svmCross s i = (some (), [(i.call.host.context, some i.call.host.context)]) := by
    unfold svmCross
    rw [hcall]
    dsimp only
    rw [hentered, hcontext]
    rfl
  rw [hstep]
  refine ⟨?_, fun _ _ => trivial⟩
  intro o ho
  obtain rfl := List.mem_singleton.mp ho
  rfl

/-! ## Calls of a host -/

/-- A vCPU with an empty VMCS that has not been launched. -/
def exampleVcpu : VmxCpu where
  vmcs := ⟨fun _ => 0#64, fun _ => true⟩
  regs := GuestRegisters.zero
  launched := false
  apicTimer := Apic.ApicTimer.default
  pendingVector := none
  preemptScale := 0#8

/-- The registers of the guest when it exits. R15 is the one that stays on the stack of the host: it is the address of
the vCPU. -/
def exampleRegs : GuestRegisters := { ofGprs (fun _ => 7#64) 0#64 0#64 0#64 with r15 := 0x100000#64 }

/-- The guest exits on CPUID. -/
def exampleInput : VmxCpu.VmxInput where
  activated := true
  entryTsc := 0#64
  entryFailed := false
  exit := ⟨exampleRegs, fun f => if f = Ro.exitReason then 10#64 else 0#64⟩
  env := ⟨0#64, fun _ _ => ⟨0#32, 0#32, 0#32, 0#32⟩⟩

/-- A stack pointer below `0x10000`; the vCPU is at `0x100000`. -/
def exampleGpr (rsp : BitVec 64) : Reg → BitVec 64
  | .rsp => rsp
  | .rdi => 0x100000#64
  | _ => 1#64

/-- What a call at 0x8000 leaves of its frame: the R15 of the guest, and the return address. -/
def exampleStack : WordMem.Memory := WordMem.storeWords (fun _ => 0#8) 0x7f78#64 [(0, 0x100000#64), (128, 0x400000#64)]

/-- A call with this stack pointer and these flags. -/
def useAt (rsp rflags : BitVec 64) (h : FrameApart (rsp - 8#64) 0x100000#64 17) : VmxUse where
  cpu := exampleVcpu
  call := ⟨⟨exampleGpr rsp, rflags, exampleStack, 0x400000#64, h⟩, exampleInput, 7#64, by decide⟩

def lowUse (rflags : BitVec 64) : VmxUse := useAt 0x8000#64 rflags ⟨by decide, by decide⟩

def highUse (rflags : BitVec 64) : VmxUse := useAt 0x9000#64 rflags ⟨by decide, by decide⟩

def clearedHw : VmxHw := ⟨false, 0#64, 0#64, 0#64, .exits fun _ => 0#64, none⟩

def examplePlacement : Placement := ⟨fun l => BitVec.ofNat 64 (0x1000 + l), by decide, by decide, by decide⟩

theorem useAt_reaches (rsp rflags : BitVec 64) (h : FrameApart (rsp - 8#64) 0x100000#64 17) :
    ∃ c, Reaches (useAt rsp rflags h).cpu (useAt rsp rflags h).call c := ⟨_, rfl, rfl, rfl⟩

theorem lowUse_first (rflags : BitVec 64) :
    ∃ hw, vmxCross examplePlacement clearedHw (lowUse rflags) =
        (some hw, [((lowUse rflags).call.host.context,
          some { (lowUse rflags).call.host.context with interrupts := false })]) ∧
      hw.launched = true ∧ 0x8000#64 = hw.hostRsp + 136#64 ∧ hw.hostRip = examplePlacement.addr 3 := by
  obtain ⟨c, h⟩ := useAt_reaches 0x8000#64 rflags ⟨by decide, by decide⟩
  exact vmxCross_there (i := lowUse rflags) nofun h nofun

/-! ## Both backends -/

/-- On a vCPU that has not been run, every call that enters the guest preserves the context of the host exactly
if all calls are safe. On AMD-V all calls preserve it. -/
theorem host_context_preserved_iff (P : Placement) {hw : VmxHw} (h : hw.launched = false) :
    (∀ is, (∀ o ∈ (run (vmxCross P) hw is).2, o.Preserved) ↔ Along (vmxCross P) SafeCall hw is) ∧
      ∀ (H : Type) (is : List (SvmUse H)), ∀ o ∈ (run svmCross () is).2, o.Preserved :=
  ⟨vmx_context_iff P h, fun _ is => svm_context is⟩

/-- Two calls with interrupts disabled, at one stack pointer; both enter the guest. -/
theorem host_context_preserved_twice : clearedHw.launched = false ∧
    (∀ o ∈ (run (vmxCross examplePlacement) clearedHw [lowUse 2#64, lowUse 2#64]).2, o.Preserved) ∧
    (run (vmxCross examplePlacement) clearedHw [lowUse 2#64, lowUse 2#64]).2.length = 2 := by
  refine ⟨rfl, ((host_context_preserved_iff examplePlacement rfl).1 _).mpr ⟨?_, ?_⟩, by decide +kernel⟩
  · intro c _
    exact ⟨rfl, nofun⟩
  · intro hw hstep
    obtain ⟨hw', hstep', -, hrsp, -⟩ := lowUse_first 2#64
    rw [hstep'] at hstep
    obtain rfl := Option.some.inj hstep
    refine ⟨?_, fun _ _ => trivial⟩
    intro c _
    exact ⟨rfl, fun _ => hrsp⟩

/-- A call with interrupts enabled, and two calls at different stack pointers. -/
theorem host_context_lost :
    (∃ o ∈ (run (vmxCross examplePlacement) clearedHw [lowUse 0x202#64]).2, o.1.interrupts = true ∧
      ∃ context, o.2 = some context ∧ context.interrupts = false) ∧
    ∃ o ∈ (run (vmxCross examplePlacement) clearedHw [lowUse 2#64, highUse 2#64]).2, o.1.rsp = 0x9000#64 ∧
      ∃ context, o.2 = some context ∧ context.rsp = 0x8000#64 := by
  refine ⟨?_, ?_⟩
  · obtain ⟨hw, hstep, -⟩ := lowUse_first 0x202#64
    simp only [run, hstep]
    exact ⟨_, List.mem_cons_self, rfl, _, rfl, rfl⟩
  · obtain ⟨hw, hstep, hlaunched, hrsp, hrip⟩ := lowUse_first 2#64
    obtain ⟨c, h⟩ := useAt_reaches 0x9000#64 2#64 ⟨by decide, by decide⟩
    obtain ⟨hw', context, hstep', hcontext⟩ :=
      vmxCross_elsewhere (P := examplePlacement) (i := highUse 2#64) (fun _ => hrip) h hlaunched
    simp only [run, hstep, hstep']
    refine ⟨_, List.mem_cons_of_mem _ List.mem_cons_self, rfl, context, rfl, ?_⟩
    rw [hcontext, ← hrsp]

end Rhyve.Backend
