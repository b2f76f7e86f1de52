import Rhyve.Vmx.Trampoline
import Rhyve.Vmx.Turn

/-! # `run` with its trampoline (`vmx/mod.rs`)

`VmxCpu.run` takes the registers that the trampoline stores from its environment. `call` is the same function
with the trampoline in it: the registers of the vCPU are in memory, and what `run` sees of a VM-exit is what
the trampoline leaves there and in RAX.

* `call_exits`: at the stack pointer of the host-state area, `call` enters the guest with the registers of the
  vCPU and returns what `run` returns.
* `call_cases`: a call that does not enter the guest. `trampoline_elsewhere`: one at another stack pointer.
-/

namespace Rhyve.Vmx
open Backend Errors Trampoline VmxCpu WordMem X86
set_option autoImplicit false

/-- One call of `run`. The error is the one of an entry that fails. -/
structure VmxCall where
  host : HostCall 17
  input : VmxInput
  error : BitVec 64
  other : error ≠ 5#64

def VmxCall.attempt (i : VmxCall) : Attempt :=
  if i.input.entryFailed then .fails i.error i.other else .exits (gprsOf i.input.exit.regs)

def VmxHw.start (hw : VmxHw) (attempt : Attempt) : VmxHw := { hw with attempt := attempt, entered := none }

namespace VmxCpu

def loaded (c : VmxCpu) (gpr : Reg → BitVec 64) : GuestRegisters :=
  ofGprs gpr (c.vmcs.value Guest.rip) (c.vmcs.value Guest.rsp) (c.vmcs.value Guest.rflags)

/-- The vCPU after the trampoline: the block as it lies in memory, and the VMCS as the processor left it. -/
def resumed (c : VmxCpu) (i : VmxCall) (m : Machine VmxHw) : VmxCpu :=
  { c with
    regs := getBlock m.mem (i.host.gpr .rdi)
    vmcs := if m.hw.entered.isSome then c.vmcs.afterExit i.input.exit.fields else c.vmcs
    launched := true }

/-- ZF or CF. -/
def failureFlags : BitVec 64 := 0x41#64

/-- `run` after the trampoline, which returns the flags in RAX. -/
def afterTrampoline (c : VmxCpu) (i : VmxCall) (m : Machine VmxHw) : Except HypervisorError (Handled VmxCpu) :=
  if m.gpr .rax &&& failureFlags ≠ 0#64 then .error (.vmEntryFailed m.hw.error)
  else (c.resumed i m).dispatch i.input.env

/-- The arm that executes `sti; nop; cli` is reached. -/
def interrupted (c : VmxCpu) : Bool :=
  match c.saveGuestRegisters with
  | .error _ => false
  | .ok c =>
    match c.vmcs.read Ro.exitReason with
    | .error _ => false
    | .ok reason => VmxBasicExitReason.fromU32 (reason.setWidth 32) == some .externalInterrupt

/-- RFLAGS.IF when `run` returns. -/
def interruptsAfter (c : VmxCpu) (i : VmxCall) (m : Machine VmxHw) : Bool :=
  if m.gpr .rax &&& failureFlags = 0#64 ∧ (c.resumed i m).interrupted = true then false
  else interruptFlag m.rflags

/-- From the call of the trampoline on. -/
def trampoline (P : Placement) (c : VmxCpu) (hw : VmxHw) (i : VmxCall) : Option (Called VmxHw VmxCpu) :=
  match exec VmxHw.sem P.addr runVmxVm none (i.host.machine c.regs (hw.start i.attempt)) with
  | none => none
  | some (m, ret) =>
    some {
      result := if ret = i.host.ret then some (c.afterTrampoline i m) else none
      hw := m.hw
      context := ⟨ret, m.gpr .rsp, calleeSaved.map m.gpr, c.interruptsAfter i m⟩
      entered := m.hw.entered.map c.loaded }

/-- A call of `run`, with the trampoline executed instruction by instruction. -/
def call (P : Placement) (c : VmxCpu) (hw : VmxHw) (i : VmxCall) : Option (Called VmxHw VmxCpu) :=
  if i.input.activated = false then some ⟨some (.error .vmclearFailed), hw, i.host.context, none⟩
  else
    match c.enter i.input.entryTsc with
    | .error e => some ⟨some (.error e), hw, i.host.context, none⟩
    | .ok c => c.trampoline P hw i

end VmxCpu

/-! ## The registers of the vCPU -/

section Trampoline
variable {P : Placement} {c : VmxCpu} {hw : VmxHw} {i : VmxCall}

theorem getBlock_exited {m : Machine VmxHw} {guest : Reg → BitVec 64}
    (h : Exited P (i.host.machine c.regs (hw.start i.attempt)) m guest) :
    getBlock m.mem (i.host.gpr .rdi) = ofGprs guest c.regs.rip c.regs.rsp c.regs.rflags := by
  have hrdi := i.host.machine_rdi c.regs (hw.start i.attempt)
  have hapart := i.host.machine_apart c.regs (hw.start i.attempt)
  have hblock := h.block
  rw [hrdi] at hapart hblock
  have hkept : ∀ q, (∀ r ∈ gprs, q ≠ .gpr r) →
      WordMem.load m.mem (field (i.host.gpr .rdi) q) = values c.regs q := by
    intro q hq
    have helse := h.elsewhere (field (i.host.gpr .rdi) q) (hapart.offFrame q)
    rw [hrdi] at helse
    exact (helse fun r hr => field_apart _ (Ne.symm (hq r hr))).trans (i.host.machine_block c.regs _ q)
  have hrip : WordMem.load m.mem (field (i.host.gpr .rdi) .rip) = c.regs.rip := hkept .rip (by decide)
  have hrsp : WordMem.load m.mem (slot (i.host.gpr .rdi) .rsp) = c.regs.rsp := hkept (.gpr .rsp) (by decide)
  have hrflags : WordMem.load m.mem (field (i.host.gpr .rdi) .rflags) = c.regs.rflags :=
    hkept .rflags (by decide)
  unfold getBlock
  rw [hrip, hrsp, hrflags]
  exact ofGprs_congr hblock _ _ _

/-- What a call that enters the guest has done; `c` is the vCPU at the VM-entry. -/
structure Entered (P : Placement) (c : VmxCpu) (i : VmxCall) (called : Called VmxHw VmxCpu) : Prop where
  result : called.result = some ((c.exited i.input.exit).dispatch i.input.env)
  context : called.context = { i.host.context with interrupts := false }
  entered : called.entered = some (c.loaded (gprsOf c.regs))
  launched : called.hw.launched = true
  hostRsp : i.host.gpr .rsp = called.hw.hostRsp + 136#64
  hostRip : called.hw.hostRip = P.addr 3

theorem interruptsAfter_exit {m : Machine VmxHw} (h : m.rflags = 2#64) : c.interruptsAfter i m = false := by
  unfold interruptsAfter
  rw [h]
  split
  · rfl
  · rfl

theorem resumed_exited {m : Machine VmxHw}
    (h : Exited P (i.host.machine c.regs (hw.start i.attempt)) m (gprsOf i.input.exit.regs)) :
    c.resumed i m = c.exited i.input.exit := by
  obtain ⟨e, hentered, -⟩ := h.entered
  unfold resumed
  rw [getBlock_exited h, hentered]
  rfl

theorem attempt_exits (h : i.input.entryFailed = false) : i.attempt = .exits (gprsOf i.input.exit.regs) := by
  unfold VmxCall.attempt
  rw [h]
  rfl

theorem trampoline_exits (hok : i.input.entryFailed = false)
    (hhost : hw.launched = true → i.host.gpr .rsp = hw.hostRsp + 136#64 ∧ hw.hostRip = P.addr 3) :
    ∃ called, c.trampoline P hw i = some called ∧ Entered P c i called := by
  have hret := i.host.machine_ret c.regs (hw.start i.attempt)
  have hrsp := i.host.machine_rsp c.regs (hw.start i.attempt)
  -- The CALL has pushed one word: the trampoline's frame begins 8 bytes below the caller's stack pointer.
  have hhost' : (hw.start i.attempt).launched = true →
      (hw.start i.attempt).hostRsp = (i.host.machine c.regs (hw.start i.attempt)).gpr .rsp - 128#64 ∧
        (hw.start i.attempt).hostRip = P.addr 3 := by
    intro hlaunched
    obtain ⟨hsp, hrip⟩ := hhost hlaunched
    refine ⟨?_, hrip⟩
    show hw.hostRsp = _
    rw [hrsp, hsp]
    bv_omega
  obtain ⟨m, hexec, hexited⟩ := runVmxVm_exits P hret (i.host.machine_apart c.regs _) (attempt_exits hok) hhost'
  obtain ⟨e, hentered, hloaded⟩ := hexited.entered
  have hrsp' := hexited.rsp
  have hhostRsp := hexited.hostRsp
  rw [hrsp] at hrsp' hhostRsp
  have hresult : c.afterTrampoline i m = (c.exited i.input.exit).dispatch i.input.env := by
    unfold afterTrampoline
    rw [hexited.rax, resumed_exited hexited]
    exact if_neg (by decide)
  have hsaved := i.host.saved_eq c.regs (hw.start i.attempt) fun r hr =>
    hexited.gpr r (calleeSaved_ne hr).1 (calleeSaved_ne hr).2
  unfold trampoline
  rw [hexec]
  refine ⟨_, rfl, ?_, ?_, ?_, hexited.launched, ?_, hexited.hostRip⟩
  · rw [if_pos rfl, hresult]
  · rw [hrsp', hsaved, interruptsAfter_exit hexited.rflags, BitVec.sub_add_cancel]
    rfl
  · rw [hentered]
    refine congrArg some (ofGprs_congr ?_ _ _ _)
    intro r hr
    rw [hloaded r hr, i.host.machine_rdi]
    exact i.host.machine_block c.regs _ (.gpr r)
  · rw [hhostRsp]
    bv_omega

theorem trampoline_elsewhere (hok : i.input.entryFailed = false) (hlaunched : hw.launched = true)
    (hrip : hw.hostRip = P.addr 3) :
    ∃ called, c.trampoline P hw i = some called ∧ called.context.rsp = hw.hostRsp + 136#64 ∧
      called.context.interrupts = false ∧ called.entered.isSome = true := by
  obtain ⟨m, ret, hexec, hrsp, hflags, hentered⟩ :=
    runVmxVm_elsewhere P (m := i.host.machine c.regs (hw.start i.attempt)) (attempt_exits hok) hlaunched hrip
  unfold trampoline
  rw [hexec]
  refine ⟨_, rfl, hrsp, interruptsAfter_exit hflags, ?_⟩
  rw [Option.isSome_map]
  exact hentered

/-- What a call that does not enter the guest has done. -/
structure Refused (hw : VmxHw) (called : Called VmxHw VmxCpu) : Prop where
  result : ∃ e, called.result = some (.error e)
  entered : called.entered = none
  launched : called.hw.launched = hw.launched
  host : hw.launched = true → called.hw.hostRsp = hw.hostRsp ∧ called.hw.hostRip = hw.hostRip

theorem trampoline_fails (P : Placement) (c : VmxCpu) (hw : VmxHw) (hfailed : i.input.entryFailed = true) :
    ∃ called, c.trampoline P hw i = some called ∧ Refused hw called := by
  have hattempt : i.attempt = .fails i.error i.other := by
    unfold VmxCall.attempt
    rw [hfailed]
    rfl
  obtain ⟨m, hexec, hfail⟩ := runVmxVm_fails P (i.host.machine_ret c.regs (hw.start i.attempt))
    (i.host.machine_apart c.regs _) hattempt
  have hflags : m.gpr .rax &&& failureFlags ≠ 0#64 := by
    intro hzero
    apply hfail.rax
    have hsub : failureFlags &&& zeroFlag = zeroFlag := by decide
    rw [← hsub, ← BitVec.and_assoc, hzero, BitVec.zero_and]
  unfold trampoline
  rw [hexec]
  refine ⟨_, rfl, ⟨.vmEntryFailed m.hw.error, ?_⟩, ?_, hfail.launched, hfail.host⟩
  · rw [if_pos rfl, afterTrampoline, if_pos hflags]
  · rw [hfail.entered]
    rfl

end Trampoline

/-! ## A whole call -/

section Call
variable {P : Placement} {c c' : VmxCpu} {hw : VmxHw} {i : VmxCall}

/-- The VM-entry is attempted and does not fail; `c'` is the vCPU then. -/
structure Reaches (c : VmxCpu) (i : VmxCall) (c' : VmxCpu) : Prop where
  activated : i.input.activated = true
  enter : c.enter i.input.entryTsc = .ok c'
  ok : i.input.entryFailed = false

theorem Reaches.call (h : Reaches c i c') (P : Placement) (hw : VmxHw) : c.call P hw i = c'.trampoline P hw i := by
  unfold VmxCpu.call
  rw [h.activated, h.enter]
  rfl

theorem Reaches.run (h : Reaches c i c') : c.run i.input = (c'.exited i.input.exit).dispatch i.input.env := by
  unfold VmxCpu.run
  rw [h.activated, h.enter, h.ok]
  rfl

theorem call_cases (P : Placement) (c : VmxCpu) (hw : VmxHw) (i : VmxCall) :
    (∃ c', Reaches c i c') ∨
      (¬ ∃ c', Reaches c i c') ∧ ∃ called, c.call P hw i = some called ∧ Refused hw called := by
  have hsame : ∀ e, Refused hw ⟨some (.error e), hw, i.host.context, none⟩ :=
    fun e => ⟨⟨e, rfl⟩, rfl, rfl, fun _ => ⟨rfl, rfl⟩⟩
  cases hactive : i.input.activated with
  | false =>
    right
    refine ⟨?_, _, ?_, hsame .vmclearFailed⟩
    · rintro ⟨c', h⟩
      have htrue := h.activated
      rw [hactive] at htrue
      cases htrue
    · unfold VmxCpu.call
      rw [if_pos hactive]
  | true =>
    cases henter : c.enter i.input.entryTsc with
    | error e =>
      right
      refine ⟨?_, _, ?_, hsame e⟩
      · rintro ⟨c', h⟩
        have hok := h.enter
        rw [henter] at hok
        cases hok
      · unfold VmxCpu.call
        rw [hactive, henter]
        rfl
    | ok c' =>
      cases hfailed : i.input.entryFailed with
      | false => exact .inl ⟨c', hactive, henter, hfailed⟩
      | true =>
        right
        obtain ⟨called, hcall, hrefused⟩ := trampoline_fails P c' hw hfailed
        refine ⟨?_, called, ?_, hrefused⟩
        · rintro ⟨c'', h⟩
          have hok := h.ok
          rw [hfailed] at hok
          cases hok
        · unfold VmxCpu.call
          rw [hactive, henter]
          exact hcall

/-! ## The registers at the entry -/

theorem loadGuestRegisters_value (h : c.loadGuestRegisters = .ok c') :
    c'.regs = c.regs ∧ c'.vmcs.value Guest.rip = c.regs.rip ∧ c'.vmcs.value Guest.rsp = c.regs.rsp ∧
      c'.vmcs.value Guest.rflags = c.regs.rflags := by
  obtain ⟨vmcs, hvmcs, hc⟩ := bind_ok h
  injection hc with hc
  subst hc
  exact ⟨rfl, Vmcs.writeAll_value hvmcs Guest.rip, Vmcs.writeAll_value hvmcs Guest.rsp,
    Vmcs.writeAll_value hvmcs Guest.rflags⟩

/-- Injecting an event and arming the timer do not touch RIP, RSP and RFLAGS. -/
theorem enter_keeps {tsc : BitVec 64} (h : c.enter tsc = .ok c') :
    ∃ c1, c.loadGuestRegisters = .ok c1 ∧ c'.regs = c1.regs ∧
      ∀ f ∈ [Guest.rip, Guest.rsp, Guest.rflags], c'.vmcs.value f = c1.vmcs.value f := by
  obtain ⟨c1, h1, h⟩ := bind_ok h
  obtain ⟨c2, h2, h3⟩ := bind_ok h
  have hother : ∀ f ∈ [Guest.rip, Guest.rsp, Guest.rflags], f ≠ Guest.vmxPreemptionTimerValue ∧
      f ≠ Control.vmentryInterruptionInfoField ∧ f ≠ Control.primaryProcbasedExecControls := by
    intro f hf
    simp only [List.mem_cons, List.not_mem_nil, or_false] at hf
    rcases hf with rfl | rfl | rfl <;> exact ⟨by decide, by decide, by decide⟩
  refine ⟨c1, h1, ?_⟩
  rw [armPreemptionTimer_ok h3]
  rcases injectPending_ok h2 with ⟨-, rfl⟩ | ⟨vector, -, -, rfl⟩ | ⟨vector, -, -, rfl⟩
  · refine ⟨rfl, ?_⟩
    intro f hf
    exact Vmcs.set_other (hother f hf).1
  · refine ⟨rfl, ?_⟩
    intro f hf
    obtain ⟨htimer, hinfo, hctrls⟩ := hother f hf
    exact (Vmcs.set_other htimer).trans ((Vmcs.set_other hctrls).trans (Vmcs.set_other hinfo))
  · refine ⟨rfl, ?_⟩
    intro f hf
    obtain ⟨htimer, -, hctrls⟩ := hother f hf
    exact (Vmcs.set_other htimer).trans (Vmcs.set_other hctrls)

theorem enter_loaded {tsc : BitVec 64} (h : c.enter tsc = .ok c') : c'.loaded (gprsOf c'.regs) = c.regs := by
  obtain ⟨c1, hload, hregs, hkept⟩ := enter_keeps h
  obtain ⟨hregs1, hrip, hrsp, hrflags⟩ := loadGuestRegisters_value hload
  unfold VmxCpu.loaded
  rw [hkept _ (by decide), hkept _ (by decide), hkept _ (by decide), hrip, hrsp, hrflags, hregs, hregs1]
  rfl

/-- A call at the stack pointer of the host-state area, if the VMCS has been launched. -/
theorem call_exits (h : Reaches c i c')
    (hhost : hw.launched = true → i.host.gpr .rsp = hw.hostRsp + 136#64 ∧ hw.hostRip = P.addr 3) :
    ∃ called, c.call P hw i = some called ∧ called.result = some (c.run i.input) ∧
      called.entered = some c.regs ∧ Entered P c' i called := by
  obtain ⟨called, hcall, hentered⟩ := trampoline_exits (c := c') h.ok hhost
  refine ⟨called, (h.call P hw).trans hcall, ?_, ?_, hentered⟩
  · rw [h.run]
    exact hentered.result
  · rw [hentered.entered, enter_loaded h.enter]

end Call

end Rhyve.Vmx
