import Rhyve.Lib.Machine
import Rhyve.Vmx.HostCapture

/-! # The system registers of the host

`setup_host` fills the host-state area of the VMCS once, when the vCPU is created, and not before every entry.

* `vmExit`, `Leaves`: what the processor does to these registers between a VM-entry and the next host instruction.
* `Settled`: the fields that no call changes. `host_state_reloaded`: every call of every run.
-/

namespace Rhyve.Vmx
open Backend ByteMem Errors Machine VmxCpu
set_option autoImplicit false

/-! ## The processor -/

def hostSelectorField : Segment → FieldId
  | .cs => Host.csSelector
  | .ss => Host.ssSelector
  | .ds => Host.dsSelector
  | .es => Host.esSelector
  | .fs => Host.fsSelector
  | .gs => Host.gsSelector
  | .tr => Host.trSelector

def longMode : BitVec 64 := eferLme ||| eferLma

/-- The field that an exit loads EFER from if it is asked to. `setup_host` does not write it. -/
def hostEferFull : FieldId := 0x2C02#32

/-- The host's registers after a VM-exit, by what the guest left in them. -/
def vmExit (v : Vmcs) (left : SystemRegs) : SystemRegs where
  cr0 := (left.cr0 &&& cr0Unloaded) ||| (v.value Host.cr0 &&& ~~~cr0Unloaded)
  cr3 := v.value Host.cr3
  cr4 := v.value Host.cr4
  efer :=
    if (v.value Control.vmexitControls).getLsbD 21 then v.value hostEferFull
    else if (v.value Control.vmexitControls).getLsbD 9 then left.efer ||| longMode
    else left.efer &&& ~~~longMode
  selector := fun segment => (v.value (hostSelectorField segment)).setWidth 16
  ldtr := 0#16
  fsBase := v.value Host.fsBase
  gsBase := v.value Host.gsBase
  trBase := v.value Host.trBase
  kernelGsBase := left.kernelGsBase
  gdtr := ⟨v.value Host.gdtrBase, 0xFFFF#16⟩
  idtr := ⟨v.value Host.idtrBase, 0xFFFF#16⟩
  sysenterCs := v.value Host.ia32SysenterCs
  sysenterEsp := v.value Host.ia32SysenterEsp
  sysenterEip := v.value Host.ia32SysenterEip
  dr7 := 0x400#64
  debugctl := 0#64

/-- The bits of CR0 that the guest runs with as the host had them: a change to a bit of the guest/host mask leaves the
guest, and no instruction changes a reserved bit or ET. -/
def cr0Kept (v : Vmcs) : BitVec 64 := cr0Unloaded &&& (~~~0x60000000#64 ||| v.value Control.cr0GuestHostMask)

/-- What a guest that was entered from these registers can leave in them. WRMSR leaves the guest unless the MSR bitmaps
are used; SWAPGS does not. -/
structure Leaves (v : Vmcs) (host left : SystemRegs) : Prop where
  cr0 : left.cr0 &&& cr0Kept v = host.cr0 &&& cr0Kept v
  efer : (v.value Control.primaryProcbasedExecControls).getLsbD 28 = false →
    (v.value Control.vmentryControls).getLsbD 15 = false → left.efer ||| longMode = host.efer ||| longMode

/-! ## Fields that no call changes -/

def settled (f : FieldId) : Bool := !savedAtExit f && decide (f ∉ entryFields)

/-- `c` has these fields as `c₀` has them, and the MSR-bitmap control. -/
structure Settled (c₀ c : VmxCpu) : Prop where
  fields : ∀ f, settled f = true → c.vmcs.value f = c₀.vmcs.value f
  bitmaps : (c.vmcs.value Control.primaryProcbasedExecControls).getLsbD 28 =
    (c₀.vmcs.value Control.primaryProcbasedExecControls).getLsbD 28

section Settled
variable {c₀ c c' : VmxCpu} {env : HostEnv}

theorem Settled.refl (c : VmxCpu) : Settled c c := ⟨fun _ _ => rfl, rfl⟩

theorem settled_iff {f : FieldId} : settled f = true ↔ savedAtExit f = false ∧ f ∉ entryFields := by
  unfold settled
  rw [Bool.and_eq_true, Bool.not_eq_true', decide_eq_true_iff]

theorem windowControls_bitmaps (enable : Bool) (ctrls : BitVec 64) :
    (truncate Control.primaryProcbasedExecControls (windowControls enable ctrls)).getLsbD 28 = ctrls.getLsbD 28 := by
  rw [truncate_controls, BitVec.getLsbD_and, low_mask_bit, windowControls_bit _ _ (by decide)]
  simp

theorem Settled.enter (h : Settled c₀ c) {tsc : BitVec 64} (henter : c.enter tsc = .ok c') : Settled c₀ c' := by
  refine ⟨fun f hf => (enter_other henter (settled_iff.mp hf).2).trans (h.fields f hf), ?_⟩
  rw [← h.bitmaps]
  cases enter_injection henter with
  | nothing _ _ hctrls _ => rw [hctrls]
  | injected _ _ _ _ hctrls _ => rw [hctrls, windowControls_bitmaps]
  | waiting _ _ hctrls _ => rw [hctrls, windowControls_bitmaps]

theorem Settled.exited (h : Settled c₀ c) (x : VmxExit) : Settled c₀ (c.exited x) := by
  refine ⟨?_, (congrArg (·.getLsbD 28) (exited_controls c x)).trans h.bitmaps⟩
  intro f hf
  obtain ⟨hsaved, hentry⟩ := settled_iff.mp hf
  have hinfo : f ≠ Control.vmentryInterruptionInfoField := by
    rintro rfl
    exact hentry (by decide)
  show Vmcs.value (c.vmcs.afterExit x.fields) f = _
  simp only [Vmcs.afterExit, hinfo, hsaved, Bool.false_eq_true, false_and, if_false]
  exact h.fields f hf

/-- A WRMSR writes guest-state fields only. -/
theorem Settled.set (h : Settled c₀ c) {f : FieldId} (hf : f ∈ msrFields) (x : BitVec 64) :
    Settled c₀ { c with vmcs := c.vmcs.set f x } := by
  have hsaved : savedAtExit f = true := by
    simp only [msrFields, List.mem_cons, List.not_mem_nil, or_false] at hf
    rcases hf with rfl | rfl | rfl
    all_goals rfl
  refine ⟨?_, ?_⟩
  · intro g hg
    have hne : g ≠ f := by
      rintro rfl
      rw [(settled_iff.mp hg).1] at hsaved
      cases hsaved
    exact (Vmcs.set_other hne).trans (h.fields g hg)
  · have hne : Control.primaryProcbasedExecControls ≠ f := by
      rintro rfl
      exact absurd hsaved (by decide)
    rw [← h.bitmaps]
    exact congrArg (·.getLsbD 28) (Vmcs.set_other hne)

theorem Settled.of_vmcs (h : Settled c₀ c) (hvmcs : c'.vmcs = c.vmcs) : Settled c₀ c' := by
  refine ⟨?_, ?_⟩
  · rw [hvmcs]
    exact h.fields
  · rw [hvmcs]
    exact h.bitmaps

theorem Settled.enterWith (h : Settled c₀ c) {regs : GuestRegisters} {tsc : BitVec 64}
    (henter : VmxCpu.enter { c with regs := regs } tsc = .ok c') : Settled c₀ c' := by
  have hcall : Settled c₀ { c with regs := regs } := h.of_vmcs rfl
  exact hcall.enter henter

theorem Settled.handle (h : Settled c₀ c) {basic : VmxBasicExitReason} {r : Handled VmxCpu}
    (hhandle : c.handle env basic = .ok r) : Settled c₀ r.cpu := by
  cases handle_handles hhandle with
  | externalInterrupt | interruptWindow | tripleFault => exact h
  | timer => exact h.of_vmcs (timerExpired_vmcs c)
  | rdmsr | cpuid | xsetbv | ioInstruction => exact h.of_vmcs rfl
  | wrmsr hwrite len =>
    rcases writeMsr_ok hwrite with ⟨-, f, hf, rfl⟩ | rfl | ⟨-, rfl⟩
    · exact (h.set hf _).of_vmcs rfl
    · exact h.of_vmcs rfl
    · exact h.of_vmcs rfl

theorem Settled.turn (h : Settled c₀ c) {i : VmxTurn} (hturn : (turn c i).1 = some c') : Settled c₀ c' := by
  obtain ⟨entered, r, henter, hdispatch, rfl, -⟩ := turn_some hturn
  have hentered := h.enterWith henter
  obtain ⟨rip, rsp, rflags, basic, -, hhandle⟩ := dispatch_handle hdispatch
  refine Settled.handle ?_ hhandle
  exact (hentered.exited i.input.exit).of_vmcs rfl

end Settled

/-! ## Calls of `run` -/

/-- A call: the registers it is made with, and the ones the guest leaves if it is entered. -/
structure HostedCall where
  turn : VmxTurn
  host : SystemRegs
  left : SystemRegs

/-- A call that has entered the guest. -/
structure SystemCrossing where
  before : SystemRegs
  left : SystemRegs
  after : SystemRegs

/-- The vCPU at the VM-entry of a call, if there is one. -/
def entersWith (c : VmxCpu) (i : VmxTurn) : Option VmxCpu :=
  if i.input.activated = true ∧ i.input.entryFailed = false then
    (VmxCpu.enter { c with regs := i.regs } i.input.entryTsc).toOption
  else none

/-- A call, with the registers on both sides of the VM-exit if it gets that far. -/
def systemCross (c : VmxCpu) (i : HostedCall) : Option VmxCpu × List SystemCrossing :=
  ((turn c i.turn).1, ((entersWith c i.turn).map fun entered =>
    ⟨i.host, i.left, vmExit entered.vmcs i.left⟩).toList)

/-- The guest does what a guest can do. -/
def HostedCall.Possible (c : VmxCpu) (i : HostedCall) : Prop :=
  ∀ entered, entersWith c i.turn = some entered → Leaves entered.vmcs i.host i.left

/-- The processor does not force these controls on, and has 64-bit hosts. -/
structure Unforced (msrs : Msrs) : Prop where
  bitmaps : (mustBeOne msrs .processorBased).getLsbD 28 = false
  entryEfer : (mustBeOne msrs .vmEntry).getLsbD 15 = false
  exitEfer : (mustBeOne msrs .vmExit).getLsbD 21 = false
  host64 : (mayBeOne msrs .vmExit).getLsbD 9 = true

/-- What a VM-exit gives back, and what it does not: the limits of the tables, LDTR, DR7 and KERNEL_GS_BASE are
not those of before. -/
structure Reloaded (mem : Mem) (r : SystemRegs) (x : SystemCrossing) : Prop where
  loaded : x.after.loaded = captured mem r
  cr0 : x.after.cr0 &&& cr0Unloaded = x.before.cr0 &&& cr0Unloaded
  efer : x.after.efer = x.before.efer ||| longMode
  kernelGsBase : x.after.kernelGsBase = x.left.kernelGsBase
  tables : x.after.ldtr = 0#16 ∧ x.after.gdtr.limit = 0xFFFF#16 ∧ x.after.idtr.limit = 0xFFFF#16
  debug : x.after.dr7 = 0x400#64 ∧ x.after.debugctl = 0#64

section Run
variable {h : HostCpu} {mem : Mem} {r : SystemRegs} {eptp apicAccessHpa cpuId entryPoint guestRsp : BitVec 64}
  {c₀ : VmxCpu}

theorem hostSelector_loaded (s : BitVec 16) : (hostSelector s &&& 0xffff#64).setWidth 16 = s &&& 0xFFF8#16 := by
  have hones : (0xffff#64).setWidth 16 = BitVec.allOnes 16 := by decide
  unfold hostSelector
  rw [BitVec.setWidth_and, hones, BitVec.and_allOnes, BitVec.setWidth_setWidth_of_le _ (by decide), BitVec.setWidth_eq]

/-- A mix of two words by a mask, looked at under the mask. -/
theorem mix_and (a b m : BitVec 64) : ((a &&& m) ||| (b &&& ~~~m)) &&& m = a &&& m := by
  refine BitVec.eq_of_getLsbD_eq fun i hi => ?_
  simp only [BitVec.getLsbD_and, BitVec.getLsbD_or, BitVec.getLsbD_not, hi, decide_true, Bool.true_and]
  cases m.getLsbD i <;> simp

theorem mix_andNot (a b m : BitVec 64) : ((a &&& m) ||| (b &&& ~~~m)) &&& ~~~m = b &&& ~~~m := by
  refine BitVec.eq_of_getLsbD_eq fun i hi => ?_
  simp only [BitVec.getLsbD_and, BitVec.getLsbD_or, BitVec.getLsbD_not, hi, decide_true, Bool.true_and]
  cases m.getLsbD i <;> simp

/-- The host-state area of a new vCPU, as an exit loads it. -/
theorem new_loaded (hcreated : CreatedOn h mem r)
    (hnew : VmxCpu.new h eptp apicAccessHpa cpuId entryPoint guestRsp = .ok c₀) (left : SystemRegs) :
    (vmExit c₀.vmcs left).loaded = captured mem r := by
  obtain ⟨virtualApicHpa, hfield⟩ := new_vmcs hnew
  rw [hcreated.area] at hfield
  have hcr0 : c₀.vmcs.value Host.cr0 = r.cr0 := hfield Host.cr0
  have hselector : ∀ segment, (c₀.vmcs.value (hostSelectorField segment)).setWidth 16 =
      r.selector segment &&& 0xFFF8#16 := by
    intro segment
    rw [hfield, ← hostSelector_loaded]
    cases segment <;> rfl
  simp only [SystemRegs.loaded, vmExit, captured, mix_andNot, hcr0, Loaded.mk.injEq, true_and]
  refine ⟨hfield Host.cr3, hfield Host.cr4, funext hselector, (hfield Host.fsBase).trans hcreated.fsBase,
    (hfield Host.gsBase).trans hcreated.gsBase, hfield Host.trBase, hfield Host.gdtrBase, hfield Host.idtrBase, ?_,
    (hfield Host.ia32SysenterEsp).trans hcreated.sysenterEsp, (hfield Host.ia32SysenterEip).trans hcreated.sysenterEip⟩
  rw [← hcreated.sysenterCs]
  exact hfield Host.ia32SysenterCs

theorem adjustControl_off {msrs : Msrs} {control : VmxControl} {i : ℕ} (hreq : control.request.getLsbD i = false)
    (hmust : (mustBeOne msrs control).getLsbD i = false) :
    (adjustControl msrs control control.request).getLsbD i = false := by
  rw [adjustControl_bit, hreq, hmust]
  simp

/-- An exit loads what the first exit would have loaded. -/
theorem Settled.vmExit {c : VmxCpu} (hs : Settled c₀ c) (left : SystemRegs) :
    Vmx.vmExit c.vmcs left = { Vmx.vmExit c₀.vmcs left with efer := (Vmx.vmExit c.vmcs left).efer } := by
  have hselector : ∀ segment, c.vmcs.value (hostSelectorField segment) = c₀.vmcs.value (hostSelectorField segment) := by
    intro segment
    apply hs.fields
    cases segment <;> rfl
  simp only [Vmx.vmExit, hselector, hs.fields Host.cr0 rfl, hs.fields Host.cr3 rfl, hs.fields Host.cr4 rfl,
    hs.fields Host.fsBase rfl, hs.fields Host.gsBase rfl, hs.fields Host.trBase rfl, hs.fields Host.gdtrBase rfl,
    hs.fields Host.idtrBase rfl, hs.fields Host.ia32SysenterCs rfl, hs.fields Host.ia32SysenterEsp rfl,
    hs.fields Host.ia32SysenterEip rfl]

/-- One VM-exit, on any vCPU whose settled fields are those of the new one. -/
theorem Settled.reloaded (hcreated : CreatedOn h mem r) (hmsrs : Unforced h.msrs)
    (hnew : VmxCpu.new h eptp apicAccessHpa cpuId entryPoint guestRsp = .ok c₀) {entered : VmxCpu}
    (hs : Settled c₀ entered) {host left : SystemRegs} (hleft : Leaves entered.vmcs host left) :
    Reloaded mem r ⟨host, left, Vmx.vmExit entered.vmcs left⟩ := by
  have hwrote := new_wrote hnew
  have hbitmaps : (entered.vmcs.value Control.primaryProcbasedExecControls).getLsbD 28 = false := by
    rw [hs.bitmaps]
    exact (congrArg (·.getLsbD 28) (hwrote .processorBased)).trans (adjustControl_off (by decide) hmsrs.bitmaps)
  have hentry : (entered.vmcs.value Control.vmentryControls).getLsbD 15 = false := by
    rw [hs.fields Control.vmentryControls rfl]
    exact (congrArg (·.getLsbD 15) (hwrote .vmEntry)).trans (adjustControl_off (by decide) hmsrs.entryEfer)
  have hexit : (entered.vmcs.value Control.vmexitControls).getLsbD 21 = false := by
    rw [hs.fields Control.vmexitControls rfl]
    exact (congrArg (·.getLsbD 21) (hwrote .vmExit)).trans (adjustControl_off (by decide) hmsrs.exitEfer)
  have hhost64 : (entered.vmcs.value Control.vmexitControls).getLsbD 9 = true := by
    rw [hs.fields Control.vmexitControls rfl]
    refine (congrArg (·.getLsbD 9) (hwrote .vmExit)).trans ?_
    have hreq : VmxControl.vmExit.request.getLsbD 9 = true := by decide
    simp only [adjustControl_bit, hreq, hmsrs.host64]
    rfl
  have hmask : cr0Kept entered.vmcs = cr0Unloaded := by
    have hvalue : entered.vmcs.value Control.cr0GuestHostMask = cr0Mask := by
      obtain ⟨virtualApicHpa, hfield⟩ := new_vmcs hnew
      rw [hs.fields Control.cr0GuestHostMask rfl]
      exact hfield Control.cr0GuestHostMask
    unfold cr0Kept
    rw [hvalue]
    decide
  refine ⟨?_, ?_, ?_, rfl, ⟨rfl, rfl, rfl⟩, ⟨rfl, rfl⟩⟩
  · rw [hs.vmExit]
    exact new_loaded hcreated hnew left
  · have hcr0 := hleft.cr0
    rw [hmask] at hcr0
    exact (mix_and _ _ _).trans hcr0
  · rw [← hleft.efer hbitmaps hentry]
    simp only [Vmx.vmExit, hexit, hhost64, Bool.false_eq_true, if_false, if_true]

theorem entersWith_some {c entered : VmxCpu} {i : VmxTurn} (henters : entersWith c i = some entered) :
    VmxCpu.enter { c with regs := i.regs } i.input.entryTsc = .ok entered := by
  unfold entersWith at henters
  split at henters
  · cases henter : VmxCpu.enter { c with regs := i.regs } i.input.entryTsc with
    | error e =>
      rw [henter] at henters
      cases henters
    | ok c' =>
      rw [henter] at henters
      rw [Option.some.inj henters]
  · cases henters

/-- Every call that enters the guest returns with the registers that were there when the vCPU was created. So it
preserves the ones it was made with exactly if they are still the same: a thread that has moved to another core comes
back with the bases, the tables and the task register of the first one. -/
theorem host_state_reloaded (h : HostCpu) (mem : Mem) (r : SystemRegs) (hcreated : CreatedOn h mem r)
    (hmsrs : Unforced h.msrs) (eptp apicAccessHpa cpuId entryPoint guestRsp : BitVec 64) (c₀ : VmxCpu)
    (hnew : VmxCpu.new h eptp apicAccessHpa cpuId entryPoint guestRsp = .ok c₀) (calls : List HostedCall)
    (hpossible : Along systemCross HostedCall.Possible c₀ calls) :
    ∀ x ∈ (Machine.run systemCross c₀ calls).2, Reloaded mem r x ∧
      (Plain mem r → (x.after.loaded = x.before.loaded ↔ x.before.loaded = r.loaded)) := by
  refine run_outputs (Settled c₀) _ ?_ (Settled.refl c₀) hpossible
  intro c i hs hleft
  refine ⟨?_, fun c' hstep => hs.turn hstep⟩
  intro x hx
  obtain ⟨entered, henters, rfl⟩ := Option.map_eq_some_iff.mp (Option.mem_toList.mp hx)
  have hsettled := hs.enterWith (entersWith_some henters)
  have hreloaded := hsettled.reloaded hcreated hmsrs hnew (hleft entered henters)
  refine ⟨hreloaded, fun hplain => ?_⟩
  rw [hreloaded.loaded, hplain.captured]
  exact eq_comm

end Run

/-! ## A thread that moves -/

/-- The task register of both cores. -/
def coreTss : TssDescriptor := ⟨0xffff800000123450#64, 0x67#20, 0x8b#8, 0#4, 0#32⟩

/-- Their GDT is at `0x6000`, with the TSS in the fourth and fifth slot. -/
def coreGdt : Mem := store64 (store64 (fun _ => 0#8) 0x6018 coreTss.low) 0x6020 coreTss.high

/-- The cores differ in where GS points. -/
def coreRegs (gsBase : BitVec 64) : SystemRegs where
  cr0 := 0x80000031#64
  cr3 := 0x1000#64
  cr4 := 0x2020#64
  efer := longMode
  selector := fun segment => match segment with
    | .cs => 0x8#16
    | .tr => 0x18#16
    | _ => 0x10#16
  ldtr := 0#16
  fsBase := 0x7000#64
  gsBase := gsBase
  trBase := coreTss.base
  kernelGsBase := 0#64
  gdtr := ⟨0x6000#64, 0x27#16⟩
  idtr := ⟨0x5000#64, 0xFFF#16⟩
  sysenterCs := 0#64
  sysenterEsp := 0#64
  sysenterEip := 0#64
  dr7 := 0x400#64
  debugctl := 0#64

/-- The core where the vCPU is created. -/
def coreHost : HostCpu :=
  .willing (fun index =>
    if index = ia32FsBase then 0x7000#64
    else if index = ia32GsBase then 0x8000#64
    else if index = 0x174#32 ∨ index = 0x175#32 ∨ index = 0x176#32 then 0#64
    else fullMsrs index) (hostArea coreGdt (coreRegs 0x8000#64))

theorem coreRegs_plain : Plain coreGdt (coreRegs 0x8000#64) := by
  have hlow : (descriptorAt 0x6000#64 0x18#16).toNat = 0x6018 := by decide
  have hhigh : (descriptorAt 0x6000#64 0x18#16 + 8#64).toNat = 0x6020 := by decide
  have hheld : coreTss.HeldAt coreGdt 0x6000#64 0x18#16 := by
    refine ⟨?_, ?_⟩
    · rw [hlow, coreGdt, load64_store64_disjoint _ _ _ _ (.inl (by decide)), load64_store64_same]
    · rw [hhigh, coreGdt, load64_store64_same]
  refine ⟨by decide, ?_, by decide, coreTss, hheld, rfl⟩
  intro segment
  cases segment <;> decide

/-- Its control registers have the fixed bits already. -/
theorem coreHost_created : CreatedOn coreHost coreGdt (coreRegs 0x8000#64) := ⟨rfl, rfl, rfl, rfl, rfl, rfl⟩

/-- A call with GS at this base that the guest ends with CPUID. -/
def callWith (gsBase : BitVec 64) : HostedCall :=
  ⟨vmxTurnWith 10#64 GuestRegisters.zero 0#64, coreRegs gsBase, coreRegs gsBase⟩

/-- Between the two calls the thread moves to a core with another GS base, and returns with the first one. -/
theorem host_state_reloaded_moved :
    ∃ c₀ x y, VmxCpu.new coreHost 0 0 0 0 0 = .ok c₀ ∧
      (Machine.run systemCross c₀ [callWith 0x8000#64, callWith 0x9000#64]).2 = [x, y] ∧
      x.before.gsBase = 0x8000#64 ∧ x.after.gsBase = 0x8000#64 ∧
      y.before.gsBase = 0x9000#64 ∧ y.after.gsBase = 0x8000#64 ∧ y.after.loaded ≠ y.before.loaded := by
  obtain ⟨c₀, hnew, hlog⟩ : ∃ c₀, VmxCpu.new coreHost 0 0 0 0 0 = .ok c₀ ∧
      (Machine.run systemCross c₀ [callWith 0x8000#64, callWith 0x9000#64]).2.map (·.before.gsBase) =
        [0x8000#64, 0x9000#64] :=
    ok_of_map (by decide +kernel)
  have hpossible : ∀ c gsBase, (callWith gsBase).Possible c := fun c gsBase entered _ => ⟨rfl, fun _ _ => rfl⟩
  have hall := host_state_reloaded coreHost coreGdt (coreRegs 0x8000#64) coreHost_created
    ⟨by decide, by decide, by decide, by decide⟩ 0 0 0 0 0 c₀ hnew [callWith 0x8000#64, callWith 0x9000#64]
    ⟨hpossible _ _, fun _ _ => ⟨hpossible _ _, fun _ _ => trivial⟩⟩
  obtain ⟨x, rest, hcons, hx, hrest⟩ := List.map_eq_cons_iff.mp hlog
  obtain ⟨y, rest, rfl, hy, hnil⟩ := List.map_eq_cons_iff.mp hrest
  obtain rfl := List.map_eq_nil_iff.mp hnil
  rw [hcons] at hall
  obtain ⟨hxr, -⟩ := hall x List.mem_cons_self
  obtain ⟨hyr, hyiff⟩ := hall y (List.mem_cons_of_mem x List.mem_cons_self)
  refine ⟨c₀, x, y, hnew, hcons, hx, congrArg Loaded.gsBase hxr.loaded, hy, congrArg Loaded.gsBase hyr.loaded, ?_⟩
  intro hsame
  have hgs : y.before.gsBase = 0x8000#64 := congrArg Loaded.gsBase ((hyiff coreRegs_plain).mp hsame)
  rw [hy] at hgs
  exact absurd hgs (by decide)

end Rhyve.Vmx
