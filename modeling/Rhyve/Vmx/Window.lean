import Rhyve.Backend.Shadow
import Rhyve.Vmx.Capabilities

/-! # Interrupt-window exiting follows the pending vector (`inject_pending`, `set_interrupt_window`)

A vector that cannot be injected waits for the guest to become interruptible, and the interrupt-window control is how
the vCPU learns of that. The control and the vector are changed by different functions.

* `Windowed`: what holds between two calls; `Mirrors`: what holds at a VM-entry. `Windowed.enter` and `Mirrors.exit`
  lead from one to the other.
* `window_mirrors_pending`: every entry of every run, and what follows an interrupt-window exit.
-/

namespace Rhyve.Vmx
open Apic Backend Errors Machine VmxCpu
set_option autoImplicit false

def WindowExiting (c : VmxCpu) : Prop :=
  (c.vmcs.value Control.primaryProcbasedExecControls).getLsbD 2 = true

def otherControls (c : VmxCpu) : BitVec 64 :=
  c.vmcs.value Control.primaryProcbasedExecControls &&& ~~~interruptWindowExiting

section Bits

theorem interruptWindowExiting_bit (i : ℕ) : interruptWindowExiting.getLsbD i = decide (i = 2) := by
  rw [interruptWindowExiting, ← BitVec.twoPow_eq, BitVec.getLsbD_twoPow]
  simp [eq_comm]

theorem truncate_controls (x : BitVec 64) :
    truncate Control.primaryProcbasedExecControls x = x &&& 0xffffffff#64 := rfl

theorem windowControls_bit (enable : Bool) (ctrls : BitVec 64) {i : ℕ} (hi : i < 64) :
    (windowControls enable ctrls).getLsbD i = if i = 2 then enable else ctrls.getLsbD i := by
  cases enable with
  | false =>
    show (ctrls &&& ~~~interruptWindowExiting).getLsbD i = _
    rw [BitVec.getLsbD_and, BitVec.getLsbD_not, interruptWindowExiting_bit]
    by_cases h2 : i = 2 <;> simp [h2, hi]
  | true =>
    show (ctrls ||| interruptWindowExiting).getLsbD i = _
    rw [BitVec.getLsbD_or, interruptWindowExiting_bit]
    by_cases h2 : i = 2 <;> simp [h2]

theorem windowControls_window (enable : Bool) (ctrls : BitVec 64) :
    (truncate Control.primaryProcbasedExecControls (windowControls enable ctrls)).getLsbD 2 = enable := by
  rw [truncate_controls, BitVec.getLsbD_and, low_mask_bit, windowControls_bit _ _ (by decide)]
  simp

theorem windowControls_other (enable : Bool) (ctrls : BitVec 64) :
    truncate Control.primaryProcbasedExecControls (windowControls enable ctrls) &&& ~~~interruptWindowExiting =
      (ctrls &&& ~~~interruptWindowExiting) &&& 0xffffffff#64 := by
  refine BitVec.eq_of_getLsbD_eq fun i hi => ?_
  rw [truncate_controls]
  simp only [BitVec.getLsbD_and, BitVec.getLsbD_not, interruptWindowExiting_bit, windowControls_bit _ _ hi]
  by_cases h2 : i = 2
  · simp [h2]
  · simp only [h2, if_false, decide_false, Bool.not_false, Bool.and_true]
    rw [Bool.and_assoc, Bool.and_assoc, Bool.and_comm (decide (i < 64))]

end Bits

/-! ## One entry -/

section Enter
variable {c entered : VmxCpu} {tsc word : BitVec 64}

/-- Between two calls a vector may be pending with the control off: it has just become pending. -/
structure Windowed (word : BitVec 64) (c : VmxCpu) : Prop where
  idle : Idle c
  others : otherControls c = word
  pending : WindowExiting c → c.pendingVector.isSome

/-- `word` is what `setup_controls` wrote. -/
structure Mirrors (word : BitVec 64) (entered : VmxCpu) : Prop where
  window : WindowExiting entered ↔ entered.pendingVector.isSome
  others : otherControls entered = word
  event : isValid (entered.vmcs.value Control.vmentryInterruptionInfoField) = true → ¬ WindowExiting entered

theorem Windowed.enter (h : Windowed word c) (hword : word &&& 0xffffffff#64 = word)
    (henter : c.enter tsc = .ok entered) : Mirrors word entered := by
  have hothers : ∀ enable, truncate Control.primaryProcbasedExecControls
      (windowControls enable (c.vmcs.value Control.primaryProcbasedExecControls)) &&& ~~~interruptWindowExiting =
        word := by
    intro enable
    rw [windowControls_other]
    exact (congrArg (· &&& 0xffffffff#64) h.others).trans hword
  have hidle : isValid (c.vmcs.value Control.vmentryInterruptionInfoField) = false := h.idle
  cases enter_injection henter with
  | nothing hnone hpending hctrls hinfo =>
    have hoff : ¬ WindowExiting entered := by
      unfold WindowExiting
      rw [hctrls]
      intro hwindow
      have hsome := h.pending hwindow
      rw [hnone] at hsome
      cases hsome
    refine ⟨?_, ?_, fun _ => hoff⟩
    · rw [hpending]
      exact iff_of_false hoff (by simp)
    · unfold otherControls
      rw [hctrls]
      exact h.others
  | injected vector hvector hcan hpending hctrls hinfo =>
    have hoff : ¬ WindowExiting entered := by
      unfold WindowExiting
      rw [hctrls, windowControls_window]
      simp
    refine ⟨?_, ?_, fun _ => hoff⟩
    · rw [hpending]
      exact iff_of_false hoff (by simp)
    · unfold otherControls
      rw [hctrls]
      exact hothers false
  | waiting hcannot hpending hctrls hinfo =>
    have hon : WindowExiting entered := by
      unfold WindowExiting
      rw [hctrls, windowControls_window]
    refine ⟨iff_of_true hon hpending, ?_, ?_⟩
    · unfold otherControls
      rw [hctrls]
      exact hothers true
    · -- No event was left by the last exit.
      intro hvalid
      rw [hinfo, hidle] at hvalid
      cases hvalid

theorem enter_injects {vector : BitVec 8} (henter : c.enter tsc = .ok entered)
    (hvector : c.pendingVector = some vector) (hcan : InterruptibleAt entered) :
    Injects (entryEvent entered) vector ∧ entered.pendingVector = none := by
  cases enter_injection henter with
  | nothing hnone _ _ _ =>
    rw [hnone] at hvector
    cases hvector
  | injected vector' hvector' _ hpending _ hinfo =>
    obtain rfl : vector' = vector := Option.some.inj (hvector'.symm.trans hvector)
    exact ⟨injects_of_info hinfo, hpending⟩
  | waiting hcannot _ _ _ => exact absurd hcan hcannot

end Enter

/-! ## One exit -/

section Exit
variable {c entered : VmxCpu} {env : HostEnv} {word : BitVec 64}

theorem handle_pending {basic : VmxBasicExitReason} {r : Handled VmxCpu} (h : c.handle env basic = .ok r)
    (hpending : c.pendingVector.isSome) : r.cpu.pendingVector.isSome := by
  cases handle_handles h with
  | timer =>
    unfold VmxCpu.timerExpired
    split
    · exact hpending
    · -- The vector of the timer takes the place of the one that was pending, unless it is masked.
      show (if c.apicTimer.masked then c.pendingVector else some c.apicTimer.vector).isSome
      split
      · exact hpending
      · rfl
  | wrmsr hwrite len =>
    have hkept := congrArg TimerUnit.pending (writeMsr_unit hwrite).2
    exact (congrArg Option.isSome hkept).trans hpending
  | externalInterrupt | interruptWindow | tripleFault | rdmsr | cpuid | xsetbv | ioInstruction => exact hpending

theorem exited_controls (entered : VmxCpu) (x : VmxExit) :
    (entered.exited x).vmcs.value Control.primaryProcbasedExecControls =
      entered.vmcs.value Control.primaryProcbasedExecControls := by
  simp only [VmxCpu.exited, Vmcs.afterExit]
  rw [if_neg (by decide), if_neg (by decide)]

theorem Mirrors.exit (h : Mirrors word entered) {x : VmxExit} {r : Handled VmxCpu}
    (hdispatch : (entered.exited x).dispatch env = .ok r) : Windowed word r.cpu := by
  obtain ⟨rip, rsp, rflags, basic, -, hhandle⟩ := dispatch_handle hdispatch
  have hctrls : r.cpu.vmcs.value Control.primaryProcbasedExecControls =
      entered.vmcs.value Control.primaryProcbasedExecControls :=
    (handle_vmcs hhandle (by decide)).trans (exited_controls entered x)
  refine ⟨?_, ?_, ?_⟩
  · unfold Idle
    rw [handle_vmcs hhandle (by decide)]
    exact exited_idle entered x
  · unfold otherControls
    rw [hctrls]
    exact h.others
  · unfold WindowExiting
    rw [hctrls]
    intro hwindow
    exact handle_pending hhandle (h.window.mp hwindow)

/-- An interrupt-window exit is over at once. The vector is still pending. -/
theorem window_exit_pending {x : VmxExit} {r : Handled VmxCpu} (hdispatch : (entered.exited x).dispatch env = .ok r)
    (hbasic : x.basic = some .interruptWindow) : r.cpu.pendingVector = entered.pendingVector := by
  obtain ⟨rip, rsp, rflags, basic, hreason, hhandle⟩ := dispatch_handle hdispatch
  obtain rfl : basic = .interruptWindow := Option.some.inj (hreason.symm.trans hbasic)
  rw [← Except.ok.inj hhandle]
  rfl

end Exit

/-! ## Whole runs -/

section Run
variable {word : BitVec 64}

theorem Windowed.turn {c c' : VmxCpu} (h : Windowed word c) (hword : word &&& 0xffffffff#64 = word) {i : VmxTurn}
    (hturn : (turn c i).1 = some c') : Windowed word c' := by
  have hregs : Windowed word { c with regs := i.regs } := ⟨h.idle, h.others, h.pending⟩
  obtain ⟨entered, r, henter, hdispatch, rfl, -⟩ := turn_some hturn
  exact (hregs.enter hword henter).exit hdispatch

/-- The control is off in what `setup_controls` writes, unless the processor forces it on. -/
theorem new_windowed {h : HostCpu} {eptp apicAccessHpa cpuId entryPoint guestRsp : BitVec 64} {c : VmxCpu}
    (hc : VmxCpu.new h eptp apicAccessHpa cpuId entryPoint guestRsp = .ok c)
    (hfree : (mustBeOne h.msrs .processorBased).getLsbD 2 = false) :
    Windowed (adjustControl h.msrs .processorBased procbasedRequest) c := by
  have hwrote : c.vmcs.value Control.primaryProcbasedExecControls =
      adjustControl h.msrs .processorBased procbasedRequest := new_wrote hc .processorBased
  have hoff : (adjustControl h.msrs .processorBased procbasedRequest).getLsbD 2 = false := by
    have hreq : procbasedRequest.getLsbD 2 = false := by decide
    rw [adjustControl_bit, hreq, hfree]
    rfl
  refine ⟨(new_unit hc).1, ?_, ?_⟩
  · unfold otherControls
    rw [hwrote]
    refine BitVec.eq_of_getLsbD_eq fun i hi => ?_
    rw [BitVec.getLsbD_and, BitVec.getLsbD_not, interruptWindowExiting_bit]
    by_cases h2 : i = 2
    · rw [h2, hoff]
      rfl
    · simp [h2, hi]
  · unfold WindowExiting
    rw [hwrote, hoff]
    exact nofun

/-- The processor leaves the guest for an open window only if it was asked to. -/
def HonoursWindow (entered : VmxCpu) (x : VmxExit) : Prop :=
  x.basic = some .interruptWindow → WindowExiting entered

/-- At every entry of every run the control says whether a vector is pending. So an interrupt-window exit has one, and
the next entry injects it if the guest can take it. -/
theorem window_mirrors_pending (h : HostCpu) (eptp apicAccessHpa cpuId entryPoint guestRsp : BitVec 64) (c : VmxCpu)
    (hc : VmxCpu.new h eptp apicAccessHpa cpuId entryPoint guestRsp = .ok c)
    (hfree : (mustBeOne h.msrs .processorBased).getLsbD 2 = false) (is : List VmxTurn) (c' : VmxCpu)
    (hrun : (Machine.run turn c is).1 = some c') (i : VmxTurn) (entered : VmxCpu)
    (henter : VmxCpu.enter { c' with regs := i.regs } i.input.entryTsc = .ok entered) :
    Mirrors (adjustControl h.msrs .processorBased procbasedRequest) entered ∧
    (HonoursWindow entered i.input.exit → i.input.exit.basic = some .interruptWindow →
      ∃ vector, entered.pendingVector = some vector ∧
        ∀ r, VmxCpu.run { c' with regs := i.regs } i.input = .ok r →
          ∀ (i' : VmxTurn) (entered' : VmxCpu),
            VmxCpu.enter { r.cpu with regs := i'.regs } i'.input.entryTsc = .ok entered' → InterruptibleAt entered' →
            Injects (entryEvent entered') vector ∧ entered'.pendingVector = none) := by
  have hword := truncate_adjustControl h.msrs .processorBased procbasedRequest
  have hinv := run_invariant (Windowed _) (fun _ _ _ hs _ => hs.turn hword) (new_windowed hc hfree)
    (along_true c is) hrun
  have hregs : Windowed _ { c' with regs := i.regs } := ⟨hinv.idle, hinv.others, hinv.pending⟩
  have hmirrors := hregs.enter hword henter
  refine ⟨hmirrors, ?_⟩
  intro hhonours hbasic
  obtain ⟨vector, hvector⟩ := Option.isSome_iff_exists.mp (hmirrors.window.mp (hhonours hbasic))
  refine ⟨vector, hvector, ?_⟩
  intro r hr i' entered' henter' hcan
  obtain ⟨entered1, henter1, hdispatch⟩ := run_dispatch hr
  obtain rfl : entered1 = entered := Except.ok.inj (henter1.symm.trans henter)
  exact enter_injects henter' ((window_exit_pending hdispatch hbasic).trans hvector) hcan

end Run

/-- A call with interrupts disabled that ends when the window opens. -/
def windowCall : VmxTurn := vmxTurnWith 7#64 GuestRegisters.zero 0#64

/-- The entry of that call, the call, and the entry after it, with interrupts enabled. -/
def afterWindow (c : VmxCpu) : Except HypervisorError (VmxCpu × Handled VmxCpu × VmxCpu) := do
  let entered ← VmxCpu.enter { c with regs := windowCall.regs } windowCall.input.entryTsc
  let r ← VmxCpu.run { c with regs := windowCall.regs } windowCall.input
  let entered' ← VmxCpu.enter { r.cpu with regs := { GuestRegisters.zero with rflags := 0x202#64 } } 0#64
  return (entered, r, entered')

/-- The deadline passes while interrupts are disabled. -/
theorem window_mirrors_pending_deadline :
    ∃ c c' t, VmxCpu.new (hostWith fullMsrs) 0 0 0 0 0 = .ok c ∧
      (Machine.run turn c [writeDeadline 0#64 5#64, preemptionExit 5#64]).1 = some c' ∧ afterWindow c' = .ok t ∧
      WindowExiting t.1 ∧ Injects (entryEvent t.2.2) 0#8 := by
  obtain ⟨c, hc, hrest⟩ : ∃ c, VmxCpu.new (hostWith fullMsrs) 0 0 0 0 0 = .ok c ∧
      (Machine.run turn c [writeDeadline 0#64 5#64, preemptionExit 5#64]).1.bind (fun c' =>
        (afterWindow c').toOption.map fun t =>
          ((t.1.vmcs.value Control.primaryProcbasedExecControls).getLsbD 2, t.1.pendingVector,
            decide (interruptible (t.2.2.vmcs.value Guest.rflags) (t.2.2.vmcs.value Guest.interruptibilityState)))) =
        some (true, some 0#8, true) :=
    ok_of_map (by decide +kernel)
  obtain ⟨c', hrun, hafter⟩ := Option.bind_eq_some_iff.mp hrest
  obtain ⟨t, ht, hsaw⟩ := ok_of_map hafter
  obtain ⟨hwindow, hrest⟩ := Prod.mk.inj hsaw
  obtain ⟨hvector, hcan⟩ := Prod.mk.inj hrest
  obtain ⟨entered, henter, h⟩ := bind_ok ht
  obtain ⟨r, hr, h⟩ := bind_ok h
  obtain ⟨entered', henter', h⟩ := bind_ok h
  obtain rfl := Except.ok.inj h
  obtain ⟨-, hnext⟩ := window_mirrors_pending (hostWith fullMsrs) 0 0 0 0 0 c hc (by decide) _ c' hrun windowCall
    entered henter
  obtain ⟨vector, hvector', hinjects⟩ := hnext (fun _ => hwindow) (by decide)
  obtain rfl : vector = 0#8 := Option.some.inj (hvector'.symm.trans hvector)
  have hthen := hinjects r hr { windowCall with regs := { GuestRegisters.zero with rflags := 0x202#64 } } entered'
    henter' (of_decide_eq_true (p := interruptible _ _) hcan)
  exact ⟨c, c', _, hc, hrun, ht, hwindow, hthen.1⟩

end Rhyve.Vmx
