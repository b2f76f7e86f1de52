import Rhyve.Vmx.Create

/-! # What the capability MSRs ask for (`setup_vmxon`, `adjust_control`, `setup_controls`)

The processor constrains seven words: CR0 and CR4 when VMXON is executed, and five words of VM-execution,
VM-entry and VM-exit controls. Each has bits that must be 1 and bits that may be 1.

* `adjustControl_bit`: one bit of a control word; `Wrote`: the words that `setup_controls` leaves in the VMCS.
* `vmx_words_legal_iff`: when all seven words are legal.
* `isolation_iff`: when the controls that isolate the guest are in force.
-/

namespace Rhyve.Vmx
open Errors VmxCpu Words
set_option autoImplicit false

/-- All bits that must be set are, and none that may not be. -/
structure LegalWord (must may word : BitVec 64) : Prop where
  must : Within must word
  may : Within word may

/-! ## CR0 and CR4 -/

/-- VMXON accepts CR0 and CR4. -/
structure VmxonLegal (msrs : Msrs) (r : ControlRegs) : Prop where
  cr0 : LegalWord (msrs ia32VmxCr0Fixed0) (msrs ia32VmxCr0Fixed1) r.cr0
  cr4 : LegalWord (msrs ia32VmxCr4Fixed0) (msrs ia32VmxCr4Fixed1) r.cr4
  vmxe : Within cr4Vmxe r.cr4

theorem vmxonLegal_iff {r r' : ControlRegs} {known : KnownFlags} {msrs : Msrs} {vmxonPa : Option (BitVec 64)}
    (h0 : Within (msrs ia32VmxCr0Fixed0) (msrs ia32VmxCr0Fixed1))
    (h4 : Within (msrs ia32VmxCr4Fixed0) (msrs ia32VmxCr4Fixed1))
    (h : r.setupVmxon known msrs vmxonPa = .ok r') :
    VmxonLegal msrs r' ↔
      Within r.cr0 (msrs ia32VmxCr0Fixed1) ∧ Within (r.cr4 ||| cr4Vmxe) (msrs ia32VmxCr4Fixed1) := by
  obtain ⟨hcr0, hcr4⟩ := setupVmxon_ok h
  constructor
  · intro hlegal
    have hmay0 := hlegal.cr0.may
    have hmay4 := hlegal.cr4.may
    rw [hcr0, or_within_iff] at hmay0
    rw [hcr4, or_within_iff] at hmay4
    exact ⟨hmay0.1, hmay4.1⟩
  · rintro ⟨hin0, hin4⟩
    refine ⟨⟨?_, ?_⟩, ⟨?_, ?_⟩, ?_⟩
    · rw [hcr0]
      exact within_or_right _ _
    · rw [hcr0, or_within_iff]
      exact ⟨hin0, h0⟩
    · rw [hcr4]
      exact within_or_right _ _
    · rw [hcr4, or_within_iff]
      exact ⟨hin4, h4⟩
    · rw [hcr4, BitVec.or_assoc, BitVec.or_comm cr4Vmxe, ← BitVec.or_assoc]
      exact within_or_right _ _

/-! ## The control words -/

namespace VmxControl

def field : VmxControl → FieldId
  | .pinBased => Control.pinbasedExecControls
  | .processorBased => Control.primaryProcbasedExecControls
  | .processorBased2 => Control.secondaryProcbasedExecControls
  | .vmExit => Control.vmexitControls
  | .vmEntry => Control.vmentryControls

def request : VmxControl → BitVec 64
  | .pinBased => pinbasedRequest
  | .processorBased => procbasedRequest
  | .processorBased2 => secondaryRequest
  | .vmExit => exitRequest
  | .vmEntry => entryRequest

end VmxControl

/-- The capability MSR for the word: the TRUE variant if bit 55 of `IA32_VMX_BASIC` is set. -/
def capability (msrs : Msrs) (control : VmxControl) : BitVec 64 :=
  msrs (capMsr control ((msrs ia32VmxBasic).getLsbD 55))

def mustBeOne (msrs : Msrs) (control : VmxControl) : BitVec 64 := capability msrs control &&& 0xffffffff#64
def mayBeOne (msrs : Msrs) (control : VmxControl) : BitVec 64 := capability msrs control >>> 32

theorem trueCtls_eq (msrs : Msrs) :
    (msrs ia32VmxBasic &&& (1#64 <<< 55) != 0#64) = (msrs ia32VmxBasic).getLsbD 55 := by
  rw [← BitVec.twoPow_eq, BitVec.and_twoPow]
  cases (msrs ia32VmxBasic).getLsbD 55 <;> rfl

theorem low_mask_bit (i : ℕ) : (0xffffffff#64).getLsbD i = decide (i < 32) := by
  have hall : 0xffffffff#64 = (BitVec.allOnes 32).setWidth 64 := by decide
  rw [hall, BitVec.getLsbD_setWidth, BitVec.getLsbD_allOnes]
  by_cases hi : i < 32
  · simp [hi]
    omega
  · simp [hi]

theorem adjustControl_bit (msrs : Msrs) (control : VmxControl) (request : BitVec 64) (i : ℕ) :
    (adjustControl msrs control request).getLsbD i =
      (decide (i < 32) && ((request.getLsbD i || (mustBeOne msrs control).getLsbD i) &&
        (mayBeOne msrs control).getLsbD i)) := by
  unfold adjustControl mustBeOne mayBeOne capability
  simp only [trueCtls_eq]
  by_cases hi : i < 32
  · have hi' : i < 64 := by omega
    simp only [BitVec.getLsbD_setWidth, BitVec.getLsbD_and, BitVec.getLsbD_or, BitVec.getLsbD_ushiftRight, low_mask_bit,
      hi, hi', decide_true, Bool.true_and, Bool.and_true]
  · simp [hi]

/-- The words that are in the VMCS once `setup_controls` has returned, and those of a new vCPU. -/
def Wrote (msrs : Msrs) (v : Vmcs) : Prop :=
  ∀ control : VmxControl, v.value control.field = adjustControl msrs control control.request

theorem truncate_adjustControl (msrs : Msrs) (control : VmxControl) (request : BitVec 64) :
    truncate control.field (adjustControl msrs control request) = adjustControl msrs control request := by
  have hfield : truncate control.field (adjustControl msrs control request) =
      adjustControl msrs control request &&& 0xffffffff#64 := by
    cases control <;> rfl
  rw [hfield]
  refine BitVec.eq_of_getLsbD_eq fun i hi => ?_
  rw [BitVec.getLsbD_and, adjustControl_bit, low_mask_bit]
  cases decide (i < 32) <;> simp

theorem setupControls_wrote {v v' : Vmcs} {msrs : Msrs} {eptp : BitVec 64}
    (h : v.writeAll (setupControls msrs eptp) = .ok v') : Wrote msrs v' := by
  intro control
  rw [Vmcs.writeAll_value h, ← truncate_adjustControl]
  cases control <;> rfl

theorem new_wrote {h : HostCpu} {eptp apicAccessHpa cpuId entryPoint guestRsp : BitVec 64} {c : VmxCpu}
    (hc : VmxCpu.new h eptp apicAccessHpa cpuId entryPoint guestRsp = .ok c) : Wrote h.msrs c.vmcs := by
  obtain ⟨virtualApicHpa, hvmcs⟩ := new_vmcs hc
  intro control
  rw [hvmcs, ← truncate_adjustControl]
  cases control <;> rfl

/-- The controls are allowed, and have everything that was asked for and is allowed. -/
structure LegalControl (must may request word : BitVec 64) : Prop where
  legal : LegalWord must may word
  requested : Within (request &&& may) word

/-- In all capability MSRs the bits that must be 1 are ones that may be 1. -/
structure Consistent (msrs : Msrs) : Prop where
  cr0 : Within (msrs ia32VmxCr0Fixed0) (msrs ia32VmxCr0Fixed1)
  cr4 : Within (msrs ia32VmxCr4Fixed0) (msrs ia32VmxCr4Fixed1)
  controls : ∀ control : VmxControl, Within (mustBeOne msrs control) (mayBeOne msrs control)

theorem mayBeOne_lt {msrs : Msrs} {control : VmxControl} {i : ℕ} (h : (mayBeOne msrs control).getLsbD i = true) :
    i < 32 := by
  unfold mayBeOne at h
  rw [BitVec.getLsbD_ushiftRight] at h
  have hi := BitVec.lt_of_getLsbD h
  omega

theorem adjustControl_legal {msrs : Msrs} {control : VmxControl}
    (h : Within (mustBeOne msrs control) (mayBeOne msrs control)) (request : BitVec 64) :
    LegalControl (mustBeOne msrs control) (mayBeOne msrs control) request (adjustControl msrs control request) := by
  have hsub := within_iff.mp h
  refine ⟨⟨?_, ?_⟩, ?_⟩
  · rw [within_iff]
    intro i hmust
    have hmay := hsub i hmust
    simp [adjustControl_bit, hmust, hmay, mayBeOne_lt hmay]
  · rw [within_iff]
    intro i hword
    rw [adjustControl_bit, Bool.and_eq_true, Bool.and_eq_true] at hword
    exact hword.2.2
  · rw [within_iff]
    intro i hreq
    rw [BitVec.getLsbD_and, Bool.and_eq_true] at hreq
    simp [adjustControl_bit, hreq.1, hreq.2, mayBeOne_lt hreq.2]

/-- The five control words are always legal. The control registers are if and only if they had no bit outside FIXED1
to begin with: `setup_vmxon` does not clear one. -/
theorem vmx_words_legal_iff (msrs : Msrs) (hmsrs : Consistent msrs) (known : KnownFlags)
    (vmxonPa : Option (BitVec 64)) (r r' : ControlRegs) (h : r.setupVmxon known msrs vmxonPa = .ok r') :
    (VmxonLegal msrs r' ↔
      Within r.cr0 (msrs ia32VmxCr0Fixed1) ∧ Within (r.cr4 ||| cr4Vmxe) (msrs ia32VmxCr4Fixed1)) ∧
    ∀ (v v' : Vmcs) (eptp : BitVec 64), v.writeAll (setupControls msrs eptp) = .ok v' → ∀ control : VmxControl,
      LegalControl (mustBeOne msrs control) (mayBeOne msrs control) control.request (v'.value control.field) := by
  refine ⟨vmxonLegal_iff hmsrs.cr0 hmsrs.cr4 h, ?_⟩
  intro v v' eptp hv control
  rw [setupControls_wrote hv control]
  exact adjustControl_legal (hmsrs.controls control) control.request

/-- A processor that has all controls, with the TRUE capability MSRs and the usual fixed bits. -/
def fullMsrs : Msrs := fun index =>
  if index = ia32FeatureControl then 5#64
  else if index = ia32VmxCr0Fixed0 then 0x80000021#64
  else if index = ia32VmxCr0Fixed1 then 0xffffffff#64
  else if index = ia32VmxCr4Fixed0 then 0x2000#64
  else if index = ia32VmxCr4Fixed1 then 0x3767ff#64
  else 0xffffffff00000000#64

theorem fullMsrs_consistent : Consistent fullMsrs :=
  ⟨by decide, by decide, fun control => by cases control <;> decide⟩

theorem vmx_words_legal_full :
    VmxonLegal fullMsrs ⟨0x80050033#64, 0x2020#64⟩ ∧
    ∃ v', Vmcs.writeAll ⟨fun _ => 0#64, fun _ => true⟩ (setupControls fullMsrs 0x1000#64) = .ok v' ∧
      ∀ control : VmxControl, LegalControl (mustBeOne fullMsrs control) (mayBeOne fullMsrs control) control.request
        (v'.value control.field) := by
  obtain ⟨hcr, hwords⟩ := vmx_words_legal_iff fullMsrs fullMsrs_consistent namedFlags (some 0x1000#64)
    ⟨0x80050033#64, 0x20#64⟩ ⟨0x80050033#64, 0x2020#64⟩ (by decide)
  exact ⟨hcr.mpr (by decide), _, rfl, hwords ⟨fun _ => 0#64, fun _ => true⟩ _ 0x1000#64 rfl⟩

/-- CR4.PKE is on and stays on, although FIXED1 does not have it. -/
theorem protection_keys_left_on :
    Consistent fullMsrs ∧
    ControlRegs.setupVmxon ⟨0x80050033#64, 0x400020#64⟩ namedFlags fullMsrs (some 0x1000#64) =
      .ok ⟨0x80050033#64, 0x402020#64⟩ ∧
    ¬ VmxonLegal fullMsrs ⟨0x80050033#64, 0x402020#64⟩ := by
  refine ⟨fullMsrs_consistent, by decide, ?_⟩
  intro h
  exact absurd h.cr4.may (by decide)

/-! ## The controls that isolate the guest -/

/-- EXTERNAL_INTERRUPT_EXITING, VMX_PREEMPTION_TIMER, SECONDARY_CONTROLS, UNCOND_IO_EXITING, ENABLE_EPT. -/
def isolationBits : List (VmxControl × ℕ) :=
  [(.pinBased, 0), (.pinBased, 6), (.processorBased, 31), (.processorBased, 24), (.processorBased2, 1)]

/-- USE_MSR_BITMAPS, USE_IO_BITMAPS. -/
def bitmapBits : List (VmxControl × ℕ) := [(.processorBased, 28), (.processorBased, 25)]

/-- Every access of the guest that needs an exit has one, and no bitmap lifts that. -/
structure Isolated (v : Vmcs) : Prop where
  on : ∀ b ∈ isolationBits, (v.value b.1.field).getLsbD b.2 = true
  off : ∀ b ∈ bitmapBits, (v.value b.1.field).getLsbD b.2 = false

/-- The processor allows these controls. -/
structure Offers (msrs : Msrs) : Prop where
  on : ∀ b ∈ isolationBits, (mayBeOne msrs b.1).getLsbD b.2 = true
  off : ∀ b ∈ bitmapBits, (mustBeOne msrs b.1).getLsbD b.2 = false

theorem isolationBits_requested : ∀ b ∈ isolationBits, b.2 < 32 ∧ b.1.request.getLsbD b.2 = true := by
  decide

theorem bitmapBits_not_requested : ∀ b ∈ bitmapBits, b.1.request.getLsbD b.2 = false := by
  decide

/-- A requested control is in force if it is offered, and another one if it is forced on. -/
theorem isolated_iff {msrs : Msrs} {v : Vmcs}
    (hmsrs : ∀ control : VmxControl, Within (mustBeOne msrs control) (mayBeOne msrs control)) (h : Wrote msrs v) :
    Isolated v ↔ Offers msrs := by
  have hon : ∀ b ∈ isolationBits, (v.value b.1.field).getLsbD b.2 = (mayBeOne msrs b.1).getLsbD b.2 := by
    intro b hb
    obtain ⟨hlt, hreq⟩ := isolationBits_requested b hb
    simp [h b.1, adjustControl_bit, hlt, hreq]
  have hoff : ∀ b ∈ bitmapBits, (v.value b.1.field).getLsbD b.2 = (mustBeOne msrs b.1).getLsbD b.2 := by
    intro b hb
    rw [h b.1, adjustControl_bit, bitmapBits_not_requested b hb, Bool.false_or]
    cases hmust : (mustBeOne msrs b.1).getLsbD b.2 with
    | false => simp
    | true =>
      have hmay := within_iff.mp (hmsrs b.1) b.2 hmust
      simp [hmay, mayBeOne_lt hmay]
  constructor
  · intro hv
    exact ⟨fun b hb => (hon b hb).symm.trans (hv.on b hb), fun b hb => (hoff b hb).symm.trans (hv.off b hb)⟩
  · intro hoffers
    exact ⟨fun b hb => (hon b hb).trans (hoffers.on b hb), fun b hb => (hoff b hb).trans (hoffers.off b hb)⟩

/-- `setup_controls` drops a control that is not offered and goes on: unless the processor lacks a field that is written
or the vCPU is not created at all, the guest is isolated if and only if the processor offers all of it. -/
theorem isolation_iff (h : HostCpu)
    (hmsrs : ∀ control : VmxControl, Within (mustBeOne h.msrs control) (mayBeOne h.msrs control)) (v : Vmcs)
    (eptp apicAccessHpa cpuId entryPoint guestRsp : BitVec 64) :
    ((∀ v', v.writeAll (setupControls h.msrs eptp) = .ok v' → Isolated v') ↔
      (∃ w ∈ setupControls h.msrs eptp, v.supported w.1 = false) ∨ Offers h.msrs) ∧
    ((∀ c, VmxCpu.new h eptp apicAccessHpa cpuId entryPoint guestRsp = .ok c → Isolated c.vmcs) ↔
      ¬ Creatable h ∨ Offers h.msrs) := by
  have hlacks : (¬ ∃ v', v.writeAll (setupControls h.msrs eptp) = .ok v') ↔
      ∃ w ∈ setupControls h.msrs eptp, v.supported w.1 = false := by
    rw [Vmcs.writeAll_isOk_iff]
    simp only [not_forall, exists_prop, Bool.not_eq_true]
  rw [← hlacks, ← new_isOk_iff]
  exact ⟨forall_ok_iff fun _ hv => isolated_iff hmsrs (setupControls_wrote hv),
    forall_ok_iff fun _ hc => isolated_iff hmsrs (new_wrote hc)⟩

/-- In long mode, with the FPU in use. -/
def hostWith (msrs : Msrs) : HostCpu :=
  .willing msrs ⟨0x80050033#64, 0x1000#64, 0x620#64, 0x8#16, 0x10#16, 0x10#16, 0x10#16, 0#16, 0#16, 0x18#16, 0x4000#64,
    0x5000#64, 0x6000#64⟩

theorem fullHost_creatable : Creatable (hostWith fullMsrs) := creatable_willing (by decide) (by decide) (by decide) _

theorem isolation_full : ∃ c, VmxCpu.new (hostWith fullMsrs) 0 0 0 0 0 = .ok c ∧ Isolated c.vmcs := by
  obtain ⟨-, hnew⟩ := isolation_iff (hostWith fullMsrs) fullMsrs_consistent.controls ⟨fun _ => 0#64, fun _ => true⟩
    0 0 0 0 0
  exact ⟨_, rfl, hnew.mpr (.inr ⟨by decide, by decide⟩) _ rfl⟩

/-- All controls but UNCOND_IO_EXITING. -/
def portlessMsrs : Msrs := fun index =>
  if index = capMsr .processorBased true then 0xfeffffff00000000#64 else fullMsrs index

/-- The vCPU is created, and the ports of the host are open to its guest. -/
theorem ports_not_intercepted :
    (∀ control : VmxControl, Within (mustBeOne portlessMsrs control) (mayBeOne portlessMsrs control)) ∧
    ∃ c, VmxCpu.new (hostWith portlessMsrs) 0 0 0 0 0 = .ok c ∧
      (c.vmcs.value Control.primaryProcbasedExecControls).getLsbD 24 = false ∧
      (c.vmcs.value Control.primaryProcbasedExecControls).getLsbD 25 = false := by
  refine ⟨fun control => by cases control <;> decide, _, rfl, ?_, ?_⟩
  · decide +kernel
  · decide +kernel

end Rhyve.Vmx
