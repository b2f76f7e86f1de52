import Rhyve.Lib.Errors
import Rhyve.Lib.Words
import Rhyve.Vmx.Cpu

/-! # Creating a vCPU (`setup_vmxon`, `setup_vmcs` and `new` in `vmx/mod.rs`)

`new` puts the core into VMX operation, makes a cleared VMCS the current one and writes it. Every step of it can fail,
and some panic.

* `ControlRegs.setupVmxon`: the control registers, up to the VMXON.
* `HostCpu`: the machine, with how the VMX instructions end on it.
* `new_ok`: a vCPU that has been created. `new_isOk_iff`: when it is.
-/

namespace Rhyve.Vmx
open Apic Backend Errors Words
set_option autoImplicit false

/-! ## CR0 and CR4 -/

def ia32FeatureControl : BitVec 32 := 0x3a#32
def ia32VmxCr0Fixed0 : BitVec 32 := 0x486#32
def ia32VmxCr0Fixed1 : BitVec 32 := 0x487#32
def ia32VmxCr4Fixed0 : BitVec 32 := 0x488#32
def ia32VmxCr4Fixed1 : BitVec 32 := 0x489#32

def vmxLockBit : BitVec 64 := 1#64 <<< 0
def vmxonOutsideSmx : BitVec 64 := 1#64 <<< 2
def cr4Vmxe : BitVec 64 := 1#64 <<< 13

/-- The bits that the flag types of the library name. -/
structure KnownFlags where
  cr0 : BitVec 64
  cr4 : BitVec 64

/-- Those of `Cr0Flags` and `Cr4Flags`. -/
def namedFlags : KnownFlags := ⟨0xe005003f#64, 0x1ff7fff#64⟩

/-- `update`: the closure sees the named flags, the other bits are written back as they were. -/
def updateFlags (known : BitVec 64) (f : BitVec 64 → BitVec 64) (raw : BitVec 64) : BitVec 64 :=
  (raw &&& ~~~known) ||| f (raw &&& known)

theorem updateFlags_insert (known x raw : BitVec 64) :
    updateFlags known (fun flags => flags ||| x) raw = raw ||| x := masked_or raw known x

/-- `from_bits`: there must be no unnamed bit. -/
def fromBits (known bits : BitVec 64) : Option (BitVec 64) := if Within bits known then some bits else none

/-- An unlocked register is written and locked. A locked one must allow VMXON. -/
def checkFeatureControl (features : BitVec 64) : Except Abort Unit :=
  if features &&& vmxLockBit = 0#64 then .ok ()
  else if features &&& vmxonOutsideSmx = 0#64 then .error (.panic .unableToInitializeVmx)
  else .ok ()

/-- The control registers that `setup_vmxon` changes. -/
structure ControlRegs where
  cr0 : BitVec 64
  cr4 : BitVec 64
  deriving DecidableEq, Repr

/-- The control registers when VMXON is executed. `vmxonPa` is the address of the VMXON region. -/
def ControlRegs.setupVmxon (r : ControlRegs) (known : KnownFlags) (msrs : Msrs) (vmxonPa : Option (BitVec 64)) :
    Except Abort ControlRegs := do
  let r := { r with cr4 := updateFlags known.cr4 (fun flags => flags ||| cr4Vmxe) r.cr4 }
  checkFeatureControl (msrs ia32FeatureControl)
  let cr0Fixed0 ← unwrap (fromBits known.cr0 (msrs ia32VmxCr0Fixed0))
  -- `intersects` with FIXED1 is a test whose result is not used
  let r := { r with cr0 := updateFlags known.cr0 (fun flags => flags ||| cr0Fixed0) r.cr0 }
  let cr4Fixed0 ← unwrap (fromBits known.cr4 (msrs ia32VmxCr4Fixed0))
  let r := { r with cr4 := updateFlags known.cr4 (fun flags => flags ||| cr4Fixed0) r.cr4 }
  let _ ← unwrap vmxonPa
  return r

theorem fromBits_isSome {known bits : BitVec 64} : (∃ flags, fromBits known bits = some flags) ↔ Within bits known := by
  unfold fromBits
  split
  · rename_i h
    exact iff_of_true ⟨_, rfl⟩ h
  · rename_i h
    refine iff_of_false ?_ h
    rintro ⟨_, hnone⟩
    cases hnone

theorem checkFeatureControl_isOk {features : BitVec 64} : (∃ u, checkFeatureControl features = .ok u) ↔
    features &&& vmxLockBit = 0#64 ∨ features &&& vmxonOutsideSmx ≠ 0#64 := by
  unfold checkFeatureControl
  split
  · rename_i h
    exact iff_of_true ⟨_, rfl⟩ (.inl h)
  · rename_i hlock
    split
    · rename_i h
      exact iff_of_false (fun ⟨_, herror⟩ => nomatch herror) (not_or.mpr ⟨hlock, not_not.mpr h⟩)
    · rename_i h
      exact iff_of_true ⟨_, rfl⟩ (.inr h)

/-- None of the steps depends on what the others leave. -/
theorem setupVmxon_isOk_iff {r : ControlRegs} {known : KnownFlags} {msrs : Msrs} {vmxonPa : Option (BitVec 64)} :
    (∃ r', r.setupVmxon known msrs vmxonPa = .ok r') ↔
      (msrs ia32FeatureControl &&& vmxLockBit = 0#64 ∨ msrs ia32FeatureControl &&& vmxonOutsideSmx ≠ 0#64) ∧
      Within (msrs ia32VmxCr0Fixed0) known.cr0 ∧ Within (msrs ia32VmxCr4Fixed0) known.cr4 ∧ ∃ pa, vmxonPa = some pa := by
  have hlast : ∀ r : ControlRegs, ∃ r', (Except.ok r : Except Abort ControlRegs) = .ok r' := fun r => ⟨r, rfl⟩
  unfold ControlRegs.setupVmxon
  rw [← checkFeatureControl_isOk, ← fromBits_isSome, ← fromBits_isSome]
  simp only [bind_isOk_iff, unwrap_ok, pure, Except.pure, hlast, and_true, exists_and_right]

theorem fromBits_ok {known bits flags : BitVec 64} (h : unwrap (fromBits known bits) = .ok flags) :
    flags = bits := by
  unfold fromBits at h
  split at h
  · exact (Except.ok.inj h).symm
  · cases h

/-- The bits of FIXED0 are added, and nothing is taken away. -/
theorem setupVmxon_ok {r r' : ControlRegs} {known : KnownFlags} {msrs : Msrs} {vmxonPa : Option (BitVec 64)}
    (h : r.setupVmxon known msrs vmxonPa = .ok r') :
    r'.cr0 = r.cr0 ||| msrs ia32VmxCr0Fixed0 ∧ r'.cr4 = (r.cr4 ||| cr4Vmxe) ||| msrs ia32VmxCr4Fixed0 := by
  unfold ControlRegs.setupVmxon at h
  obtain ⟨-, -, h⟩ := bind_ok h
  obtain ⟨cr0Fixed0, h0, h⟩ := bind_ok h
  obtain ⟨cr4Fixed0, h4, h⟩ := bind_ok h
  obtain ⟨-, -, h⟩ := bind_ok h
  rw [← Except.ok.inj h, fromBits_ok h0, fromBits_ok h4]
  simp only [updateFlags_insert]
  exact ⟨trivial, trivial⟩

/-! ## The machine -/

/-- How VMXON ends. Of a failure the code looks at the VM-instruction error, if there is a current VMCS to read it
from. -/
inductive VmxonStatus where
  | succeeds
  | fails (error : Option (BitVec 64))
  deriving DecidableEq, Repr

/-- VMXON in VMX root operation: another vCPU has enabled the core. -/
def vmxonInRoot : BitVec 64 := 15#64

namespace VmxCpu

/-- The machine a vCPU is created on. -/
structure HostCpu where
  msrs : Msrs
  /-- The registers before `setup_vmxon`. -/
  area : HostArea
  supported : FieldId → Bool
  /-- The contents of a VMCS after VMCLEAR. -/
  cleared : FieldId → BitVec 64
  /-- Nothing if the allocation fails. -/
  virtualApicPage : Option (BitVec 64)
  vmxonRegion : BitVec 64
  vmcsRegion : BitVec 64
  virtualToPhysical : BitVec 64 → Option (BitVec 64)
  vmxon : VmxonStatus
  /-- VMCLEAR and VMPTRLD succeed. -/
  vmclear : Bool
  vmptrld : Bool

def captureStatus (succeeded : Bool) : Except Abort Unit :=
  if succeeded then .ok () else .error (.error .vmclearFailed)

namespace HostCpu

/-- `setup_vmxon`: the control registers that it leaves. -/
def setupVmxon (h : HostCpu) : Except Abort ControlRegs := do
  let r ← ControlRegs.setupVmxon ⟨h.area.cr0, h.area.cr4⟩ namedFlags h.msrs (h.virtualToPhysical h.vmxonRegion)
  match h.vmxon with
  | .succeeds => return r
  | .fails error => if error = some vmxonInRoot then return r else .error (.error .vmclearFailed)

/-- All that is written to the VMCS. -/
def setupWrites (msrs : Msrs) (area : HostArea) (virtualApicHpa eptp apicAccessHpa entryPoint guestRsp : BitVec 64) :
    List (FieldId × BitVec 64) :=
  setupControls msrs eptp ++ setupApic virtualApicHpa apicAccessHpa ++ setupHost msrs area ++
    setupGuest entryPoint guestRsp

/-- `setup_vmcs`, after a VMXON with these control registers. -/
def setupVmcs (h : HostCpu) (r : ControlRegs) (page eptp apicAccessHpa entryPoint guestRsp : BitVec 64) :
    Except Abort Vmcs := do
  let _ ← unwrap (h.virtualToPhysical h.vmcsRegion)
  captureStatus h.vmclear
  captureStatus h.vmptrld
  let virtualApicHpa ← orError .allocationFailed (h.virtualToPhysical page)
  (Vmcs.writeAll ⟨h.cleared, h.supported⟩ (setupWrites h.msrs { h.area with cr0 := r.cr0, cr4 := r.cr4 }
    virtualApicHpa eptp apicAccessHpa entryPoint guestRsp)).mapError .error

end HostCpu

def new (h : HostCpu) (eptp apicAccessHpa cpuId entryPoint guestRsp : BitVec 64) : Except Abort VmxCpu := do
  let page ← orError .allocationFailed h.virtualApicPage
  let r ← h.setupVmxon
  let vmcs ← h.setupVmcs r page eptp apicAccessHpa entryPoint guestRsp
  return {
    vmcs := vmcs
    regs := bootRegisters cpuId entryPoint guestRsp
    launched := false
    apicTimer := ApicTimer.default
    pendingVector := none
    preemptScale := (h.msrs ia32VmxMisc &&& 0x1f#64).setWidth 8 }

/-! ## What has been created -/

/-- The registers that `setup_host` reads. -/
def HostCpu.areaAfter (h : HostCpu) : HostArea :=
  { h.area with
    cr0 := h.area.cr0 ||| h.msrs ia32VmxCr0Fixed0
    cr4 := (h.area.cr4 ||| cr4Vmxe) ||| h.msrs ia32VmxCr4Fixed0 }

section New
variable {h : HostCpu} {eptp apicAccessHpa cpuId entryPoint guestRsp : BitVec 64} {c : VmxCpu}

theorem setupVmxon_regs {r : ControlRegs} (hr : h.setupVmxon = .ok r) :
    { h.area with cr0 := r.cr0, cr4 := r.cr4 } = h.areaAfter := by
  obtain ⟨r', hr', hr⟩ := bind_ok hr
  have hsame : r' = r := by
    split at hr
    · exact Except.ok.inj hr
    · split at hr
      · exact Except.ok.inj hr
      · cases hr
  obtain ⟨hcr0, hcr4⟩ := setupVmxon_ok hr'
  rw [← hsame, hcr0, hcr4]
  rfl

theorem new_ok (hc : VmxCpu.new h eptp apicAccessHpa cpuId entryPoint guestRsp = .ok c) :
    ∃ virtualApicHpa vmcs, Vmcs.writeAll ⟨h.cleared, h.supported⟩ (HostCpu.setupWrites h.msrs h.areaAfter virtualApicHpa
        eptp apicAccessHpa entryPoint guestRsp) = .ok vmcs ∧
      c = ⟨vmcs, bootRegisters cpuId entryPoint guestRsp, false, ApicTimer.default, none,
        (h.msrs ia32VmxMisc &&& 0x1f#64).setWidth 8⟩ := by
  obtain ⟨page, -, hc⟩ := bind_ok hc
  obtain ⟨r, hr, hc⟩ := bind_ok hc
  obtain ⟨vmcs, hvmcs, hc⟩ := bind_ok hc
  obtain ⟨-, -, hvmcs⟩ := bind_ok hvmcs
  obtain ⟨-, -, hvmcs⟩ := bind_ok hvmcs
  obtain ⟨-, -, hvmcs⟩ := bind_ok hvmcs
  obtain ⟨virtualApicHpa, -, hvmcs⟩ := bind_ok hvmcs
  rw [setupVmxon_regs hr] at hvmcs
  exact ⟨virtualApicHpa, vmcs, mapError_ok.mp hvmcs, (Except.ok.inj hc).symm⟩

/-- A field of the new VMCS. -/
theorem new_vmcs (hc : VmxCpu.new h eptp apicAccessHpa cpuId entryPoint guestRsp = .ok c) :
    ∃ virtualApicHpa, ∀ f, c.vmcs.value f = ((lastWrite f (HostCpu.setupWrites h.msrs h.areaAfter virtualApicHpa
      eptp apicAccessHpa entryPoint guestRsp)).map (truncate f)).getD (h.cleared f) := by
  obtain ⟨virtualApicHpa, vmcs, hvmcs, rfl⟩ := new_ok hc
  exact ⟨virtualApicHpa, Vmcs.writeAll_value hvmcs⟩

/-! ## When a vCPU is created -/

/-- The fields that are written, whatever is written to them. -/
def setupFields : List FieldId :=
  (HostCpu.setupWrites (fun _ => 0#64) ⟨0, 0, 0, 0, 0, 0, 0, 0, 0, 0, 0, 0, 0⟩ 0 0 0 0 0).map Prod.fst

theorem setupWrites_supported (supported : FieldId → Bool) (msrs : Msrs) (area : HostArea)
    (virtualApicHpa eptp apicAccessHpa entryPoint guestRsp : BitVec 64) :
    (∀ w ∈ HostCpu.setupWrites msrs area virtualApicHpa eptp apicAccessHpa entryPoint guestRsp,
      supported w.1 = true) ↔ ∀ f ∈ setupFields, supported f = true := by
  have hfields : (HostCpu.setupWrites msrs area virtualApicHpa eptp apicAccessHpa entryPoint guestRsp).map Prod.fst =
      setupFields := rfl
  rw [← hfields, List.forall_mem_map]

/-- Every step succeeds: the page is allocated and mapped, VMXON is allowed, the fixed bits are named flags, the
regions are mapped, no VMX instruction fails, and the processor has all fields. -/
structure Creatable (h : HostCpu) : Prop where
  page : ∃ page hpa, h.virtualApicPage = some page ∧ h.virtualToPhysical page = some hpa
  features : h.msrs ia32FeatureControl &&& vmxLockBit = 0#64 ∨ h.msrs ia32FeatureControl &&& vmxonOutsideSmx ≠ 0#64
  cr0 : Within (h.msrs ia32VmxCr0Fixed0) namedFlags.cr0
  cr4 : Within (h.msrs ia32VmxCr4Fixed0) namedFlags.cr4
  vmxonRegion : ∃ pa, h.virtualToPhysical h.vmxonRegion = some pa
  vmxon : h.vmxon = .succeeds ∨ h.vmxon = .fails (some vmxonInRoot)
  vmcsRegion : ∃ pa, h.virtualToPhysical h.vmcsRegion = some pa
  vmclear : h.vmclear = true
  vmptrld : h.vmptrld = true
  fields : ∀ f ∈ setupFields, h.supported f = true

theorem captureStatus_ok {b : Bool} {u : Unit} : captureStatus b = .ok u ↔ b = true := by
  cases b with
  | false => exact iff_of_false nofun nofun
  | true => exact ⟨fun _ => rfl, fun _ => rfl⟩

theorem HostCpu.setupVmxon_isOk_iff : (∃ r, h.setupVmxon = .ok r) ↔
    (∃ r, ControlRegs.setupVmxon ⟨h.area.cr0, h.area.cr4⟩ namedFlags h.msrs (h.virtualToPhysical h.vmxonRegion) = .ok r) ∧
      (h.vmxon = .succeeds ∨ h.vmxon = .fails (some vmxonInRoot)) := by
  unfold HostCpu.setupVmxon
  rw [bind_isOk_iff, ← exists_and_right]
  refine exists_congr fun r => and_congr_right fun _ => ?_
  cases h.vmxon with
  | succeeds => exact iff_of_true ⟨r, rfl⟩ (.inl rfl)
  | fails error =>
    by_cases herror : error = some vmxonInRoot
    · dsimp only
      rw [if_pos herror, herror]
      exact iff_of_true ⟨r, rfl⟩ (.inr rfl)
    · dsimp only
      rw [if_neg herror]
      refine iff_of_false (fun ⟨_, hr⟩ => nomatch hr) ?_
      rintro (hs | hf)
      · cases hs
      · exact herror (VmxonStatus.fails.inj hf)

theorem HostCpu.setupVmcs_isOk_iff {r : ControlRegs} {page : BitVec 64} :
    (∃ vmcs, h.setupVmcs r page eptp apicAccessHpa entryPoint guestRsp = .ok vmcs) ↔
      (∃ pa, h.virtualToPhysical h.vmcsRegion = some pa) ∧ h.vmclear = true ∧ h.vmptrld = true ∧
      (∃ hpa, h.virtualToPhysical page = some hpa) ∧ ∀ f ∈ setupFields, h.supported f = true := by
  have hfields := fun hpa => setupWrites_supported h.supported h.msrs { h.area with cr0 := r.cr0, cr4 := r.cr4 } hpa eptp
    apicAccessHpa entryPoint guestRsp
  unfold HostCpu.setupVmcs
  simp only [bind_isOk_iff, unwrap_ok, orError_ok, captureStatus_ok, mapError_ok, Vmcs.writeAll_isOk_iff, hfields,
    exists_and_right, exists_const]

theorem new_isOk_iff : (∃ c, VmxCpu.new h eptp apicAccessHpa cpuId entryPoint guestRsp = .ok c) ↔ Creatable h := by
  have hlast : ∀ c : VmxCpu, ∃ c', (Except.ok c : Except Abort VmxCpu) = .ok c' := fun c => ⟨c, rfl⟩
  unfold VmxCpu.new
  simp only [bind_isOk_iff, orError_ok, pure, Except.pure, hlast, and_true, HostCpu.setupVmcs_isOk_iff,
    exists_and_right, HostCpu.setupVmxon_isOk_iff, Vmx.setupVmxon_isOk_iff]
  constructor
  · rintro ⟨page, hpage, ⟨⟨hfeatures, hcr0, hcr4, hon⟩, hvmxon⟩, hvmcs, hclear, hptrld, ⟨hpa, hhpa⟩, hfields⟩
    exact ⟨⟨page, hpa, hpage, hhpa⟩, hfeatures, hcr0, hcr4, hon, hvmxon, hvmcs, hclear, hptrld, hfields⟩
  · intro hcan
    obtain ⟨page, hpa, hpage, hhpa⟩ := hcan.page
    exact ⟨page, hpage, ⟨⟨hcan.features, hcan.cr0, hcan.cr4, hcan.vmxonRegion⟩, hcan.vmxon⟩, hcan.vmcsRegion,
      hcan.vmclear, hcan.vmptrld, ⟨hpa, hhpa⟩, hcan.fields⟩

end New

/-- A machine on which nothing fails. -/
def HostCpu.willing (msrs : Msrs) (area : HostArea) : HostCpu where
  msrs := msrs
  area := area
  supported := fun _ => true
  cleared := fun _ => 0#64
  virtualApicPage := some 0x3000#64
  vmxonRegion := 0x1000#64
  vmcsRegion := 0x2000#64
  virtualToPhysical := some
  vmxon := .succeeds
  vmclear := true
  vmptrld := true

theorem creatable_willing {msrs : Msrs}
    (hfeatures : msrs ia32FeatureControl &&& vmxLockBit = 0#64 ∨ msrs ia32FeatureControl &&& vmxonOutsideSmx ≠ 0#64)
    (hcr0 : Within (msrs ia32VmxCr0Fixed0) namedFlags.cr0) (hcr4 : Within (msrs ia32VmxCr4Fixed0) namedFlags.cr4)
    (area : HostArea) : Creatable (HostCpu.willing msrs area) :=
  ⟨⟨_, _, rfl, rfl⟩, hfeatures, hcr0, hcr4, ⟨_, rfl⟩, .inl rfl, ⟨_, rfl⟩, rfl, rfl, fun _ _ => rfl⟩

end VmxCpu

def blankHost : VmxCpu.HostCpu := .willing (fun _ => 0#64) ⟨0, 0, 0, 0, 0, 0, 0, 0, 0, 0, 0, 0, 0⟩

theorem blankHost_creates (eptp apicAccessHpa cpuId entryPoint guestRsp : BitVec 64) :
    ∃ c, VmxCpu.new blankHost eptp apicAccessHpa cpuId entryPoint guestRsp = .ok c :=
  VmxCpu.new_isOk_iff.mpr (VmxCpu.creatable_willing (by decide) (by decide) (by decide) _)

end Rhyve.Vmx
