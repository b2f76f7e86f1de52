import Mathlib.Data.Nat.Notation
import Rhyve.Boot.GuestMemory
import Rhyve.Core

/-! # The VMCS and its setup (`vmcs.rs`)

The current VMCS maps field encodings to values. `VMREAD` and `VMWRITE` fail on fields that the processor
does not have. Bits 14:13 of an encoding give the width of the field, bits 11:10 its kind.

* `setupControls`, `setupApic`, `setupHost`, `setupGuest`: lists of writes, carried out in order.
* `Vmcs.afterExit`: what a VM-exit does to the VMCS.
-/

namespace Rhyve.Vmx
set_option autoImplicit false

abbrev FieldId := BitVec 32

namespace Control

def virtApicAddrFull : FieldId := 0x2012#32
def apicAccessAddrFull : FieldId := 0x2014#32
def eptpFull : FieldId := 0x201A#32
def pinbasedExecControls : FieldId := 0x4000#32
def primaryProcbasedExecControls : FieldId := 0x4002#32
def exceptionBitmap : FieldId := 0x4004#32
def pageFaultErrCodeMask : FieldId := 0x4006#32
def pageFaultErrCodeMatch : FieldId := 0x4008#32
def cr3TargetCount : FieldId := 0x400A#32
def vmexitControls : FieldId := 0x400C#32
def vmexitMsrStoreCount : FieldId := 0x400E#32
def vmexitMsrLoadCount : FieldId := 0x4010#32
def vmentryControls : FieldId := 0x4012#32
def vmentryMsrLoadCount : FieldId := 0x4014#32
def vmentryInterruptionInfoField : FieldId := 0x4016#32
def tprThreshold : FieldId := 0x401C#32
def secondaryProcbasedExecControls : FieldId := 0x401E#32
def cr0GuestHostMask : FieldId := 0x6000#32
def cr4GuestHostMask : FieldId := 0x6002#32
def cr0ReadShadow : FieldId := 0x6004#32
def cr4ReadShadow : FieldId := 0x6006#32

end Control

namespace Guest

def esSelector : FieldId := 0x800#32
def csSelector : FieldId := 0x802#32
def ssSelector : FieldId := 0x804#32
def dsSelector : FieldId := 0x806#32
def fsSelector : FieldId := 0x808#32
def gsSelector : FieldId := 0x80A#32
def ldtrSelector : FieldId := 0x80C#32
def trSelector : FieldId := 0x80E#32
def linkPtrFull : FieldId := 0x2800#32
def ia32DebugctlFull : FieldId := 0x2802#32
def ia32EferFull : FieldId := 0x2806#32
def esLimit : FieldId := 0x4800#32
def csLimit : FieldId := 0x4802#32
def ssLimit : FieldId := 0x4804#32
def dsLimit : FieldId := 0x4806#32
def fsLimit : FieldId := 0x4808#32
def gsLimit : FieldId := 0x480A#32
def ldtrLimit : FieldId := 0x480C#32
def trLimit : FieldId := 0x480E#32
def gdtrLimit : FieldId := 0x4810#32
def idtrLimit : FieldId := 0x4812#32
def esAccessRights : FieldId := 0x4814#32
def csAccessRights : FieldId := 0x4816#32
def ssAccessRights : FieldId := 0x4818#32
def dsAccessRights : FieldId := 0x481A#32
def fsAccessRights : FieldId := 0x481C#32
def gsAccessRights : FieldId := 0x481E#32
def ldtrAccessRights : FieldId := 0x4820#32
def trAccessRights : FieldId := 0x4822#32
def interruptibilityState : FieldId := 0x4824#32
def activityState : FieldId := 0x4826#32
def ia32SysenterCs : FieldId := 0x482A#32
def vmxPreemptionTimerValue : FieldId := 0x482E#32
def cr0 : FieldId := 0x6800#32
def cr3 : FieldId := 0x6802#32
def cr4 : FieldId := 0x6804#32
def esBase : FieldId := 0x6806#32
def csBase : FieldId := 0x6808#32
def ssBase : FieldId := 0x680A#32
def dsBase : FieldId := 0x680C#32
def fsBase : FieldId := 0x680E#32
def gsBase : FieldId := 0x6810#32
def ldtrBase : FieldId := 0x6812#32
def trBase : FieldId := 0x6814#32
def gdtrBase : FieldId := 0x6816#32
def idtrBase : FieldId := 0x6818#32
def dr7 : FieldId := 0x681A#32
def rsp : FieldId := 0x681C#32
def rip : FieldId := 0x681E#32
def rflags : FieldId := 0x6820#32
def pendingDbgExceptions : FieldId := 0x6822#32
def ia32SysenterEsp : FieldId := 0x6824#32
def ia32SysenterEip : FieldId := 0x6826#32

end Guest

namespace Host

def esSelector : FieldId := 0xC00#32
def csSelector : FieldId := 0xC02#32
def ssSelector : FieldId := 0xC04#32
def dsSelector : FieldId := 0xC06#32
def fsSelector : FieldId := 0xC08#32
def gsSelector : FieldId := 0xC0A#32
def trSelector : FieldId := 0xC0C#32
def ia32SysenterCs : FieldId := 0x4C00#32
def cr0 : FieldId := 0x6C00#32
def cr3 : FieldId := 0x6C02#32
def cr4 : FieldId := 0x6C04#32
def fsBase : FieldId := 0x6C06#32
def gsBase : FieldId := 0x6C08#32
def trBase : FieldId := 0x6C0A#32
def gdtrBase : FieldId := 0x6C0C#32
def idtrBase : FieldId := 0x6C0E#32
def ia32SysenterEsp : FieldId := 0x6C10#32
def ia32SysenterEip : FieldId := 0x6C12#32

end Host

namespace Ro

def vmInstructionError : FieldId := 0x4400#32
def exitReason : FieldId := 0x4402#32
def vmexitInstructionLen : FieldId := 0x440C#32
def exitQualification : FieldId := 0x6400#32

end Ro

/-! ## Access -/

/-- The fields of a VMCS, and which of them the processor has. -/
structure Vmcs where
  value : FieldId → BitVec 64
  supported : FieldId → Bool

/-- The part of a value that fits into the field. -/
def truncate (f : FieldId) (v : BitVec 64) : BitVec 64 :=
  if (f >>> 13) &&& 3#32 = 0#32 then v &&& 0xffff#64
  else if (f >>> 13) &&& 3#32 = 2#32 then v &&& 0xffffffff#64
  else v

namespace Vmcs

def read (v : Vmcs) (f : FieldId) : Except HypervisorError (BitVec 64) :=
  if v.supported f then .ok (v.value f) else .error .vmreadFailed

def set (v : Vmcs) (f : FieldId) (x : BitVec 64) : Vmcs :=
  { v with value := fun g => if g = f then truncate f x else v.value g }

def write (v : Vmcs) (f : FieldId) (x : BitVec 64) : Except HypervisorError Vmcs :=
  if v.supported f then .ok (v.set f x) else .error .vmwriteFailed

/-- Writes in order, up to the first that fails. -/
def writeAll : Vmcs → List (FieldId × BitVec 64) → Except HypervisorError Vmcs
  | v, [] => .ok v
  | v, w :: ws =>
    match v.write w.1 w.2 with
    | .error e => .error e
    | .ok v' => writeAll v' ws

end Vmcs

/-- The value of the last write to the field. -/
def lastWrite (f : FieldId) : List (FieldId × BitVec 64) → Option (BitVec 64)
  | [] => none
  | w :: ws => (lastWrite f ws).or (if w.1 = f then some w.2 else none)

theorem Vmcs.read_ok_iff {v : Vmcs} {f : FieldId} {y : BitVec 64} :
    v.read f = .ok y ↔ v.supported f = true ∧ y = v.value f := by
  unfold Vmcs.read
  split
  · rename_i hsup
    rw [Except.ok.injEq]
    exact ⟨fun h => ⟨hsup, h.symm⟩, fun h => h.2.symm⟩
  · rename_i hsup
    exact iff_of_false nofun fun h => hsup h.1

theorem Vmcs.read_ok {v : Vmcs} {f : FieldId} (h : v.supported f = true) : v.read f = .ok (v.value f) :=
  Vmcs.read_ok_iff.mpr ⟨h, rfl⟩

theorem Vmcs.read_eq {v : Vmcs} {f : FieldId} {y : BitVec 64} (h : v.read f = .ok y) : y = v.value f :=
  (Vmcs.read_ok_iff.mp h).2

theorem Vmcs.write_ok {v v' : Vmcs} {f : FieldId} {x : BitVec 64} (h : v.write f x = .ok v') :
    v.supported f = true ∧ v' = v.set f x := by
  unfold Vmcs.write at h
  split at h
  · rename_i hsup
    injection h with h
    exact ⟨hsup, h.symm⟩
  · cases h

theorem Vmcs.writeAll_cons {v v' : Vmcs} {w : FieldId × BitVec 64} {ws : List (FieldId × BitVec 64)}
    (h : v.writeAll (w :: ws) = .ok v') : (v.set w.1 w.2).writeAll ws = .ok v' := by
  unfold Vmcs.writeAll at h
  split at h
  · cases h
  · rename_i v1 hw
    rw [(Vmcs.write_ok hw).2] at h
    exact h

theorem Vmcs.writeAll_value {v v' : Vmcs} {ws : List (FieldId × BitVec 64)}
    (h : v.writeAll ws = .ok v') (f : FieldId) :
    v'.value f = ((lastWrite f ws).map (truncate f)).getD (v.value f) := by
  induction ws generalizing v with
  | nil =>
    injection h with h
    rw [← h]
    rfl
  | cons w ws ih =>
    rw [ih (Vmcs.writeAll_cons h), lastWrite]
    cases lastWrite f ws with
    | some x => rfl
    | none =>
      simp only [Vmcs.set, Option.none_or, Option.map_none, Option.getD_none]
      by_cases hf : f = w.1
      · rw [if_pos hf, if_pos hf.symm, hf]
        rfl
      · rw [if_neg hf, if_neg (Ne.symm hf)]
        rfl

theorem Vmcs.writeAll_supported {v v' : Vmcs} {ws : List (FieldId × BitVec 64)}
    (h : v.writeAll ws = .ok v') : v'.supported = v.supported := by
  induction ws generalizing v with
  | nil =>
    injection h with h
    rw [h]
  | cons w ws ih =>
    have hrest := ih (Vmcs.writeAll_cons h)
    rw [hrest]
    rfl

/-- The writes succeed if the processor has the fields. -/
theorem Vmcs.writeAll_isOk_iff {v : Vmcs} {ws : List (FieldId × BitVec 64)} :
    (∃ v', v.writeAll ws = .ok v') ↔ ∀ w ∈ ws, v.supported w.1 = true := by
  induction ws generalizing v with
  | nil => exact ⟨fun _ => nofun, fun _ => ⟨v, rfl⟩⟩
  | cons w ws ih =>
    rw [List.forall_mem_cons]
    by_cases hw : v.supported w.1 = true
    · have hwrite : v.write w.1 w.2 = .ok (v.set w.1 w.2) := by rw [Vmcs.write, if_pos hw]
      simp only [Vmcs.writeAll, hwrite]
      rw [ih]
      exact ⟨fun h => ⟨hw, h⟩, And.right⟩
    · refine iff_of_false ?_ fun h => hw h.1
      rintro ⟨v', h⟩
      simp only [Vmcs.writeAll, Vmcs.write, if_neg hw] at h
      cases h

theorem Vmcs.writeAll_isOk {v : Vmcs} (h : ∀ f, v.supported f = true) (ws : List (FieldId × BitVec 64)) :
    ∃ v', v.writeAll ws = .ok v' := writeAll_isOk_iff.mpr fun w _ => h w.1

/-! ## Setup -/

/-- The control words that the processor restricts. -/
inductive VmxControl where
  | pinBased
  | processorBased
  | processorBased2
  | vmExit
  | vmEntry
  deriving DecidableEq, Repr

/-- The host's model-specific registers. -/
abbrev Msrs := BitVec 32 → BitVec 64

def ia32VmxBasic : BitVec 32 := 0x480#32
def ia32VmxMisc : BitVec 32 := 0x485#32

/-- The capability MSR; the TRUE variant if the processor has it. -/
def capMsr : VmxControl → Bool → BitVec 32
  | .pinBased, true => 0x48D#32
  | .pinBased, false => 0x481#32
  | .processorBased, true => 0x48E#32
  | .processorBased, false => 0x482#32
  | .vmExit, true => 0x48F#32
  | .vmExit, false => 0x483#32
  | .vmEntry, true => 0x490#32
  | .vmEntry, false => 0x484#32
  | .processorBased2, _ => 0x48B#32

/-- `adjust_control`: bits 31:0 of the MSR must be one, bits 63:32 may be one. -/
def adjustControl (msrs : Msrs) (control : VmxControl) (requested : BitVec 64) : BitVec 64 :=
  let trueCtls := msrs ia32VmxBasic &&& (1#64 <<< 55) != 0#64
  let capabilities := msrs (capMsr control trueCtls)
  let allowed0 : BitVec 32 := capabilities.setWidth 32
  let allowed1 : BitVec 32 := (capabilities >>> 32).setWidth 32
  (((requested.setWidth 32) ||| allowed0) &&& allowed1).setWidth 64

def pinbasedRequest : BitVec 64 := (1#64 <<< 0) ||| (1#64 <<< 6)
def procbasedRequest : BitVec 64 := (1#64 <<< 31) ||| (1#64 <<< 24) ||| (1#64 <<< 21)
def secondaryRequest : BitVec 64 :=
  (1#64 <<< 1) ||| (1#64 <<< 3) ||| (1#64 <<< 12) ||| (1#64 <<< 20) ||| (1#64 <<< 0) ||| (1#64 <<< 8)
def entryRequest : BitVec 64 := (1#64 <<< 9) ||| (1#64 <<< 2)
def exitRequest : BitVec 64 := (1#64 <<< 9) ||| (1#64 <<< 2)

/-- `setup_controls`, as the writes that it makes. -/
def setupControls (msrs : Msrs) (eptp : BitVec 64) : List (FieldId × BitVec 64) :=
  [(Control.pinbasedExecControls, adjustControl msrs .pinBased pinbasedRequest),
    (Control.primaryProcbasedExecControls, adjustControl msrs .processorBased procbasedRequest),
    (Control.secondaryProcbasedExecControls, adjustControl msrs .processorBased2 secondaryRequest),
    (Control.vmentryControls, adjustControl msrs .vmEntry entryRequest),
    (Control.vmexitControls, adjustControl msrs .vmExit exitRequest),
    (Control.eptpFull, eptp),
    (Control.vmentryMsrLoadCount, 0#64),
    (Control.vmexitMsrLoadCount, 0#64),
    (Control.vmexitMsrStoreCount, 0#64),
    (Control.vmentryInterruptionInfoField, 0#64),
    (Control.cr3TargetCount, 0#64),
    (Control.exceptionBitmap, 0#64),
    (Control.pageFaultErrCodeMask, 0#64),
    (Control.pageFaultErrCodeMatch, 0#64),
    (Control.tprThreshold, 0#64)]

def setupApic (virtualApicHpa apicAccessHpa : BitVec 64) : List (FieldId × BitVec 64) :=
  [(Control.virtApicAddrFull, virtualApicHpa), (Control.apicAccessAddrFull, apicAccessHpa)]

/-- The host state that `setup_host` copies into the VMCS. -/
structure HostArea where
  cr0 : BitVec 64
  cr3 : BitVec 64
  cr4 : BitVec 64
  cs : BitVec 16
  ss : BitVec 16
  ds : BitVec 16
  es : BitVec 16
  fs : BitVec 16
  gs : BitVec 16
  tr : BitVec 16
  trBase : BitVec 64
  gdtBase : BitVec 64
  idtBase : BitVec 64

/-- A selector without its RPL and TI bits. -/
def hostSelector (s : BitVec 16) : BitVec 64 := (s &&& 0xFFF8#16).setWidth 64

def ia32FsBase : BitVec 32 := 0xC0000100#32
def ia32GsBase : BitVec 32 := 0xC0000101#32
def ia32Efer : BitVec 32 := 0xC0000080#32

/-- `setup_host`, as the writes that it makes. -/
def setupHost (msrs : Msrs) (h : HostArea) : List (FieldId × BitVec 64) :=
  [(Host.cr0, h.cr0), (Host.cr3, h.cr3), (Host.cr4, h.cr4),
    (Host.csSelector, hostSelector h.cs), (Host.ssSelector, hostSelector h.ss),
    (Host.dsSelector, hostSelector h.ds), (Host.esSelector, hostSelector h.es),
    (Host.fsSelector, hostSelector h.fs), (Host.gsSelector, hostSelector h.gs),
    (Host.trSelector, hostSelector h.tr),
    (Host.fsBase, msrs ia32FsBase), (Host.gsBase, msrs ia32GsBase), (Host.trBase, h.trBase),
    (Host.gdtrBase, h.gdtBase), (Host.idtrBase, h.idtBase),
    (Host.ia32SysenterCs, msrs 0x174#32), (Host.ia32SysenterEsp, msrs 0x175#32),
    (Host.ia32SysenterEip, msrs 0x176#32)]

def eferLme : BitVec 64 := 1#64 <<< 8
def eferLma : BitVec 64 := 1#64 <<< 10

/-- PE, ET, NE and PG. -/
def guestCr0 : BitVec 64 := (1#64 <<< 0) ||| (1#64 <<< 4) ||| (1#64 <<< 5) ||| (1#64 <<< 31)
/-- PAE and VMXE. -/
def guestCr4 : BitVec 64 := (1#64 <<< 5) ||| (1#64 <<< 13)
/-- CD and NW on top of the guest's CR0. -/
def cr0Mask : BitVec 64 := (1#64 <<< 30) ||| (1#64 <<< 29) ||| guestCr0

def kernelCode : BitVec 64 := 1#64 <<< 3
def kernelData : BitVec 64 := 2#64 <<< 3
def segLimit : BitVec 64 := 0xFFFFFFFF#64

/-- `setup_guest`, as the writes that it makes: 64-bit mode on the boot page tables, with flat segments. -/
def setupGuest (entryPoint rsp : BitVec 64) : List (FieldId × BitVec 64) :=
  [(Guest.csSelector, kernelCode), (Guest.ssSelector, kernelData), (Guest.dsSelector, kernelData),
    (Guest.esSelector, kernelData), (Guest.fsSelector, kernelData), (Guest.gsSelector, kernelData),
    (Guest.trSelector, 0#64), (Guest.ldtrSelector, 0#64),
    (Guest.csAccessRights, 0xA09B#64), (Guest.ssAccessRights, 0xC093#64), (Guest.dsAccessRights, 0xC093#64),
    (Guest.esAccessRights, 0xC093#64), (Guest.fsAccessRights, 0xC093#64), (Guest.gsAccessRights, 0xC093#64),
    (Guest.trAccessRights, 0x008B#64), (Guest.ldtrAccessRights, 1#64 <<< 16),
    (Guest.csBase, 0#64), (Guest.ssBase, 0#64), (Guest.dsBase, 0#64), (Guest.esBase, 0#64), (Guest.fsBase, 0#64),
    (Guest.gsBase, 0#64), (Guest.ldtrBase, 0#64), (Guest.trBase, 0#64),
    (Guest.csLimit, segLimit), (Guest.ssLimit, segLimit), (Guest.dsLimit, segLimit),
    (Guest.esLimit, segLimit), (Guest.fsLimit, segLimit), (Guest.gsLimit, segLimit),
    (Guest.trLimit, 0xFFFF#64), (Guest.ldtrLimit, 0xFFFF#64),
    (Guest.gdtrBase, BitVec.ofNat 64 Boot.gdtOffset), (Guest.gdtrLimit, 23#64),
    (Guest.idtrBase, 0#64), (Guest.idtrLimit, 0xFFFF#64),
    (Guest.cr0, guestCr0), (Guest.cr3, BitVec.ofNat 64 Boot.bootPml4), (Guest.cr4, guestCr4),
    (Guest.ia32EferFull, eferLme ||| eferLma),
    (Control.cr0GuestHostMask, cr0Mask), (Control.cr0ReadShadow, guestCr0),
    (Control.cr4GuestHostMask, guestCr4), (Control.cr4ReadShadow, guestCr4),
    (Guest.rip, entryPoint), (Guest.rsp, rsp), (Guest.rflags, 0x2#64), (Guest.dr7, 0x400#64),
    (Guest.ia32DebugctlFull, 0#64), (Guest.ia32SysenterCs, 0#64), (Guest.ia32SysenterEsp, 0#64),
    (Guest.ia32SysenterEip, 0#64), (Guest.activityState, 0#64), (Guest.interruptibilityState, 0#64),
    (Guest.pendingDbgExceptions, 0#64), (Guest.linkPtrFull, BitVec.allOnes 64)]

/-! ## What the processor does to a VMCS -/

/-- Guest-state fields and read-only data fields are written at a VM-exit. -/
def savedAtExit (f : FieldId) : Bool :=
  (f >>> 10) &&& 3#32 == 1#32 || (f >>> 10) &&& 3#32 == 2#32

/-- The guest's EFER is not saved (the exit controls do not ask for it), and the valid bit of the event
that was injected is cleared. Control and host fields keep their values. -/
def Vmcs.afterExit (v : Vmcs) (fields : FieldId → BitVec 64) : Vmcs :=
  { v with value := fun f =>
      if f = Control.vmentryInterruptionInfoField then v.value f &&& ~~~(1#64 <<< 31)
      else if savedAtExit f = true ∧ f ≠ Guest.ia32EferFull then fields f
      else v.value f }

end Rhyve.Vmx
