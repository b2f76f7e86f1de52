import Rhyve.Apic.TimerUnit
import Rhyve.Lib.Errors
import Rhyve.Vmx.Create

/-! # Up to the VM-entry

What a call of `run` does to the VMCS and to the timer before it enters the guest, as far as the timer unit is
concerned.

* `entryEvent`: what the entry loads.
* `enter_unit`: the timer unit allows this event, and the state behind the entry is its new one.
-/

namespace Rhyve.Vmx
open Apic Backend Errors VmxCpu
set_option autoImplicit false

def VmxCpu.timerUnit (c : VmxCpu) : TimerUnit := ⟨c.apicTimer, c.pendingVector⟩

/-- What a VM-entry in this state loads. Bits 1:0 of the interruptibility state are blocking by STI and by
MOV SS. -/
def entryEvent (c : VmxCpu) : TimerEvent :=
  .entered (c.vmcs.value Guest.rflags) (c.vmcs.value Guest.interruptibilityState &&& 0b11#64)
    (c.vmcs.value Control.vmentryInterruptionInfoField)

/-! ## Writes to the VMCS -/

section Set
variable {v : Vmcs} {f g : FieldId} {x : BitVec 64}

theorem Vmcs.set_same : (v.set f x).value f = truncate f x := by
  show (if f = f then truncate f x else v.value f) = _
  rw [if_pos rfl]

theorem Vmcs.set_other (h : g ≠ f) : (v.set f x).value g = v.value g := by
  show (if g = f then truncate f x else v.value g) = _
  rw [if_neg h]

end Set

section Steps
variable {c c' : VmxCpu}

theorem loadGuestRegisters_ok (h : c.loadGuestRegisters = .ok c') :
    ∃ vmcs, c' = { c with vmcs := vmcs } ∧ vmcs.value Guest.rflags = c.regs.rflags ∧
      ∀ f, f ∉ [Guest.rip, Guest.rsp, Guest.rflags] → vmcs.value f = c.vmcs.value f := by
  obtain ⟨vmcs, hvmcs, hc⟩ := bind_ok h
  injection hc with hc
  refine ⟨vmcs, hc.symm, Vmcs.writeAll_value hvmcs Guest.rflags, ?_⟩
  intro f hf
  simp only [List.mem_cons, List.not_mem_nil, or_false, not_or] at hf
  rw [Vmcs.writeAll_value hvmcs f]
  simp [lastWrite, Ne.symm hf.1, Ne.symm hf.2.1, Ne.symm hf.2.2]

/-- The primary controls with interrupt-window exiting on or off. -/
def windowControls (enable : Bool) (ctrls : BitVec 64) : BitVec 64 :=
  if enable then ctrls ||| interruptWindowExiting else ctrls &&& ~~~interruptWindowExiting

theorem setInterruptWindow_ok {enable : Bool} (h : c.setInterruptWindow enable = .ok c') :
    c' = { c with
      vmcs := c.vmcs.set Control.primaryProcbasedExecControls
        (windowControls enable (c.vmcs.value Control.primaryProcbasedExecControls)) } := by
  obtain ⟨ctrls, hctrls, h⟩ := bind_ok h
  obtain ⟨vmcs, hvmcs, hc⟩ := bind_ok h
  injection hc with hc
  rw [(Vmcs.write_ok hvmcs).2, Vmcs.read_eq hctrls] at hc
  exact hc.symm

theorem injectPending_ok (h : c.injectPending = .ok c') :
    (c.pendingVector = none ∧ c' = c) ∨
    (∃ vector, c.pendingVector = some vector ∧
      interruptible (c.vmcs.value Guest.rflags) (c.vmcs.value Guest.interruptibilityState) ∧
      c' = { c with
        pendingVector := none
        vmcs := (c.vmcs.set Control.vmentryInterruptionInfoField (eventInfo vector)).set
          Control.primaryProcbasedExecControls
          (windowControls false (c.vmcs.value Control.primaryProcbasedExecControls)) }) ∨
    (∃ vector, c.pendingVector = some vector ∧
      ¬ interruptible (c.vmcs.value Guest.rflags) (c.vmcs.value Guest.interruptibilityState) ∧
      c' = { c with
        vmcs := c.vmcs.set Control.primaryProcbasedExecControls
          (windowControls true (c.vmcs.value Control.primaryProcbasedExecControls)) }) := by
  unfold VmxCpu.injectPending at h
  split at h
  · rename_i hnone
    injection h with h
    exact .inl ⟨hnone, h.symm⟩
  · rename_i vector hvector
    obtain ⟨rflags, hrflags, h⟩ := bind_ok h
    obtain ⟨interruptibility, hint, h⟩ := bind_ok h
    rw [Vmcs.read_eq hrflags, Vmcs.read_eq hint] at h
    split at h
    · rename_i hcan
      obtain ⟨vmcs, hvmcs, h⟩ := bind_ok h
      have hc := setInterruptWindow_ok h
      dsimp only at hc
      rw [(Vmcs.write_ok hvmcs).2, Vmcs.set_other (by decide)] at hc
      exact .inr (.inl ⟨vector, hvector, hcan, hc⟩)
    · rename_i hcannot
      exact .inr (.inr ⟨vector, hvector, hcannot, setInterruptWindow_ok h⟩)

theorem armPreemptionTimer_ok {tsc : BitVec 64} (h : c.armPreemptionTimer tsc = .ok c') :
    c' = { c with
      vmcs := c.vmcs.set Guest.vmxPreemptionTimerValue
        (preemptionValue c.apicTimer.deadline tsc c.preemptScale) } := by
  obtain ⟨vmcs, hvmcs, hc⟩ := bind_ok h
  injection hc with hc
  rw [(Vmcs.write_ok hvmcs).2] at hc
  exact hc.symm

/-! ## Up to the VM-entry -/

theorem eventInfo_fields (vector : BitVec 8) :
    truncate Control.vmentryInterruptionInfoField (eventInfo vector) = eventInfo vector ∧
      isValid (eventInfo vector) = true ∧ vectorOf (eventInfo vector) = vector ∧
      typeOf (eventInfo vector) = 0#3 := by
  revert vector
  decide

theorem interruptible_bits {rflags interruptibility : BitVec 64}
    (h : interruptible rflags interruptibility) :
    rflags.getLsbD 9 = true ∧ interruptibility &&& 0b11#64 = 0#64 :=
  ⟨interrupt_flag h.1, h.2⟩

/-- The state at the VM-entry: the timer is untouched, and the event that is injected is one that the
timer unit allows. -/
structure Enters (c entered : VmxCpu) (tsc : BitVec 64) : Prop where
  apicTimer : entered.apicTimer = c.apicTimer
  preemptScale : entered.preemptScale = c.preemptScale
  allows : c.timerUnit.allows (entryEvent entered)
  after : entered.timerUnit = c.timerUnit.after (entryEvent entered)
  ticks : entered.vmcs.value Guest.vmxPreemptionTimerValue =
    truncate Guest.vmxPreemptionTimerValue (preemptionValue c.apicTimer.deadline tsc c.preemptScale)

/-- The VMCS at the VM-entry, after the last write before it. -/
def armed (c : VmxCpu) (vmcs : Vmcs) (tsc : BitVec 64) : Vmcs :=
  vmcs.set Guest.vmxPreemptionTimerValue (preemptionValue c.apicTimer.deadline tsc c.preemptScale)

theorem armed_other (c : VmxCpu) (vmcs : Vmcs) (tsc : BitVec 64) {f : FieldId}
    (h : f ≠ Guest.vmxPreemptionTimerValue) : (armed c vmcs tsc).value f = vmcs.value f :=
  Vmcs.set_other h

theorem enters_idle {vmcs : Vmcs} {tsc : BitVec 64}
    (hidle : isValid (vmcs.value Control.vmentryInterruptionInfoField) = false) :
    Enters c { c with vmcs := armed c vmcs tsc } tsc := by
  rw [← armed_other c vmcs tsc (by decide)] at hidle
  obtain ⟨hallows, hafter⟩ := c.timerUnit.entered_idle _ _ hidle
  exact ⟨rfl, rfl, hallows, hafter, Vmcs.set_same⟩

theorem enters_injecting {vmcs : Vmcs} {tsc : BitVec 64} {vector : BitVec 8}
    (hvector : c.pendingVector = some vector)
    (hinfo : vmcs.value Control.vmentryInterruptionInfoField = eventInfo vector)
    (hcan : interruptible (vmcs.value Guest.rflags) (vmcs.value Guest.interruptibilityState)) :
    Enters c { c with pendingVector := none, vmcs := armed c vmcs tsc } tsc := by
  obtain ⟨hif, hblock⟩ := interruptible_bits hcan
  obtain ⟨-, hvalid, hvec, htype⟩ := eventInfo_fields vector
  have hevent : entryEvent { c with pendingVector := none, vmcs := armed c vmcs tsc } =
      .entered (vmcs.value Guest.rflags) (vmcs.value Guest.interruptibilityState &&& 0b11#64)
        (eventInfo vector) := by
    simp only [entryEvent]
    rw [armed_other c vmcs tsc (by decide), armed_other c vmcs tsc (by decide),
      armed_other c vmcs tsc (by decide), hinfo]
  refine ⟨rfl, rfl, ?_, ?_, Vmcs.set_same⟩
  · rw [hevent]
    intro _
    rw [hvec]
    exact ⟨hvector, htype, hif, hblock⟩
  · rw [hevent]
    show _ = if isValid (eventInfo vector) then _ else _
    rw [hvalid]
    rfl

theorem enter_unit {tsc : BitVec 64} (h : c.enter tsc = .ok c')
    (hidle : isValid (c.vmcs.value Control.vmentryInterruptionInfoField) = false) :
    Enters c c' tsc := by
  obtain ⟨c1, h1, h⟩ := bind_ok h
  obtain ⟨c2, h2, h3⟩ := bind_ok h
  obtain ⟨vmcs, rfl, hrflags, hframe⟩ := loadGuestRegisters_ok h1
  have hinfo : vmcs.value Control.vmentryInterruptionInfoField =
      c.vmcs.value Control.vmentryInterruptionInfoField := hframe _ (by decide)
  rw [← hinfo] at hidle
  rw [armPreemptionTimer_ok h3]
  rcases injectPending_ok h2 with ⟨hnone, rfl⟩ | ⟨vector, hvector, hcan, rfl⟩ |
    ⟨vector, hvector, -, rfl⟩
  · exact enters_idle hidle
  · refine enters_injecting hvector ?_ ?_
    · rw [Vmcs.set_other (by decide), Vmcs.set_same]
      exact (eventInfo_fields vector).1
    · rw [Vmcs.set_other (by decide), Vmcs.set_other (by decide), Vmcs.set_other (by decide),
        Vmcs.set_other (by decide)]
      exact hcan
  · refine enters_idle ?_
    rw [Vmcs.set_other (by decide)]
    exact hidle

/-- The fields that are written before an entry. -/
def entryFields : List FieldId :=
  [Guest.rip, Guest.rsp, Guest.rflags, Control.vmentryInterruptionInfoField,
    Control.primaryProcbasedExecControls, Guest.vmxPreemptionTimerValue]

theorem enter_other {tsc : BitVec 64} (h : c.enter tsc = .ok c') {f : FieldId} (hf : f ∉ entryFields) :
    c'.vmcs.value f = c.vmcs.value f := by
  obtain ⟨c1, h1, h⟩ := bind_ok h
  obtain ⟨c2, h2, h3⟩ := bind_ok h
  obtain ⟨vmcs, rfl, -, hframe⟩ := loadGuestRegisters_ok h1
  simp only [entryFields, List.mem_cons, List.not_mem_nil, or_false, not_or] at hf
  obtain ⟨hrip, hrsp, hrflags, hinfo, hctrls, hticks⟩ := hf
  have hload : vmcs.value f = c.vmcs.value f := hframe f (by simp [hrip, hrsp, hrflags])
  rw [armPreemptionTimer_ok h3, Vmcs.set_other hticks]
  rcases injectPending_ok h2 with ⟨-, rfl⟩ | ⟨vector, -, -, rfl⟩ | ⟨vector, -, -, rfl⟩
  · exact hload
  · rw [Vmcs.set_other hctrls, Vmcs.set_other hinfo]
    exact hload
  · rw [Vmcs.set_other hctrls]
    exact hload

/-- The guest can take an interrupt in the state it is entered with. -/
def InterruptibleAt (entered : VmxCpu) : Prop :=
  interruptible (entered.vmcs.value Guest.rflags) (entered.vmcs.value Guest.interruptibilityState)

/-- The three ways an entry can go. -/
inductive Injection (c entered : VmxCpu) : Prop
  | nothing (hnone : c.pendingVector = none) (hpending : entered.pendingVector = none)
      (hctrls : entered.vmcs.value Control.primaryProcbasedExecControls =
        c.vmcs.value Control.primaryProcbasedExecControls)
      (hinfo : entered.vmcs.value Control.vmentryInterruptionInfoField =
        c.vmcs.value Control.vmentryInterruptionInfoField)
  | injected (vector : BitVec 8) (hvector : c.pendingVector = some vector) (hcan : InterruptibleAt entered)
      (hpending : entered.pendingVector = none)
      (hctrls : entered.vmcs.value Control.primaryProcbasedExecControls =
        truncate Control.primaryProcbasedExecControls
          (windowControls false (c.vmcs.value Control.primaryProcbasedExecControls)))
      (hinfo : entered.vmcs.value Control.vmentryInterruptionInfoField = eventInfo vector)
  | waiting (hcannot : ¬ InterruptibleAt entered) (hpending : entered.pendingVector.isSome)
      (hctrls : entered.vmcs.value Control.primaryProcbasedExecControls =
        truncate Control.primaryProcbasedExecControls
          (windowControls true (c.vmcs.value Control.primaryProcbasedExecControls)))
      (hinfo : entered.vmcs.value Control.vmentryInterruptionInfoField =
        c.vmcs.value Control.vmentryInterruptionInfoField)

theorem enter_injection {tsc : BitVec 64} (h : c.enter tsc = .ok c') : Injection c c' := by
  obtain ⟨c1, h1, h⟩ := bind_ok h
  obtain ⟨c2, h2, h3⟩ := bind_ok h
  obtain ⟨vmcs, rfl, -, hframe⟩ := loadGuestRegisters_ok h1
  have hctrls := hframe Control.primaryProcbasedExecControls (by decide)
  have hinfo := hframe Control.vmentryInterruptionInfoField (by decide)
  rw [armPreemptionTimer_ok h3]
  rcases injectPending_ok h2 with ⟨hnone, rfl⟩ | ⟨vector, hvector, hcan, rfl⟩ | ⟨vector, hvector, hcannot, rfl⟩
  · refine .nothing hnone hnone ?_ ?_
    · exact (Vmcs.set_other (by decide)).trans hctrls
    · exact (Vmcs.set_other (by decide)).trans hinfo
  · refine .injected vector hvector ?_ rfl ?_ ?_
    · unfold InterruptibleAt
      rw [Vmcs.set_other (by decide), Vmcs.set_other (by decide), Vmcs.set_other (by decide),
        Vmcs.set_other (by decide), Vmcs.set_other (by decide), Vmcs.set_other (by decide)]
      exact hcan
    · rw [← hctrls]
      exact (Vmcs.set_other (by decide)).trans Vmcs.set_same
    · rw [Vmcs.set_other (by decide), Vmcs.set_other (by decide), Vmcs.set_same]
      exact (eventInfo_fields vector).1
  · refine .waiting ?_ ?_ ?_ ?_
    · unfold InterruptibleAt
      rw [Vmcs.set_other (by decide), Vmcs.set_other (by decide), Vmcs.set_other (by decide),
        Vmcs.set_other (by decide)]
      exact hcannot
    · exact Option.isSome_iff_exists.mpr ⟨vector, hvector⟩
    · rw [← hctrls]
      exact (Vmcs.set_other (by decide)).trans Vmcs.set_same
    · rw [Vmcs.set_other (by decide), Vmcs.set_other (by decide)]
      exact hinfo

theorem enter_rflags {tsc : BitVec 64} (h : c.enter tsc = .ok c') :
    c'.vmcs.value Guest.rflags = c.regs.rflags := by
  obtain ⟨c1, h1, h⟩ := bind_ok h
  obtain ⟨c2, h2, h3⟩ := bind_ok h
  obtain ⟨vmcs, rfl, hrflags, -⟩ := loadGuestRegisters_ok h1
  rw [armPreemptionTimer_ok h3, Vmcs.set_other (by decide)]
  rcases injectPending_ok h2 with ⟨-, rfl⟩ | ⟨vector, -, -, rfl⟩ | ⟨vector, -, -, rfl⟩
  · exact hrflags
  · rw [Vmcs.set_other (by decide), Vmcs.set_other (by decide)]
    exact hrflags
  · rw [Vmcs.set_other (by decide)]
    exact hrflags

end Steps

end Rhyve.Vmx
