import Rhyve.Apic.TimerUnit
import Rhyve.Svm.Cpu

/-! # The AMD-V backend implements the timer unit

The counterpart of the VT-x module: `turn` is one call of `run` with the events it produces. Here the
deadline is polled before the entry, and the event-injection field is written at every entry.

* `enter_unit`: what happens up to the VMRUN; `dispatch_unit`: after the #VMEXIT.
* `turn_unit`: the events of a call are ones that the timer unit allows, and lead to its new state.
-/

namespace Rhyve.Svm
open Apic Backend Machine SvmCpu
set_option autoImplicit false

/-- One call of `run`: the registers as `Cpu::run` left them, and what the processor and the host do. -/
structure SvmTurn where
  regs : GuestRegisters
  input : SvmInput

def SvmCpu.timerUnit (c : SvmCpu) : TimerUnit := ⟨c.apicTimer, c.pendingVector⟩

/-- What a VMRUN in this state loads. The interrupt shadow stands for STI and MOV SS. -/
def entryEvent (c : SvmCpu) : TimerEvent :=
  .entered (c.vmcb.readU64 saveRflags) (c.vmcb.readU64 intState &&& 1#64) (c.vmcb.readU64 eventinj)

/-- Polling finds the deadline passed. -/
def pollEvents (timer : ApicTimer) (tsc : BitVec 64) : List TimerEvent :=
  match timer.deadline with
  | none => []
  | some deadline => if tsc < deadline then [] else [.expired tsc timer.vector timer.masked]

def isWrmsr (c : SvmCpu) : Prop :=
  c.vmcb.readU64 exitcodeField = ExitCode.msr ∧ c.vmcb.readU64 exitinfo1 &&& 1#64 ≠ 0#64

instance (c : SvmCpu) : Decidable (isWrmsr c) := inferInstanceAs (Decidable (_ ∧ _))

def exitEvents (c : SvmCpu) (tsc : BitVec 64) : List TimerEvent :=
  if isWrmsr c then [.wrote tsc c.regs.msrIndex c.regs.edxEax] else []

def exitState (c : SvmCpu) (i : SvmTurn) : SvmCpu :=
  ((SvmCpu.enter { c with regs := i.regs } i.input.entryTsc).exited i.input.exit).saveGuestRegisters

/-- A call of `run` with its events. The deadline is looked at before the entry. -/
def turn (c : SvmCpu) (i : SvmTurn) : Option SvmCpu × List TimerEvent :=
  let entered := SvmCpu.enter { c with regs := i.regs } i.input.entryTsc
  let events := pollEvents c.apicTimer i.input.entryTsc ++ [entryEvent entered]
  match SvmCpu.run { c with regs := i.regs } i.input with
  | .error _ => (none, events)
  | .ok r => (some r.cpu, events ++ exitEvents (exitState c i) i.input.env.tsc)

/-! ## Up to the VMRUN -/

section Enter
variable (c : SvmCpu)

theorem loadGuestRegisters_rflags : c.loadGuestRegisters.vmcb.readU64 saveRflags = c.regs.rflags :=
  Vmcb.readU64_stores rfl

theorem serviceTimer_unit (tsc : BitVec 64) :
    (c.serviceTimer tsc).timerUnit = (pollEvents c.apicTimer tsc).foldl TimerUnit.after c.timerUnit ∧
      (c.serviceTimer tsc).vmcb = c.vmcb ∧ (c.serviceTimer tsc).regs = c.regs := by
  unfold SvmCpu.serviceTimer pollEvents
  cases hd : c.apicTimer.deadline with
  | none => exact ⟨rfl, rfl, rfl⟩
  | some deadline =>
    by_cases hlt : tsc < deadline
    · simp only [if_pos hlt]
      exact ⟨rfl, trivial, trivial⟩
    · simp only [if_neg hlt]
      refine ⟨?_, trivial, trivial⟩
      show _ = c.timerUnit.expire
      rw [TimerUnit.expire_some (u := c.timerUnit) hd]
      rfl

theorem pollEvents_legal (u : TimerUnit) (tsc : BitVec 64) :
    Legal TimerUnit.after TimerUnit.allows u (pollEvents u.timer tsc) := by
  unfold pollEvents
  split
  · exact .nil
  · rename_i deadline hd
    split
    · exact .nil
    · refine legal_singleton ⟨?_, rfl, rfl⟩
      rw [hd]
      rfl

theorem eventInfo_fields (vector : BitVec 8) :
    isValid (eventInfo vector) = true ∧ vectorOf (eventInfo vector) = vector ∧
      typeOf (eventInfo vector) = 0#3 := by
  revert vector
  decide

theorem injectPending_idle : (c.write eventinj 0#64).timerUnit = c.timerUnit ∧
    c.timerUnit.allows (entryEvent (c.write eventinj 0#64)) ∧
    c.timerUnit = c.timerUnit.after (entryEvent (c.write eventinj 0#64)) := by
  have hinfo : isValid ((c.write eventinj 0#64).vmcb.readU64 eventinj) = false := by
    show isValid (((writeU64 eventinj 0#64).apply c.vmcb).readU64 eventinj) = false
    rw [Vmcb.readU64_writeU64]
    rfl
  exact ⟨rfl, c.timerUnit.entered_idle _ _ hinfo⟩

/-- RFLAGS in the VMCB are those of the register block. -/
theorem injectPending_unit (hrflags : c.vmcb.readU64 saveRflags = c.regs.rflags) :
    c.timerUnit.allows (entryEvent c.injectPending) ∧
      c.injectPending.timerUnit = c.timerUnit.after (entryEvent c.injectPending) := by
  obtain ⟨hunit, hallows, hafter⟩ := injectPending_idle c
  unfold SvmCpu.injectPending
  split
  · rename_i vector hvector
    split
    · rename_i hcan
      obtain ⟨hvalid, hvec, htype⟩ := eventInfo_fields vector
      have hevent : entryEvent { c.write eventinj (eventInfo vector) with pendingVector := none } =
          .entered c.regs.rflags (c.vmcb.readU64 intState &&& 1#64) (eventInfo vector) := by
        simp only [entryEvent, SvmCpu.write]
        rw [Vmcb.readU64_writeU64_other _ (by decide), Vmcb.readU64_writeU64_other _ (by decide),
          Vmcb.readU64_writeU64, hrflags]
      rw [hevent]
      refine ⟨?_, ?_⟩
      · intro _
        rw [hvec]
        exact ⟨hvector, htype, interrupt_flag hcan.1, hcan.2⟩
      · show _ = if isValid (eventInfo vector) then _ else _
        rw [hvalid]
        rfl
    · exact ⟨hallows, hunit.trans hafter⟩
  · exact ⟨hallows, hunit.trans hafter⟩

theorem enter_unit (tsc : BitVec 64) :
    Legal TimerUnit.after TimerUnit.allows c.timerUnit
        (pollEvents c.apicTimer tsc ++ [entryEvent (c.enter tsc)]) ∧
      (c.enter tsc).timerUnit =
        (pollEvents c.apicTimer tsc ++ [entryEvent (c.enter tsc)]).foldl TimerUnit.after c.timerUnit := by
  obtain ⟨hunit, hvmcb, hregs⟩ := serviceTimer_unit c.loadGuestRegisters tsc
  have hrflags : (c.loadGuestRegisters.serviceTimer tsc).vmcb.readU64 saveRflags =
      (c.loadGuestRegisters.serviceTimer tsc).regs.rflags := by
    rw [hvmcb, hregs]
    exact loadGuestRegisters_rflags c
  obtain ⟨hallows, hafter⟩ := injectPending_unit _ hrflags
  rw [hunit] at hallows hafter
  refine ⟨(pollEvents_legal c.timerUnit tsc).append (legal_singleton hallows), ?_⟩
  rw [List.foldl_append]
  exact hafter

end Enter

/-! ## What the entry leaves alone -/

section Frame
variable {o : ℕ}

/-- The slots that are written before an entry. -/
def entrySlots : List ℕ := [saveRax, saveRip, saveRsp, saveRflags, eventinj]

theorem loadGuestRegisters_other (c : SvmCpu)
    (h : ∀ s ∈ [saveRax, saveRip, saveRsp, saveRflags], s + 8 ≤ o ∨ o + 8 ≤ s) :
    c.loadGuestRegisters.vmcb.readU64 o = c.vmcb.readU64 o := by
  apply Vmcb.Agree.readU64
  apply Vmcb.stores_agree
  simp only [List.forall_mem_cons, List.not_mem_nil, false_implies, implies_true, and_true] at h ⊢
  exact h

theorem injectPending_other (c : SvmCpu) (h : eventinj + 8 ≤ o ∨ o + 8 ≤ eventinj) :
    c.injectPending.vmcb.readU64 o = c.vmcb.readU64 o := by
  unfold SvmCpu.injectPending
  split
  · split
    · exact Vmcb.readU64_writeU64_other _ h
    · exact Vmcb.readU64_writeU64_other _ h
  · exact Vmcb.readU64_writeU64_other _ h

theorem enter_other (c : SvmCpu) (tsc : BitVec 64) (h : ∀ s ∈ entrySlots, s + 8 ≤ o ∨ o + 8 ≤ s) :
    (c.enter tsc).vmcb.readU64 o = c.vmcb.readU64 o := by
  have hload := loadGuestRegisters_other (o := o) c fun s hs => h s (List.mem_append_left [eventinj] hs)
  rw [← hload, ← (serviceTimer_unit c.loadGuestRegisters tsc).2.1]
  exact injectPending_other _ (h eventinj (by decide))

end Frame

/-! ## After the #VMEXIT -/

section Exit
variable {c : SvmCpu} {env : HostEnv}

theorem writeMsr_unit (c : SvmCpu) (tsc : BitVec 64) (index : BitVec 32) (value : BitVec 64) :
    (c.writeMsr tsc index value).timerUnit = c.timerUnit.after (.wrote tsc index value) := by
  unfold SvmCpu.writeMsr
  split
  · rename_i hindex
    rw [TimerUnit.after_wrote_other (by rw [hindex]; decide)]
    rfl
  split
  · rename_i hindex
    rw [TimerUnit.after_wrote_other (by rw [hindex]; decide)]
    rfl
  split
  · rename_i hindex
    rw [TimerUnit.after_wrote_other (by rw [hindex]; decide)]
    rfl
  split
  · rfl
  · rename_i hindex
    rw [TimerUnit.after_wrote_other (by simpa using hindex)]

theorem handle_unit {r : Handled SvmCpu} (h : c.handle env (c.vmcb.readU64 exitcodeField) = .ok r) :
    r.cpu.timerUnit = (exitEvents c env.tsc).foldl TimerUnit.after c.timerUnit := by
  rcases handle_ok h with ⟨hmsr, hwrite, hr⟩ | ⟨hno, regs, hr⟩
  · rw [hr, exitEvents, if_pos ⟨hmsr, hwrite⟩]
    exact writeMsr_unit c env.tsc c.regs.msrIndex c.regs.edxEax
  · have hno' : ¬ isWrmsr c := hno
    rw [hr, exitEvents, if_neg hno']
    rfl

theorem exitEvents_legal (u : TimerUnit) (c : SvmCpu) (tsc : BitVec 64) :
    Legal TimerUnit.after TimerUnit.allows u (exitEvents c tsc) := by
  unfold exitEvents
  split
  · exact legal_singleton trivial
  · exact .nil

/-- The events of a call up to the VMRUN. -/
def eventsBefore (c : SvmCpu) (i : SvmTurn) : List TimerEvent :=
  pollEvents c.apicTimer i.input.entryTsc ++
    [entryEvent (SvmCpu.enter { c with regs := i.regs } i.input.entryTsc)]

theorem turn_error {c : SvmCpu} {i : SvmTurn} {e : HypervisorError}
    (h : SvmCpu.run { c with regs := i.regs } i.input = .error e) : turn c i = (none, eventsBefore c i) := by
  unfold turn
  rw [h]
  rfl

theorem turn_ok {c : SvmCpu} {i : SvmTurn} {r : Handled SvmCpu}
    (h : SvmCpu.run { c with regs := i.regs } i.input = .ok r) :
    turn c i = (some r.cpu, eventsBefore c i ++ exitEvents (exitState c i) i.input.env.tsc) := by
  unfold turn
  rw [h]
  rfl

theorem eventsBefore_unit (c : SvmCpu) (i : SvmTurn) :
    (exitState c i).timerUnit = (eventsBefore c i).foldl TimerUnit.after c.timerUnit :=
  (enter_unit { c with regs := i.regs } i.input.entryTsc).2

theorem turn_unit (c : SvmCpu) (i : SvmTurn) :
    Legal TimerUnit.after TimerUnit.allows c.timerUnit (turn c i).2 ∧
      ∀ c', (turn c i).1 = some c' →
        c'.timerUnit = (turn c i).2.foldl TimerUnit.after c.timerUnit := by
  have hlegal : Legal TimerUnit.after TimerUnit.allows c.timerUnit (eventsBefore c i) :=
    (enter_unit { c with regs := i.regs } i.input.entryTsc).1
  have hunit := eventsBefore_unit c i
  cases hrun : SvmCpu.run { c with regs := i.regs } i.input with
  | error e =>
    rw [turn_error hrun]
    refine ⟨hlegal, ?_⟩
    intro c' hc
    cases hc
  | ok r =>
    have hhandle : (exitState c i).handle i.input.env ((exitState c i).vmcb.readU64 exitcodeField) =
        .ok r := hrun
    rw [turn_ok hrun]
    refine ⟨hlegal.append (exitEvents_legal _ _ _), ?_⟩
    intro c' hc
    have hcpu : r.cpu = c' := Option.some.inj hc
    rw [← hcpu, handle_unit hhandle, hunit, List.foldl_append]

end Exit

end Rhyve.Svm
