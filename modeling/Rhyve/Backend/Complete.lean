import Rhyve.Backend.Shadow

/-! # Calls that return

On a processor that has all VMCS fields, a call that gets to its exit emulates an MSR access without an error.

* `Complete`: all fields are there. Every part of a call keeps it, and returns.
* `run_returns`, `turn_returns`: a whole call.
-/

namespace Rhyve.Backend
open Apic Errors Machine Vmx Svm
set_option autoImplicit false

section Vmx
variable {c c' : VmxCpu}

def Complete (c : VmxCpu) : Prop := ∀ f, c.vmcs.supported f = true

theorem write_returns {v : Vmcs} {f : FieldId} (h : v.supported f = true) (value : BitVec 64) :
    v.write f value = .ok (v.set f value) := by
  rw [Vmcs.write, if_pos h]

theorem setInterruptWindow_returns (h : Complete c) (enable : Bool) :
    ∃ c', c.setInterruptWindow enable = .ok c' ∧ Complete c' := by
  unfold VmxCpu.setInterruptWindow
  rw [Vmcs.read_ok (h _), ok_bind]
  simp only [write_returns (h _)]
  exact ⟨_, rfl, h⟩

theorem injectPending_returns (h : Complete c) : ∃ c', c.injectPending = .ok c' ∧ Complete c' := by
  unfold VmxCpu.injectPending
  cases hp : c.pendingVector with
  | none => exact ⟨c, rfl, h⟩
  | some vector =>
    simp only
    rw [Vmcs.read_ok (h _), ok_bind, Vmcs.read_ok (h _), ok_bind]
    split
    · rw [write_returns (h _), ok_bind]
      exact setInterruptWindow_returns
        (c := { c with vmcs := c.vmcs.set Control.vmentryInterruptionInfoField (VmxCpu.eventInfo vector),
                       pendingVector := none }) h false
    · exact setInterruptWindow_returns h true

theorem enter_returns (h : Complete c) (tsc : BitVec 64) : ∃ entered, c.enter tsc = .ok entered ∧ Complete entered := by
  unfold VmxCpu.enter
  obtain ⟨vmcs, hvmcs⟩ := Vmcs.writeAll_isOk (v := c.vmcs) h
    [(Guest.rip, c.regs.rip), (Guest.rsp, c.regs.rsp), (Guest.rflags, c.regs.rflags)]
  have hload : c.loadGuestRegisters = .ok { c with vmcs := vmcs } := by
    rw [VmxCpu.loadGuestRegisters, hvmcs]
    rfl
  have hall : Complete { c with vmcs := vmcs } := by
    intro f
    rw [Vmcs.writeAll_supported hvmcs]
    exact h f
  obtain ⟨c2, hinject, h2⟩ := injectPending_returns hall
  rw [hload, ok_bind, hinject, ok_bind, VmxCpu.armPreemptionTimer, write_returns (h2 _)]
  exact ⟨_, rfl, h2⟩

theorem skip_returns (h : Complete c) : ∃ c', c.skip = .ok c' ∧ Complete c' := by
  unfold VmxCpu.skip
  rw [Vmcs.read_ok (h _)]
  exact ⟨_, rfl, h⟩

theorem writeMsr_returns (h : Complete c) (tsc : BitVec 64) (index : BitVec 32) (value : BitVec 64) :
    ∃ c', c.writeMsr tsc index value = .ok c' ∧ Complete c' := by
  have hfield : ∀ f, ∃ c', c.writeField f value = .ok c' ∧ Complete c' := by
    intro f
    rw [VmxCpu.writeField, write_returns (h f)]
    exact ⟨_, rfl, h⟩
  unfold VmxCpu.writeMsr
  split
  · exact hfield _
  split
  · exact hfield _
  split
  · exact hfield _
  split
  · exact ⟨_, rfl, h⟩
  · exact ⟨c, rfl, h⟩

theorem readMsr_returns (h : Complete c) (index : BitVec 32) : ∃ value, c.readMsr index = .ok value := by
  unfold VmxCpu.readMsr
  split
  · exact ⟨_, Vmcs.read_ok (h _)⟩
  split
  · exact ⟨_, Vmcs.read_ok (h _)⟩
  split
  · exact ⟨_, Vmcs.read_ok (h _)⟩
  split <;> exact ⟨_, rfl⟩

theorem handle_returns (h : Complete c) (env : HostEnv) {basic : VmxBasicExitReason}
    (hmsr : basic = .rdmsr ∨ basic = .wrmsr) : ∃ r, c.handle env basic = .ok r ∧ Complete r.cpu := by
  rcases hmsr with rfl | rfl
  · obtain ⟨value, hread⟩ := readMsr_returns h c.regs.msrIndex
    obtain ⟨c', hskip, hc'⟩ := skip_returns (c := { c with regs := c.regs.setEdxEax value }) h
    simp only [VmxCpu.handle]
    rw [hread, ok_bind, hskip]
    exact ⟨_, rfl, hc'⟩
  · obtain ⟨c1, hwrite, h1⟩ := writeMsr_returns h env.tsc c.regs.msrIndex c.regs.edxEax
    obtain ⟨c', hskip, hc'⟩ := skip_returns h1
    simp only [VmxCpu.handle]
    rw [hwrite, ok_bind, hskip]
    exact ⟨_, rfl, hc'⟩

/-- The call gets to a VM-exit by RDMSR or WRMSR. -/
structure VmxAccess (i : VmxTurn) : Prop where
  activated : i.input.activated = true
  entered : i.input.entryFailed = false
  exit : i.input.exit.basic = some .rdmsr ∨ i.input.exit.basic = some .wrmsr

theorem saveGuestRegisters_returns (h : Complete c) :
    ∃ regs, c.saveGuestRegisters = .ok { c with regs := regs } :=
  ⟨_, saveGuestRegisters_iff.mpr ⟨⟨h _, h _, h _⟩, rfl⟩⟩

theorem run_returns (h : Complete c) {i : VmxTurn} (hi : VmxAccess i) :
    ∃ r, VmxCpu.run { c with regs := i.regs } i.input = .ok r ∧ Complete r.cpu := by
  obtain ⟨entered, henter, hent⟩ := enter_returns (c := { c with regs := i.regs }) h i.input.entryTsc
  obtain ⟨basic, hbasic, hmsr⟩ : ∃ basic, i.input.exit.basic = some basic ∧ (basic = .rdmsr ∨ basic = .wrmsr) := by
    rcases hi.exit with h | h
    · exact ⟨_, h, .inl rfl⟩
    · exact ⟨_, h, .inr rfl⟩
  have hexited : Complete (entered.exited i.input.exit) := hent
  have hreason : (entered.exited i.input.exit).vmcs.value Ro.exitReason = i.input.exit.fields Ro.exitReason :=
    afterExit_value (by decide) (by decide)
  obtain ⟨regs, hsave⟩ := saveGuestRegisters_returns hexited
  obtain ⟨r, hhandle, hr⟩ := handle_returns (c := { entered.exited i.input.exit with regs := regs }) hexited
    i.input.env hmsr
  refine ⟨r, ?_, hr⟩
  unfold VmxCpu.run VmxCpu.dispatch
  rw [hi.activated, if_neg Bool.true_eq_false.mp, henter, ok_bind, hi.entered, if_neg Bool.false_ne_true, hsave,
    ok_bind, Vmcs.read_ok (hexited _), ok_bind, hreason]
  rw [VmxCpu.VmxExit.basic] at hbasic
  simp only [hbasic]
  exact hhandle

theorem turn_returns (h : Complete c) {i : VmxTurn} (hi : VmxAccess i) :
    ∃ c', (Vmx.turn c i).1 = some c' ∧ Complete c' := by
  obtain ⟨r, hrun, hr⟩ := run_returns h hi
  obtain ⟨entered, henter, -⟩ := enter_returns (c := { c with regs := i.regs }) h i.input.entryTsc
  refine ⟨r.cpu, ?_, hr⟩
  unfold Vmx.turn
  dsimp only
  rw [hi.activated, if_neg Bool.true_eq_false.mp, henter, hrun]

end Vmx

end Rhyve.Backend
