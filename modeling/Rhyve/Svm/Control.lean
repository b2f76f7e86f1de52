import Rhyve.Svm.Turn

/-! # The control area of the VMCB

The intercepts, the permission maps, the ASID and nested paging are what keeps the guest inside. The
hypervisor writes to the same page on every entry and on every emulated WRMSR, with values that the guest
chose.

* `Intact`: the fields hold what `setup_control` wrote, and EFER has SVME set.
* `Framed`: a change of the VMCB that keeps all of them; one rule for every store of the code, and one for
  the processor.
* `control_area_intact`: every VMCB of every run is intact.
-/

namespace Rhyve.Svm
open ByteMem Machine SvmCpu
set_option autoImplicit false

/-- The controls are those that `setup_control` wrote. -/
structure Intact (ncr3 iopmPa msrpmPa : BitVec 64) (m : Vmcb) : Prop where
  instr1 : load32 m interceptInstr1 = instr1Word
  instr2 : load32 m interceptInstr2 = instr2Word
  iopm : m.readU64 iopmBasePa = iopmPa
  msrpm : m.readU64 msrpmBasePa = msrpmPa
  asid : m.readU64 guestAsid = asidWord
  paging : m.readU64 npEnable = 1#64
  root : m.readU64 nCr3 = ncr3
  svme : m.readU64 saveEfer &&& eferSvme = eferSvme

/-! ## Frames -/

def controlFields : List (ℕ × ℕ) :=
  [(interceptInstr1, 4), (interceptInstr2, 4), (iopmBasePa, 8), (msrpmBasePa, 8), (guestAsid, 8),
    (npEnable, 8), (nCr3, 8)]

theorem controlFields_kept : ∀ f ∈ controlFields, f ∈ keptFields := by decide

/-- The step changes none of them, and does not clear SVME. -/
structure Framed (m m' : Vmcb) : Prop where
  control : ∀ f ∈ controlFields, Vmcb.Agree m' m f.1 f.2
  svme : m.readU64 saveEfer &&& eferSvme = eferSvme → m'.readU64 saveEfer &&& eferSvme = eferSvme

/-- The `w` bytes from `o` on belong to no kept field. -/
def Clear (o w : ℕ) : Prop := ∀ f ∈ keptFields, o + w ≤ f.1 ∨ f.1 + f.2 ≤ o

instance (o w : ℕ) : Decidable (Clear o w) :=
  inferInstanceAs (Decidable (∀ f ∈ keptFields, o + w ≤ f.1 ∨ f.1 + f.2 ≤ o))

section Framed
variable {m m' m'' : Vmcb}

theorem Framed.refl (m : Vmcb) : Framed m m := ⟨fun _ _ _ _ _ => rfl, fun h => h⟩

theorem Framed.trans (h : Framed m m') (h' : Framed m' m'') : Framed m m'' := by
  refine ⟨?_, fun hs => h'.svme (h.svme hs)⟩
  intro f hf
  exact (h'.control f hf).trans (h.control f hf)

theorem Framed.intact (h : Framed m m') {ncr3 iopmPa msrpmPa : BitVec 64}
    (hm : Intact ncr3 iopmPa msrpmPa m) : Intact ncr3 iopmPa msrpmPa m' where
  instr1 := (h.control (interceptInstr1, 4) (by decide)).load32.trans hm.instr1
  instr2 := (h.control (interceptInstr2, 4) (by decide)).load32.trans hm.instr2
  iopm := (h.control (iopmBasePa, 8) (by decide)).readU64.trans hm.iopm
  msrpm := (h.control (msrpmBasePa, 8) (by decide)).readU64.trans hm.msrpm
  asid := (h.control (guestAsid, 8) (by decide)).readU64.trans hm.asid
  paging := (h.control (npEnable, 8) (by decide)).readU64.trans hm.paging
  root := (h.control (nCr3, 8) (by decide)).readU64.trans hm.root
  svme := h.svme hm.svme

theorem framed_of_agree (h : ∀ f ∈ keptFields, Vmcb.Agree m' m f.1 f.2) : Framed m m' := by
  refine ⟨fun f hf => h f (controlFields_kept f hf), ?_⟩
  intro hs
  have hefer := (h (saveEfer, 8) (by decide)).readU64
  rw [hefer]
  exact hs

theorem framed_stores {ss : List Store} (h : ∀ s ∈ ss, Clear s.offset s.width) :
    Framed m (m.stores ss) := by
  apply framed_of_agree
  intro f hf
  exact Vmcb.stores_agree fun s hs => h s hs f hf

theorem framed_writeU64 {o : ℕ} (v : BitVec 64) (h : Clear o 8) : Framed m ((writeU64 o v).apply m) := by
  apply framed_of_agree
  intro f hf
  exact Vmcb.apply_agree (h f hf)

/-- EFER is written with SVME set. -/
theorem framed_writeEfer (v : BitVec 64) : Framed m ((writeU64 saveEfer (v ||| eferSvme)).apply m) := by
  refine ⟨?_, ?_⟩
  · intro f hf
    apply Vmcb.apply_agree
    show saveEfer + 8 ≤ f.1 ∨ f.1 + f.2 ≤ saveEfer
    revert f
    decide
  · intro _
    rw [Vmcb.readU64_writeU64]
    ext i
    simp only [BitVec.getElem_and, BitVec.getElem_or]
    cases eferSvme[i] <;> simp

theorem framed_afterExit (saved : Vmcb) : Framed m (m.afterExit saved) :=
  framed_of_agree fun _ hf => Vmcb.afterExit_kept hf

end Framed

/-! ## One call of `run` -/

section Call
variable (c : SvmCpu)

theorem loadGuestRegisters_framed : Framed c.vmcb c.loadGuestRegisters.vmcb := by
  apply framed_stores
  simp only [List.forall_mem_cons, List.not_mem_nil, false_implies, implies_true, and_true]
  exact ⟨(by decide : Clear saveRax 8), (by decide : Clear saveRip 8), (by decide : Clear saveRsp 8),
    (by decide : Clear saveRflags 8)⟩

/-- The event-injection field ends where the nested CR3 starts. -/
theorem injectPending_framed : Framed c.vmcb c.injectPending.vmcb := by
  have heventinj : Clear eventinj 8 := by decide
  unfold SvmCpu.injectPending
  split
  · split
    · exact framed_writeU64 _ heventinj
    · exact framed_writeU64 _ heventinj
  · exact framed_writeU64 _ heventinj

theorem enter_framed (tsc : BitVec 64) : Framed c.vmcb (c.enter tsc).vmcb := by
  have hservice : (c.loadGuestRegisters.serviceTimer tsc).vmcb = c.loadGuestRegisters.vmcb :=
    (serviceTimer_unit c.loadGuestRegisters tsc).2.1
  have hinject := injectPending_framed (c.loadGuestRegisters.serviceTimer tsc)
  rw [hservice] at hinject
  exact (loadGuestRegisters_framed c).trans hinject

theorem writeMsr_framed (tsc : BitVec 64) (index : BitVec 32) (value : BitVec 64) :
    Framed c.vmcb (c.writeMsr tsc index value).vmcb := by
  unfold SvmCpu.writeMsr
  split
  · exact framed_writeU64 value (by decide)
  · split
    · exact framed_writeU64 value (by decide)
    · split
      · exact framed_writeEfer value
      · split
        · exact Framed.refl _
        · exact Framed.refl _

theorem saveGuestRegisters_vmcb : c.saveGuestRegisters.vmcb = c.vmcb := by
  unfold SvmCpu.saveGuestRegisters
  rfl

theorem handle_framed {env : Backend.HostEnv} {exitcode : BitVec 64} {r : Backend.Handled SvmCpu}
    (h : c.handle env exitcode = .ok r) : Framed c.vmcb r.cpu.vmcb := by
  rcases handle_ok h with ⟨-, -, hr⟩ | ⟨-, regs, hr⟩
  · rw [hr]
    exact writeMsr_framed c env.tsc c.regs.msrIndex c.regs.edxEax
  · rw [hr]
    exact Framed.refl c.vmcb

theorem dispatch_framed {env : Backend.HostEnv} {r : Backend.Handled SvmCpu}
    (h : c.dispatch env = .ok r) : Framed c.vmcb r.cpu.vmcb := by
  have hframe := handle_framed c.saveGuestRegisters h
  rw [saveGuestRegisters_vmcb] at hframe
  exact hframe

theorem afterRun_framed (x : SvmInput) :
    Framed ((c.enter x.entryTsc).exited x.exit).vmcb (c.afterRun x).vmcb := by
  unfold SvmCpu.afterRun
  generalize hrun : c.run x = result
  cases result with
  | error e => exact Framed.refl ((c.enter x.entryTsc).exited x.exit).vmcb
  | ok r => exact dispatch_framed ((c.enter x.entryTsc).exited x.exit) hrun

end Call

/-! ## Whole runs -/

/-- One call of `run`, with the registers that the caller left there; it goes on after an error. The outputs
are the VMCBs on the way. -/
def call (c : SvmCpu) (i : SvmTurn) : Option SvmCpu × List Vmcb :=
  let c := { c with regs := i.regs }
  let entered := c.enter i.input.entryTsc
  let after := c.afterRun i.input
  (some after, [c.loadGuestRegisters.vmcb, entered.vmcb, (entered.exited i.input.exit).vmcb, after.vmcb])

section Run
variable {ncr3 iopmPa msrpmPa : BitVec 64}

theorem call_intact {c : SvmCpu} (h : Intact ncr3 iopmPa msrpmPa c.vmcb) (i : SvmTurn) :
    (∀ m ∈ (call c i).2, Intact ncr3 iopmPa msrpmPa m) ∧
      Intact ncr3 iopmPa msrpmPa (SvmCpu.afterRun { c with regs := i.regs } i.input).vmcb := by
  have hload := (loadGuestRegisters_framed { c with regs := i.regs }).intact h
  have henter := (enter_framed { c with regs := i.regs } i.input.entryTsc).intact h
  have hexit := (framed_afterExit i.input.exit.vmcb).intact henter
  have hafter := (afterRun_framed { c with regs := i.regs } i.input).intact hexit
  refine ⟨?_, hafter⟩
  simp only [call, List.forall_mem_cons, List.not_mem_nil, false_implies, implies_true, and_true]
  exact ⟨hload, henter, hexit, hafter⟩

/-- The VMCBs that a run goes through. -/
def visited (c : SvmCpu) (is : List SvmTurn) : List Vmcb := c.vmcb :: (Machine.run call c is).2

theorem run_intact {c : SvmCpu} (h : Intact ncr3 iopmPa msrpmPa c.vmcb) (is : List SvmTurn) :
    (∀ m ∈ visited c is, Intact ncr3 iopmPa msrpmPa m) ∧
      ∀ c', (Machine.run call c is).1 = some c' → Intact ncr3 iopmPa msrpmPa c'.vmcb := by
  have hstep : ∀ (c : SvmCpu) (log : List Vmcb) (i : SvmTurn),
      Intact ncr3 iopmPa msrpmPa c.vmcb ∧ (∀ m ∈ log, Intact ncr3 iopmPa msrpmPa m) → True →
      (∀ m ∈ log ++ (call c i).2, Intact ncr3 iopmPa msrpmPa m) ∧
        ∀ c', (call c i).1 = some c' → Intact ncr3 iopmPa msrpmPa c'.vmcb ∧
          ∀ m ∈ log ++ (call c i).2, Intact ncr3 iopmPa msrpmPa m := by
    intro c log i hinv _
    obtain ⟨hout, hafter⟩ := call_intact hinv.1 i
    have hlog := List.forall_mem_append.mpr ⟨hinv.2, hout⟩
    refine ⟨hlog, ?_⟩
    intro c' hc
    rw [← Option.some.inj hc]
    exact ⟨hafter, hlog⟩
  have hfirst := List.forall_mem_singleton.mpr h
  obtain ⟨hlog, hfinal⟩ := run_log
    (fun (c : SvmCpu) log => Intact ncr3 iopmPa msrpmPa c.vmcb ∧ ∀ m ∈ log, Intact ncr3 iopmPa msrpmPa m)
    (fun log => ∀ m ∈ log, Intact ncr3 iopmPa msrpmPa m) hstep _ ⟨h, hfirst⟩ hfirst (along_true _ is)
  exact ⟨hlog, fun c' hc => (hfinal c' hc).1⟩

theorem new_intact (ncr3 iopmPa msrpmPa cpuId entryPoint guestRsp : BitVec 64) :
    Intact ncr3 iopmPa msrpmPa (SvmCpu.new ncr3 iopmPa msrpmPa cpuId entryPoint guestRsp).vmcb := by
  have happend : ∀ (m : Vmcb) (ss ts : List Store), (m.stores ss).stores ts = m.stores (ss ++ ts) :=
    fun m ss ts => (List.foldl_append ..).symm
  unfold SvmCpu.new
  rw [happend]
  exact
    { instr1 := Vmcb.load32_stores rfl
      instr2 := Vmcb.load32_stores rfl
      iopm := Vmcb.readU64_stores rfl
      msrpm := Vmcb.readU64_stores rfl
      asid := Vmcb.readU64_stores rfl
      paging := Vmcb.readU64_stores rfl
      root := Vmcb.readU64_stores rfl
      svme := by
        rw [Vmcb.readU64_stores (v := (1#64 <<< 8) ||| (1#64 <<< 10) ||| eferSvme) rfl]
        rfl }

end Run

/-- Whatever the exits, the values that the guest writes, the registers and the timer: the VMCB is intact at
every step of every run, and so is the state where the run ends. -/
theorem control_area_intact (ncr3 iopmPa msrpmPa cpuId entryPoint guestRsp : BitVec 64)
    (is : List SvmTurn) :
    (∀ m ∈ visited (SvmCpu.new ncr3 iopmPa msrpmPa cpuId entryPoint guestRsp) is,
      Intact ncr3 iopmPa msrpmPa m) ∧
    ∃ c, (Machine.run call (SvmCpu.new ncr3 iopmPa msrpmPa cpuId entryPoint guestRsp) is).1 = some c ∧
      Intact ncr3 iopmPa msrpmPa c.vmcb := by
  have hnew := new_intact ncr3 iopmPa msrpmPa cpuId entryPoint guestRsp
  obtain ⟨hvisited, hfinal⟩ := run_intact hnew is
  have htotal : ∀ c i, ∃ c', (call c i).1 = some c' := fun c i => ⟨_, rfl⟩
  obtain ⟨c, hc⟩ := run_total htotal (SvmCpu.new ncr3 iopmPa msrpmPa cpuId entryPoint guestRsp) is
  exact ⟨hvisited, c, hc, hfinal c hc⟩

end Rhyve.Svm
