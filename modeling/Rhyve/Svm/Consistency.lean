import Rhyve.Lib.Errors
import Rhyve.Svm.Control

/-! # The consistency checks of VMRUN

A VMRUN checks the VMCB first; if a check fails, the guest does not start and the exit code is VMEXIT_INVALID, which
`run` reports as a failed entry. Most of what is checked was set up by the hypervisor or saved by the processor. EFER
is the exception: `write_msr` stores what the guest writes, without a look at it.

* `VmrunLegal`: the checks. `EferFits`: the part that depends on EFER, in the state the rest of the guest is in.
* `vmrunCall`: a call of `run`, with what it returned and the write to EFER that it emulated.
* `refused_iff_unfit`: an entry fails if the guest has just written a value to EFER that does not fit, and only then.
-/

namespace Rhyve.Svm
open Apic Backend ByteMem Errors Machine SvmCpu
set_option autoImplicit false

/-- What a processor with long mode and SVM reserves, and where its physical addresses end. -/
structure Processor where
  cr3Reserved : BitVec 64
  cr4Reserved : BitVec 64
  eferReserved : BitVec 64
  ncr3Reserved : BitVec 64
  physicalEnd : ℕ
  cr3_table : BitVec.ofNat 64 Boot.bootPml4 &&& cr3Reserved = 0#64
  cr4_pae : (1#64 <<< 5) &&& cr4Reserved = 0#64
  efer_longMode : ((1#64 <<< 8) ||| (1#64 <<< 10) ||| eferSvme) &&& eferReserved = 0#64

/-! ## The checks -/

/-- The guest's registers, as far as they are checked. -/
structure CheckedState where
  efer : BitVec 64
  cr0 : BitVec 64
  cr3 : BitVec 64
  cr4 : BitVec 64
  dr6 : BitVec 64
  dr7 : BitVec 64
  gPat : BitVec 64
  csAttrib : ℕ
  deriving DecidableEq

/-- Where the processor has the guest's PAT. `setup_guest` writes its value to `SAVE_G_PAT`, which is another place. -/
def guestPat : ℕ := 0x668

def Vmcb.checked (m : Vmcb) : CheckedState where
  efer := m.readU64 saveEfer
  cr0 := m.readU64 saveCr0
  cr3 := m.readU64 saveCr3
  cr4 := m.readU64 saveCr4
  dr6 := m.readU64 saveDr6
  dr7 := m.readU64 saveDr7
  gPat := m.readU64 guestPat
  csAttrib := loadLE m (saveCs + 2) 2

namespace CheckedState
variable (s : CheckedState)

def pe : Bool := s.cr0.getLsbD 0
def notWriteThrough : Bool := s.cr0.getLsbD 29
def cacheDisable : Bool := s.cr0.getLsbD 30
def pg : Bool := s.cr0.getLsbD 31
def pae : Bool := s.cr4.getLsbD 5
/-- The packed attributes of CS have L in bit 9 and D in bit 10. -/
def csLong : Bool := s.csAttrib.testBit 9
def csDefault : Bool := s.csAttrib.testBit 10

end CheckedState

/-- EFER has no reserved bits, and long mode comes with paging as it needs it. -/
structure EferFits (p : Processor) (s : CheckedState) (efer : BitVec 64) : Prop where
  reserved : efer &&& p.eferReserved = 0#64
  paging : efer.getLsbD 8 = true → s.pg = true → s.pae = true ∧ s.pe = true
  code : efer.getLsbD 8 = true → s.pg = true → s.pae = true → ¬ (s.csLong = true ∧ s.csDefault = true)

/-- Uncacheable, write-combining, write-through, write-protected, write-back, uncached. -/
def patTypes : List (BitVec 8) := [0#8, 1#8, 4#8, 5#8, 6#8, 7#8]

def PatLegal (pat : BitVec 64) : Prop := ∀ i < 8, (pat >>> (8 * i)).setWidth 8 ∈ patTypes

/-- What VMRUN checks of the other registers. -/
structure OthersFit (p : Processor) (s : CheckedState) : Prop where
  caching : s.notWriteThrough = true → s.cacheDisable = true
  cr0 : s.cr0 >>> 32 = 0#64
  cr3 : s.cr3 &&& p.cr3Reserved = 0#64
  cr4 : s.cr4 &&& p.cr4Reserved = 0#64
  dr6 : s.dr6 >>> 32 = 0#64
  dr7 : s.dr7 >>> 32 = 0#64
  gPat : PatLegal s.gPat

/-- The guest state passes the checks of VMRUN. -/
structure Fits (p : Processor) (s : CheckedState) : Prop where
  efer : EferFits p s s.efer
  others : OthersFit p s

/-- Types 0, 2, 3 and 4 exist; an exception has to have the vector of one. -/
def EventLegal (info : BitVec 64) : Prop :=
  isValid info = true → typeOf info ∈ [0#3, 2#3, 3#3, 4#3] ∧
    (typeOf info = 3#3 → (vectorOf info).toNat < 32 ∧ vectorOf info ≠ 2#8)

/-- VMRUN enters a guest with this VMCB. -/
structure VmrunLegal (p : Processor) (m : Vmcb) : Prop where
  state : Fits p m.checked
  svme : m.readU64 saveEfer &&& eferSvme ≠ 0#64
  vmrun : load32 m interceptInstr2 &&& interceptVmrun ≠ 0#32
  asid : (m.readU64 guestAsid).setWidth 32 ≠ 0#32
  /-- The maps have 12 and 8 KiB. -/
  maps : (m.readU64 iopmBasePa).toNat + 0x3000 ≤ p.physicalEnd ∧ (m.readU64 msrpmBasePa).toNat + 0x2000 ≤ p.physicalEnd
  event : EventLegal (m.readU64 eventinj)
  /-- With nested paging on. The PAT, which is checked then, too, is part of the state. -/
  nested : (m.readU64 npEnable).getLsbD 0 = true → m.readU64 nCr3 &&& p.ncr3Reserved = 0#64

/-! ## Calls of `run` -/

/-- A WRMSR to EFER, and the state that the guest is in. -/
structure EferWrite where
  state : CheckedState
  value : BitVec 64

def eferWrite (c : SvmCpu) : Option EferWrite :=
  if isWrmsr c ∧ c.regs.msrIndex = ia32Efer then some ⟨c.vmcb.checked, c.regs.edxEax⟩ else none

/-- What a call returned, if it was an error, and what it wrote to EFER. -/
structure VmrunRecord where
  failed : Option HypervisorError
  wrote : Option EferWrite

/-- A call of `run`, with its error or the EFER that the guest writes. -/
def vmrunCall (c : SvmCpu) (i : SvmTurn) : Option SvmCpu × List VmrunRecord :=
  match SvmCpu.run { c with regs := i.regs } i.input with
  | .error e => (none, [⟨some e, none⟩])
  | .ok r => (some r.cpu, [⟨none, eferWrite (exitState c i)⟩])

/-- The processor: VMEXIT_INVALID says that a check has failed. A guest that has run is in a state that the checks
let pass. -/
structure Checks (p : Processor) (entered exit : Vmcb) : Prop where
  invalid : exit.readU64 exitcodeField = ExitCode.invalid ↔ ¬ VmrunLegal p entered
  runs : VmrunLegal p entered → Fits p exit.checked

def Checked (p : Processor) (c : SvmCpu) (i : SvmTurn) : Prop :=
  Checks p (SvmCpu.enter { c with regs := i.regs } i.input.entryTsc).vmcb (exitState c i).vmcb

/-! ## What is checked, and who writes it -/

def checkedFields : List (ℕ × ℕ) :=
  [(saveEfer, 8), (saveCr0, 8), (saveCr3, 8), (saveCr4, 8), (saveDr6, 8), (saveDr7, 8), (guestPat, 8),
    (saveCs + 2, 2)]

section State
variable {m m' : Vmcb} {p : Processor}

theorem checked_congr (h : ∀ f ∈ checkedFields, Vmcb.Agree m' m f.1 f.2) : m'.checked = m.checked := by
  unfold Vmcb.checked
  rw [(h (saveEfer, 8) (by decide)).readU64, (h (saveCr0, 8) (by decide)).readU64,
    (h (saveCr3, 8) (by decide)).readU64, (h (saveCr4, 8) (by decide)).readU64, (h (saveDr6, 8) (by decide)).readU64,
    (h (saveDr7, 8) (by decide)).readU64, (h (guestPat, 8) (by decide)).readU64,
    loadLE_congr (h (saveCs + 2, 2) (by decide))]

theorem checked_stores {ss : List Store} (h : ∀ f ∈ checkedFields, ∀ s ∈ ss, s.Misses f.1 f.2) :
    (m.stores ss).checked = m.checked :=
  checked_congr fun f hf => Vmcb.stores_agree (h f hf)

theorem checked_writeU64 {o : ℕ} (v : BitVec 64) (h : ∀ f ∈ checkedFields, o + 8 ≤ f.1 ∨ f.1 + f.2 ≤ o) :
    ((writeU64 o v).apply m).checked = m.checked :=
  checked_congr fun f hf => Vmcb.apply_agree (h f hf)

theorem checked_writeEfer (m : Vmcb) (v : BitVec 64) :
    ((writeU64 saveEfer v).apply m).checked = { m.checked with efer := v } := by
  have hother : ∀ o w, saveEfer + 8 ≤ o ∨ o + w ≤ saveEfer → Vmcb.Agree ((writeU64 saveEfer v).apply m) m o w :=
    fun o w h => Vmcb.apply_agree h
  unfold Vmcb.checked
  rw [Vmcb.readU64_writeU64, (hother saveCr0 8 (by decide)).readU64, (hother saveCr3 8 (by decide)).readU64,
    (hother saveCr4 8 (by decide)).readU64, (hother saveDr6 8 (by decide)).readU64,
    (hother saveDr7 8 (by decide)).readU64, (hother guestPat 8 (by decide)).readU64,
    loadLE_congr (hother (saveCs + 2) 2 (by decide))]

/-- SVME is a bit that may be set, and nothing else depends on it. -/
theorem eferFits_svme {s : CheckedState} (v efer : BitVec 64) :
    EferFits p { s with efer := efer } (v ||| eferSvme) ↔ EferFits p s v := by
  have hlong := p.efer_longMode
  rw [BitVec.and_or_distrib_right, BitVec.or_eq_zero_iff] at hlong
  have hreserved : (v ||| eferSvme) &&& p.eferReserved = v &&& p.eferReserved := by
    rw [BitVec.and_or_distrib_right, hlong.2, BitVec.or_zero]
  have hlme : (v ||| eferSvme).getLsbD 8 = v.getLsbD 8 := by
    have hsvme : eferSvme.getLsbD 8 = false := by decide
    rw [BitVec.getLsbD_or, hsvme, Bool.or_false]
  constructor
  · rintro ⟨hres, hpaging, hcode⟩
    rw [hreserved] at hres
    rw [hlme] at hpaging hcode
    exact ⟨hres, hpaging, hcode⟩
  · rintro ⟨hres, hpaging, hcode⟩
    rw [← hreserved] at hres
    rw [← hlme] at hpaging hcode
    exact ⟨hres, hpaging, hcode⟩

theorem OthersFit.setEfer {s : CheckedState} (h : OthersFit p s) (efer : BitVec 64) :
    OthersFit p { s with efer := efer } :=
  ⟨h.caching, h.cr0, h.cr3, h.cr4, h.dr6, h.dr7, h.gPat⟩

/-- After a write to EFER in a state that passes the checks. -/
theorem writeEfer_fits (h : Fits p m.checked) (v : BitVec 64) :
    Fits p ((writeU64 saveEfer (v ||| eferSvme)).apply m).checked ↔ EferFits p m.checked v := by
  rw [checked_writeEfer]
  constructor
  · exact fun hfits => (eferFits_svme v _).mp hfits.efer
  · exact fun hefer => ⟨(eferFits_svme v _).mpr hefer, h.others.setEfer _⟩

end State

section Enter
variable (c : SvmCpu)

theorem loadGuestRegisters_checked : c.loadGuestRegisters.vmcb.checked = c.vmcb.checked := by
  have hslots : ∀ f ∈ checkedFields, ∀ s ∈ [saveRax, saveRip, saveRsp, saveRflags],
      s + 8 ≤ f.1 ∨ f.1 + f.2 ≤ s := by decide
  apply checked_stores
  intro f hf
  have hslot := hslots f hf
  simp only [List.forall_mem_cons, List.not_mem_nil, false_implies, implies_true, and_true] at hslot ⊢
  exact hslot

theorem injectPending_checked : c.injectPending.vmcb.checked = c.vmcb.checked := by
  have hslot : ∀ f ∈ checkedFields, eventinj + 8 ≤ f.1 ∨ f.1 + f.2 ≤ eventinj := by decide
  unfold SvmCpu.injectPending
  split
  · split
    · exact checked_writeU64 _ hslot
    · exact checked_writeU64 _ hslot
  · exact checked_writeU64 _ hslot

theorem enter_checked (tsc : BitVec 64) : (c.enter tsc).vmcb.checked = c.vmcb.checked := by
  rw [← loadGuestRegisters_checked c, ← (serviceTimer_unit c.loadGuestRegisters tsc).2.1]
  exact injectPending_checked (c.loadGuestRegisters.serviceTimer tsc)

/-- The event of an entry is an external interrupt, or there is none. -/
theorem injectPending_event : EventLegal (c.injectPending.vmcb.readU64 eventinj) := by
  have hidle : EventLegal ((c.write eventinj 0#64).vmcb.readU64 eventinj) := by
    have hzero : (c.write eventinj 0#64).vmcb.readU64 eventinj = 0#64 := Vmcb.readU64_writeU64 eventinj 0#64
    rw [hzero]
    exact fun hvalid => absurd hvalid (by decide)
  unfold SvmCpu.injectPending
  split
  · rename_i vector _
    split
    · have hinfo : (c.write eventinj (eventInfo vector)).vmcb.readU64 eventinj = eventInfo vector :=
        Vmcb.readU64_writeU64 eventinj (eventInfo vector)
      obtain ⟨-, -, htype⟩ := eventInfo_fields vector
      show EventLegal ((c.write eventinj (eventInfo vector)).vmcb.readU64 eventinj)
      rw [hinfo]
      intro _
      rw [htype]
      exact ⟨List.mem_cons_self, fun h => absurd h (by decide)⟩
    · exact hidle
  · exact hidle

/-- The addresses that `SvmCpu::new` is given are physical addresses of the processor. -/
structure Addresses (p : Processor) (ncr3 iopmPa msrpmPa : BitVec 64) : Prop where
  ncr3 : ncr3 &&& p.ncr3Reserved = 0#64
  iopm : iopmPa.toNat + 0x3000 ≤ p.physicalEnd
  msrpm : msrpmPa.toNat + 0x2000 ≤ p.physicalEnd

/-- The checks at an entry come down to the state that was left by the last exit. -/
theorem enter_legal {p : Processor} {ncr3 iopmPa msrpmPa : BitVec 64} (h : Intact ncr3 iopmPa msrpmPa c.vmcb)
    (haddresses : Addresses p ncr3 iopmPa msrpmPa) (tsc : BitVec 64) :
    VmrunLegal p (c.enter tsc).vmcb ↔ Fits p c.vmcb.checked := by
  have hintact := (enter_framed c tsc).intact h
  rw [← enter_checked c tsc]
  refine ⟨fun hlegal => hlegal.state, fun hfits => ⟨hfits, ?_, ?_, ?_, ?_, ?_, ?_⟩⟩
  · rw [hintact.svme]
    decide
  · rw [hintact.instr2]
    decide
  · rw [hintact.asid]
    decide
  · rw [hintact.iopm, hintact.msrpm]
    exact ⟨haddresses.iopm, haddresses.msrpm⟩
  · exact injectPending_event (c.loadGuestRegisters.serviceTimer tsc)
  · intro _
    rw [hintact.root]
    exact haddresses.ncr3

end Enter

section Exit
variable {c : SvmCpu} {env : HostEnv}

theorem handle_failed_iff {exitcode : BitVec 64} :
    c.handle env exitcode = .error (.vmEntryFailed 0) ↔ exitcode = ExitCode.invalid := by
  constructor
  · intro h
    by_contra hne
    unfold SvmCpu.handle at h
    rw [if_neg hne] at h
    -- Every other arm is a result or the other error.
    iterate 4
      split at h
      · cases h
    split at h
    · split at h
      · cases h
      · cases h
    iterate 3
      split at h
      · cases h
    cases h
  · rintro rfl
    rfl

theorem writeMsr_checked {index : BitVec 32} (h : index ≠ ia32Efer) (tsc value : BitVec 64) :
    (c.writeMsr tsc index value).vmcb.checked = c.vmcb.checked := by
  unfold SvmCpu.writeMsr
  rw [if_neg h]
  split
  · exact checked_writeU64 _ (by decide)
  · split
    · exact checked_writeU64 _ (by decide)
    · split
      · rfl
      · rfl

theorem eferWrite_none (h : ¬ (isWrmsr c ∧ c.regs.msrIndex = ia32Efer)) : eferWrite c = none := by
  unfold eferWrite
  exact if_neg h

/-- A write to EFER that does not fit is the only thing that spoils the state. -/
theorem handle_fits {p : Processor} {r : Handled SvmCpu} (h : Fits p c.vmcb.checked)
    (hhandle : c.handle env (c.vmcb.readU64 exitcodeField) = .ok r) :
    Fits p r.cpu.vmcb.checked ↔ ∀ w, eferWrite c = some w → EferFits p w.state w.value := by
  have hkept : r.cpu.vmcb.checked = c.vmcb.checked → eferWrite c = none →
      (Fits p r.cpu.vmcb.checked ↔ ∀ w, eferWrite c = some w → EferFits p w.state w.value) := by
    intro hsame hnone
    rw [hsame, hnone]
    exact iff_of_true h nofun
  rcases handle_ok hhandle with ⟨hmsr, hwrite, hr⟩ | ⟨hno, regs, hr⟩
  · have hvmcb : r.cpu.vmcb = (c.writeMsr env.tsc c.regs.msrIndex c.regs.edxEax).vmcb := by
      rw [hr]
      rfl
    by_cases hefer : c.regs.msrIndex = ia32Efer
    · have hwrote : eferWrite c = some ⟨c.vmcb.checked, c.regs.edxEax⟩ := by
        unfold eferWrite
        exact if_pos ⟨⟨hmsr, hwrite⟩, hefer⟩
      have hstore : (c.writeMsr env.tsc ia32Efer c.regs.edxEax).vmcb =
          (writeU64 saveEfer (c.regs.edxEax ||| eferSvme)).apply c.vmcb := rfl
      rw [hefer, hstore] at hvmcb
      rw [hvmcb, hwrote, writeEfer_fits h]
      simp only [Option.some.injEq, forall_eq']
    · refine hkept ?_ (eferWrite_none fun hw => hefer hw.2)
      rw [hvmcb]
      exact writeMsr_checked hefer _ _
  · refine hkept ?_ (eferWrite_none fun hw => hno hw.1)
    rw [hr]

end Exit

/-! ## Whole runs -/

section Run
variable {p : Processor} {ncr3 iopmPa msrpmPa : BitVec 64}

/-- The last call did not write a value to EFER that does not fit. -/
def LastFits (p : Processor) (log : List VmrunRecord) : Prop :=
  ∀ w, log.getLast?.bind VmrunRecord.wrote = some w → EferFits p w.state w.value

/-- What `setup_guest` stores. -/
def bootState : CheckedState where
  efer := (1#64 <<< 8) ||| (1#64 <<< 10) ||| eferSvme
  cr0 := (1#64 <<< 0) ||| (1#64 <<< 4) ||| (1#64 <<< 5) ||| (1#64 <<< 31)
  cr3 := BitVec.ofNat 64 Boot.bootPml4
  cr4 := 1#64 <<< 5
  dr6 := 0xFFFF0FF0#64
  dr7 := 0x400#64
  gPat := 0#64
  csAttrib := 0xA9B

/-- No store of `new` reaches the PAT. -/
theorem new_guestPat (ncr3 iopmPa msrpmPa cpuId entryPoint guestRsp : BitVec 64) :
    (SvmCpu.new ncr3 iopmPa msrpmPa cpuId entryPoint guestRsp).vmcb.readU64 guestPat = 0#64 := by
  have hmisses : (setupControl ncr3 iopmPa msrpmPa ++ setupGuest entryPoint guestRsp).all
      (fun s => decide (s.Misses guestPat 8)) = true := rfl
  have hmiss : ∀ s ∈ setupControl ncr3 iopmPa msrpmPa ++ setupGuest entryPoint guestRsp, s.Misses guestPat 8 :=
    fun s hs => of_decide_eq_true (List.all_eq_true.mp hmisses s hs)
  have hframe := Vmcb.stores_agree (m := fun _ => 0#8) hmiss
  have hsplit : (SvmCpu.new ncr3 iopmPa msrpmPa cpuId entryPoint guestRsp).vmcb =
      Vmcb.stores (fun _ => 0#8) (setupControl ncr3 iopmPa msrpmPa ++ setupGuest entryPoint guestRsp) :=
    (List.foldl_append ..).symm
  rw [hsplit, hframe.readU64]
  decide

theorem new_checked (ncr3 iopmPa msrpmPa cpuId entryPoint guestRsp : BitVec 64) :
    (SvmCpu.new ncr3 iopmPa msrpmPa cpuId entryPoint guestRsp).vmcb.checked = bootState := by
  have hstored : ∀ (o : ℕ) (v : BitVec 64), Vmcb.lastStore o 8 (setupGuest entryPoint guestRsp) = some v.toNat →
      (SvmCpu.new ncr3 iopmPa msrpmPa cpuId entryPoint guestRsp).vmcb.readU64 o = v :=
    fun o v h => Vmcb.readU64_stores h
  have hattrib : loadLE (SvmCpu.new ncr3 iopmPa msrpmPa cpuId entryPoint guestRsp).vmcb (saveCs + 2) 2 = 0xA9B :=
    Vmcb.loadLE_stores (n := 0xA9B) rfl
  have hgPat := new_guestPat ncr3 iopmPa msrpmPa cpuId entryPoint guestRsp
  have hefer := hstored saveEfer bootState.efer rfl
  have hcr0 := hstored saveCr0 bootState.cr0 rfl
  have hcr3 := hstored saveCr3 bootState.cr3 rfl
  have hcr4 := hstored saveCr4 bootState.cr4 rfl
  have hdr6 := hstored saveDr6 bootState.dr6 rfl
  have hdr7 := hstored saveDr7 bootState.dr7 rfl
  generalize (SvmCpu.new ncr3 iopmPa msrpmPa cpuId entryPoint guestRsp).vmcb = m at *
  unfold Vmcb.checked
  rw [hefer, hcr0, hcr3, hcr4, hdr6, hdr7, hgPat, hattrib]
  rfl

theorem bootState_fits (p : Processor) : Fits p bootState where
  efer := ⟨p.efer_longMode, fun _ _ => ⟨rfl, rfl⟩, fun _ _ _ h => absurd h.2 (by decide)⟩
  others := ⟨fun h => absurd h (by decide), by decide, p.cr3_table, p.cr4_pae, by decide, by decide,
    by unfold PatLegal; decide⟩

theorem turn_legal {c : SvmCpu} (h : Intact ncr3 iopmPa msrpmPa c.vmcb) (haddresses : Addresses p ncr3 iopmPa msrpmPa)
    (i : SvmTurn) :
    VmrunLegal p (SvmCpu.enter { c with regs := i.regs } i.input.entryTsc).vmcb ↔ Fits p c.vmcb.checked :=
  enter_legal { c with regs := i.regs } h haddresses i.input.entryTsc

/-- The entry of a call fails if the state does not pass the checks. -/
theorem vmrunCall_failed {c : SvmCpu} (h : Intact ncr3 iopmPa msrpmPa c.vmcb)
    (haddresses : Addresses p ncr3 iopmPa msrpmPa) {i : SvmTurn} (hchecked : Checked p c i) :
    SvmCpu.run { c with regs := i.regs } i.input = .error (.vmEntryFailed 0) ↔ ¬ Fits p c.vmcb.checked := by
  have hrun : SvmCpu.run { c with regs := i.regs } i.input =
      (exitState c i).handle i.input.env ((exitState c i).vmcb.readU64 exitcodeField) := rfl
  rw [hrun, handle_failed_iff, hchecked.invalid]
  exact not_congr (turn_legal h haddresses i)

theorem vmrunCall_error {c : SvmCpu} {i : SvmTurn} {e : HypervisorError}
    (h : SvmCpu.run { c with regs := i.regs } i.input = .error e) : vmrunCall c i = (none, [⟨some e, none⟩]) := by
  unfold vmrunCall
  rw [h]

theorem vmrunCall_ok {c : SvmCpu} {i : SvmTurn} {r : Handled SvmCpu}
    (h : SvmCpu.run { c with regs := i.regs } i.input = .ok r) :
    vmrunCall c i = (some r.cpu, [⟨none, eferWrite (exitState c i)⟩]) := by
  unfold vmrunCall
  rw [h]

theorem lastFits_concat (log : List VmrunRecord) (failed : Option HypervisorError) (wrote : Option EferWrite) :
    LastFits p (log ++ [⟨failed, wrote⟩]) ↔ ∀ w, wrote = some w → EferFits p w.state w.value := by
  unfold LastFits
  rw [List.getLast?_concat, Option.bind_some]

/-- The control area is intact, and the next entry passes the checks if the last call has left EFER in order. -/
structure Ready (p : Processor) (ncr3 iopmPa msrpmPa : BitVec 64) (c : SvmCpu) (log : List VmrunRecord) : Prop where
  intact : Intact ncr3 iopmPa msrpmPa c.vmcb
  fits : Fits p c.vmcb.checked ↔ LastFits p log

theorem Ready.next {c : SvmCpu} {log : List VmrunRecord} (h : Ready p ncr3 iopmPa msrpmPa c log) {i : SvmTurn}
    (hfits : Fits p (exitState c i).vmcb.checked) {r : Handled SvmCpu}
    (hrun : SvmCpu.run { c with regs := i.regs } i.input = .ok r) :
    Ready p ncr3 iopmPa msrpmPa r.cpu (log ++ [⟨none, eferWrite (exitState c i)⟩]) := by
  have hintact := (call_intact h.intact i).2
  unfold SvmCpu.afterRun at hintact
  rw [hrun] at hintact
  have hhandle : (exitState c i).handle i.input.env ((exitState c i).vmcb.readU64 exitcodeField) = .ok r := hrun
  have hnext := handle_fits (c := exitState c i) hfits hhandle
  exact ⟨hintact, hnext.trans (lastFits_concat log none (eferWrite (exitState c i))).symm⟩

end Run

/-- From a new vCPU on: `run` reports a failed entry if the call before it has written a value to EFER that does not
fit the state of the guest, and in no other case. -/
theorem refused_iff_unfit (p : Processor) (ncr3 iopmPa msrpmPa cpuId entryPoint guestRsp : BitVec 64)
    (haddresses : Addresses p ncr3 iopmPa msrpmPa) (is : List SvmTurn)
    (h : Along vmrunCall (Checked p) (SvmCpu.new ncr3 iopmPa msrpmPa cpuId entryPoint guestRsp) is) :
    AtEach (fun pre e => e.failed = some (.vmEntryFailed 0) ↔ ¬ LastFits p pre)
      (run vmrunCall (SvmCpu.new ncr3 iopmPa msrpmPa cpuId entryPoint guestRsp) is).2 := by
  have hstep : ∀ (c : SvmCpu) (log : List VmrunRecord) (i : SvmTurn),
      Ready p ncr3 iopmPa msrpmPa c log ∧
        AtEach (fun pre e => e.failed = some (.vmEntryFailed 0) ↔ ¬ LastFits p pre) log → Checked p c i →
      AtEach (fun pre e => e.failed = some (.vmEntryFailed 0) ↔ ¬ LastFits p pre) (log ++ (vmrunCall c i).2) ∧
        ∀ c', (vmrunCall c i).1 = some c' → Ready p ncr3 iopmPa msrpmPa c' (log ++ (vmrunCall c i).2) ∧
          AtEach (fun pre e => e.failed = some (.vmEntryFailed 0) ↔ ¬ LastFits p pre) (log ++ (vmrunCall c i).2) := by
    rintro c log i ⟨hready, hlog⟩ hchecked
    have hfailed := vmrunCall_failed hready.intact haddresses hchecked
    rw [hready.fits] at hfailed
    cases hrun : SvmCpu.run { c with regs := i.regs } i.input with
    | error e =>
      rw [hrun, Except.error.injEq] at hfailed
      rw [vmrunCall_error hrun]
      refine ⟨hlog.concat ?_, nofun⟩
      rw [Option.some.injEq]
      exact hfailed
    | ok r =>
      have hfits : LastFits p log := by
        by_contra hunfit
        rw [hfailed.mpr hunfit] at hrun
        cases hrun
      have hlegal := (turn_legal hready.intact haddresses i).mpr (hready.fits.mpr hfits)
      have hlog' := hlog.concat (e := ⟨none, eferWrite (exitState c i)⟩)
        (iff_of_false nofun fun hunfit => hunfit hfits)
      rw [vmrunCall_ok hrun]
      refine ⟨hlog', ?_⟩
      rintro c' ⟨⟩
      exact ⟨hready.next (hchecked.runs hlegal) hrun, hlog'⟩
  have hstart : Ready p ncr3 iopmPa msrpmPa (SvmCpu.new ncr3 iopmPa msrpmPa cpuId entryPoint guestRsp) [] := by
    refine ⟨new_intact ncr3 iopmPa msrpmPa cpuId entryPoint guestRsp, ?_⟩
    rw [new_checked]
    exact iff_of_true (bootState_fits p) nofun
  exact (run_log _ _ hstep [] ⟨hstart, atEach_nil⟩ atEach_nil h).1

/-! ## A reserved bit of EFER -/

/-- 48-bit physical addresses; EFER has no bits above bit 15. -/
def plainProcessor : Processor where
  cr3Reserved := 0xFFFF000000000000#64
  cr4Reserved := 0xFFFFFFFFFF000000#64
  eferReserved := 0xFFFFFFFFFFFF0000#64
  ncr3Reserved := 0xFFFF000000000000#64
  physicalEnd := 2 ^ 48
  cr3_table := by decide
  cr4_pae := by decide
  efer_longMode := by decide

/-- The tables and the two maps are behind each other. -/
def bootCpu : SvmCpu := SvmCpu.new 0x10000#64 0x20000#64 0x23000#64 0#64 0x80000#64 0x70000#64

/-- The guest sets bit 63 of EFER. -/
def writeReserved : SvmTurn where
  regs := GuestRegisters.zero
  input := ⟨0#64,
    ⟨{ GuestRegisters.zero with rcx := 0xC0000080#64, rdx := 0x80000000#64 },
      bootCpu.vmcb.stores [writeU64 exitcodeField ExitCode.msr, writeU64 exitinfo1 1#64]⟩,
    ⟨0#64, fun _ _ => ⟨0#32, 0#32, 0#32, 0#32⟩⟩⟩

/-- A VMRUN that is refused. -/
def refusedEntry : SvmTurn where
  regs := GuestRegisters.zero
  input := ⟨0#64, ⟨GuestRegisters.zero, (writeU64 exitcodeField ExitCode.invalid).apply fun _ => 0#8⟩,
    ⟨0#64, fun _ _ => ⟨0#32, 0#32, 0#32, 0#32⟩⟩⟩

theorem bootCpu_addresses : Addresses plainProcessor 0x10000#64 0x20000#64 0x23000#64 :=
  ⟨by decide, by decide, by decide⟩

theorem bootCpu_intact : Intact 0x10000#64 0x20000#64 0x23000#64 bootCpu.vmcb :=
  new_intact _ _ _ 0#64 0x80000#64 0x70000#64

theorem bootCpu_fits : Fits plainProcessor bootCpu.vmcb.checked := new_checked .. ▸ bootState_fits _

theorem writeReserved_exit : Fits plainProcessor (exitState bootCpu writeReserved).vmcb.checked := by
  have hstate : (exitState bootCpu writeReserved).vmcb.checked = bootState := by decide +kernel
  rw [hstate]
  exact bootState_fits _

theorem writeReserved_checked : Checked plainProcessor bootCpu writeReserved := by
  have hcode : (exitState bootCpu writeReserved).vmcb.readU64 exitcodeField ≠ ExitCode.invalid := by decide +kernel
  have hlegal := (turn_legal bootCpu_intact bootCpu_addresses writeReserved).mpr bootCpu_fits
  exact ⟨iff_of_false hcode (not_not.mpr hlegal), fun _ => writeReserved_exit⟩

/-- The write is emulated, and does not fit. -/
theorem writeReserved_runs : ∃ r, SvmCpu.run { bootCpu with regs := writeReserved.regs } writeReserved.input = .ok r ∧
    Intact 0x10000#64 0x20000#64 0x23000#64 r.cpu.vmcb ∧ ¬ Fits plainProcessor r.cpu.vmcb.checked := by
  obtain ⟨r, hrun, hnext⟩ : ∃ r, SvmCpu.run { bootCpu with regs := writeReserved.regs } writeReserved.input = .ok r ∧
      r.cpu.vmcb.checked = { bootState with efer := 0x8000000000001000#64 } := ok_of_map (by decide +kernel)
  refine ⟨r, hrun, ?_, ?_⟩
  · have hafter := (call_intact bootCpu_intact writeReserved).2
    unfold SvmCpu.afterRun at hafter
    rw [hrun] at hafter
    exact hafter
  · rw [hnext]
    exact fun hfits => absurd hfits.efer.reserved (by decide)

theorem refusedEntry_checked {c : SvmCpu} (hintact : Intact 0x10000#64 0x20000#64 0x23000#64 c.vmcb)
    (hunfit : ¬ Fits plainProcessor c.vmcb.checked) : Checked plainProcessor c refusedEntry := by
  have hillegal := mt (turn_legal hintact bootCpu_addresses refusedEntry).mp hunfit
  refine ⟨iff_of_true ?_ hillegal, fun hlegal => absurd hlegal hillegal⟩
  have hsaved : (exitState c refusedEntry).vmcb.readU64 exitcodeField =
      refusedEntry.input.exit.vmcb.readU64 exitcodeField := Vmcb.readU64_saved _ _ _ (by decide)
  exact hsaved.trans (Vmcb.readU64_writeU64 exitcodeField ExitCode.invalid)

theorem vmrunCall_record (c : SvmCpu) (i : SvmTurn) : ∃ e, (vmrunCall c i).2 = [e] := by
  unfold vmrunCall
  split
  · exact ⟨_, rfl⟩
  · exact ⟨_, rfl⟩

theorem refused_iff_unfit_reserved :
    Along vmrunCall (Checked plainProcessor) bootCpu [writeReserved, refusedEntry] ∧
      ∃ e ∈ (run vmrunCall bootCpu [writeReserved, refusedEntry]).2, e.failed = some (.vmEntryFailed 0) := by
  obtain ⟨r, hrun, hintact, hunfit⟩ := writeReserved_runs
  have halong : Along vmrunCall (Checked plainProcessor) bootCpu [writeReserved, refusedEntry] := by
    refine ⟨writeReserved_checked, ?_⟩
    intro c hc
    rw [vmrunCall_ok hrun] at hc
    rw [← Option.some.inj hc]
    exact ⟨refusedEntry_checked hintact hunfit, fun _ _ => trivial⟩
  have hstart : Ready plainProcessor 0x10000#64 0x20000#64 0x23000#64 bootCpu [] :=
    ⟨bootCpu_intact, iff_of_true bootCpu_fits nofun⟩
  have hready := hstart.next (i := writeReserved) writeReserved_exit hrun
  obtain ⟨e, he⟩ := vmrunCall_record r.cpu refusedEntry
  have hout : (run vmrunCall bootCpu [writeReserved, refusedEntry]).2 =
      [⟨none, eferWrite (exitState bootCpu writeReserved)⟩] ++ e :: [] := by
    simp only [Machine.run, vmrunCall_ok hrun]
    split
    · rw [he]
    · rw [he, List.append_nil]
  refine ⟨halong, e, ?_, ?_⟩
  · rw [hout]
    exact List.mem_append_right _ List.mem_cons_self
  · exact (refused_iff_unfit plainProcessor 0x10000#64 0x20000#64 0x23000#64 0#64 0x80000#64 0x70000#64
      bootCpu_addresses _ halong _ e _ hout).mpr (mt hready.fits.mpr hunfit)

end Rhyve.Svm
