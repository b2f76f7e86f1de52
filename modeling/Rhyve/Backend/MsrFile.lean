import Rhyve.Backend.Complete

/-! # The emulated MSRs are a register file

FS base, GS base and EFER live in fields of the VMCS, or in 64-bit slots of the VMCB, between all the other fields
that the backends write. For the guest they are three registers: RDMSR returns what WRMSR has written.

* `FileMsr`: the three registers, with their index, VMCS field, VMCB slot and boot value.
* `fileValue`: the content of the file after a log of writes.
* `VmxFile`, `SvmFile`: the backend holds this content. One call keeps it (`vmx_turn_file`, `svm_turn_file`).
* `msr_register_file`: what an RDMSR returns after any run.
-/

namespace Rhyve.Backend
open Apic Errors Machine Vmx Svm
set_option autoImplicit false

/-! ## The file -/

/-- The MSRs that both backends keep for the guest and do not treat in another way. -/
inductive FileMsr where
  | fsBase
  | gsBase
  | efer
  deriving DecidableEq, Repr

namespace FileMsr

def index : FileMsr → BitVec 32
  | .fsBase => Vmx.ia32FsBase
  | .gsBase => Vmx.ia32GsBase
  | .efer => Vmx.ia32Efer

def field : FileMsr → FieldId
  | .fsBase => Guest.fsBase
  | .gsBase => Guest.gsBase
  | .efer => Guest.ia32EferFull

def slot : FileMsr → ℕ
  | .fsBase => Svm.fsBase
  | .gsBase => Svm.gsBase
  | .efer => saveEfer

def boot : FileMsr → BitVec 64
  | .fsBase => 0#64
  | .gsBase => 0#64
  | .efer => eferLme ||| eferLma

/-- What AMD-V keeps for a value. VMRUN refuses a guest without SVME. -/
def stored : FileMsr → BitVec 64 → BitVec 64
  | .efer, value => value ||| eferSvme
  | _, value => value

/-- What the guest sees of a value on AMD-V: bit 12 of EFER reads as 0. -/
def visible : FileMsr → BitVec 64 → BitVec 64
  | .efer, value => value &&& ~~~eferSvme
  | _, value => value

theorem index_inj {m m' : FileMsr} (h : m.index = m'.index) : m = m' := by
  revert h
  cases m <;> cases m' <;> decide

end FileMsr

/-- The value of the last WRMSR to the index. -/
def lastWritten (index : BitVec 32) : List TimerEvent → Option (BitVec 64)
  | [] => none
  | .wrote _ msr value :: es => (lastWritten index es).or (if msr = index then some value else none)
  | _ :: es => lastWritten index es

theorem lastWritten_append (index : BitVec 32) (log es : List TimerEvent) :
    lastWritten index (log ++ es) = (lastWritten index es).or (lastWritten index log) := by
  induction log with
  | nil => rw [List.nil_append, lastWritten, Option.or_none]
  | cons e log ih =>
    rw [List.cons_append]
    cases e with
    | wrote tsc msr value => rw [lastWritten, lastWritten, ih, Option.or_assoc]
    | expired | entered =>
      rw [lastWritten, lastWritten]
      · exact ih
      · exact nofun
      · exact nofun

def fileValue (log : List TimerEvent) (m : FileMsr) : BitVec 64 := (lastWritten m.index log).getD m.boot

theorem fileValue_append (log es : List TimerEvent) (m : FileMsr) :
    fileValue (log ++ es) m = (lastWritten m.index es).getD (fileValue log m) := by
  rw [fileValue, lastWritten_append]
  cases lastWritten m.index es <;> rfl

theorem lastWritten_wrote (tsc : BitVec 64) (index msr : BitVec 32) (value : BitVec 64) :
    lastWritten index [.wrote tsc msr value] = if msr = index then some value else none := by
  rw [lastWritten, lastWritten, Option.none_or]

/-- RDMSR returns the value in EDX:EAX, with the upper halves cleared. -/
def Returns (value : BitVec 64) (regs : GuestRegisters) : Prop :=
  regs.rax = value &&& 0xffffffff#64 ∧ regs.rdx = value >>> 32

/-- What RDMSR returns when the file holds `value`: a register of the file, or zero for an index that is none and
not the deadline. -/
structure ReadsFile (value : FileMsr → BitVec 64) (index : BitVec 32) (regs : GuestRegisters) : Prop where
  file : ∀ m : FileMsr, index = m.index → Returns (value m) regs
  other : (∀ m : FileMsr, index ≠ m.index) → index ≠ ia32TscDeadline → Returns 0#64 regs

theorem readsFile_of_word {value : FileMsr → BitVec 64} {index : BitVec 32} {word : BitVec 64}
    (hin : ∀ m : FileMsr, index = m.index → word = value m)
    (hout : (∀ m : FileMsr, index ≠ m.index) → index ≠ ia32TscDeadline → word = 0#64) (regs : GuestRegisters)
    (len : BitVec 64) : ReadsFile value index ((regs.setEdxEax word).advance len) := by
  refine ⟨?_, ?_⟩
  · intro m hm
    rw [← hin m hm]
    exact ⟨rfl, rfl⟩
  · intro hno hdeadline
    rw [← hout hno hdeadline]
    exact ⟨rfl, rfl⟩

/-! ## VT-x -/

section Vmx
variable {c c' : VmxCpu}

def VmxFile (c : VmxCpu) (log : List TimerEvent) : Prop :=
  ∀ m : FileMsr, c.vmcs.value m.field = fileValue log m

/-- The guest leaves the two bases as they were loaded. -/
def VmxUntouched (c : VmxCpu) (i : VmxTurn) : Prop :=
  ∀ entered, VmxCpu.enter { c with regs := i.regs } i.input.entryTsc = .ok entered →
    ∀ f ∈ [Guest.fsBase, Guest.gsBase], i.input.exit.fields f = entered.vmcs.value f

theorem new_file {h : VmxCpu.HostCpu} {eptp apicAccessHpa cpuId entryPoint guestRsp : BitVec 64}
    (hc : VmxCpu.new h eptp apicAccessHpa cpuId entryPoint guestRsp = .ok c) : VmxFile c [] := by
  obtain ⟨virtualApicHpa, vmcs, hvmcs, rfl⟩ := VmxCpu.new_ok hc
  intro m
  cases m with
  | fsBase => exact Vmcs.writeAll_value hvmcs Guest.fsBase
  | gsBase => exact Vmcs.writeAll_value hvmcs Guest.gsBase
  | efer => exact Vmcs.writeAll_value hvmcs Guest.ia32EferFull

theorem set_file (v : Vmcs) (m m' : FileMsr) (value : BitVec 64) :
    (v.set m'.field value).value m.field = if m'.index = m.index then value else v.value m.field := by
  by_cases hm : m' = m
  · rw [hm, if_pos rfl, Vmcs.set_same]
    cases m <;> rfl
  · have hfield : m.field ≠ m'.field := by
      intro h
      apply hm
      revert h
      cases m <;> cases m' <;> decide
    rw [if_neg (fun h => hm (FileMsr.index_inj h)), Vmcs.set_other hfield]

theorem writeMsr_file {tsc value : BitVec 64} {index : BitVec 32} (h : c.writeMsr tsc index value = .ok c')
    (m : FileMsr) : c'.vmcs.value m.field = if index = m.index then value else c.vmcs.value m.field := by
  unfold VmxCpu.writeMsr at h
  by_cases hfs : index = Vmx.ia32FsBase
  · rw [if_pos hfs] at h
    rw [Vmx.writeField_ok h, hfs]
    exact set_file c.vmcs m .fsBase value
  rw [if_neg hfs] at h
  by_cases hgs : index = Vmx.ia32GsBase
  · rw [if_pos hgs] at h
    rw [Vmx.writeField_ok h, hgs]
    exact set_file c.vmcs m .gsBase value
  rw [if_neg hgs] at h
  by_cases hefer : index = Vmx.ia32Efer
  · rw [if_pos hefer] at h
    rw [Vmx.writeField_ok h, hefer]
    exact set_file c.vmcs m .efer value
  rw [if_neg hefer] at h
  have hm : index ≠ m.index := by
    cases m
    · exact hfs
    · exact hgs
    · exact hefer
  rw [if_neg hm]
  split at h
  · rw [← Except.ok.inj h]
    rfl
  · rw [← Except.ok.inj h]

theorem handle_file {env : HostEnv} {basic : VmxBasicExitReason} {r : Handled VmxCpu}
    (h : c.handle env basic = .ok r) (timer : ApicTimer) (exitTsc : BitVec 64) (m : FileMsr) :
    r.cpu.vmcs.value m.field =
      (lastWritten m.index (Vmx.exitEvents timer c.regs env.tsc exitTsc basic)).getD
        (c.vmcs.value m.field) := by
  cases Vmx.handle_handles h with
  | wrmsr hwrite len =>
    have hfile := writeMsr_file hwrite m
    simp only [Vmx.exitEvents, lastWritten_wrote]
    rw [hfile]
    split <;> rfl
  | timer =>
    rw [timerExpired_vmcs]
    simp only [Vmx.exitEvents]
    split <;> rfl
  | externalInterrupt | interruptWindow | tripleFault | rdmsr | cpuid | xsetbv | ioInstruction => rfl

theorem exited_file {log : List TimerEvent} (hfile : VmxFile c log) {i : VmxTurn} (hsame : VmxUntouched c i)
    {entered : VmxCpu} (henter : VmxCpu.enter { c with regs := i.regs } i.input.entryTsc = .ok entered)
    (m : FileMsr) : (entered.exited i.input.exit).vmcs.value m.field = fileValue log m := by
  have hother : entered.vmcs.value m.field = fileValue log m := by
    rw [enter_other henter (by cases m <;> decide)]
    exact hfile m
  rw [← hother]
  cases m with
  | fsBase => exact (afterExit_value (by decide) (by decide)).trans (hsame entered henter _ (by decide))
  | gsBase => exact (afterExit_value (by decide) (by decide)).trans (hsame entered henter _ (by decide))
  | efer => rfl

theorem vmx_turn_file {log : List TimerEvent} (hfile : VmxFile c log) {i : VmxTurn} (hsame : VmxUntouched c i)
    (hc : (Vmx.turn c i).1 = some c') : VmxFile c' (log ++ (Vmx.turn c i).2) := by
  obtain ⟨entered, r, henter, hdispatch, rfl, hlog⟩ := turn_some hc
  obtain ⟨rip, rsp, rflags, basic, hbasic, hhandle⟩ := dispatch_handle hdispatch
  intro m
  rw [handle_file hhandle c.apicTimer i.exitTsc m, hlog, eventsAfter_basic hbasic, fileValue_append,
    ← exited_file hfile hsame henter m]
  rfl

theorem readMsr_reads {index : BitVec 32} {value : BitVec 64} (h : c.readMsr index = .ok value) :
    (∀ m : FileMsr, index = m.index → value = c.vmcs.value m.field) ∧
      ((∀ m : FileMsr, index ≠ m.index) → index ≠ ia32TscDeadline → value = 0#64) := by
  unfold VmxCpu.readMsr at h
  refine ⟨?_, ?_⟩
  · rintro m rfl
    cases m with
    | fsBase => exact Vmcs.read_eq h
    | gsBase => exact Vmcs.read_eq h
    | efer => exact Vmcs.read_eq h
  · intro hno hdeadline
    have hfs : index ≠ Vmx.ia32FsBase := hno .fsBase
    have hgs : index ≠ Vmx.ia32GsBase := hno .gsBase
    have hefer : index ≠ Vmx.ia32Efer := hno .efer
    rw [if_neg hfs, if_neg hgs, if_neg hefer, if_neg hdeadline] at h
    exact (Except.ok.inj h).symm

theorem vmx_rdmsr_reads {env : HostEnv} {r : Handled VmxCpu} {value : FileMsr → BitVec 64}
    (h : c.handle env .rdmsr = .ok r) (hfile : ∀ m : FileMsr, c.vmcs.value m.field = value m) :
    ReadsFile value c.regs.msrIndex r.cpu.regs := by
  obtain ⟨word, hread, h⟩ := bind_ok h
  obtain ⟨c1, hskip, h⟩ := bind_ok h
  obtain ⟨len, rfl⟩ := skip_ok hskip
  rw [← Except.ok.inj h]
  obtain ⟨hin, hout⟩ := readMsr_reads hread
  exact readsFile_of_word (fun m hm => (hin m hm).trans (hfile m)) hout c.regs len

end Vmx

/-! ## AMD-V -/

section Svm
variable {c c' : SvmCpu}

def SvmFile (c : SvmCpu) (log : List TimerEvent) : Prop :=
  ∀ m : FileMsr, c.vmcb.readU64 m.slot = m.stored (fileValue log m)

/-- The guest has not changed the bases by other means than WRMSR. -/
def SvmUntouched (c : SvmCpu) (i : SvmTurn) : Prop :=
  ∀ o ∈ [Svm.fsBase, Svm.gsBase], i.input.exit.vmcb.readU64 o =
    (SvmCpu.enter { c with regs := i.regs } i.input.entryTsc).vmcb.readU64 o

theorem svm_new_file (ncr3 iopmPa msrpmPa cpuId entryPoint guestRsp : BitVec 64) :
    SvmFile (SvmCpu.new ncr3 iopmPa msrpmPa cpuId entryPoint guestRsp) [] := by
  intro m
  cases m with
  | fsBase => exact Vmcb.readU64_stores rfl
  | gsBase => exact Vmcb.readU64_stores rfl
  | efer => exact Vmcb.readU64_stores rfl

theorem write_slot (c : SvmCpu) (m m' : FileMsr) (value : BitVec 64) :
    (c.write m'.slot (m'.stored value)).vmcb.readU64 m.slot =
      if m'.index = m.index then m.stored value else c.vmcb.readU64 m.slot := by
  by_cases hm : m' = m
  · rw [hm, if_pos rfl]
    exact Vmcb.readU64_writeU64 _ _
  · rw [if_neg (fun h => hm (FileMsr.index_inj h))]
    apply Vmcb.readU64_writeU64_other
    revert hm
    cases m <;> cases m' <;> decide

theorem svm_writeMsr_file (c : SvmCpu) (tsc : BitVec 64) (index : BitVec 32) (value : BitVec 64) (m : FileMsr) :
    (c.writeMsr tsc index value).vmcb.readU64 m.slot =
      if index = m.index then m.stored value else c.vmcb.readU64 m.slot := by
  unfold SvmCpu.writeMsr
  by_cases hfs : index = Svm.ia32FsBase
  · rw [if_pos hfs, hfs]
    exact write_slot c m .fsBase value
  rw [if_neg hfs]
  by_cases hgs : index = Svm.ia32GsBase
  · rw [if_pos hgs, hgs]
    exact write_slot c m .gsBase value
  rw [if_neg hgs]
  by_cases hefer : index = Svm.ia32Efer
  · rw [if_pos hefer, hefer]
    exact write_slot c m .efer value
  rw [if_neg hefer]
  have hm : index ≠ m.index := by
    cases m
    · exact hfs
    · exact hgs
    · exact hefer
  rw [if_neg hm]
  split <;> rfl

theorem exitState_file {log : List TimerEvent} (hfile : SvmFile c log) {i : SvmTurn} (hsame : SvmUntouched c i)
    (m : FileMsr) : (exitState c i).vmcb.readU64 m.slot = m.stored (fileValue log m) := by
  have hother : (SvmCpu.enter { c with regs := i.regs } i.input.entryTsc).vmcb.readU64 m.slot =
      m.stored (fileValue log m) := by
    rw [Svm.enter_other _ _ (by cases m <;> decide)]
    exact hfile m
  rw [← hother]
  cases m with
  | fsBase => exact (Vmcb.readU64_saved _ _ Svm.fsBase (by decide)).trans (hsame _ (by decide))
  | gsBase => exact (Vmcb.readU64_saved _ _ Svm.gsBase (by decide)).trans (hsame _ (by decide))
  | efer => exact Vmcb.readU64_kept _ _ saveEfer (by decide)

theorem lastWritten_before (index : BitVec 32) (c : SvmCpu) (i : SvmTurn) :
    lastWritten index (eventsBefore c i) = none := by
  unfold eventsBefore pollEvents
  split
  · rfl
  · split <;> rfl

theorem svm_turn_file {log : List TimerEvent} (hfile : SvmFile c log) {i : SvmTurn} (hsame : SvmUntouched c i)
    (hc : (Svm.turn c i).1 = some c') : SvmFile c' (log ++ (Svm.turn c i).2) := by
  cases hrun : SvmCpu.run { c with regs := i.regs } i.input with
  | error e =>
    rw [turn_error hrun] at hc
    cases hc
  | ok r =>
    have hhandle : (exitState c i).handle i.input.env ((exitState c i).vmcb.readU64 exitcodeField) =
        .ok r := hrun
    rw [turn_ok hrun] at hc ⊢
    obtain rfl := Option.some.inj hc
    intro m
    rw [← List.append_assoc, fileValue_append, fileValue_append, lastWritten_before, Option.getD_none]
    unfold Svm.exitEvents
    rcases SvmCpu.handle_ok hhandle with ⟨hmsr, hwrite, hr⟩ | ⟨hno, regs, hr⟩
    · have hslot : r.cpu.vmcb.readU64 m.slot =
          if (exitState c i).regs.msrIndex = m.index then m.stored (exitState c i).regs.edxEax
          else (exitState c i).vmcb.readU64 m.slot := by
        rw [hr]
        exact svm_writeMsr_file (exitState c i) _ _ _ m
      have hw : isWrmsr (exitState c i) := ⟨hmsr, hwrite⟩
      rw [if_pos hw, hslot, lastWritten_wrote, exitState_file hfile hsame]
      split <;> rfl
    · have hno' : ¬ isWrmsr (exitState c i) := hno
      rw [if_neg hno', hr]
      exact exitState_file hfile hsame m

/-- The VMCB keeps bit 12 of EFER set; the guest does not see it. -/
theorem stored_visible (value : BitVec 64) : (value ||| eferSvme) &&& ~~~eferSvme = value &&& ~~~eferSvme := by
  apply BitVec.eq_of_getLsbD_eq
  intro i hi
  simp only [BitVec.getLsbD_and, BitVec.getLsbD_or, BitVec.getLsbD_not, hi, decide_true, Bool.true_and]
  cases value.getLsbD i <;> cases eferSvme.getLsbD i <;> rfl

theorem svm_readMsr_reads (index : BitVec 32) {value : FileMsr → BitVec 64}
    (hfile : ∀ m : FileMsr, c.vmcb.readU64 m.slot = m.stored (value m)) :
    (∀ m : FileMsr, index = m.index → c.readMsr index = m.visible (value m)) ∧
      ((∀ m : FileMsr, index ≠ m.index) → index ≠ ia32TscDeadline → c.readMsr index = 0#64) := by
  refine ⟨?_, ?_⟩
  · rintro m rfl
    cases m with
    | fsBase => exact hfile .fsBase
    | gsBase => exact hfile .gsBase
    | efer =>
      have hefer : c.vmcb.readU64 saveEfer = value .efer ||| eferSvme := hfile .efer
      show c.vmcb.readU64 saveEfer &&& ~~~eferSvme = value .efer &&& ~~~eferSvme
      rw [hefer, stored_visible]
  · intro hno hdeadline
    have hfs : index ≠ Svm.ia32FsBase := hno .fsBase
    have hgs : index ≠ Svm.ia32GsBase := hno .gsBase
    have hefer : index ≠ Svm.ia32Efer := hno .efer
    rw [SvmCpu.readMsr, if_neg hfs, if_neg hgs, if_neg hefer, if_neg hdeadline]

def SvmAccess (i : SvmTurn) : Prop := i.input.exit.vmcb.readU64 exitcodeField = ExitCode.msr

theorem svm_run_msr {i : SvmTurn} (hi : SvmAccess i) :
    SvmCpu.run { c with regs := i.regs } i.input = (exitState c i).handle i.input.env ExitCode.msr := by
  have hcode : (exitState c i).vmcb.readU64 exitcodeField = ExitCode.msr :=
    (Vmcb.readU64_saved _ _ exitcodeField (by decide)).trans hi
  rw [← hcode]
  rfl

theorem handle_msr (c : SvmCpu) (env : HostEnv) : ∃ r, c.handle env ExitCode.msr = .ok r := by
  unfold SvmCpu.handle
  rw [if_neg (by decide), if_neg (by decide), if_neg (by decide), if_neg (by decide), if_pos rfl]
  split <;> exact ⟨_, rfl⟩

theorem svm_run_returns {i : SvmTurn} (hi : SvmAccess i) :
    ∃ r, SvmCpu.run { c with regs := i.regs } i.input = .ok r := by
  rw [svm_run_msr hi]
  exact handle_msr _ _

theorem svm_turn_returns {i : SvmTurn} (hi : SvmAccess i) : ∃ c', (Svm.turn c i).1 = some c' := by
  obtain ⟨r, hrun⟩ := svm_run_returns (c := c) hi
  rw [turn_ok hrun]
  exact ⟨r.cpu, rfl⟩

theorem svm_rdmsr_reads {i : SvmTurn} (hi : SvmAccess i)
    (hread : i.input.exit.vmcb.readU64 exitinfo1 &&& 1#64 = 0#64) {value : FileMsr → BitVec 64}
    (hfile : ∀ m : FileMsr, (exitState c i).vmcb.readU64 m.slot = m.stored (value m)) {r : Handled SvmCpu}
    (h : SvmCpu.run { c with regs := i.regs } i.input = .ok r) :
    ReadsFile (fun m => m.visible (value m)) i.input.exit.regs.msrIndex r.cpu.regs := by
  have hinfo : (exitState c i).vmcb.readU64 exitinfo1 = i.input.exit.vmcb.readU64 exitinfo1 :=
    Vmcb.readU64_saved _ _ exitinfo1 (by decide)
  have hindex : (exitState c i).regs.msrIndex = i.input.exit.regs.msrIndex := by
    simp only [exitState, SvmCpu.saveGuestRegisters, SvmCpu.exited, GuestRegisters.msrIndex]
  rw [svm_run_msr hi] at h
  rw [← hindex]
  cases SvmCpu.handle_handles h with
  | wrmsr hwrite =>
    rw [hinfo] at hwrite
    exact absurd hread hwrite
  | rdmsr _ =>
    obtain ⟨hin, hout⟩ := svm_readMsr_reads (exitState c i).regs.msrIndex hfile
    exact readsFile_of_word hin hout (exitState c i).regs 2#64

end Svm

/-! ## Whole runs -/

/-- On either backend, after any run in which the guest itself leaves FS base and GS base alone, an RDMSR returns what
the file holds. A run of MSR accesses goes through, if the VMCS has all fields. -/
theorem msr_register_file (h : VmxCpu.HostCpu)
    (pointer apicAccessHpa iopmPa msrpmPa cpuId entryPoint guestRsp : BitVec 64) :
    (∀ c, VmxCpu.new h pointer apicAccessHpa cpuId entryPoint guestRsp = .ok c →
      (∀ is c', Along Vmx.turn VmxUntouched c is → (Machine.run Vmx.turn c is).1 = some c' →
        ∀ i r, VmxUntouched c' i → i.input.exit.basic = some .rdmsr →
          VmxCpu.run { c' with regs := i.regs } i.input = .ok r →
          ReadsFile (fileValue (Machine.run Vmx.turn c is).2) (i.input.exit.regs.rcx.setWidth 32) r.cpu.regs) ∧
      ((∀ f, h.supported f = true) → ∀ is, (∀ j ∈ is, VmxAccess j) →
        ∃ c', (Machine.run Vmx.turn c is).1 = some c' ∧ ∀ i, VmxAccess i →
          ∃ r, VmxCpu.run { c' with regs := i.regs } i.input = .ok r)) ∧
    (∀ is c', Along Svm.turn SvmUntouched (SvmCpu.new pointer iopmPa msrpmPa cpuId entryPoint guestRsp) is →
      (Machine.run Svm.turn (SvmCpu.new pointer iopmPa msrpmPa cpuId entryPoint guestRsp) is).1 = some c' →
        ∀ i r, SvmUntouched c' i → SvmAccess i → i.input.exit.vmcb.readU64 exitinfo1 &&& 1#64 = 0#64 →
          SvmCpu.run { c' with regs := i.regs } i.input = .ok r →
          ReadsFile (fun m => m.visible (fileValue (Machine.run Svm.turn
            (SvmCpu.new pointer iopmPa msrpmPa cpuId entryPoint guestRsp) is).2 m))
            (i.input.exit.regs.rcx.setWidth 32) r.cpu.regs) ∧
    ∀ is, (∀ j ∈ is, SvmAccess j) →
      ∃ c', (Machine.run Svm.turn (SvmCpu.new pointer iopmPa msrpmPa cpuId entryPoint guestRsp) is).1 = some c' ∧
        ∀ i, SvmAccess i → ∃ r, SvmCpu.run { c' with regs := i.regs } i.input = .ok r := by
  refine ⟨?_, ?_, ?_⟩
  · intro c hc
    refine ⟨?_, ?_⟩
    · intro is c' hC hrun i r hsame hexit hi
      have hfile := run_linked VmxFile (fun _ _ _ hfile hsame _ => vmx_turn_file hfile hsame) (new_file hc) hC hrun
      obtain ⟨entered, henter, hdispatch⟩ := run_dispatch hi
      obtain ⟨rip, rsp, rflags, basic, hbasic, hhandle⟩ := dispatch_handle hdispatch
      obtain rfl := Option.some.inj (hexit.symm.trans hbasic)
      exact vmx_rdmsr_reads hhandle (exited_file hfile hsame henter)
    · intro hall is his
      have hcomplete : Complete c := fun f => (congrFun (new_supported hc) f).trans (hall f)
      obtain ⟨c', hrun, hc'⟩ := run_reaches Complete VmxAccess (fun _ _ hs hi => turn_returns hs hi) hcomplete his
      refine ⟨c', hrun, fun i hi => ?_⟩
      obtain ⟨r, hr, -⟩ := run_returns hc' hi
      exact ⟨r, hr⟩
  · intro is c' hC hrun i r hsame hi hread hr
    have hfile := run_linked SvmFile (fun _ _ _ hfile hsame _ => svm_turn_file hfile hsame)
      (svm_new_file pointer iopmPa msrpmPa cpuId entryPoint guestRsp) hC hrun
    exact svm_rdmsr_reads hi hread (exitState_file hfile hsame) hr
  · intro is his
    obtain ⟨c', hrun, -⟩ := run_reaches (fun _ => True) SvmAccess (fun c i _ hi => by
      obtain ⟨c', hc'⟩ := svm_turn_returns (c := c) hi
      exact ⟨c', hc', trivial⟩) (s := SvmCpu.new pointer iopmPa msrpmPa cpuId entryPoint guestRsp) trivial his
    exact ⟨c', hrun, fun i hi => svm_run_returns hi⟩

/-- An exit for RDMSR (0) or WRMSR (1), with the base of FS as the processor has saved it. -/
def msrAccess (write : BitVec 64) (regs : GuestRegisters) (fs : BitVec 64) : SvmTurn :=
  ⟨GuestRegisters.zero, svmCall 0#64 regs
    [(exitcodeField, ExitCode.msr), (exitinfo1, write), (Svm.fsBase, fs), (saveRax, regs.rax)]⟩

/-- WRMSR to the FS base: the upper halves of the operands are garbage. -/
def writeFs : SvmTurn :=
  msrAccess 1#64 { GuestRegisters.zero with
    rcx := 0xFFFFFFFFC0000100#64, rax := 0xFFFFFFFF00005000#64, rdx := 0xFFFFFFFF00000007#64 } 0#64

/-- RDMSR after it. -/
def readAt (index : BitVec 64) : SvmTurn :=
  msrAccess 0#64 { GuestRegisters.zero with rcx := index, rax := 0xFFFFFFFF00000000#64 } 0x700005000#64

/-- What the processor saves does not depend on the index. -/
theorem readAt_vmcb (index : BitVec 64) : (readAt index).input.exit.vmcb = (readAt 0#64).input.exit.vmcb := rfl

theorem readAt_access (index : BitVec 64) :
    SvmAccess (readAt index) ∧ (readAt index).input.exit.vmcb.readU64 exitinfo1 &&& 1#64 = 0#64 := by
  unfold SvmAccess
  rw [readAt_vmcb]
  decide +kernel

theorem readAt_untouched {c : SvmCpu} {index : BitVec 64}
    (hc : (Machine.run Svm.turn (SvmCpu.new 0 0 0 0 0 0) [writeFs]).1 = some c) : SvmUntouched c (readAt index) := by
  have hbases : (Machine.run Svm.turn (SvmCpu.new 0 0 0 0 0 0) [writeFs]).1.map (fun c =>
      ((SvmCpu.enter { c with regs := GuestRegisters.zero } 0#64).vmcb.readU64 Svm.fsBase,
        (SvmCpu.enter { c with regs := GuestRegisters.zero } 0#64).vmcb.readU64 Svm.gsBase)) =
      some (0x700005000#64, 0#64) := by decide +kernel
  rw [hc, Option.map_some, Option.some.injEq, Prod.mk.injEq] at hbases
  simp only [SvmUntouched, List.forall_mem_cons, List.not_mem_nil, false_implies, implies_true, and_true]
  rw [readAt_vmcb]
  exact ⟨(by decide +kernel : _ = 0x700005000#64).trans hbases.1.symm,
    (by decide +kernel : _ = 0#64).trans hbases.2.symm⟩

/-- The guest reads the FS base that it has written, the GS base of the boot, and zero from an MSR that is not
emulated. -/
theorem msr_register_file_bases :
    ∃ c' fs gs other, (Machine.run Svm.turn (SvmCpu.new 0 0 0 0 0 0) [writeFs]).1 = some c' ∧
      SvmCpu.run { c' with regs := GuestRegisters.zero } (readAt 0xC0000100#64).input = .ok fs ∧
      fs.cpu.regs.rax = 0x5000#64 ∧ fs.cpu.regs.rdx = 0x7#64 ∧
      SvmCpu.run { c' with regs := GuestRegisters.zero } (readAt 0xC0000101#64).input = .ok gs ∧
      gs.cpu.regs.rax = 0#64 ∧ gs.cpu.regs.rdx = 0#64 ∧
      SvmCpu.run { c' with regs := GuestRegisters.zero } (readAt 0x1a0#64).input = .ok other ∧
      other.cpu.regs.rax = 0#64 ∧ other.cpu.regs.rdx = 0#64 := by
  obtain ⟨-, hreads, hreturns⟩ := msr_register_file blankHost 0 0 0 0 0 0 0
  have hwrite : SvmAccess writeFs := by
    unfold SvmAccess
    decide +kernel
  obtain ⟨c', hrun, hnext⟩ := hreturns [writeFs] (by simpa using hwrite)
  have hfirst : Along Svm.turn SvmUntouched (SvmCpu.new 0 0 0 0 0 0) [writeFs] := by
    unfold Along
    refine ⟨by unfold SvmUntouched; decide +kernel, ?_⟩
    intro c _
    exact trivial
  have hfile : ∀ index r, SvmCpu.run { c' with regs := GuestRegisters.zero } (readAt index).input = .ok r →
      ReadsFile _ (index.setWidth 32) r.cpu.regs := fun index r hr =>
    hreads [writeFs] c' hfirst hrun (readAt index) r (readAt_untouched hrun) (readAt_access index).1
      (readAt_access index).2 hr
  obtain ⟨fs, hfs⟩ := hnext (readAt 0xC0000100#64) (readAt_access _).1
  obtain ⟨gs, hgs⟩ := hnext (readAt 0xC0000101#64) (readAt_access _).1
  obtain ⟨other, hother⟩ := hnext (readAt 0x1a0#64) (readAt_access _).1
  have hfsRead := (hfile _ fs hfs).file .fsBase (by decide)
  have hgsRead := (hfile _ gs hgs).file .gsBase (by decide)
  have hotherRead := (hfile _ other hother).other (fun m => by cases m <;> decide) (by decide)
  have hfsValue : fileValue (Machine.run Svm.turn (SvmCpu.new 0 0 0 0 0 0) [writeFs]).2 .fsBase = 0x700005000#64 := by
    decide +kernel
  have hgsValue : fileValue (Machine.run Svm.turn (SvmCpu.new 0 0 0 0 0 0) [writeFs]).2 .gsBase = 0#64 := by
    decide +kernel
  unfold Returns at hfsRead hgsRead hotherRead
  simp only [FileMsr.visible, hfsValue] at hfsRead
  simp only [FileMsr.visible, hgsValue] at hgsRead
  exact ⟨c', fs, gs, other, hrun, hfs, hfsRead.1, hfsRead.2, hgs, hgsRead.1, hgsRead.2, hother, hotherRead.1,
    hotherRead.2⟩

end Rhyve.Backend
