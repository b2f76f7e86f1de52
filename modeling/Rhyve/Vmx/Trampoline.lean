import Rhyve.Vmx.Routine

/-! # The VM-entry trampoline `run_vmx_vm` (`vmx/run.rs`)

* `runVmxVm_exits`: a call at the stack pointer that is in the host-state area returns to its caller with the
  registers it was made with, the guest was entered with the registers of the block, and the block holds
  the ones it exited with.
* `runVmxVm_elsewhere`: a call at another stack pointer returns with the one of the launch.
* `runVmxVm_fails`: a call whose VM-entry fails returns with ZF in RAX, and the guest was not entered.
-/

namespace Rhyve.Vmx
open Backend WordMem X86
set_option autoImplicit false

namespace Trampoline

/-! ## VMLAUNCH after a failed VMRESUME -/

/-- From the failed VMRESUME up to the VMWRITE of the host's RIP. -/
def hostWritten (addr : ℕ → BitVec 64) (m : Machine VmxHw) : Machine VmxHw :=
  let m := effects [.pushf, .movImm .r15 0x4400#64] m
  let m := effects [.cmp .r15 5#64] (VmxHw.sem (.vmread .r15 .r15) m).1
  let m := effects [.pop .r15, .movImm .r15 0x6C14#64] m
  let m := ((VmxHw.sem (.vmwrite .r15 .rsp) m).1).set .r14 (addr 3)
  (VmxHw.sem (.vmwrite .r15 .r14) (effects [.movImm .r15 0x6C16#64] m)).1

/-- R14 and R15 are the guest's again. -/
def reloaded (m : Machine VmxHw) : Machine VmxHw :=
  effects [.load .r15 .rsp 0, .load .r14 .r15 (offset .r14), .load .r15 .r15 (offset .r15)] m

theorem reloaded_mem (m : Machine VmxHw) : (reloaded m).mem = m.mem := rfl

theorem reloaded_hw (m : Machine VmxHw) : (reloaded m).hw = m.hw := rfl

theorem reloaded_gpr {m : Machine VmxHw} {p : BitVec 64} (h : WordMem.load m.mem (m.gpr .rsp) = p) (r : Reg) :
    (reloaded m).gpr r = if r = .r14 ∨ r = .r15 then WordMem.load m.mem (slot p r) else m.gpr r := by
  have haddr : m.address .rsp 0 = m.gpr .rsp := BitVec.add_zero _
  have hload : Plain.effect m (.load .r15 .rsp 0) = m.set .r15 p := by
    show m.set .r15 (WordMem.load m.mem (m.address .rsp 0)) = _
    rw [haddr, h]
  unfold reloaded
  rw [effects_cons, hload]
  cases r <;> rfl

theorem exec_launch {addr : ℕ → BitVec 64} {m : Machine VmxHw} (herror : m.hw.error = 5#64)
    (code : List (Line VmxInstr)) :
    exec VmxHw.sem addr (launchCode ++ code) none m =
      exec VmxHw.sem addr (.ext .vmlaunch :: .jmp 4 :: code) none (reloaded (hostWritten addr m)) := by
  have hzero : setStatus (setStatus m.rflags 0#64) (subFlags m.hw.error 5#64) &&& zeroFlag ≠ 0#64 := by
    rw [setStatus_zeroFlag, subFlags_zeroFlag]
    exact herror
  -- JZ after the comparison of the VM-instruction error with 5.
  show exec VmxHw.sem addr _ (if setStatus (setStatus m.rflags 0#64) (subFlags m.hw.error 5#64) &&& zeroFlag ≠ 0#64
    then some (addr 2) else none) _ = _
  rw [if_pos hzero]
  show (if addr 2 = addr 2 then _ else _) = _
  rw [if_pos rfl]
  rfl

theorem hostWritten_gpr (addr : ℕ → BitVec 64) (m : Machine VmxHw) {r : Reg} (hr : r ∈ gprs)
    (h : ¬ (r = .r14 ∨ r = .r15)) : (hostWritten addr m).gpr r = m.gpr r := by
  cases r with
  | rsp => exact absurd hr (by decide)
  | r14 => exact absurd (Or.inl rfl) h
  | r15 => exact absurd (Or.inr rfl) h
  | _ => rfl

theorem AtEntry.failed {m me : Machine VmxHw} {ret : BitVec 64} (h : AtEntry m me ret) (error : BitVec 64) :
    AtEntry m (VmxHw.vmFailValid me error).1 ret := ⟨h.rsp, h.frame, h.gpr, h.elsewhere⟩

theorem AtEntry.pushed {m mf : Machine VmxHw} {ret : BitVec 64} (h : AtEntry m mf ret) (value : BitVec 64) :
    Holds (store mf.mem (m.gpr .rsp - 136#64) value) (m.gpr .rsp - 128#64) (Trampoline.frame m ret) ∧
      ∀ a, OffFrame (m.gpr .rsp) 17 a →
        WordMem.load (store mf.mem (m.gpr .rsp - 136#64) value) a = WordMem.load m.mem a := by
  refine ⟨?_, ?_⟩
  · apply holds_of_load h.frame
    intro k hk
    have hk17 : k < 17 := hk
    apply load_store_apart
    refine ⟨?_, ?_⟩
    · bv_omega
    · bv_omega
  · intro a ha
    rw [load_store_apart (ha 16 (by decide))]
    exact h.elsewhere a ha

/-- The launch path does not change what the guest is entered with. -/
theorem AtEntry.launch {m mf : Machine VmxHw} {ret : BitVec 64} (h : AtEntry m mf ret) (addr : ℕ → BitVec 64)
    (hsep : FrameApart (m.gpr .rsp) (m.gpr .rdi) 17) :
    AtEntry m (reloaded (hostWritten addr mf)) ret ∧ (reloaded (hostWritten addr mf)).hw =
      { mf.hw with hostRsp := m.gpr .rsp - 128#64, hostRip := addr 3 } := by
  have hpush : mf.gpr .rsp - 8#64 = m.gpr .rsp - 136#64 := by
    rw [h.rsp]
    bv_omega
  have hpop : m.gpr .rsp - 136#64 + 8#64 = m.gpr .rsp - 128#64 := by bv_omega
  have hmem : (hostWritten addr mf).mem = store mf.mem (mf.gpr .rsp - 8#64) mf.rflags := rfl
  have hrsp : (hostWritten addr mf).gpr .rsp = mf.gpr .rsp - 8#64 + 8#64 := rfl
  have hhw : (hostWritten addr mf).hw = { mf.hw with hostRsp := mf.gpr .rsp - 8#64 + 8#64, hostRip := addr 3 } := rfl
  rw [hpush] at hmem
  rw [hpush, hpop] at hrsp hhw
  obtain ⟨hframe, helse⟩ := h.pushed mf.rflags
  rw [← hmem] at hframe helse
  have htop : WordMem.load (hostWritten addr mf).mem ((hostWritten addr mf).gpr .rsp) = m.gpr .rdi := by
    rw [hrsp]
    exact hframe.1
  refine ⟨⟨?_, ?_, ?_, ?_⟩, (reloaded_hw _).trans hhw⟩
  · rw [reloaded_gpr htop, if_neg (by decide)]
    exact hrsp
  · rw [reloaded_mem]
    exact hframe
  · intro r hr
    rw [reloaded_gpr htop]
    by_cases h' : r = .r14 ∨ r = .r15
    · rw [if_pos h']
      exact helse _ (hsep.offFrame _)
    · rw [if_neg h', hostWritten_gpr addr mf hr h']
      exact h.gpr r hr
  · rw [reloaded_mem]
    exact helse

/-! ## A VMRESUME that fails for another reason -/

/-- From the failed VMRESUME up to the jump behind the entry. -/
def reported (m : Machine VmxHw) : Machine VmxHw :=
  let m := effects [.pushf, .movImm .r15 0x4400#64] m
  effects [.cmp .r15 5#64, .popf] (VmxHw.sem (.vmread .r15 .r15) m).1

theorem skip_to_restore (P : Placement) (m : Machine VmxHw) :
    exec VmxHw.sem P.addr (.label 3 :: exit) (some (P.addr 4)) m = exec VmxHw.sem P.addr restore none m := by
  show (if P.addr 3 = P.addr 4 then _ else exec VmxHw.sem P.addr exit (some (P.addr 4)) m) = _
  rw [if_neg P.distinct34, exit, exec_skip]
  exact if_pos rfl

theorem exec_report (P : Placement) {m : Machine VmxHw} (herror : m.hw.error ≠ 5#64) :
    exec VmxHw.sem P.addr (launchCode ++ .label 3 :: exit) none m =
      exec VmxHw.sem P.addr restore none (reported m) := by
  have hzero : ¬ setStatus (setStatus m.rflags 0#64) (subFlags m.hw.error 5#64) &&& zeroFlag ≠ 0#64 := by
    rw [setStatus_zeroFlag, subFlags_zeroFlag]
    exact herror
  show exec VmxHw.sem P.addr _ (if setStatus (setStatus m.rflags 0#64) (subFlags m.hw.error 5#64) &&& zeroFlag ≠ 0#64
    then some (P.addr 2) else none) _ = _
  rw [if_neg hzero]
  show (if P.addr 2 = P.addr 4 then _ else exec VmxHw.sem P.addr (.label 3 :: exit) (some (P.addr 4)) _) = _
  rw [if_neg P.distinct24, skip_to_restore]
  rfl

theorem AtEntry.report {m mf : Machine VmxHw} {ret : BitVec 64} (h : AtEntry m mf ret) :
    (reported mf).gpr .rsp = m.gpr .rsp - 128#64 ∧ (reported mf).rflags = mf.rflags ∧
      (reported mf).hw = mf.hw ∧
      Holds (reported mf).mem (m.gpr .rsp - 128#64) (Trampoline.frame m ret) ∧
      ∀ a, OffFrame (m.gpr .rsp) 17 a → WordMem.load (reported mf).mem a = WordMem.load m.mem a := by
  have hpush : mf.gpr .rsp - 8#64 = m.gpr .rsp - 136#64 := by
    rw [h.rsp]
    bv_omega
  have hmem : (reported mf).mem = store mf.mem (mf.gpr .rsp - 8#64) mf.rflags := rfl
  have hrsp : (reported mf).gpr .rsp = mf.gpr .rsp - 8#64 + 8#64 := rfl
  have hflags : (reported mf).rflags = WordMem.load (store mf.mem (mf.gpr .rsp - 8#64) mf.rflags)
    (mf.gpr .rsp - 8#64) := rfl
  obtain ⟨hframe, helse⟩ := h.pushed mf.rflags
  rw [hpush] at hmem
  rw [← hmem] at hframe helse
  refine ⟨?_, ?_, rfl, hframe, helse⟩
  · rw [hrsp, BitVec.sub_add_cancel]
    exact h.rsp
  · rw [hflags]
    exact load_store_same _ _ _

/-! ## The whole routine -/

theorem skip_launch (P : Placement) (code : List (Line VmxInstr)) (m : Machine VmxHw) :
    exec VmxHw.sem P.addr (launchCode ++ .label 3 :: code) (some (P.addr 3)) m =
      exec VmxHw.sem P.addr code none m := by
  show (if P.addr 2 = P.addr 3 then _ else if P.addr 3 = P.addr 3 then _ else _) = _
  rw [if_neg P.distinct23, if_pos rfl]

theorem exec_resume (P : Placement) (m : Machine VmxHw) :
    exec VmxHw.sem P.addr runVmxVm none m =
      exec VmxHw.sem P.addr (launchCode ++ .label 3 :: exit)
        (VmxHw.sem .vmresume (effects enterCode m)).2 (VmxHw.sem .vmresume (effects enterCode m)).1 :=
  exec_plains enterCode (.ext .vmresume :: (launchCode ++ .label 3 :: exit)) m

def atLaunch (P : Placement) (m : Machine VmxHw) : Machine VmxHw :=
  reloaded (hostWritten P.addr (VmxHw.vmFailValid (effects enterCode m) 5#64).1)

/-- A call with a VMCS that has not been launched. -/
theorem exec_first (P : Placement) {m : Machine VmxHw} (h : m.hw.launched = false) :
    exec VmxHw.sem P.addr runVmxVm none m =
      exec VmxHw.sem P.addr (.jmp 4 :: .label 3 :: exit)
        (VmxHw.sem .vmlaunch (atLaunch P m)).2 (VmxHw.sem .vmlaunch (atLaunch P m)).1 := by
  have hresume : VmxHw.sem .vmresume (effects enterCode m) = VmxHw.vmFailValid (effects enterCode m) 5#64 := by
    show (if (effects enterCode m).hw.launched then _ else _) = _
    rw [effects_hw, h]
    rfl
  rw [exec_resume, hresume]
  exact exec_launch rfl (.label 3 :: exit)

theorem atLaunch_atEntry (P : Placement) {m : Machine VmxHw} {ret : BitVec 64}
    (hret : Holds m.mem (m.gpr .rsp) [ret]) (hsep : FrameApart (m.gpr .rsp) (m.gpr .rdi) 17) :
    AtEntry m (atLaunch P m) ret ∧ (atLaunch P m).hw =
      { m.hw with error := 5#64, hostRsp := m.gpr .rsp - 128#64, hostRip := P.addr 3 } := by
  have hfailed := (enter_atEntry hret hsep).failed 5#64
  obtain ⟨hentry, hhw⟩ := hfailed.launch P.addr hsep
  rw [VmxHw.vmFailValid_hw, effects_hw] at hhw
  unfold atLaunch
  exact ⟨hentry, hhw⟩

/-- What `run_vmx_vm` has done after a call that was made as `m` and entered the guest. -/
structure Exited (P : Placement) (m m' : Machine VmxHw) (guest : Reg → BitVec 64) : Prop where
  rsp : m'.gpr .rsp = m.gpr .rsp + 8#64
  gpr : ∀ r, r ≠ .rax → r ≠ .rsp → m'.gpr r = m.gpr r
  rax : m'.gpr .rax = 2#64
  rflags : m'.rflags = 2#64
  entered : ∃ e, m'.hw.entered = some e ∧ ∀ r ∈ gprs, e r = WordMem.load m.mem (slot (m.gpr .rdi) r)
  block : ∀ r ∈ gprs, WordMem.load m'.mem (slot (m.gpr .rdi) r) = guest r
  elsewhere : ∀ a, OffFrame (m.gpr .rsp) 17 a → (∀ r ∈ gprs, Apart (slot (m.gpr .rdi) r) a) →
    WordMem.load m'.mem a = WordMem.load m.mem a
  launched : m'.hw.launched = true
  hostRsp : m'.hw.hostRsp = m.gpr .rsp - 128#64
  hostRip : m'.hw.hostRip = P.addr 3

theorem AtEntry.exits {P : Placement} {m me : Machine VmxHw} {ret : BitVec 64} (h : AtEntry m me ret)
    (hsep : FrameApart (m.gpr .rsp) (m.gpr .rdi) 17) (hrsp : me.hw.hostRsp = m.gpr .rsp - 128#64)
    (hrip : me.hw.hostRip = P.addr 3) (guest : Reg → BitVec 64) :
    ∃ m', exec VmxHw.sem P.addr Trampoline.exit none (VmxHw.atExit me guest) = some (m', ret) ∧
      Exited P m m' guest := by
  obtain ⟨m', hexec, hreturned⟩ := exit_returns P.addr (VmxHw.atExit me guest) hsep hrsp h.frame
  have hhw := hreturned.hw
  refine ⟨m', hexec, ?_⟩
  refine ⟨hreturned.rsp, hreturned.gpr, hreturned.rax, hreturned.rflags, ⟨me.gpr, ?_, h.gpr⟩, ?_, ?_, ?_, ?_, ?_⟩
  · rw [hhw]
    rfl
  · intro r hr
    refine (hreturned.block r hr).trans ?_
    cases r with
    | rsp => exact absurd hr (by decide)
    | _ => rfl
  · intro a ha hslot
    exact (hreturned.elsewhere a ha hslot).trans (h.elsewhere a ha)
  · rw [hhw]
    rfl
  · rw [hhw]
    exact hrsp
  · rw [hhw]
    exact hrip

end Trampoline

open Trampoline

theorem VmxHw.attemptEntry_exits {m : Machine VmxHw} {guest : Reg → BitVec 64} (h : m.hw.attempt = .exits guest) :
    VmxHw.attemptEntry m = (VmxHw.atExit m guest, some m.hw.hostRip) := by
  unfold VmxHw.attemptEntry
  rw [h]

theorem exec_resumed (P : Placement) {m : Machine VmxHw} {guest : Reg → BitVec 64}
    (hattempt : m.hw.attempt = .exits guest) (hlaunched : m.hw.launched = true) (hrip : m.hw.hostRip = P.addr 3) :
    exec VmxHw.sem P.addr runVmxVm none m =
      exec VmxHw.sem P.addr Trampoline.exit none (VmxHw.atExit (effects enterCode m) guest) := by
  have hhw := effects_hw enterCode m
  have hresume : VmxHw.sem .vmresume (effects enterCode m) =
      (VmxHw.atExit (effects enterCode m) guest, some (P.addr 3)) := by
    show (if (effects enterCode m).hw.launched then _ else _) = _
    rw [hhw, hlaunched, if_pos rfl, VmxHw.attemptEntry_exits (by rw [hhw]; exact hattempt), hhw, hrip]
  rw [exec_resume, hresume, skip_launch]

/-- A call that enters the guest, at the stack pointer of the host-state area if the VMCS has been launched. -/
theorem runVmxVm_exits (P : Placement) {m : Machine VmxHw} {ret : BitVec 64} {guest : Reg → BitVec 64}
    (hret : Holds m.mem (m.gpr .rsp) [ret]) (hsep : FrameApart (m.gpr .rsp) (m.gpr .rdi) 17)
    (hattempt : m.hw.attempt = .exits guest)
    (hhost : m.hw.launched = true → m.hw.hostRsp = m.gpr .rsp - 128#64 ∧ m.hw.hostRip = P.addr 3) :
    ∃ m', exec VmxHw.sem P.addr runVmxVm none m = some (m', ret) ∧ Exited P m m' guest := by
  cases hlaunched : m.hw.launched with
  | true =>
    obtain ⟨hrsp, hrip⟩ := hhost hlaunched
    have hhw := effects_hw enterCode m
    rw [exec_resumed P hattempt hlaunched hrip]
    exact (enter_atEntry hret hsep).exits hsep (by rw [hhw]; exact hrsp) (by rw [hhw]; exact hrip) guest
  | false =>
    -- VMRESUME fails with error 5, and the launch path has written this call's stack pointer.
    obtain ⟨hentry, hhw⟩ := atLaunch_atEntry P hret hsep
    have hlaunch : VmxHw.sem .vmlaunch (atLaunch P m) = (VmxHw.atExit (atLaunch P m) guest, some (P.addr 3)) := by
      show (if (atLaunch P m).hw.launched then _ else _) = _
      rw [VmxHw.attemptEntry_exits (by rw [hhw]; exact hattempt), hhw]
      show (if m.hw.launched then _ else _) = _
      rw [hlaunched]
      rfl
    rw [exec_first P hlaunched, hlaunch]
    show ∃ m', (if P.addr 3 = P.addr 3 then _ else _) = some (m', ret) ∧ _
    rw [if_pos rfl]
    exact hentry.exits hsep (by rw [hhw]) (by rw [hhw]) guest

/-- A call at any stack pointer: it returns on the stack of the host-state area. -/
theorem runVmxVm_elsewhere (P : Placement) {m : Machine VmxHw} {guest : Reg → BitVec 64}
    (hattempt : m.hw.attempt = .exits guest) (hlaunched : m.hw.launched = true) (hrip : m.hw.hostRip = P.addr 3) :
    ∃ m' ret, exec VmxHw.sem P.addr runVmxVm none m = some (m', ret) ∧ m'.gpr .rsp = m.hw.hostRsp + 136#64 ∧
      m'.rflags = 2#64 ∧ m'.hw.entered.isSome = true := by
  obtain ⟨m', ret, hexec, hrsp, hflags, hhw'⟩ :=
    exit_elsewhere P.addr (VmxHw.atExit (effects enterCode m) guest)
  have hstack : (VmxHw.atExit (effects enterCode m) guest).gpr .rsp = (effects enterCode m).hw.hostRsp := rfl
  rw [exec_resumed P hattempt hlaunched hrip]
  rw [hstack, effects_hw] at hrsp
  refine ⟨m', ret, hexec, hrsp, hflags, ?_⟩
  rw [hhw']
  rfl

/-- What `run_vmx_vm` has done after a call that was made as `m` and did not enter the guest. -/
structure Trampoline.Failed (m m' : Machine VmxHw) (error : BitVec 64) : Prop where
  rsp : m'.gpr .rsp = m.gpr .rsp + 8#64
  gpr : ∀ r, r ≠ .rax → r ≠ .rsp → m'.gpr r = m.gpr r
  rax : m'.gpr .rax &&& zeroFlag ≠ 0#64
  entered : m'.hw.entered = m.hw.entered
  error : m'.hw.error = error
  launched : m'.hw.launched = m.hw.launched
  host : m.hw.launched = true → m'.hw.hostRsp = m.hw.hostRsp ∧ m'.hw.hostRip = m.hw.hostRip

theorem restore_failed {addr : ℕ → BitVec 64} {m mx : Machine VmxHw} {ret error : BitVec 64}
    (hrsp : mx.gpr .rsp = m.gpr .rsp - 128#64) (hframe : Holds mx.mem (m.gpr .rsp - 128#64) (frame m ret))
    (hflags : mx.rflags &&& zeroFlag ≠ 0#64) (hentered : mx.hw.entered = m.hw.entered)
    (herror : mx.hw.error = error) (hlaunched : mx.hw.launched = m.hw.launched)
    (hhost : m.hw.launched = true → mx.hw.hostRsp = m.hw.hostRsp ∧ mx.hw.hostRip = m.hw.hostRip) :
    ∃ m', exec VmxHw.sem addr restore none mx = some (m', ret) ∧ Failed m m' error := by
  have haddr : m.gpr .rsp - 128#64 + 8#64 = m.gpr .rsp - 120#64 := by bv_omega
  have hstack := hframe.2
  rw [haddr] at hstack
  obtain ⟨m', hexec, hrestored⟩ := restore_restores addr mx hrsp hstack
  refine ⟨m', hexec, hrestored.rsp, hrestored.gpr, ?_, ?_, ?_, ?_, ?_⟩
  · rw [hrestored.rax]
    exact hflags
  · rw [hrestored.hw]
    exact hentered
  · rw [hrestored.hw]
    exact herror
  · rw [hrestored.hw]
    exact hlaunched
  · rw [hrestored.hw]
    exact hhost

theorem vmFailValid_flags (m : Machine VmxHw) (error : BitVec 64) :
    (VmxHw.vmFailValid m error).1.rflags &&& zeroFlag ≠ 0#64 := by
  show setStatus m.rflags zeroFlag &&& zeroFlag ≠ 0#64
  rw [setStatus_zeroFlag]
  decide

theorem VmxHw.attemptEntry_fails {m : Machine VmxHw} {error : BitVec 64} {h5 : error ≠ 5#64}
    (h : m.hw.attempt = .fails error h5) : VmxHw.attemptEntry m = VmxHw.vmFailValid m error := by
  unfold VmxHw.attemptEntry
  rw [h]

theorem runVmxVm_fails (P : Placement) {m : Machine VmxHw} {ret error : BitVec 64} {h5 : error ≠ 5#64}
    (hret : Holds m.mem (m.gpr .rsp) [ret]) (hsep : FrameApart (m.gpr .rsp) (m.gpr .rdi) 17)
    (hattempt : m.hw.attempt = .fails error h5) :
    ∃ m', exec VmxHw.sem P.addr runVmxVm none m = some (m', ret) ∧ Failed m m' error := by
  cases hlaunched : m.hw.launched with
  | true =>
    have hhw := effects_hw enterCode m
    have hresume : VmxHw.sem .vmresume (effects enterCode m) = VmxHw.vmFailValid (effects enterCode m) error := by
      show (if (effects enterCode m).hw.launched then _ else _) = _
      rw [hhw, hlaunched, if_pos rfl, VmxHw.attemptEntry_fails (by rw [hhw]; exact hattempt)]
    have hentry := (enter_atEntry hret hsep).failed error
    obtain ⟨hrsp, hflags, hhw', hframe, -⟩ := hentry.report
    rw [VmxHw.vmFailValid_hw, hhw] at hhw'
    rw [exec_resume, hresume]
    show ∃ m', exec VmxHw.sem P.addr (launchCode ++ .label 3 :: Trampoline.exit) none _ = some (m', ret) ∧ _
    rw [exec_report P (by rw [VmxHw.vmFailValid_hw]; exact h5)]
    refine restore_failed hrsp hframe ?_ ?_ ?_ ?_ ?_
    · rw [hflags]
      exact vmFailValid_flags _ _
    · rw [hhw']
    · rw [hhw']
    · rw [hhw']
    · intro _
      rw [hhw']
      exact ⟨rfl, rfl⟩
  | false =>
    obtain ⟨hentry, hhw⟩ := atLaunch_atEntry P hret hsep
    have hlaunch : VmxHw.sem .vmlaunch (atLaunch P m) = VmxHw.vmFailValid (atLaunch P m) error := by
      show (if (atLaunch P m).hw.launched then _ else _) = _
      rw [VmxHw.attemptEntry_fails (by rw [hhw]; exact hattempt), hhw]
      show (if m.hw.launched then _ else _) = _
      rw [hlaunched]
      rfl
    have hfailed := hentry.failed error
    have hhw' := VmxHw.vmFailValid_hw (atLaunch P m) error
    rw [hhw] at hhw'
    rw [exec_first P hlaunched, hlaunch]
    show ∃ m', exec VmxHw.sem P.addr (.label 3 :: Trampoline.exit) (some (P.addr 4)) _ = some (m', ret) ∧ _
    rw [skip_to_restore]
    refine restore_failed hfailed.rsp hfailed.frame (vmFailValid_flags _ _) ?_ ?_ ?_ ?_
    · rw [hhw']
    · rw [hhw']
    · rw [hhw']
    · intro h
      rw [hlaunched] at h
      cases h

end Rhyve.Vmx
