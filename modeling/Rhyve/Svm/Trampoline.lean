import Rhyve.Backend.Block

/-! # The VMRUN trampoline `run_svm_vm` (`svm/run.rs`)

* `runSvmVm`: the routine, instruction by instruction.
* `SvmHw`: what VMSAVE, VMLOAD and VMRUN work on. The hidden segment state is a parameter `H`; every VMCB has
  room for one.
* `runSvmVm_exits`: a call returns to its caller with its callee-saved registers, flags and hidden state, the
  guest was entered with the registers of the block, and the block holds the ones it exited with. RAX is not
  among them: it is in the VMCB.
-/

namespace Rhyve.Svm
open Backend WordMem X86
set_option autoImplicit false

/-! ## The routine -/

/-- VMSAVE, VMLOAD and VMRUN have RAX as their operand. -/
inductive SvmInstr where
  | vmsave
  | vmload
  | vmrun
  | clgi
  | stgi

namespace Trampoline

/-- The host's registers and the arguments are pushed; RAX gets the scratch VMCB. -/
def saveCode : List Plain :=
  [.push .rbx, .push .rbp, .push .r12, .push .r13, .push .r14, .push .r15,
    .push .rdi, .push .rsi, .push .rdx,
    .mov .rax .rdx]

/-- The guest's registers, RDI last. -/
def loadCode : List Plain :=
  [.load .rbx .rdi (offset .rbx), .load .rcx .rdi (offset .rcx), .load .rdx .rdi (offset .rdx),
    .load .rsi .rdi (offset .rsi), .load .rbp .rdi (offset .rbp), .load .r8 .rdi (offset .r8),
    .load .r9 .rdi (offset .r9), .load .r10 .rdi (offset .r10), .load .r11 .rdi (offset .r11),
    .load .r12 .rdi (offset .r12), .load .r13 .rdi (offset .r13), .load .r14 .rdi (offset .r14),
    .load .r15 .rdi (offset .r15), .load .rdi .rdi (offset .rdi)]

/-- RAX, which is not the guest's any more, gets the address of the block from the stack. -/
def storeCode : List Plain :=
  [.xchg .rax .rsp 16,
    .store .rax (offset .rbx) .rbx, .store .rax (offset .rcx) .rcx, .store .rax (offset .rdx) .rdx,
    .store .rax (offset .rsi) .rsi, .store .rax (offset .rdi) .rdi, .store .rax (offset .rbp) .rbp,
    .store .rax (offset .r8) .r8, .store .rax (offset .r9) .r9, .store .rax (offset .r10) .r10,
    .store .rax (offset .r11) .r11, .store .rax (offset .r12) .r12, .store .rax (offset .r13) .r13,
    .store .rax (offset .r14) .r14, .store .rax (offset .r15) .r15]

def restoreCode : List Plain :=
  [.add .rsp 24#64, .pop .r15, .pop .r14, .pop .r13, .pop .r12, .pop .rbp, .pop .rbx]

/-- From the #VMEXIT on. -/
def exit : List (Line SvmInstr) :=
  .ext .vmsave :: .plain (.load .rax .rsp 0) :: .ext .vmload :: .ext .stgi ::
    (storeCode.map .plain ++ (restoreCode.map .plain ++ [.ret]))

def runSvmVm : List (Line SvmInstr) :=
  saveCode.map .plain ++ .ext .vmsave :: (loadCode.map .plain ++
    .ext .clgi :: .plain (.load .rax .rsp 8) :: .ext .vmload :: .ext .vmrun :: exit)

end Trampoline

/-! ## The processor -/

/-- The hardware that the trampoline touches: the global interrupt flag and the state that VMSAVE and VMLOAD
move. -/
structure SvmHw (H : Type) where
  gif : Bool
  hidden : H
  /-- The hidden state in the VMCB at an address. -/
  area : BitVec 64 → H
  /-- The registers and the hidden state of the guest at the #VMEXIT. -/
  guest : Reg → BitVec 64
  guestHidden : H
  entered : Option (Reg → BitVec 64)

namespace SvmHw
variable {H : Type}

def vmsave (m : Machine (SvmHw H)) : Machine (SvmHw H) :=
  { m with hw := { m.hw with area := Function.update m.hw.area (m.gpr .rax) m.hw.hidden } }

def vmload (m : Machine (SvmHw H)) : Machine (SvmHw H) :=
  { m with hw := { m.hw with hidden := m.hw.area (m.gpr .rax) } }

/-- The VMRUN saves RSP, RIP, RFLAGS and RAX and the #VMEXIT restores them. It clears GIF. -/
def vmrun (m : Machine (SvmHw H)) : Machine (SvmHw H) :=
  { m with
    gpr := Function.update (Function.update m.hw.guest .rax (m.gpr .rax)) .rsp (m.gpr .rsp)
    hw := { m.hw with gif := false, hidden := m.hw.guestHidden, entered := some m.gpr } }

def setGif (m : Machine (SvmHw H)) (value : Bool) : Machine (SvmHw H) :=
  { m with hw := { m.hw with gif := value } }

def sem : SvmInstr → Machine (SvmHw H) → Machine (SvmHw H) × Option (BitVec 64)
  | .vmsave, m => (vmsave m, none)
  | .vmload, m => (vmload m, none)
  | .vmrun, m => (vmrun m, none)
  | .clgi, m => (setGif m false, none)
  | .stgi, m => (setGif m true, none)

end SvmHw

/-! ## Up to the entry -/

namespace Trampoline
variable {H : Type}

/-- The registers on the stack, the last one on top. -/
def saved : List Reg := [.rbx, .rbp, .r12, .r13, .r14, .r15, .rdi, .rsi, .rdx]

/-- The stack when the guest is entered. -/
def frame (m : Machine (SvmHw H)) (ret : BitVec 64) : List (BitVec 64) := saved.reverse.map m.gpr ++ [ret]

/-- The machine `me` at the VMRUN of a call that was made as `m`. -/
structure AtEntry (m me : Machine (SvmHw H)) (ret : BitVec 64) : Prop where
  rsp : me.gpr .rsp = m.gpr .rsp - 72#64
  rax : me.gpr .rax = m.gpr .rsi
  frame : Holds me.mem (m.gpr .rsp - 72#64) (frame m ret)
  gpr : ∀ r ∈ gprs, r ≠ .rax → me.gpr r = WordMem.load m.mem (slot (m.gpr .rdi) r)
  elsewhere : ∀ a, OffFrame (m.gpr .rsp) 9 a → WordMem.load me.mem a = WordMem.load m.mem a
  rflags : me.rflags = m.rflags
  hidden : me.hw.area (m.gpr .rdx) = m.hw.hidden
  guest : me.hw.guest = m.hw.guest

theorem saveCode_eq (m : Machine (SvmHw H)) :
    effects saveCode m =
      { m with
        gpr := Function.update (Function.update m.gpr .rsp (m.gpr .rsp - 72#64)) .rax (m.gpr .rdx)
        mem := pushWords m.mem (m.gpr .rsp) (saved.map m.gpr) } := by
  have hcode : saveCode = saved.map Plain.push ++ [Plain.mov .rax .rdx] := rfl
  rw [hcode, effects_append, effects_pushes saved (by decide)]
  rfl

/-- The registers that are loaded while RDI is the base. -/
def loaded : List Reg := [.rbx, .rcx, .rdx, .rsi, .rbp, .r8, .r9, .r10, .r11, .r12, .r13, .r14, .r15]

theorem loadCode_eq (m : Machine (SvmHw H)) :
    effects loadCode m = { m with gpr := (effects loadCode m).gpr } ∧
      (effects loadCode m).gpr .rsp = m.gpr .rsp ∧
      ∀ r ∈ gprs, r ≠ .rax → (effects loadCode m).gpr r = WordMem.load m.mem (slot (m.gpr .rdi) r) := by
  have hcode : loadCode = (loaded.map fun r => (r, offset r)).map (fun x => Plain.load x.1 .rdi x.2) ++
      [Plain.load .rdi .rdi (offset .rdi)] := rfl
  rw [hcode, effects_append, effects_loads _ (by decide)]
  refine ⟨rfl, rfl, ?_⟩
  intro r hr hrax
  cases r with
  | rsp => exact absurd hr (by decide)
  | rax => exact absurd rfl hrax
  | _ => rfl

/-- The machine with the registers of the guest, but for RAX. -/
def filled (m : Machine (SvmHw H)) : Machine (SvmHw H) := effects loadCode (SvmHw.vmsave (effects saveCode m))

theorem filled_eq (m : Machine (SvmHw H)) :
    filled m =
      { m with
        gpr := (filled m).gpr
        mem := pushWords m.mem (m.gpr .rsp) (saved.map m.gpr)
        hw := { m.hw with area := Function.update m.hw.area (m.gpr .rdx) m.hw.hidden } } := by
  have hloads := (loadCode_eq (SvmHw.vmsave (effects saveCode m))).1
  rw [saveCode_eq] at hloads
  unfold filled
  rw [saveCode_eq, hloads]
  rfl

theorem filled_gpr (m : Machine (SvmHw H)) :
    (filled m).gpr .rsp = m.gpr .rsp - 72#64 ∧ ∀ r ∈ gprs, r ≠ .rax →
      (filled m).gpr r = WordMem.load (pushWords m.mem (m.gpr .rsp) (saved.map m.gpr)) (slot (m.gpr .rdi) r) := by
  obtain ⟨-, hrsp, hgpr⟩ := loadCode_eq (SvmHw.vmsave (effects saveCode m))
  rw [saveCode_eq] at hrsp hgpr
  unfold filled
  rw [saveCode_eq]
  exact ⟨hrsp, hgpr⟩

def atEntry (m : Machine (SvmHw H)) : Machine (SvmHw H) :=
  SvmHw.vmload (effects [.load .rax .rsp 8] (SvmHw.setGif (filled m) false))

theorem exec_enter {addr : ℕ → BitVec 64} (m : Machine (SvmHw H)) :
    exec SvmHw.sem addr runSvmVm none m = exec SvmHw.sem addr exit none (SvmHw.vmrun (atEntry m)) := by
  unfold runSvmVm
  rw [exec_plains]
  exact exec_plains loadCode _ (SvmHw.vmsave (effects saveCode m))

/-- CLGI, `mov rax, [rsp + 8]` and VMLOAD. -/
theorem vmload_guest {m : Machine (SvmHw H)} {v : BitVec 64} (h : WordMem.load m.mem (m.gpr .rsp + 8#64) = v) :
    SvmHw.vmload (effects [.load .rax .rsp 8] (SvmHw.setGif m false)) =
      { m with
        gpr := Function.update m.gpr .rax v
        hw := { m.hw with gif := false, hidden := m.hw.area v } } := by
  rw [← h]
  rfl

theorem enter_atEntry {m : Machine (SvmHw H)} {ret : BitVec 64} (hret : Holds m.mem (m.gpr .rsp) [ret])
    (hsep : FrameApart (m.gpr .rsp) (m.gpr .rdi) 9) : AtEntry m (atEntry m) ret := by
  have hframe : Holds (pushWords m.mem (m.gpr .rsp) (saved.map m.gpr)) (m.gpr .rsp - 72#64) (frame m ret) :=
    hret.pushWords (by decide : 8 * (9 + 1) < 2 ^ 64)
  have helse : ∀ a, OffFrame (m.gpr .rsp) 9 a →
      WordMem.load (pushWords m.mem (m.gpr .rsp) (saved.map m.gpr)) a = WordMem.load m.mem a := by
    intro a ha
    apply load_pushWords
    intro k hk
    exact ha k hk
  have hfilled := filled_eq m
  obtain ⟨hrsp, hgpr⟩ := filled_gpr m
  unfold atEntry
  generalize filled m = mf at hfilled hrsp hgpr
  have hmem : mf.mem = pushWords m.mem (m.gpr .rsp) (saved.map m.gpr) := by rw [hfilled]
  have hhw : mf.hw = { m.hw with area := Function.update m.hw.area (m.gpr .rdx) m.hw.hidden } := by rw [hfilled]
  -- The address of the guest's VMCB is below the top of the stack.
  have hvmcb : WordMem.load mf.mem (mf.gpr .rsp + 8#64) = m.gpr .rsi := by
    rw [hrsp, hmem]
    exact hframe.2.1
  rw [vmload_guest hvmcb]
  refine ⟨?_, ?_, ?_, ?_, ?_, ?_, ?_, ?_⟩
  · show Function.update mf.gpr Reg.rax (m.gpr .rsi) Reg.rsp = _
    rw [Function.update_of_ne (by decide)]
    exact hrsp
  · show Function.update mf.gpr Reg.rax (m.gpr .rsi) Reg.rax = _
    rw [Function.update_self]
  · rw [← hmem] at hframe
    exact hframe
  · intro r hr hrax
    show Function.update mf.gpr Reg.rax (m.gpr .rsi) r = _
    rw [Function.update_of_ne hrax, hgpr r hr hrax]
    exact helse _ (hsep.offFrame _)
  · rw [← hmem] at helse
    exact helse
  · rw [hfilled]
  · show mf.hw.area (m.gpr .rdx) = _
    rw [hhw]
    exact Function.update_self _ _ _
  · show mf.hw.guest = _
    rw [hhw]

/-! ## From the exit on -/

/-- The machine when GIF is set again: RAX is the address of the host's VMCB. -/
def unmasked (m : Machine (SvmHw H)) : Machine (SvmHw H) :=
  SvmHw.setGif (SvmHw.vmload (effects [.load .rax .rsp 0] (SvmHw.vmsave m))) true

theorem unmasked_eq {m : Machine (SvmHw H)} {v : BitVec 64} (h : WordMem.load m.mem (m.gpr .rsp) = v) :
    unmasked m =
      { m with
        gpr := Function.update m.gpr .rax v
        hw := { m.hw with
          gif := true
          area := Function.update m.hw.area (m.gpr .rax) m.hw.hidden
          hidden := Function.update m.hw.area (m.gpr .rax) m.hw.hidden v } } := by
  have haddr : m.gpr .rsp + 0#64 = m.gpr .rsp := BitVec.add_zero _
  have hload : effects [.load .rax .rsp 0] (SvmHw.vmsave m) = (SvmHw.vmsave m).set .rax v := by
    show (SvmHw.vmsave m).set .rax (WordMem.load m.mem (m.gpr .rsp + 0#64)) = _
    rw [haddr, h]
  unfold unmasked
  rw [hload]
  rfl

def stored : List Reg := [.rbx, .rcx, .rdx, .rsi, .rdi, .rbp, .r8, .r9, .r10, .r11, .r12, .r13, .r14, .r15]

theorem storeCode_eq {m : Machine (SvmHw H)} {p : BitVec 64} (h : WordMem.load m.mem (m.gpr .rsp + 16#64) = p) :
    effects storeCode m =
      { m with
        gpr := Function.update m.gpr .rax p
        mem := storeWords (store m.mem (m.gpr .rsp + 16#64) (m.gpr .rax)) p (slots m.gpr stored) } := by
  have hcode : storeCode = Plain.xchg .rax .rsp 16 :: (stored.map fun r => (offset r, r)).map
      (fun x => Plain.store .rax x.1 x.2) := rfl
  have hxchg : Plain.effect m (.xchg .rax .rsp 16) =
      { m with
        gpr := Function.update m.gpr .rax p
        mem := store m.mem (m.gpr .rsp + 16#64) (m.gpr .rax) } := by
    rw [← h]
    rfl
  have hslots : ((stored.map fun r => (offset r, r)).map fun x => (x.1, Function.update m.gpr .rax p x.2)) =
      slots m.gpr stored := rfl
  have hbase : Function.update m.gpr .rax p .rax = p := rfl
  rw [hcode, effects_cons, hxchg, effects_stores, hslots]
  dsimp only
  rw [hbase]

def popped : List Reg := [.r15, .r14, .r13, .r12, .rbp, .rbx]

/-- `add rsp, 24`, the POPs and RET. -/
theorem restore_eq {addr : ℕ → BitVec 64} {m : Machine (SvmHw H)} {sp ret : BitVec 64} {vs : List (BitVec 64)}
    (hlen : vs.length = 6) (hrsp : m.gpr .rsp = sp - 72#64) (hstack : Holds m.mem (sp - 48#64) (vs ++ [ret])) :
    exec SvmHw.sem addr (restoreCode.map .plain ++ [.ret]) none m =
      some (⟨Function.update (assign (Function.update m.gpr .rsp (sp - 48#64)) (popped.zip vs))
          .rsp (sp + 8#64),
        setStatus m.rflags (addFlags (m.gpr .rsp) 24#64), m.mem, m.hw⟩, ret) := by
  have hcode : restoreCode = .add .rsp 24#64 :: popped.map .pop := rfl
  have hsum : m.gpr .rsp + 24#64 = sp - 48#64 := by
    rw [hrsp]
    bv_omega
  have hadd : Plain.effect m (.add .rsp 24#64) =
      { m with
        gpr := Function.update m.gpr .rsp (sp - 48#64)
        rflags := setStatus m.rflags (addFlags (m.gpr .rsp) 24#64) } := by
    rw [← hsum]
    rfl
  have hlen' : popped.length = vs.length := hlen.symm
  have hsp : sp - 48#64 + BitVec.ofNat 64 (8 * popped.length) = sp := by
    show sp - 48#64 + 48#64 = sp
    bv_omega
  have htop : WordMem.load m.mem sp = ret := by
    have hlast := (Holds.append hstack).1
    rw [hlen] at hlast
    have haddr : sp - 48#64 + BitVec.ofNat 64 (8 * 6) = sp := by bv_omega
    rw [haddr] at hlast
    exact hlast
  have hpops := effects_pops (m := ⟨Function.update m.gpr .rsp (sp - 48#64),
    setStatus m.rflags (addFlags (m.gpr .rsp) 24#64), m.mem, m.hw⟩) hlen' (by decide) hstack
  have hbase : Function.update m.gpr .rsp (sp - 48#64) .rsp = sp - 48#64 := rfl
  dsimp only at hpops
  rw [hbase, hsp] at hpops
  rw [exec_plains, hcode, effects_cons, hadd, hpops]
  exact exec_ret rfl htop

theorem exec_exit {addr : ℕ → BitVec 64} (m : Machine (SvmHw H)) :
    exec SvmHw.sem addr exit none m =
      exec SvmHw.sem addr (restoreCode.map .plain ++ [.ret]) none (effects storeCode (unmasked m)) :=
  exec_plains storeCode (restoreCode.map .plain ++ [.ret]) (unmasked m)

def exitMem (m : Machine (SvmHw H)) (a p value : BitVec 64) : Memory :=
  storeWords (store m.mem a value) p (slots m.gpr stored)

theorem exitMem_elsewhere {m : Machine (SvmHw H)} {b p value a : BitVec 64} (hb : Apart b a)
    (hslot : ∀ r ∈ gprs, r ≠ .rax → Apart (slot p r) a) :
    WordMem.load (exitMem m b p value) a = WordMem.load m.mem a := by
  have hin : ∀ r ∈ stored, r ∈ gprs ∧ r ≠ .rax := by decide
  rw [exitMem, load_slots_apart fun r hr => hslot r (hin r hr).1 (hin r hr).2, load_store_apart hb]

theorem load_exitMem (m : Machine (SvmHw H)) (a p value : BitVec 64) {r : Reg} (hr : r ∈ gprs) (hrax : r ≠ .rax) :
    WordMem.load (exitMem m a p value) (slot p r) = m.gpr r := by
  have hin : r ∈ stored := by
    revert hrax hr
    cases r <;> decide
  exact load_slots (by decide) hin

/-- The machine `m'` after a call that was made as `m` and exited as `mx`. -/
structure Returned (m mx m' : Machine (SvmHw H)) : Prop where
  rsp : m'.gpr .rsp = m.gpr .rsp + 8#64
  gpr : ∀ r ∈ calleeSaved, m'.gpr r = m.gpr r
  rflags : ∃ status, m'.rflags = setStatus mx.rflags status
  block : ∀ r ∈ gprs, r ≠ .rax → WordMem.load m'.mem (slot (m.gpr .rdi) r) = mx.gpr r
  elsewhere : ∀ a, OffFrame (m.gpr .rsp) 9 a → (∀ r ∈ gprs, r ≠ .rax → Apart (slot (m.gpr .rdi) r) a) →
    WordMem.load m'.mem a = WordMem.load mx.mem a
  gif : m'.hw.gif = true
  hidden : m'.hw.hidden = Function.update mx.hw.area (mx.gpr .rax) mx.hw.hidden (m.gpr .rdx)
  entered : m'.hw.entered = mx.hw.entered

theorem exit_returns (addr : ℕ → BitVec 64) {m : Machine (SvmHw H)} (mx : Machine (SvmHw H)) {ret : BitVec 64}
    (hsep : FrameApart (m.gpr .rsp) (m.gpr .rdi) 9) (hrsp : mx.gpr .rsp = m.gpr .rsp - 72#64)
    (hframe : Holds mx.mem (m.gpr .rsp - 72#64) (frame m ret)) :
    ∃ m', exec SvmHw.sem addr exit none mx = some (m', ret) ∧ Returned m mx m' := by
  obtain ⟨htop, -, hbase, hrest⟩ := hframe
  have hword : m.gpr .rsp - 72#64 + 8#64 + 8#64 = m.gpr .rsp - 72#64 + 16#64 := by bv_omega
  have haddr : m.gpr .rsp - 72#64 + 16#64 + 8#64 = m.gpr .rsp - 48#64 := by bv_omega
  have hslot : m.gpr .rsp - 72#64 + 16#64 = m.gpr .rsp - 56#64 := by bv_omega
  rw [hword] at hbase hrest
  rw [haddr] at hrest
  rw [← hrsp] at htop hbase
  have hunmasked := unmasked_eq htop
  have hstored := storeCode_eq (m := unmasked mx) (p := m.gpr .rdi) (by rw [hunmasked]; exact hbase)
  have hmem : (effects storeCode (unmasked mx)).mem =
      exitMem mx (m.gpr .rsp - 56#64) (m.gpr .rdi) (m.gpr .rdx) := by
    rw [hstored, hunmasked, ← hslot, ← hrsp]
    rfl
  have hstack : Holds (effects storeCode (unmasked mx)).mem (m.gpr .rsp - 48#64)
      (popped.map m.gpr ++ [ret]) := by
    rw [hmem]
    apply holds_of_load hrest
    intro k hk
    have hk7 : k < 7 := hk
    apply exitMem_elsewhere
    · refine ⟨?_, ?_⟩
      · bv_omega
      · bv_omega
    · intro r hr _
      have hw : m.gpr .rsp - 48#64 + BitVec.ofNat 64 (8 * k) = m.gpr .rsp - BitVec.ofNat 64 (8 * (6 - k)) := by
        bv_omega
      rw [hw]
      exact (hsep.field (by omega) (.gpr r)).symm
  have hrsp' : (effects storeCode (unmasked mx)).gpr .rsp = m.gpr .rsp - 72#64 := by
    rw [hstored, hunmasked]
    exact hrsp
  have hflags : (effects storeCode (unmasked mx)).rflags = mx.rflags := by rw [hstored, hunmasked]
  have hhw : (effects storeCode (unmasked mx)).hw = (unmasked mx).hw := effects_hw storeCode _
  refine ⟨_, (exec_exit mx).trans (restore_eq rfl hrsp' hstack), rfl, ?_,
    ⟨addFlags ((effects storeCode (unmasked mx)).gpr .rsp) 24#64, ?_⟩, ?_, ?_, ?_, ?_, ?_⟩
  · intro r hr
    cases r with
    | rbx | rbp | r12 | r13 | r14 | r15 => rfl
    | _ => exact absurd hr (by decide)
  · rw [← hflags]
  · rw [hmem]
    intro r hr hrax
    exact load_exitMem mx _ _ _ hr hrax
  · rw [hmem]
    intro a ha hslots
    exact exitMem_elsewhere (ha 6 (by decide)) hslots
  · rw [hhw, hunmasked]
  · rw [hhw, hunmasked]
  · rw [hhw, hunmasked]

/-- What `run_svm_vm` has done after a call that was made as `m`. -/
structure Exited (m m' : Machine (SvmHw H)) : Prop where
  rsp : m'.gpr .rsp = m.gpr .rsp + 8#64
  gpr : ∀ r ∈ calleeSaved, m'.gpr r = m.gpr r
  rflags : ∃ status, m'.rflags = setStatus m.rflags status
  entered : ∃ e, m'.hw.entered = some e ∧
    ∀ r ∈ gprs, r ≠ .rax → e r = WordMem.load m.mem (slot (m.gpr .rdi) r)
  block : ∀ r ∈ gprs, r ≠ .rax → WordMem.load m'.mem (slot (m.gpr .rdi) r) = m.hw.guest r
  elsewhere : ∀ a, OffFrame (m.gpr .rsp) 9 a → (∀ r ∈ gprs, r ≠ .rax → Apart (slot (m.gpr .rdi) r) a) →
    WordMem.load m'.mem a = WordMem.load m.mem a
  gif : m'.hw.gif = true
  hidden : m.gpr .rsi ≠ m.gpr .rdx → m'.hw.hidden = m.hw.hidden

theorem AtEntry.exits {addr : ℕ → BitVec 64} {m me : Machine (SvmHw H)} {ret : BitVec 64} (h : AtEntry m me ret)
    (hsep : FrameApart (m.gpr .rsp) (m.gpr .rdi) 9) :
    ∃ m', exec SvmHw.sem addr Trampoline.exit none (SvmHw.vmrun me) = some (m', ret) ∧ Exited m m' := by
  have hrsp : (SvmHw.vmrun me).gpr .rsp = m.gpr .rsp - 72#64 := h.rsp
  have hrax : (SvmHw.vmrun me).gpr .rax = m.gpr .rsi := h.rax
  have hguest : ∀ r ∈ gprs, r ≠ .rax → (SvmHw.vmrun me).gpr r = m.hw.guest r := by
    intro r hr hrax
    rw [← h.guest]
    cases r with
    | rsp => exact absurd hr (by decide)
    | rax => exact absurd rfl hrax
    | _ => rfl
  obtain ⟨m', hexec, hreturned⟩ := exit_returns addr (SvmHw.vmrun me) hsep hrsp h.frame
  refine ⟨m', hexec, hreturned.rsp, hreturned.gpr, ?_, ⟨me.gpr, hreturned.entered, h.gpr⟩, ?_, ?_,
    hreturned.gif, ?_⟩
  · obtain ⟨status, hflags⟩ := hreturned.rflags
    refine ⟨status, hflags.trans ?_⟩
    rw [← h.rflags]
    rfl
  · intro r hr hrax
    exact (hreturned.block r hr hrax).trans (hguest r hr hrax)
  · intro a ha hslots
    exact (hreturned.elsewhere a ha hslots).trans (h.elsewhere a ha)
  · intro hne
    rw [hreturned.hidden, hrax, Function.update_of_ne (Ne.symm hne)]
    exact h.hidden

end Trampoline

open Trampoline

theorem runSvmVm_exits {H : Type} (addr : ℕ → BitVec 64) {m : Machine (SvmHw H)} {ret : BitVec 64}
    (hret : Holds m.mem (m.gpr .rsp) [ret]) (hsep : FrameApart (m.gpr .rsp) (m.gpr .rdi) 9) :
    ∃ m', exec SvmHw.sem addr runSvmVm none m = some (m', ret) ∧ Exited m m' := by
  rw [exec_enter]
  exact (enter_atEntry hret hsep).exits hsep

end Rhyve.Svm
