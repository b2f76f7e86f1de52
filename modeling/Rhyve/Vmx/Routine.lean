import Rhyve.Backend.Block

/-! # The instructions of `run_vmx_vm` (`vmx/run.rs`)

* `runVmxVm`: the routine, instruction by instruction.
* `VmxHw`: the launch state of the current VMCS and the fields of it that the routine uses.
* `enter_atEntry`: up to the VM-entry, the host's registers are pushed and the guest's loaded.
* `exit_returns`: from the VM-exit on, the guest's are stored and the host's popped. `exit_elsewhere`: what the exit
  goes back to if the stack pointer is another one.
-/

namespace Rhyve.Vmx
open Backend WordMem X86
set_option autoImplicit false

/-! ## The routine -/

/-- The VMX instructions of the trampoline. -/
inductive VmxInstr where
  | vmresume
  | vmlaunch
  | vmread (dst field : Reg)
  | vmwrite (field src : Reg)

namespace Trampoline

/-- The host's registers are pushed and those of the guest loaded, R15 last. -/
def enterCode : List Plain :=
  [.push .rax, .push .rcx, .push .rdx, .push .rbx, .push .rbp, .push .rsi, .push .rdi, .push .r8, .push .r9,
    .push .r10, .push .r11, .push .r12, .push .r13, .push .r14, .push .r15,
    .mov .r15 .rdi, .push .r15,
    .load .rax .r15 (offset .rax), .load .rbx .r15 (offset .rbx), .load .rcx .r15 (offset .rcx),
    .load .rdx .r15 (offset .rdx), .load .rdi .r15 (offset .rdi), .load .rsi .r15 (offset .rsi),
    .load .rbp .r15 (offset .rbp), .load .r8 .r15 (offset .r8), .load .r9 .r15 (offset .r9),
    .load .r10 .r15 (offset .r10), .load .r11 .r15 (offset .r11), .load .r12 .r15 (offset .r12),
    .load .r13 .r15 (offset .r13), .load .r14 .r15 (offset .r14), .load .r15 .r15 (offset .r15)]

/-- VM-exit: stores the guest's registers. -/
def exitCode : List Plain :=
  [.xchg .r15 .rsp 0,
    .store .r15 (offset .rax) .rax, .store .r15 (offset .rbx) .rbx, .store .r15 (offset .rcx) .rcx,
    .store .r15 (offset .rdx) .rdx, .store .r15 (offset .rsi) .rsi, .store .r15 (offset .rdi) .rdi,
    .store .r15 (offset .rbp) .rbp, .store .r15 (offset .r8) .r8, .store .r15 (offset .r9) .r9,
    .store .r15 (offset .r10) .r10, .store .r15 (offset .r11) .r11, .store .r15 (offset .r12) .r12,
    .store .r15 (offset .r13) .r13, .store .r15 (offset .r14) .r14,
    .load .rax .rsp 0, .store .r15 (offset .r15) .rax]

/-- The host's registers come back. RFLAGS, with the result of the entry, is returned in RAX. -/
def restoreCode : List Plain :=
  [.pop .rax,
    .pop .r15, .pop .r14, .pop .r13, .pop .r12, .pop .r11, .pop .r10, .pop .r9, .pop .r8, .pop .rdi, .pop .rsi,
    .pop .rbp, .pop .rbx, .pop .rdx, .pop .rcx, .pop .rax,
    .pushf, .pop .rax]

/-- After a failed VMRESUME: VMLAUNCH, if the VMCS has not been launched. -/
def launchCode : List (Line VmxInstr) :=
  [.plain .pushf,
    .plain (.movImm .r15 0x4400#64), .ext (.vmread .r15 .r15), .plain (.cmp .r15 5#64), .jz 2,
    .plain .popf, .jmp 4,
    .label 2,
    .plain (.pop .r15),
    .plain (.movImm .r15 0x6C14#64), .ext (.vmwrite .r15 .rsp),
    .lea .r14 3,
    .plain (.movImm .r15 0x6C16#64), .ext (.vmwrite .r15 .r14),
    .plain (.load .r15 .rsp 0), .plain (.load .r14 .r15 (offset .r14)), .plain (.load .r15 .r15 (offset .r15)),
    .ext .vmlaunch,
    .jmp 4]

/-- From label 4 on. -/
def restore : List (Line VmxInstr) := restoreCode.map .plain ++ [.ret]

/-- From label 3 on. -/
def exit : List (Line VmxInstr) := exitCode.map .plain ++ .label 4 :: restore

def runVmxVm : List (Line VmxInstr) := enterCode.map .plain ++ .ext .vmresume :: (launchCode ++ .label 3 :: exit)

end Trampoline

/-! ## The processor -/

/-- What the processor does with an entry that is not refused for the launch state. -/
inductive Attempt where
  /-- The registers of the guest at the VM-exit. -/
  | exits (guest : Reg → BitVec 64)
  /-- VMfailValid. Error 5 is the one for the launch state. -/
  | fails (error : BitVec 64) (h : error ≠ 5#64)

/-- The VMCS as the trampoline uses it, and what the next entry will do. -/
structure VmxHw where
  launched : Bool
  hostRsp : BitVec 64
  hostRip : BitVec 64
  error : BitVec 64
  attempt : Attempt
  /-- The registers that the guest was entered with. -/
  entered : Option (Reg → BitVec 64)

namespace VmxHw

def vmFailValid (m : Machine VmxHw) (error : BitVec 64) : Machine VmxHw × Option (BitVec 64) :=
  ({ m with rflags := setStatus m.rflags zeroFlag, hw := { m.hw with error := error } }, none)

theorem vmFailValid_hw (m : Machine VmxHw) (error : BitVec 64) :
    (vmFailValid m error).1.hw = { m.hw with error := error } := rfl

/-- A VM-exit loads RSP from the host-state area and sets RFLAGS to 2. -/
def atExit (m : Machine VmxHw) (guest : Reg → BitVec 64) : Machine VmxHw :=
  { m with
    gpr := Function.update guest .rsp m.hw.hostRsp
    rflags := 2#64
    hw := { m.hw with launched := true, entered := some m.gpr } }

/-- An entry: it ends in a VM-exit, at the host's RIP, or fails. -/
def attemptEntry (m : Machine VmxHw) : Machine VmxHw × Option (BitVec 64) :=
  match m.hw.attempt with
  | .exits guest => (atExit m guest, some m.hw.hostRip)
  | .fails error _ => vmFailValid m error

/-- The VMX instructions. VMRESUME needs a launched VMCS and VMLAUNCH a clear one. -/
def sem : VmxInstr → Machine VmxHw → Machine VmxHw × Option (BitVec 64)
  | .vmresume, m => if m.hw.launched then attemptEntry m else vmFailValid m 5#64
  | .vmlaunch, m => if m.hw.launched then vmFailValid m 4#64 else attemptEntry m
  | .vmread dst field, m =>
    ({ m.set dst (if m.gpr field = 0x4400#64 then m.hw.error else 0#64) with
        rflags := setStatus m.rflags 0#64 }, none)
  | .vmwrite field src, m =>
    ({ m with
        rflags := setStatus m.rflags 0#64
        hw := { m.hw with
          hostRsp := if m.gpr field = 0x6C14#64 then m.gpr src else m.hw.hostRsp
          hostRip := if m.gpr field = 0x6C16#64 then m.gpr src else m.hw.hostRip } }, none)

end VmxHw

/-- Where the routine is in memory. -/
structure Placement where
  addr : ℕ → BitVec 64
  distinct23 : addr 2 ≠ addr 3
  distinct24 : addr 2 ≠ addr 4
  distinct34 : addr 3 ≠ addr 4

/-! ## Up to the entry -/

namespace Trampoline

/-- The registers on the stack, the last one on top. -/
def saved : List Reg :=
  [.rax, .rcx, .rdx, .rbx, .rbp, .rsi, .rdi, .r8, .r9, .r10, .r11, .r12, .r13, .r14, .r15]

/-- The stack when the guest is entered. -/
def frame (m : Machine VmxHw) (ret : BitVec 64) : List (BitVec 64) :=
  m.gpr .rdi :: (saved.reverse.map m.gpr ++ [ret])

/-- The machine `me` at the VM-entry of a call that was made as `m`. -/
structure AtEntry (m me : Machine VmxHw) (ret : BitVec 64) : Prop where
  rsp : me.gpr .rsp = m.gpr .rsp - 128#64
  frame : Holds me.mem (m.gpr .rsp - 128#64) (frame m ret)
  gpr : ∀ r ∈ gprs, me.gpr r = WordMem.load m.mem (slot (m.gpr .rdi) r)
  elsewhere : ∀ a, OffFrame (m.gpr .rsp) 17 a → WordMem.load me.mem a = WordMem.load m.mem a

/-- The registers that are loaded while R15 is the base. -/
def loaded : List Reg := [.rax, .rbx, .rcx, .rdx, .rdi, .rsi, .rbp, .r8, .r9, .r10, .r11, .r12, .r13, .r14]

theorem pushed_frame {m : Machine VmxHw} {ret : BitVec 64} (hret : Holds m.mem (m.gpr .rsp) [ret]) :
    Holds (store (pushWords m.mem (m.gpr .rsp) (saved.map m.gpr)) (m.gpr .rsp - 120#64 - 8#64) (m.gpr .rdi))
      (m.gpr .rsp - 128#64) (frame m ret) ∧
    ∀ a, OffFrame (m.gpr .rsp) 17 a → WordMem.load (store (pushWords m.mem (m.gpr .rsp) (saved.map m.gpr))
        (m.gpr .rsp - 120#64 - 8#64) (m.gpr .rdi)) a = WordMem.load m.mem a := by
  have haddr : m.gpr .rsp - 120#64 - 8#64 = m.gpr .rsp - 128#64 := by bv_omega
  refine ⟨?_, ?_⟩
  · have hpushed : Holds (pushWords m.mem (m.gpr .rsp) (saved.map m.gpr)) (m.gpr .rsp - 120#64)
        ((saved.map m.gpr).reverse ++ [ret]) := hret.pushWords (by decide : 8 * (15 + 1) < 2 ^ 64)
    have hframe := hpushed.push (by decide : 8 * (16 + 1) < 2 ^ 64) (m.gpr .rdi)
    rw [haddr] at hframe ⊢
    exact hframe
  · intro a ha
    rw [haddr, load_store_apart (ha 15 (by decide))]
    apply load_pushWords
    intro k hk
    have h15 : k < 15 := hk
    exact ha k (by omega)

theorem enter_atEntry {m : Machine VmxHw} {ret : BitVec 64} (hret : Holds m.mem (m.gpr .rsp) [ret])
    (hsep : FrameApart (m.gpr .rsp) (m.gpr .rdi) 17) : AtEntry m (effects enterCode m) ret := by
  have hcode : enterCode = saved.map Plain.push ++ ([Plain.mov .r15 .rdi, .push .r15] ++
      ((loaded.map fun r => (r, offset r)).map (fun x => Plain.load x.1 .r15 x.2) ++
        [Plain.load .r15 .r15 (offset .r15)])) := rfl
  rw [hcode, effects_append, effects_append, effects_append, effects_pushes saved (by decide),
    effects_loads _ (by decide)]
  obtain ⟨hframe, helse⟩ := pushed_frame hret
  refine ⟨?_, hframe, ?_, helse⟩
  · show m.gpr .rsp - 120#64 - 8#64 = _
    bv_omega
  · intro r hr
    refine Eq.trans ?_ (helse _ (hsep.offFrame _))
    cases r with
    | rsp => exact absurd hr (by decide)
    | _ => rfl

/-! ## From the exit on -/

/-- `pushfq; pop rax; ret` -/
theorem return_flags {addr : ℕ → BitVec 64} (m : Machine VmxHw) :
    exec VmxHw.sem addr [.ret] none (effects [.pushf, .pop .rax] m) =
      some (⟨Function.update (Function.update m.gpr .rax m.rflags) .rsp (m.gpr .rsp + 8#64), m.rflags,
        store m.mem (m.gpr .rsp - 8#64) m.rflags, m.hw⟩, WordMem.load m.mem (m.gpr .rsp)) := by
  have hcancel : m.gpr .rsp - 8#64 + 8#64 = m.gpr .rsp := by bv_omega
  have hapart : Apart (m.gpr .rsp - 8#64) (m.gpr .rsp) := by
    refine ⟨?_, ?_⟩
    · bv_omega
    · bv_omega
  have hret : WordMem.load (store m.mem (m.gpr .rsp - 8#64) m.rflags) (m.gpr .rsp - 8#64 + 8#64) =
      WordMem.load m.mem (m.gpr .rsp) := by
    rw [hcancel]
    exact load_store_apart hapart
  have hgpr : ((effects [.pushf, .pop .rax] m).drop).gpr =
      Function.update (Function.update m.gpr .rax m.rflags) .rsp (m.gpr .rsp + 8#64) := by
    funext q
    cases q with
    | rsp =>
      show m.gpr .rsp - 8#64 + 8#64 + 8#64 = m.gpr .rsp + 8#64
      rw [hcancel]
    | rax => exact load_store_same _ _ _
    | _ => rfl
  show some (Machine.mk ((effects [.pushf, .pop .rax] m).drop).gpr _ _ _, _) = _
  rw [hgpr]
  exact congrArg (fun ret => some (_, ret)) hret

/-- The registers that `restore` gives back: those on the stack, and RFLAGS in RAX. -/
def restored (m : Machine VmxHw) (sp : BitVec 64) (vs : List (BitVec 64)) : Reg → BitVec 64 :=
  Function.update (Function.update (Function.update
    (assign m.gpr ((Reg.rax :: saved.reverse).zip (WordMem.load m.mem (sp - 128#64) :: vs)))
    .rsp sp) .rax m.rflags) .rsp (sp + 8#64)

theorem restore_eq {addr : ℕ → BitVec 64} {m : Machine VmxHw} {sp ret : BitVec 64} {vs : List (BitVec 64)}
    (hlen : vs.length = 15) (hrsp : m.gpr .rsp = sp - 128#64)
    (hstack : Holds m.mem (sp - 120#64) (vs ++ [ret])) :
    exec VmxHw.sem addr restore none m =
      some (⟨restored m sp vs, m.rflags, store m.mem (sp - 8#64) m.rflags, m.hw⟩, ret) := by
  have hcode : restoreCode = (Reg.rax :: saved.reverse).map Plain.pop ++ [Plain.pushf, .pop .rax] := rfl
  have hall : Holds m.mem (m.gpr .rsp) ((WordMem.load m.mem (sp - 128#64) :: vs) ++ [ret]) := by
    rw [hrsp]
    refine ⟨rfl, ?_⟩
    have haddr : sp - 128#64 + 8#64 = sp - 120#64 := by bv_omega
    rw [haddr]
    exact hstack
  have hlen' : (Reg.rax :: saved.reverse).length = (WordMem.load m.mem (sp - 128#64) :: vs).length := by
    rw [List.length_cons, List.length_cons, hlen]
    rfl
  have hpops := effects_pops hlen' (by decide) hall
  have hsp : m.gpr .rsp + BitVec.ofNat 64 (8 * (Reg.rax :: saved.reverse).length) = sp := by
    rw [hrsp]
    show sp - 128#64 + 128#64 = sp
    bv_omega
  have htop : WordMem.load m.mem sp = ret := by
    have hlast := (Holds.append hstack).1
    rw [hlen] at hlast
    have haddr : sp - 120#64 + BitVec.ofNat 64 (8 * 15) = sp := by bv_omega
    rw [haddr] at hlast
    exact hlast
  rw [hsp] at hpops
  unfold restore
  rw [exec_plains, hcode, effects_append, hpops]
  refine (return_flags _).trans ?_
  exact congrArg (fun ret => some (_, ret)) htop

def stored : List Reg := [.rax, .rbx, .rcx, .rdx, .rsi, .rdi, .rbp, .r8, .r9, .r10, .r11, .r12, .r13, .r14]

def exitMem (m : Machine VmxHw) (sp p : BitVec 64) : Memory :=
  store (storeWords (store m.mem sp (m.gpr .r15)) p (slots m.gpr stored)) (slot p .r15) (m.gpr .r15)

/-- `mov rax, [rsp]` and the store of RAX as R15. -/
theorem store_r15 (m : Machine VmxHw) :
    effects [.load .rax .rsp 0, .store .r15 (offset .r15) .rax] m =
      { m with
        gpr := Function.update m.gpr .rax (WordMem.load m.mem (m.gpr .rsp))
        mem := store m.mem (slot (m.gpr .r15) .r15) (WordMem.load m.mem (m.gpr .rsp)) } := by
  have haddr : m.address .rsp 0 = m.gpr .rsp := BitVec.add_zero _
  show Machine.mk (Function.update m.gpr .rax (WordMem.load m.mem (m.address .rsp 0))) m.rflags
    (store m.mem (slot (m.gpr .r15) .r15) (WordMem.load m.mem (m.address .rsp 0))) m.hw = _
  rw [haddr]

theorem exit_effects {m : Machine VmxHw} {sp p : BitVec 64} (hrsp : m.gpr .rsp = sp)
    (htop : WordMem.load m.mem sp = p) (hapart : ∀ r ∈ gprs, Apart (slot p r) sp) :
    effects exitCode m =
      { m with
        gpr := Function.update (Function.update m.gpr .r15 p) .rax (m.gpr .r15)
        mem := exitMem m sp p } := by
  have hcode : exitCode = Plain.xchg .r15 .rsp 0 :: ((stored.map fun r => (offset r, r)).map
      (fun x => Plain.store .r15 x.1 x.2) ++ [Plain.load .rax .rsp 0, .store .r15 (offset .r15) .rax]) := rfl
  have hxchg : Plain.effect m (.xchg .r15 .rsp 0) =
      { m with gpr := Function.update m.gpr .r15 p, mem := store m.mem sp (m.gpr .r15) } := by
    have haddr : m.address .rsp 0 = sp := by
      unfold Machine.address
      rw [hrsp]
      exact BitVec.add_zero _
    show Machine.mk _ _ _ _ = Machine.mk _ _ _ _
    rw [haddr, htop]
    rfl
  -- The guest's R15 is still on the stack.
  have hr15 : WordMem.load (storeWords (store m.mem sp (m.gpr .r15)) p (slots m.gpr stored)) sp = m.gpr .r15 := by
    have hin : ∀ r ∈ stored, r ∈ gprs := by decide
    exact (load_slots_apart fun r hr => hapart r (hin r hr)).trans (load_store_same _ _ _)
  have hslots : ((stored.map fun r => (offset r, r)).map fun x => (x.1, Function.update m.gpr .r15 p x.2)) =
      slots m.gpr stored := rfl
  have hrsp' : Function.update m.gpr .r15 p .rsp = sp := hrsp
  have hbase : Function.update m.gpr .r15 p .r15 = p := rfl
  rw [hcode, effects_cons, hxchg, effects_append, effects_stores, hslots, store_r15]
  dsimp only
  rw [hrsp', hbase, hr15]
  rfl

theorem load_exitMem (m : Machine VmxHw) (sp p : BitVec 64) {r : Reg} (hr : r ∈ gprs) :
    WordMem.load (exitMem m sp p) (slot p r) = m.gpr r := by
  by_cases h15 : r = .r15
  · rw [h15]
    exact load_store_same _ _ _
  · have hin : r ∈ stored := by
      revert h15 hr
      cases r <;> decide
    exact (load_store_apart (slot_apart p (Ne.symm h15))).trans (load_slots (by decide) hin)

theorem exitMem_elsewhere {m : Machine VmxHw} {sp p a : BitVec 64} (hsp : Apart sp a)
    (hslot : ∀ r ∈ gprs, Apart (slot p r) a) : WordMem.load (exitMem m sp p) a = WordMem.load m.mem a := by
  have hin : ∀ r ∈ stored, r ∈ gprs := by decide
  rw [exitMem, load_store_apart (hslot .r15 (by decide)), load_slots_apart fun r hr => hslot r (hin r hr),
    load_store_apart hsp]

/-- The machine `m'` after a call that was made as `m`, if `restore` starts as `mx`. -/
structure Restored (m mx m' : Machine VmxHw) : Prop where
  rsp : m'.gpr .rsp = m.gpr .rsp + 8#64
  gpr : ∀ r, r ≠ .rax → r ≠ .rsp → m'.gpr r = m.gpr r
  rax : m'.gpr .rax = mx.rflags
  rflags : m'.rflags = mx.rflags
  hw : m'.hw = mx.hw
  elsewhere : ∀ a, OffFrame (m.gpr .rsp) 17 a → WordMem.load m'.mem a = WordMem.load mx.mem a

theorem restore_restores (addr : ℕ → BitVec 64) {m : Machine VmxHw} (mx : Machine VmxHw) {ret : BitVec 64}
    (hrsp : mx.gpr .rsp = m.gpr .rsp - 128#64)
    (hstack : Holds mx.mem (m.gpr .rsp - 120#64) (saved.reverse.map m.gpr ++ [ret])) :
    ∃ m', exec VmxHw.sem addr restore none mx = some (m', ret) ∧ Restored m mx m' := by
  refine ⟨_, restore_eq rfl hrsp hstack, rfl, ?_, rfl, rfl, rfl, ?_⟩
  · intro r hrax hrsp
    cases r with
    | rax => exact absurd rfl hrax
    | rsp => exact absurd rfl hrsp
    | _ => rfl
  · intro a ha
    exact load_store_apart (ha 0 (by decide))

theorem exec_exit {addr : ℕ → BitVec 64} (m : Machine VmxHw) :
    exec VmxHw.sem addr exit none m = exec VmxHw.sem addr restore none (effects exitCode m) :=
  exec_plains exitCode (.label 4 :: restore) m

/-- The machine `m'` after a call that was made as `m` and exited as `mx`. -/
structure Returned (m mx m' : Machine VmxHw) : Prop where
  rsp : m'.gpr .rsp = m.gpr .rsp + 8#64
  gpr : ∀ r, r ≠ .rax → r ≠ .rsp → m'.gpr r = m.gpr r
  rax : m'.gpr .rax = mx.rflags
  rflags : m'.rflags = mx.rflags
  hw : m'.hw = mx.hw
  block : ∀ r ∈ gprs, WordMem.load m'.mem (slot (m.gpr .rdi) r) = mx.gpr r
  elsewhere : ∀ a, OffFrame (m.gpr .rsp) 17 a → (∀ r ∈ gprs, Apart (slot (m.gpr .rdi) r) a) →
    WordMem.load m'.mem a = WordMem.load mx.mem a

theorem exit_returns (addr : ℕ → BitVec 64) {m : Machine VmxHw} (mx : Machine VmxHw) {ret : BitVec 64}
    (hsep : FrameApart (m.gpr .rsp) (m.gpr .rdi) 17) (hrsp : mx.gpr .rsp = m.gpr .rsp - 128#64)
    (hframe : Holds mx.mem (m.gpr .rsp - 128#64) (frame m ret)) :
    ∃ m', exec VmxHw.sem addr exit none mx = some (m', ret) ∧ Returned m mx m' := by
  obtain ⟨htop, hrest⟩ := hframe
  have heff := exit_effects hrsp htop fun r hr => (hsep.field (by decide : 16 ≤ 17) (.gpr r)).symm
  have haddr : m.gpr .rsp - 128#64 + 8#64 = m.gpr .rsp - 120#64 := by bv_omega
  rw [haddr] at hrest
  have hstack : Holds (effects exitCode mx).mem (m.gpr .rsp - 120#64) (saved.reverse.map m.gpr ++ [ret]) := by
    rw [heff]
    apply holds_of_load hrest
    -- Neither XCHG nor the stores into the block reach the words above the top one.
    intro k hk
    have hk16 : k < 16 := hk
    apply exitMem_elsewhere
    · refine ⟨?_, ?_⟩
      · bv_omega
      · bv_omega
    · intro r hr
      have hword : m.gpr .rsp - 120#64 + BitVec.ofNat 64 (8 * k) =
          m.gpr .rsp - BitVec.ofNat 64 (8 * (15 - k)) := by bv_omega
      rw [hword]
      exact (hsep.field (by omega) (.gpr r)).symm
  obtain ⟨m', hexec, hrestored⟩ := restore_restores addr (effects exitCode mx) hrsp hstack
  have helse := hrestored.elsewhere
  rw [heff] at helse
  refine ⟨m', (exec_exit mx).trans hexec, hrestored.rsp, hrestored.gpr, hrestored.rax, hrestored.rflags,
    hrestored.hw, ?_, ?_⟩
  · intro r hr
    exact (helse _ (hsep.offFrame _)).trans (load_exitMem mx _ _ hr)
  · intro a ha hslot
    exact (helse a ha).trans (exitMem_elsewhere (ha 15 (by decide)) hslot)

/-- Whatever is on the stack. -/
theorem exit_elsewhere (addr : ℕ → BitVec 64) (mx : Machine VmxHw) :
    ∃ m' ret, exec VmxHw.sem addr exit none mx = some (m', ret) ∧ m'.gpr .rsp = mx.gpr .rsp + 136#64 ∧
      m'.rflags = mx.rflags ∧ m'.hw = mx.hw := by
  obtain ⟨vs, ret, hlen, hstack⟩ := exists_holds (effects exitCode mx).mem (mx.gpr .rsp + 128#64 - 120#64) 15
  have hrsp : (effects exitCode mx).gpr .rsp = mx.gpr .rsp + 128#64 - 128#64 := by
    show mx.gpr .rsp = _
    bv_omega
  rw [exec_exit]
  refine ⟨_, ret, restore_eq hlen hrsp hstack, ?_, rfl, rfl⟩
  show mx.gpr .rsp + 128#64 + 8#64 = _
  bv_omega

end Trampoline

end Rhyve.Vmx
