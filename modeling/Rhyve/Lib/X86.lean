import Mathlib.Logic.Function.Basic
import Rhyve.Lib.WordMem

/-! # Assembly routines

The instructions of x86-64 that save, load and exchange registers, and code with labels that are only jumped
to forwards. What a processor has besides registers and memory is a parameter `η`, and so are the instructions
`ε` that work on it.

* `Plain`: instructions that go on with the next one; `effects` is what a list of them does.
* `exec`: runs code up to its RET. A jump goes to the next label with that address.
* `effects_pushes`, `effects_pops`, `effects_loads`, `effects_stores`: runs of the same instruction.
-/

namespace Rhyve.X86
open WordMem
set_option autoImplicit false

/-- The general-purpose registers. -/
inductive Reg where
  | rax | rbx | rcx | rdx | rdi | rsi | rbp | rsp | r8 | r9 | r10 | r11 | r12 | r13 | r14 | r15
  deriving DecidableEq, Repr

/-- A machine, with hardware that only some instructions touch. -/
structure Machine (η : Type) where
  gpr : Reg → BitVec 64
  rflags : BitVec 64
  mem : Memory
  hw : η

/-! ## Instructions -/

/-- Instructions that work on registers, flags and memory. -/
inductive Plain where
  | push (r : Reg)
  | pop (r : Reg)
  | mov (dst src : Reg)
  | movImm (dst : Reg) (value : BitVec 64)
  | load (dst base : Reg) (off : ℕ)
  | store (base : Reg) (off : ℕ) (src : Reg)
  | xchg (r base : Reg) (off : ℕ)
  | add (dst : Reg) (value : BitVec 64)
  | pushf
  | popf
  | cmp (r : Reg) (value : BitVec 64)

/-- CF, PF, AF, ZF, SF and OF. -/
def statusFlags : BitVec 64 := 0x8d5#64

def zeroFlag : BitVec 64 := 0x40#64

/-- RFLAGS with the given status flags. -/
def setStatus (rflags status : BitVec 64) : BitVec 64 := (rflags &&& ~~~statusFlags) ||| (status &&& statusFlags)

theorem setStatus_zeroFlag (rflags status : BitVec 64) :
    setStatus rflags status &&& zeroFlag = status &&& zeroFlag := by
  have hout : ~~~statusFlags &&& zeroFlag = 0#64 := by decide
  have hin : statusFlags &&& zeroFlag = zeroFlag := by decide
  rw [setStatus, BitVec.and_or_distrib_right, BitVec.and_assoc, BitVec.and_assoc, hout, hin, BitVec.and_zero,
    BitVec.zero_or]

def bit (n : ℕ) (b : Bool) : BitVec 64 := if b then 1#64 <<< n else 0#64

/-- The status flags of a result; carry, auxiliary carry and overflow depend on the operation. -/
def resultFlags (result : BitVec 64) (carry aux overflow : Bool) : BitVec 64 :=
  bit 0 carry ||| bit 2 ((List.range 8).countP result.getLsbD % 2 == 0) ||| bit 4 aux |||
    bit 6 (result == 0#64) ||| bit 7 result.msb ||| bit 11 overflow

def subFlags (a b : BitVec 64) : BitVec 64 :=
  resultFlags (a - b) (a.ult b) ((a &&& 0xf#64).ult (b &&& 0xf#64)) (BitVec.ssubOverflow a b)

theorem resultFlags_zeroFlag (result : BitVec 64) (carry aux overflow : Bool) :
    resultFlags result carry aux overflow &&& zeroFlag = bit 6 (result == 0#64) := by
  unfold resultFlags
  generalize ((List.range 8).countP result.getLsbD % 2 == 0) = parity
  generalize (result == 0#64) = zero
  generalize result.msb = sign
  revert carry parity aux zero sign overflow
  decide

theorem subFlags_zeroFlag (a b : BitVec 64) : subFlags a b &&& zeroFlag ≠ 0#64 ↔ a = b := by
  rw [subFlags, resultFlags_zeroFlag]
  by_cases h : a = b
  · have hset : bit 6 (0#64 == 0#64) ≠ 0#64 := by decide
    rw [h, BitVec.sub_self]
    exact ⟨fun _ => rfl, fun _ => hset⟩
  · have hne : a - b ≠ 0#64 := by bv_omega
    rw [beq_eq_false_iff_ne.mpr hne]
    exact ⟨fun hz => absurd rfl hz, fun hab => absurd hab h⟩

def addFlags (a b : BitVec 64) : BitVec 64 :=
  resultFlags (a + b) (BitVec.uaddOverflow a b) (0xf#64 < (a &&& 0xf#64) + (b &&& 0xf#64))
    (BitVec.saddOverflow a b)

namespace Machine
variable {η : Type}

def set (m : Machine η) (r : Reg) (value : BitVec 64) : Machine η :=
  { m with gpr := Function.update m.gpr r value }

theorem set_self (m : Machine η) (r : Reg) (value : BitVec 64) : (m.set r value).gpr r = value := by
  show Function.update m.gpr r value r = value
  rw [Function.update_self]

theorem set_other (m : Machine η) {r q : Reg} (value : BitVec 64) (h : q ≠ r) :
    (m.set r value).gpr q = m.gpr q := by
  show Function.update m.gpr r value q = m.gpr q
  rw [Function.update_of_ne h]

/-- RSP moves down by a word, and the value is stored there. -/
def pushWord (m : Machine η) (value : BitVec 64) : Machine η :=
  { m with
    gpr := Function.update m.gpr .rsp (m.gpr .rsp - 8#64)
    mem := store m.mem (m.gpr .rsp - 8#64) value }

theorem pushWord_rsp (m : Machine η) (value : BitVec 64) :
    (m.pushWord value).gpr .rsp = m.gpr .rsp - 8#64 := m.set_self .rsp _

theorem pushWord_other (m : Machine η) (value : BitVec 64) {q : Reg} (h : q ≠ .rsp) :
    (m.pushWord value).gpr q = m.gpr q := m.set_other _ h

def top (m : Machine η) : BitVec 64 := WordMem.load m.mem (m.gpr .rsp)

def drop (m : Machine η) : Machine η := m.set .rsp (m.gpr .rsp + 8#64)

def address (m : Machine η) (base : Reg) (off : ℕ) : BitVec 64 := m.gpr base + BitVec.ofNat 64 off

end Machine

def Plain.effect {η : Type} (m : Machine η) : Plain → Machine η
  | .push r => m.pushWord (m.gpr r)
  | .pop r => m.drop.set r m.top
  | .mov dst src => m.set dst (m.gpr src)
  | .movImm dst value => m.set dst value
  | .load dst base off => m.set dst (WordMem.load m.mem (m.address base off))
  | .store base off src => { m with mem := WordMem.store m.mem (m.address base off) (m.gpr src) }
  | .xchg r base off =>
    { m.set r (WordMem.load m.mem (m.address base off)) with
      mem := WordMem.store m.mem (m.address base off) (m.gpr r) }
  | .add dst value =>
    { m.set dst (m.gpr dst + value) with rflags := setStatus m.rflags (addFlags (m.gpr dst) value) }
  | .pushf => m.pushWord m.rflags
  | .popf => { m.drop with rflags := m.top }
  | .cmp r value => { m with rflags := setStatus m.rflags (subFlags (m.gpr r) value) }

def effects {η : Type} (ps : List Plain) (m : Machine η) : Machine η := ps.foldl Plain.effect m

/-- A line of assembly. The extension `ε` has the instructions of a particular hardware. -/
inductive Line (ε : Type) where
  | label (l : ℕ)
  | plain (p : Plain)
  /-- The address of the next such label. -/
  | lea (dst : Reg) (l : ℕ)
  | ext (e : ε)
  | jz (l : ℕ)
  | jmp (l : ℕ)
  | ret

/-! ## Execution -/

section Exec
variable {η ε : Type} (sem : ε → Machine η → Machine η × Option (BitVec 64)) (addr : ℕ → BitVec 64)

/-- Runs the code; with `some a`, from the next label at address `a` on. Returns the machine after the RET and
the address it returns to, or nothing if there is no such label or the code ends. -/
def exec : List (Line ε) → Option (BitVec 64) → Machine η → Option (Machine η × BitVec 64)
  | [], _, _ => none
  | .label l :: code, some a, m => if addr l = a then exec code none m else exec code (some a) m
  | _ :: code, some a, m => exec code (some a) m
  | .label _ :: code, none, m => exec code none m
  | .plain p :: code, none, m => exec code none (p.effect m)
  | .lea dst l :: code, none, m => exec code none (m.set dst (addr l))
  | .ext e :: code, none, m => exec code (sem e m).2 (sem e m).1
  | .jz l :: code, none, m => exec code (if m.rflags &&& zeroFlag ≠ 0#64 then some (addr l) else none) m
  | .jmp l :: code, none, m => exec code (some (addr l)) m
  | .ret :: _, none, m => some (m.drop, m.top)

variable {sem addr}

theorem exec_plains (ps : List Plain) (code : List (Line ε)) (m : Machine η) :
    exec sem addr (ps.map .plain ++ code) none m = exec sem addr code none (effects ps m) := by
  induction ps generalizing m with
  | nil => rfl
  | cons p ps ih => exact ih (p.effect m)

theorem exec_ret {m : Machine η} {gpr : Reg → BitVec 64} {sp ret : BitVec 64} {code : List (Line ε)}
    (hgpr : m.gpr = Function.update gpr .rsp sp) (hret : WordMem.load m.mem sp = ret) :
    exec sem addr (.ret :: code) none m =
      some ({ m with gpr := Function.update gpr .rsp (sp + 8#64) }, ret) := by
  have hsp : m.gpr .rsp = sp := by
    rw [hgpr, Function.update_self]
  have hdrop : Function.update m.gpr .rsp (m.gpr .rsp + 8#64) = Function.update gpr .rsp (sp + 8#64) := by
    rw [hsp, hgpr, Function.update_idem]
  show some (Machine.mk (Function.update m.gpr .rsp (m.gpr .rsp + 8#64)) m.rflags m.mem m.hw,
    WordMem.load m.mem (m.gpr .rsp)) = _
  rw [hdrop, hsp, hret]

/-- A jump skips everything but labels. -/
theorem exec_skip (ps : List Plain) (code : List (Line ε)) (a : BitVec 64) (m : Machine η) :
    exec sem addr (ps.map .plain ++ code) (some a) m = exec sem addr code (some a) m := by
  induction ps with
  | nil => rfl
  | cons p ps ih => exact ih

end Exec

/-! ## Runs of one instruction -/

/-- Values are given to registers one after the other. -/
def assign (gpr : Reg → BitVec 64) (ws : List (Reg × BitVec 64)) : Reg → BitVec 64 :=
  ws.foldl (fun gpr w => Function.update gpr w.1 w.2) gpr

theorem assign_congr {f g : Reg → BitVec 64} {q : Reg} (h : f q = g q) (ws : List (Reg × BitVec 64)) :
    assign f ws q = assign g ws q := by
  induction ws generalizing f g with
  | nil => exact h
  | cons w ws ih =>
    apply ih
    show Function.update f w.1 w.2 q = Function.update g w.1 w.2 q
    by_cases hq : q = w.1
    · rw [hq, Function.update_self, Function.update_self]
    · rw [Function.update_of_ne hq, Function.update_of_ne hq]
      exact h

section Effects
variable {η : Type} {m : Machine η}

theorem effects_cons (p : Plain) (ps : List Plain) (m : Machine η) :
    effects (p :: ps) m = effects ps (p.effect m) := rfl

theorem effects_append (ps qs : List Plain) (m : Machine η) :
    effects (ps ++ qs) m = effects qs (effects ps m) := List.foldl_append

theorem effects_hw (ps : List Plain) (m : Machine η) : (effects ps m).hw = m.hw := by
  induction ps generalizing m with
  | nil => rfl
  | cons p ps ih =>
    refine (ih (p.effect m)).trans ?_
    cases p <;> rfl

theorem effects_pushes (rs : List Reg) (h : Reg.rsp ∉ rs) (m : Machine η) :
    effects (rs.map .push) m =
      { m with
        gpr := Function.update m.gpr .rsp (m.gpr .rsp - BitVec.ofNat 64 (8 * rs.length))
        mem := pushWords m.mem (m.gpr .rsp) (rs.map m.gpr) } := by
  induction rs generalizing m with
  | nil =>
    have hsp : m.gpr .rsp - BitVec.ofNat 64 (8 * ([] : List Reg).length) = m.gpr .rsp := BitVec.sub_zero _
    rw [hsp, Function.update_eq_self]
    rfl
  | cons r rs ih =>
    obtain ⟨-, hrest⟩ := List.ne_and_not_mem_of_not_mem_cons h
    have hsp := m.pushWord_rsp (m.gpr r)
    have hmap : rs.map (m.pushWord (m.gpr r)).gpr = rs.map m.gpr := by
      apply List.map_congr_left
      intro q hq
      have hne : q ≠ .rsp := fun heq => hrest (heq ▸ hq)
      exact m.pushWord_other _ hne
    have haddr : m.gpr .rsp - 8#64 - BitVec.ofNat 64 (8 * rs.length) =
        m.gpr .rsp - BitVec.ofNat 64 (8 * (r :: rs).length) := by
      rw [List.length_cons]
      bv_omega
    have hih := ih hrest (m.pushWord (m.gpr r))
    rw [hsp, hmap, haddr] at hih
    refine hih.trans ?_
    congr 1
    exact Function.update_idem _ _ _

theorem effects_pops {rs : List Reg} {vs xs : List (BitVec 64)} (hlen : rs.length = vs.length)
    (h : Reg.rsp ∉ rs) (hholds : Holds m.mem (m.gpr .rsp) (vs ++ xs)) :
    effects (rs.map .pop) m =
      { m with
        gpr := Function.update (assign m.gpr (rs.zip vs)) .rsp
          (m.gpr .rsp + BitVec.ofNat 64 (8 * rs.length)) } := by
  induction rs generalizing m vs with
  | nil =>
    have hsp : m.gpr .rsp + BitVec.ofNat 64 (8 * ([] : List Reg).length) = m.gpr .rsp := BitVec.add_zero _
    rw [hsp]
    show m = { m with gpr := Function.update m.gpr .rsp (m.gpr .rsp) }
    rw [Function.update_eq_self]
  | cons r rs ih =>
    cases vs with
    | nil => cases hlen
    | cons v vs =>
      obtain ⟨hr, hrest⟩ := List.ne_and_not_mem_of_not_mem_cons h
      obtain ⟨htop, hholds'⟩ := hholds
      have hpop : Plain.effect m (.pop r) = m.drop.set r v := by
        rw [← htop]
        rfl
      have hsp : (m.drop.set r v).gpr .rsp = m.gpr .rsp + 8#64 :=
        (m.drop.set_other v hr).trans (m.set_self .rsp _)
      have haddr : m.gpr .rsp + 8#64 + BitVec.ofNat 64 (8 * rs.length) =
          m.gpr .rsp + BitVec.ofNat 64 (8 * (r :: rs).length) := by
        rw [List.length_cons]
        bv_omega
      have hih := ih (m := m.drop.set r v) (Nat.succ.inj hlen) hrest (by rw [hsp]; exact hholds')
      rw [hsp, haddr] at hih
      show effects (rs.map .pop) (Plain.effect m (.pop r)) = _
      rw [hpop, hih]
      -- The two sides differ in what the stack pointer was before, which is overwritten.
      show Machine.mk _ _ _ _ = Machine.mk _ _ _ _
      congr 1
      funext q
      by_cases hq : q = .rsp
      · subst hq
        rw [Function.update_self, Function.update_self]
      · rw [Function.update_of_ne hq, Function.update_of_ne hq]
        apply assign_congr
        show (m.drop.set r v).gpr q = (m.set r v).gpr q
        by_cases hqr : q = r
        · rw [hqr, Machine.set_self, Machine.set_self]
        · rw [Machine.set_other _ _ hqr, Machine.set_other _ _ hqr]
          exact m.set_other _ hq

theorem effects_loads {base : Reg} (xs : List (Reg × ℕ)) (h : base ∉ xs.map Prod.fst) (m : Machine η) :
    effects (xs.map fun x => .load x.1 base x.2) m =
      { m with gpr := assign m.gpr (xs.map fun x => (x.1, WordMem.load m.mem (m.address base x.2))) } := by
  induction xs generalizing m with
  | nil => rfl
  | cons x xs ih =>
    obtain ⟨hx, hrest⟩ := List.ne_and_not_mem_of_not_mem_cons h
    have hbase : ∀ v, (m.set x.1 v).gpr base = m.gpr base := fun v => m.set_other v hx
    have hih := ih hrest (m.set x.1 (WordMem.load m.mem (m.address base x.2)))
    unfold Machine.address at hih ⊢
    rw [hbase] at hih
    exact hih

theorem effects_stores (base : Reg) (xs : List (ℕ × Reg)) (m : Machine η) :
    effects (xs.map fun x => .store base x.1 x.2) m =
      { m with mem := storeWords m.mem (m.gpr base) (xs.map fun x => (x.1, m.gpr x.2)) } := by
  induction xs generalizing m with
  | nil => rfl
  | cons x xs ih => exact ih { m with mem := WordMem.store m.mem (m.address base x.1) (m.gpr x.2) }

end Effects

end Rhyve.X86
