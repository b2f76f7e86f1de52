import Rhyve.Backend.Block
import Rhyve.Lib.Machine
import Rhyve.Vcpu.Relocation

/-! # The registers of the guest while an exit is served

`Cpu::run` serves an exit on the memory that the registers of the vCPU are in as well: a hypercall that names the
block would store into them.

* `Differ`: two register files that are equal but for some registers.
* `ExitedBy.changes`: what emulating an instruction may change.
* `serveNext`: an exit is served. `Kept`: it names only guest memory, and the block is elsewhere.
* `run_resumed`: a machine that logs the registers at every entry and at every exit.
-/

namespace Rhyve.Backend
open Device Machine Vcpu X86
set_option autoImplicit false

/-! ## Register files -/

/-- The registers outside the list are equal. -/
def Differ (qs : List GuestReg) (g g' : GuestRegisters) : Prop := ∀ q, q ∉ qs → values g' q = values g q

section Differ
variable {g g' g'' : GuestRegisters} {qs qs' : List GuestReg}

theorem Differ.refl (g : GuestRegisters) (qs : List GuestReg) : Differ qs g g := fun _ _ => rfl

theorem Differ.trans (h : Differ qs g g') (h' : Differ qs' g' g'') : Differ (qs ++ qs') g g'' := by
  intro q hq
  have hboth := not_or.mp fun h => hq (List.mem_append.mpr h)
  exact (h' q hboth.2).trans (h q hboth.1)

theorem differ_rip (g : GuestRegisters) (rip : BitVec 64) : Differ [.rip] g { g with rip := rip } := by
  intro q hq
  cases q with
  | gpr r => cases r <;> rfl
  | rip => exact absurd List.mem_cons_self hq
  | rflags => rfl

theorem differ_advance (g : GuestRegisters) (len : BitVec 64) : Differ [.rip] g (g.advance len) :=
  differ_rip g _

theorem differ_rax (g : GuestRegisters) (rax : BitVec 64) : Differ [.gpr .rax] g { g with rax := rax } := by
  intro q hq
  cases q with
  | gpr r =>
    cases r with
    | rax => exact absurd List.mem_cons_self hq
    | _ => rfl
  | _ => rfl

theorem differ_setEdxEax (g : GuestRegisters) (value : BitVec 64) :
    Differ [.gpr .rax, .gpr .rdx] g (g.setEdxEax value) := by
  intro q hq
  cases q with
  | gpr r =>
    cases r with
    | rax | rdx => exact absurd (by decide) hq
    | _ => rfl
  | _ => rfl

theorem differ_setCpuid (g : GuestRegisters) (env : HostEnv) :
    Differ [.gpr .rax, .gpr .rbx, .gpr .rcx, .gpr .rdx] g (g.setCpuid env) := by
  intro q hq
  cases q with
  | gpr r =>
    cases r with
    | rax | rbx | rcx | rdx => exact absurd (by decide) hq
    | _ => rfl
  | _ => rfl

end Differ

/-! ## Exits -/

/-- What made the guest exit. A hypercall is an `OUT`. -/
inductive ExitedBy where
  | cpuid
  | rdmsr
  | wrmsr
  | xsetbv
  | input
  | output
  | pause
  | hlt
  | asynchronous
  deriving DecidableEq, Repr

/-- The registers that the instruction behind an exit may change. -/
def ExitedBy.changes : ExitedBy → List GuestReg
  | .cpuid => [.gpr .rax, .gpr .rbx, .gpr .rcx, .gpr .rdx, .rip]
  | .rdmsr => [.gpr .rax, .gpr .rdx, .rip]
  | .input => [.rip, .gpr .rax]
  | .asynchronous => []
  | _ => [.rip]

/-- An I/O instruction: `true` is an input. -/
def ExitedBy.ofDirection (dir : Bool) : ExitedBy := if dir then .input else .output

/-- What the guest sees of a call: the registers it is entered with, and those it leaves with. -/
inductive GuestEvent where
  | entered (regs : GuestRegisters)
  /-- Nothing is known of the instruction if the exit is one that ends the loop. -/
  | exited (by_ : Option ExitedBy) (regs : GuestRegisters)
  deriving DecidableEq, Repr

/-- The registers at the next entry are those at the exit but for the ones that emulation changes. -/
def Survives (kind : Option ExitedBy) (g g' : GuestRegisters) : Prop :=
  ∃ k, kind = some k ∧ Differ k.changes g g'

/-- Every entry right after an exit. -/
def Resumed (before : List GuestEvent) (e : GuestEvent) : Prop :=
  ∀ pre kind g g', before = pre ++ [.exited kind g] → e = .entered g' → Survives kind g g'

/-! ## Serving an exit -/

/-- The registers after an exit has been served. An `IN` loads RAX; what an `OUT` stores may be in the block. -/
def registersAfter (block : BitVec 64) (reason : ExitReason) (c : Vcpu.Cpu) : GuestRegisters :=
  match reason with
  | .ioInstruction q => if isIn q then c.regs else getBlock c.host.mem block
  | _ => c.regs

theorem registersAfter_in {q : BitVec 64} (h : isIn q = true) (block : BitVec 64) (c : Vcpu.Cpu) :
    registersAfter block (.ioInstruction q) c = c.regs := if_pos h

theorem registersAfter_out {q : BitVec 64} (h : isIn q = false) (block : BitVec 64) (c : Vcpu.Cpu) :
    registersAfter block (.ioInstruction q) c = getBlock c.host.mem block := if_neg (by rw [h]; decide)

/-- `Cpu::run` after the backend has returned: the registers and the UART, if the loop goes on. -/
def serveNext (I : Interface) (L : VmMemoryLayout) (uart : Uart) (block : BitVec 64) (mem : HostMem)
    (reason : ExitReason) (regs : GuestRegisters) : Option (GuestRegisters × Uart) :=
  match serve I L reason ⟨uart, regs, ⟨putBlock mem block regs, []⟩⟩ with
  | (.next, c) => some (registersAfter block reason c, c.uart)
  | (.done, _) => none
  | (.panicked _, _) => none

/-- The exit names only guest memory, and the registers of the vCPU are elsewhere. -/
structure Kept (L : VmMemoryLayout) (block : BitVec 64) (regions : List Region) : Prop where
  inside : ∀ r ∈ regions, r.Inside L
  apart : WordMem.Separate L.startAddr L.len block blockSize

section Serve
variable {I : Interface} {L : VmMemoryLayout} {uart uart' : Uart} {block : BitVec 64} {mem : HostMem}
variable {reason : ExitReason} {regs regs' : GuestRegisters}

/-- The block is not guest memory. -/
theorem putBlock_ram (h : WordMem.Separate L.startAddr L.len block blockSize) (mem : HostMem) (g : GuestRegisters) :
    SameRam L L mem (putBlock mem block g) := by
  intro a ha
  refine (WordMem.storeWords_other ?_).symm
  intro w hw k hk
  obtain ⟨q, -, rfl⟩ := List.mem_map.mp hw
  have hbound := q.offset_bound
  exact h.ne ha (by omega)

/-- What is stored goes into guest memory, so the block keeps its registers. -/
theorem serve_block (h : Kept L block (namedAt I L reason regs mem)) :
    getBlock (serve I L reason ⟨uart, regs, ⟨putBlock mem block regs, []⟩⟩).2.host.mem block = regs := by
  have hal : Alike L L ⟨mem, []⟩ ⟨putBlock mem block regs, []⟩ := ⟨putBlock_ram h.apart mem regs, rfl⟩
  obtain ⟨-, -, -, halike⟩ := serve_alike uart hal h.inside
  have hstart : Logged L (putBlock mem block regs) ⟨putBlock mem block regs, []⟩ := fun _ _ => rfl
  have hlogged : Logged L (putBlock mem block regs)
      (serve I L reason ⟨uart, regs, ⟨putBlock mem block regs, []⟩⟩).2.host := serve_logged hstart reason regs
  apply getBlock_of_load
  intro q
  rw [← load_putBlock mem block regs q]
  apply WordMem.load_congr
  intro k hk
  apply hlogged
  rw [← halike.log]
  intro hwritten
  obtain ⟨a, ha, heq⟩ := serve_written h.inside hwritten
  have hbound := q.offset_bound
  refine h.apart.ne ha (show q.offset + k < blockSize by omega) (heq.symm.trans ?_)
  unfold field
  rw [BitVec.ofNat_add, BitVec.add_assoc]

theorem serveIo_in (q : BitVec 64) (c : Vcpu.Cpu) : Differ [.gpr .rax] c.regs (serveIo I L q c).2.regs := by
  unfold serveIo
  split
  · exact Differ.refl _ _
  · split
    · exact Differ.refl _ _
    · dsimp only
      split
      · exact differ_rax _ _
      · split
        · exact Differ.refl _ _
        · exact Differ.refl _ _

theorem serveNext_regs (h : serveNext I L uart block mem reason regs = some (regs', uart')) :
    registersAfter block reason (serve I L reason ⟨uart, regs, ⟨putBlock mem block regs, []⟩⟩).2 = regs' := by
  unfold serveNext at h
  split at h
  · rename_i c hc
    rw [hc]
    exact congrArg Prod.fst (Option.some.inj h)
  · cases h
  · cases h

theorem serveNext_success (h : serveNext I L uart block mem .success regs = some (regs', uart')) : regs' = regs :=
  (serveNext_regs h).symm

/-- An I/O instruction whose RIP has been advanced. -/
theorem serveNext_io {q : BitVec 64} {g : GuestRegisters} (hrip : Differ [.rip] g regs)
    (hkept : Kept L block (named I L q g mem))
    (h : serveNext I L uart block mem (.ioInstruction q) regs = some (regs', uart')) :
    Differ (ExitedBy.ofDirection (isIn q)).changes g regs' := by
  have hrdi : regs.rdi = g.rdi := hrip (.gpr .rdi) (by decide)
  have hnamed : named I L q regs mem = named I L q g mem := by
    unfold named
    rw [hrdi]
  rw [← hnamed] at hkept
  rw [← serveNext_regs h]
  cases hin : isIn q with
  | true =>
    rw [registersAfter_in hin]
    exact hrip.trans (serveIo_in q _)
  | false =>
    rw [registersAfter_out hin, serve_block hkept]
    exact hrip

end Serve

/-! ## Turns of the loop -/

/-- A vCPU between two turns; `η` is the state of the processor. -/
structure Driven (η β : Type) where
  cpu : β
  hw : η
  uart : Uart

section Turn
variable {η β : Type}

/-- Serving what the call has returned; `set` is `guest_registers_mut`. -/
def nextTurn (I : Interface) (L : VmMemoryLayout) (regs : β → GuestRegisters) (set : β → GuestRegisters → β)
    (uart : Uart) (block : BitVec 64) (mem : HostMem) (called : Called η β) : Option (Driven η β) :=
  match called.result with
  | some (.ok r) =>
    (serveNext I L uart block mem r.reason (regs r.cpu)).map fun s => ⟨set r.cpu s.1, called.hw, s.2⟩
  | some (.error _) => none
  | none => none

def turnEvents (called : Called η β) (kind : Option ExitedBy) (regs : GuestRegisters) : List GuestEvent :=
  called.entered.elim [] fun g => [.entered g, .exited kind regs]

theorem turnEvents_entered {called : Called η β} {g : GuestRegisters} (h : called.entered = some g)
    (kind : Option ExitedBy) (regs : GuestRegisters) :
    turnEvents called kind regs = [.entered g, .exited kind regs] := by
  unfold turnEvents
  rw [h]
  rfl

theorem nextTurn_ok {I : Interface} {L : VmMemoryLayout} {regs : β → GuestRegisters}
    {set : β → GuestRegisters → β} {uart : Uart} {block : BitVec 64} {mem : HostMem} {called : Called η β}
    {s : Driven η β} (h : nextTurn I L regs set uart block mem called = some s) :
    ∃ r regs', called.result = some (.ok r) ∧
      serveNext I L uart block mem r.reason (regs r.cpu) = some (regs', s.uart) ∧ s.cpu = set r.cpu regs' ∧
      s.hw = called.hw := by
  unfold nextTurn at h
  split at h
  · rename_i r hr
    obtain ⟨⟨regs', uart'⟩, hserve, hs⟩ := Option.map_eq_some_iff.mp h
    subst hs
    exact ⟨r, regs', hr, hserve, rfl, rfl⟩
  · cases h
  · cases h

/-- The log so far, and the registers that the next entry will have. -/
structure Ready (regs : GuestRegisters) (log : List GuestEvent) : Prop where
  resumed : AtEach Resumed log
  next : ∀ pre kind g, log = pre ++ [.exited kind g] → Survives kind g regs

theorem Ready.events {regs : GuestRegisters} {log : List GuestEvent} (h : Ready regs log)
    (kind : Option ExitedBy) (g : GuestRegisters) :
    AtEach Resumed (log ++ [.entered regs, .exited kind g]) := by
  have hentry : Resumed log (.entered regs) := by
    intro pre kind g g' hlog he
    injection he with he
    subst he
    exact h.next pre kind g hlog
  have hexit : Resumed (log ++ [.entered regs]) (.exited kind g) := by
    intro pre _ _ g' _ he
    cases he
  have heach := (h.resumed.concat hentry).concat hexit
  rw [List.append_assoc] at heach
  exact heach

theorem Ready.turn {regs regs' : GuestRegisters} {log : List GuestEvent} (h : Ready regs log)
    {kind : Option ExitedBy} {g : GuestRegisters} (hsurvives : Survives kind g regs') :
    Ready regs' (log ++ [.entered regs, .exited kind g]) := by
  refine ⟨h.events kind g, ?_⟩
  intro pre kind' g' hlog
  have hsplit : log ++ [.entered regs] ++ [.exited kind g] = pre ++ [.exited kind' g'] := by
    rw [List.append_assoc]
    exact hlog
  have hlast := (List.append_inj' hsplit rfl).2
  injection hlast with hlast
  injection hlast with hkind hg
  subst hkind hg
  exact hsurvives

/-- A machine that logs an entry and an exit in every turn. -/
theorem run_resumed {σ ι : Type} {step : σ → ι → Option σ × List GuestEvent} {C : σ → ι → Prop}
    (regs : σ → GuestRegisters) (Inv : σ → Prop)
    (hstep : ∀ s i, Inv s → C s i → step s i = (none, []) ∨
      ∃ kind g, (step s i).2 = [.entered (regs s), .exited kind g] ∧
        ∀ s', (step s i).1 = some s' → Inv s' ∧ Survives kind g (regs s'))
    {s : σ} (h : Inv s) {is : List ι} (hC : Along step C s is) : AtEach Resumed (run step s is).2 := by
  have hstart : Ready (regs s) [] := ⟨atEach_nil, fun pre kind g hnil => absurd hnil (by simp)⟩
  refine (run_log (fun s log => Inv s ∧ Ready (regs s) log) (AtEach Resumed) ?_ [] ⟨h, hstart⟩ atEach_nil hC).1
  -- The log ends with an exit, or is empty; the next entry is compared with that exit.
  rintro s log i ⟨hinv, hready⟩ hc
  rcases hstep s i hinv hc with hnone | ⟨kind, g, hevents, hnext⟩
  · rw [hnone, List.append_nil]
    exact ⟨hready.resumed, nofun⟩
  · rw [hevents]
    refine ⟨hready.events kind g, ?_⟩
    intro s' hs
    obtain ⟨hinv', hsurvives⟩ := hnext s' hs
    exact ⟨hinv', hready.turn hsurvives⟩

end Turn

end Rhyve.Backend
