import Mathlib.Logic.Function.Basic
import Rhyve.Lib.Machine
import Rhyve.Svm.Steps

/-! # A core that several AMD-V vCPUs share

A thread that runs a guest can be preempted wherever interrupts are enabled, and other threads then run their own
guests on the same core. A VMCB belongs to its vCPU, but the core has one EFER, one VM_HSAVE_PA, one hidden segment
state and one global interrupt flag. The scheduler restores the hidden state of the host for the thread it switches to.

* `Core.step`: the running thread creates, runs or drops its vCPU, executes its next instruction or returns, or the
  scheduler switches. What an instruction answers is arbitrary, but EFER reads as it is.
* `PhaseStep`: the order in which a call uses the core. `run_obeys`: `run` keeps to it.
-/

namespace Rhyve.Svm
open Apic Backend Machine Program
set_option autoImplicit false

variable {ι : Type}

/-- Whose hidden segment state it is. -/
inductive Hidden (ι : Type) where
  | host (thread : ι)
  | guest (vcpu : ι)
  deriving DecidableEq

abbrev Hpa := BitVec 64

/-- A core, and the threads on it with their vCPUs. -/
structure Core (ι : Type) where
  running : ι
  efer : BitVec 64
  /-- VM_HSAVE_PA. -/
  hsave : Option Hpa
  gif : Bool
  hidden : Hidden ι
  /-- What is in the scratch VMCB of a vCPU. -/
  scratch : ι → Option (Hidden ι)
  /-- The host-save area of the vCPU of a thread. -/
  area : ι → Option Hpa
  /-- What is left of the call that a thread is in. -/
  call : ι → Option (Steps Unit)
  /-- RFLAGS.IF, which belongs to the thread. -/
  interrupts : ι → Bool

/-- What happens on the core: a thread creates its vCPU, calls `run`, drops the vCPU, executes one instruction,
or another thread gets the core. -/
inductive CoreEvent (ι : Type) where
  /-- `SvmCpu::new`, with an area at this address. -/
  | create (area : Hpa)
  | run (c : SvmCpu)
  | drop
  | exec (answer : (o : SvmOp) → o.Ans)
  | switch (next : ι)

/-- What can be seen of the core. -/
inductive CoreOutput (ι : Type) where
  | entered (vcpu : ι) (s : Core ι)
  | saved (vcpu : ι) (s : Core ι)
  | returned (thread : ι) (s : Core ι)
  | switched (thread : ι) (s : Core ι)

namespace Core

/-- The instructions at which it shows whose state the core has. -/
def observe (s : Core ι) : SvmOp → List (CoreOutput ι)
  | .vmrun => [.entered s.running s]
  | .vmsaveGuest => [.saved s.running s]
  | _ => []

/-- EFER is the core's; everything else is answered from outside. -/
def answer (s : Core ι) (other : (o : SvmOp) → o.Ans) : (o : SvmOp) → o.Ans
  | .rdmsrEfer => s.efer
  | o => other o

variable [DecidableEq ι]

/-- The effect of an instruction of the running thread. -/
def effect (s : Core ι) : SvmOp → Core ι
  | .wrmsrEfer value => { s with efer := value }
  | .wrmsrHsave => { s with hsave := s.area s.running }
  | .vmsaveHost => { s with scratch := Function.update s.scratch s.running (some s.hidden) }
  | .clgi => { s with gif := false }
  | .vmloadGuest => { s with hidden := .guest s.running }
  | .vmloadHost => { s with hidden := (s.scratch s.running).getD s.hidden }
  | .stgi => { s with gif := true }
  | _ => s

/-- The next instruction of the running thread's call. -/
def exec (s : Core ι) (other : (o : SvmOp) → o.Ans) : Core ι × List (CoreOutput ι) :=
  match s.call s.running with
  | none => (s, [])
  | some (.done _) => ({ s with call := Function.update s.call s.running none }, [.returned s.running s])
  | some (.op o k) =>
    ({ s.effect o with call := Function.update s.call s.running (some (k (s.answer other o))) }, s.observe o)

def begin (s : Core ι) (p : Steps Unit) : Core ι := { s with call := Function.update s.call s.running (some p) }

/-- The thread has no vCPU yet. -/
def create (s : Core ι) (a : Hpa) : Core ι :=
  if s.call s.running = none ∧ s.area s.running = none then
    { s.begin Steps.setupSvm with area := Function.update s.area s.running (some a) }
  else s

def start (s : Core ι) (c : SvmCpu) : Core ι :=
  if s.call s.running = none ∧ s.area s.running ≠ none then s.begin (Steps.run c >>= fun _ => return ()) else s

def drop (s : Core ι) : Core ι :=
  if s.call s.running = none then { s with area := Function.update s.area s.running none } else s

/-- An interrupt is taken if GIF and IF are set; between two calls the thread may yield. -/
def switch (s : Core ι) (next : ι) : Core ι × List (CoreOutput ι) :=
  if s.gif = true ∧ s.interrupts s.running = true ∨ s.call s.running = none then
    ({ s with running := next, hidden := .host next }, [.switched s.running s])
  else (s, [])

def step (s : Core ι) : CoreEvent ι → Option (Core ι) × List (CoreOutput ι)
  | .create a => (some (s.create a), [])
  | .run c => (some (s.start c), [])
  | .drop => (some s.drop, [])
  | .exec other => (some (s.exec other).1, (s.exec other).2)
  | .switch next => (some (s.switch next).1, (s.switch next).2)

end Core

/-! ## The order of a call -/

/-- Where a call of `run` is, as far as the core's state depends on it. -/
inductive Phase where
  | start
  | disabled
  | enabled
  | ready
  | saved
  | closed
  | loaded
  | exited
  | stored
  | restored
  | opened
  deriving DecidableEq

/-- The order of the instructions in a call. -/
inductive PhaseStep : Phase → (o : SvmOp) → o.Ans → Phase → Prop
  | disabled {efer : BitVec 64} : PhaseStep .start .rdmsrEfer efer .disabled
  | enabled {efer : BitVec 64} : efer &&& eferSvme ≠ 0#64 → PhaseStep .start .rdmsrEfer efer .enabled
  | enable {value : BitVec 64} {u : Unit} : value &&& eferSvme ≠ 0#64 →
      PhaseStep .disabled (.wrmsrEfer value) u .enabled
  | ready {u : Unit} : PhaseStep .enabled .wrmsrHsave u .ready
  | timer {env : HostEnv} : PhaseStep .ready .host env .ready
  | saved {u : Unit} : PhaseStep .ready .vmsaveHost u .saved
  | closed {u : Unit} : PhaseStep .saved .clgi u .closed
  | loaded {u : Unit} : PhaseStep .closed .vmloadGuest u .loaded
  | exited {regs : GuestRegisters} : PhaseStep .loaded .vmrun regs .exited
  | stored {vmcb : Vmcb} : PhaseStep .exited .vmsaveGuest vmcb .stored
  | restored {u : Unit} : PhaseStep .stored .vmloadHost u .restored
  | opened {u : Unit} : PhaseStep .restored .stgi u .opened
  | host {env : HostEnv} : PhaseStep .opened .host env .opened
  | xsetbv {op : Xsetbv} {u : Unit} : PhaseStep .opened (.xsetbv op) u .opened

/-- A call may return: `new` after its setup, `run` after the guest. -/
def Phase.Final (ph : Phase) : Prop := ph = .ready ∨ ph = .opened

section Order
open Steps

theorem enableSvm_obeys (efer : BitVec 64) :
    (enableSvm efer).Obeys PhaseStep (· = .enabled) (if efer &&& eferSvme = 0#64 then .disabled else .enabled) := by
  unfold enableSvm
  split
  · exact Prog.obeys_perform (fun _ => .enable (svme_set efer)) rfl
  · exact .done rfl

theorem setupSvm_obeys : Steps.setupSvm.Obeys PhaseStep (· = .ready) .start := by
  refine .op (fun efer => if efer &&& eferSvme = 0#64 then .disabled else .enabled) ?_ ?_
  · intro efer
    split
    · exact .disabled
    · exact .enabled ‹_›
  · intro efer
    refine (enableSvm_obeys efer).bind ?_
    rintro _ _ rfl
    exact Prog.obeys_perform (fun _ => .ready) rfl

theorem serviceTimer_obeys (c : SvmCpu) : (Steps.serviceTimer c).Obeys PhaseStep (· = .ready) .ready := by
  unfold Steps.serviceTimer
  split
  · exact .done rfl
  · exact .op (fun _ => .ready) (fun _ => .timer) fun _ => .done rfl

theorem runSvmVm_obeys : Steps.runSvmVm.Obeys PhaseStep (· = .opened) .ready := by
  refine .op (fun _ => .saved) (fun _ => .saved) fun _ => ?_
  refine .op (fun _ => .closed) (fun _ => .closed) fun _ => ?_
  refine .op (fun _ => .loaded) (fun _ => .loaded) fun _ => ?_
  refine .op (fun _ => .exited) (fun _ => .exited) fun regs => ?_
  refine .op (fun _ => .stored) (fun _ => .stored) fun vmcb => ?_
  refine .op (fun _ => .restored) (fun _ => .restored) fun _ => ?_
  exact .op (fun _ => .opened) (fun _ => .opened) fun _ => .done rfl

theorem handle_obeys (c : SvmCpu) (exitcode : BitVec 64) :
    (Steps.handle c exitcode).Obeys PhaseStep (· = .opened) .opened := by
  unfold Steps.handle
  split
  · exact .op (fun _ => .opened) (fun _ => .host) fun _ => .done rfl
  · split
    · exact .op (fun _ => .opened) (fun _ => .xsetbv) fun _ => .done rfl
    · exact .done rfl

theorem run_obeys (c : SvmCpu) :
    (Steps.run c >>= fun _ => return () : Steps Unit).Obeys PhaseStep Phase.Final .start := by
  have hrun : Steps.run c = Steps.setupSvm.bind fun _ => (Steps.serviceTimer c.loadGuestRegisters).bind fun c =>
      Steps.runSvmVm.bind fun exit => Steps.dispatch (c.injectPending.exited exit) := rfl
  have hopened : (Steps.run c).Obeys PhaseStep (· = .opened) .start := by
    rw [hrun]
    refine setupSvm_obeys.bind ?_
    rintro _ _ rfl
    refine (serviceTimer_obeys _).bind ?_
    rintro c' _ rfl
    refine runSvmVm_obeys.bind ?_
    rintro exit _ rfl
    exact handle_obeys _ _
  refine hopened.bind ?_
  rintro _ _ rfl
  exact .done (.inr rfl)

end Order

end Rhyve.Svm
