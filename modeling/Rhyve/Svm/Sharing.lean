import Rhyve.Svm.SharedCore

/-! # Several AMD-V vCPUs on one core

* `Core.Ordered`: every thread is in some phase of its call, and the core is in the state that the phase asks for.
* `calls_do_not_interfere`: in every schedule, every VMRUN finds SVM enabled and the state of its own guest, and the
  host never runs with the state of a guest.
-/

namespace Rhyve.Svm
open Apic Backend Machine Program
set_option autoImplicit false

variable {ι : Type}

namespace Phase

/-- SVM has been enabled in this call. -/
def svme : Phase → Bool
  | .start => false
  | .disabled => false
  | _ => true

/-- The scratch VMCB is needed. -/
def scratched : Phase → Bool
  | .saved => true
  | .closed => true
  | .loaded => true
  | .exited => true
  | .stored => true
  | _ => false

/-- GIF is clear. -/
def masked : Phase → Bool
  | .closed => true
  | .loaded => true
  | .exited => true
  | .stored => true
  | .restored => true
  | _ => false

/-- The hidden state is the guest's. -/
def inGuest : Phase → Bool
  | .loaded => true
  | .exited => true
  | .stored => true
  | _ => false

def hidden (ph : Phase) (i : ι) : Hidden ι := if ph.inGuest then .guest i else .host i

theorem hidden_of_unmasked {ph : Phase} (h : ph.masked = false) (i : ι) : ph.hidden i = .host i := by
  cases ph with
  | loaded => cases h
  | exited => cases h
  | stored => cases h
  | _ => rfl

theorem Final.unmasked {ph : Phase} (h : ph.Final) : ph.masked = false := by
  rcases h with rfl | rfl
  · rfl
  · rfl

end Phase

namespace Core

/-- A thread in this phase of a call, while another one may run. -/
structure Waits (s : Core ι) (i : ι) (ph : Phase) : Prop where
  svme : ph.svme = true → s.efer &&& eferSvme ≠ 0#64
  scratch : ph.scratched = true → s.scratch i = some (.host i)

/-- The running thread in this phase of a call. -/
structure Runs (s : Core ι) (ph : Phase) : Prop extends s.Waits s.running ph where
  gif : s.gif = !ph.masked
  hidden : s.hidden = ph.hidden s.running

/-- The running thread is not in a call, and the core is the host's. -/
structure Hosts (s : Core ι) : Prop where
  gif : s.gif = true
  hidden : s.hidden = .host s.running

/-- Every thread is in some phase of its call. A thread that does not run is in one that can be interrupted. -/
structure Ordered (s : Core ι) : Prop where
  waiting : ∀ i p, i ≠ s.running → s.call i = some p →
    ∃ ph : Phase, p.Obeys PhaseStep Phase.Final ph ∧ ph.masked = false ∧ s.Waits i ph
  running : ∀ p, s.call s.running = some p → ∃ ph, p.Obeys PhaseStep Phase.Final ph ∧ s.Runs ph
  idle : s.call s.running = none → s.Hosts

end Core

/-- VMRUN with SVM enabled, interrupts held off and the guest's own state; VMSAVE of that state. The thread returns and
is switched away from as the host. -/
def CoreOutput.Good : CoreOutput ι → Prop
  | .entered i s => s.efer &&& eferSvme ≠ 0#64 ∧ s.gif = false ∧ s.hidden = .guest i
  | .saved i s => s.gif = false ∧ s.hidden = .guest i
  | .returned i s => s.gif = true ∧ s.hidden = .host i
  | .switched i s => s.gif = true ∧ s.hidden = .host i

namespace Core
variable {s : Core ι} {o : SvmOp} {a : o.Ans} {ph ph' : Phase}

theorem Runs.hosts (h : s.Runs ph) (hph : ph.masked = false) : s.Hosts := by
  refine ⟨?_, h.hidden.trans (Phase.hidden_of_unmasked hph _)⟩
  rw [h.gif, hph]
  rfl

theorem Hosts.runs (h : s.Hosts) (hph : ph.masked = false) (hwaits : s.Waits s.running ph) : s.Runs ph := by
  refine ⟨hwaits, ?_, h.hidden.trans (Phase.hidden_of_unmasked hph _).symm⟩
  rw [h.gif, hph]
  rfl

theorem Runs.good (h : s.Runs ph) (hstep : PhaseStep ph o a ph') : ∀ out ∈ s.observe o, out.Good := by
  cases hstep with
  | exited =>
    intro out hout
    rw [List.mem_singleton.mp hout]
    exact ⟨h.svme rfl, h.gif, h.hidden⟩
  | stored =>
    intro out hout
    rw [List.mem_singleton.mp hout]
    exact ⟨h.gif, h.hidden⟩
  | _ => exact nofun

/-- A thread can be switched away from only where the core is the host's. -/
theorem switch_hosts (h : s.Ordered)
    (hcan : s.gif = true ∧ s.interrupts s.running = true ∨ s.call s.running = none) : s.Hosts := by
  rcases hcan with ⟨hgif, -⟩ | hidle
  · cases hcall : s.call s.running with
    | none => exact h.idle hcall
    | some p =>
      obtain ⟨ph, -, hruns⟩ := h.running p hcall
      refine hruns.hosts ?_
      have hopen : (!ph.masked) = true := hruns.gif.symm.trans hgif
      exact (Bool.not_eq_true' _).mp hopen
  · exact h.idle hidle

/-- The areas are not part of it. -/
theorem Ordered.withArea (h : s.Ordered) (area : ι → Option Hpa) : ({ s with area := area } : Core ι).Ordered := by
  refine ⟨?_, ?_, ?_⟩
  · intro i p hi hp
    obtain ⟨ph, hobeys, hph, hw⟩ := h.waiting i p hi hp
    exact ⟨ph, hobeys, hph, hw.svme, hw.scratch⟩
  · intro p hp
    obtain ⟨ph, hobeys, hr⟩ := h.running p hp
    exact ⟨ph, hobeys, ⟨hr.svme, hr.scratch⟩, hr.gif, hr.hidden⟩
  · intro hnone
    exact ⟨(h.idle hnone).gif, (h.idle hnone).hidden⟩

/-- A core on which no thread has a vCPU. -/
def fresh (running : ι) (efer : BitVec 64) (hsave : Option Hpa) (interrupts : ι → Bool) : Core ι :=
  ⟨running, efer, hsave, true, .host running, fun _ => none, fun _ => none, fun _ => none, interrupts⟩

theorem fresh_ordered (running : ι) (efer : BitVec 64) (hsave : Option Hpa) (interrupts : ι → Bool) :
    (fresh running efer hsave interrupts).Ordered := ⟨nofun, nofun, fun _ => ⟨rfl, rfl⟩⟩

variable [DecidableEq ι]

/-- SVME is never cleared, and only the running thread's scratch VMCB is written. -/
theorem Waits.effect {i : ι} {waits : Phase} (h : s.Waits i waits) (hi : i ≠ s.running) (hstep : PhaseStep ph o a ph') :
    (s.effect o).Waits i waits := by
  cases hstep with
  | enable hvalue => exact ⟨fun _ => hvalue, h.scratch⟩
  | saved => exact ⟨h.svme, fun hph => (Function.update_of_ne hi _ _).trans (h.scratch hph)⟩
  | _ => exact ⟨h.svme, h.scratch⟩

/-- The instructions change the core as the phases say. -/
theorem Runs.effect (h : s.Runs ph) (other : (o : SvmOp) → o.Ans) (hstep : PhaseStep ph o (s.answer other o) ph') :
    (s.effect o).Runs ph' := by
  obtain ⟨⟨hsvme, hscratch⟩, hgif, hhidden⟩ := h
  generalize hans : s.answer other o = answered at hstep
  cases hstep with
  | disabled => exact ⟨⟨nofun, nofun⟩, hgif, hhidden⟩
  | enabled hefer =>
    rw [← hans] at hefer
    exact ⟨⟨fun _ => hefer, nofun⟩, hgif, hhidden⟩
  | enable hvalue => exact ⟨⟨fun _ => hvalue, nofun⟩, hgif, hhidden⟩
  | saved =>
    refine ⟨⟨fun _ => hsvme rfl, fun _ => ?_⟩, hgif, hhidden⟩
    show Function.update s.scratch s.running (some s.hidden) s.running = some (.host s.running)
    rw [Function.update_self, hhidden]
    rfl
  | closed => exact ⟨⟨fun _ => hsvme rfl, fun _ => hscratch rfl⟩, rfl, hhidden⟩
  | loaded => exact ⟨⟨fun _ => hsvme rfl, fun _ => hscratch rfl⟩, hgif, rfl⟩
  | restored =>
    refine ⟨⟨fun _ => hsvme rfl, nofun⟩, hgif, ?_⟩
    show (s.scratch s.running).getD s.hidden = .host s.running
    rw [hscratch rfl]
    rfl
  | opened => exact ⟨⟨fun _ => hsvme rfl, nofun⟩, rfl, hhidden⟩
  | _ => exact ⟨⟨fun _ => hsvme rfl, fun hph => hscratch hph⟩, hgif, hhidden⟩

/-- What a step does to the call of the running thread. -/
theorem Ordered.update {t : Core ι} {call : Option (Steps Unit)} (h : s.Ordered) (hrunning : t.running = s.running)
    (hcall : t.call = Function.update s.call s.running call)
    (hwaits : ∀ i ph, i ≠ s.running → s.Waits i ph → t.Waits i ph)
    (hruns : ∀ p, call = some p → ∃ ph, p.Obeys PhaseStep Phase.Final ph ∧ t.Runs ph)
    (hhosts : call = none → t.Hosts) : t.Ordered := by
  have hself : t.call t.running = call := by
    rw [hcall, hrunning]
    exact Function.update_self _ _ _
  refine ⟨?_, ?_, ?_⟩
  · intro i p hi hp
    rw [hrunning] at hi
    rw [hcall, Function.update_of_ne hi] at hp
    obtain ⟨ph, hobeys, hph, hold⟩ := h.waiting i p hi hp
    exact ⟨ph, hobeys, hph, hwaits i ph hi hold⟩
  · intro p hp
    exact hruns p (hself.symm.trans hp)
  · intro hnone
    exact hhosts (hself.symm.trans hnone)

theorem exec_ordered (h : s.Ordered) (other : (o : SvmOp) → o.Ans) :
    (∀ out ∈ (s.exec other).2, out.Good) ∧ (s.exec other).1.Ordered := by
  unfold exec
  split
  · exact ⟨nofun, h⟩
  · rename_i hcall
    obtain ⟨ph, hobeys, hruns⟩ := h.running _ hcall
    cases hobeys with
    | done hfinal =>
      have hhosts : s.Hosts := hruns.hosts hfinal.unmasked
      refine ⟨?_, h.update rfl rfl (fun _ _ _ hw => ⟨hw.svme, hw.scratch⟩) nofun fun _ => ⟨hhosts.gif, hhosts.hidden⟩⟩
      intro out hout
      rw [List.mem_singleton.mp hout]
      exact ⟨hhosts.gif, hhosts.hidden⟩
  · rename_i o k hcall
    obtain ⟨ph, hobeys, hruns⟩ := h.running _ hcall
    cases hobeys with
    | op after hnext hrest =>
      have hstep := hnext (s.answer other o)
      have hrunning : (s.effect o).running = s.running := by
        cases o with
        | _ => rfl
      refine ⟨hruns.good hstep, h.update hrunning rfl ?_ ?_ nofun⟩
      · intro i waits hi hw
        have hw' := hw.effect hi hstep
        exact ⟨hw'.svme, hw'.scratch⟩
      · rintro _ ⟨⟩
        have hruns' := hruns.effect other hstep
        exact ⟨after (s.answer other o), hrest _, ⟨hruns'.svme, hruns'.scratch⟩, hruns'.gif, hruns'.hidden⟩

theorem begin_ordered (h : s.Ordered) (hidle : s.call s.running = none) {p : Steps Unit}
    (hp : p.Obeys PhaseStep Phase.Final .start) : (s.begin p).Ordered := by
  have hhosts := h.idle hidle
  refine h.update rfl rfl (fun _ _ _ hw => ⟨hw.svme, hw.scratch⟩) ?_ nofun
  rintro _ ⟨⟩
  exact ⟨.start, hp, ⟨nofun, nofun⟩, hhosts.gif, hhosts.hidden⟩

theorem create_ordered (h : s.Ordered) (a : Hpa) : (s.create a).Ordered := by
  unfold create
  split
  · rename_i hnew
    exact (begin_ordered h hnew.1 (setupSvm_obeys.mono fun _ hph => .inl hph)).withArea _
  · exact h

theorem start_ordered (h : s.Ordered) (c : SvmCpu) : (s.start c).Ordered := by
  unfold start
  split
  · rename_i hidle
    exact begin_ordered h hidle.1 (run_obeys c)
  · exact h

theorem drop_ordered (h : s.Ordered) : s.drop.Ordered := by
  unfold drop
  split
  · exact h.withArea _
  · exact h

/-- Where the core is the host's, the running thread waits like the others. -/
theorem Ordered.waits (h : s.Ordered) (hhosts : s.Hosts) (i : ι) {p : Steps Unit} (hp : s.call i = some p) :
    ∃ ph : Phase, p.Obeys PhaseStep Phase.Final ph ∧ ph.masked = false ∧ s.Waits i ph := by
  by_cases hi : i = s.running
  · subst hi
    obtain ⟨ph, hobeys, hruns⟩ := h.running p hp
    refine ⟨ph, hobeys, ?_, hruns.toWaits⟩
    have hopen : (!ph.masked) = true := hruns.gif.symm.trans hhosts.gif
    exact (Bool.not_eq_true' _).mp hopen
  · exact h.waiting i p hi hp

theorem switch_ordered (h : s.Ordered) (next : ι) :
    (∀ out ∈ (s.switch next).2, out.Good) ∧ (s.switch next).1.Ordered := by
  unfold switch
  split
  · rename_i hcan
    have hhosts := switch_hosts h hcan
    refine ⟨?_, ?_, ?_, ?_⟩
    · intro out hout
      rw [List.mem_singleton.mp hout]
      exact ⟨hhosts.gif, hhosts.hidden⟩
    · intro i p _ hp
      obtain ⟨ph, hobeys, hph, hw⟩ := h.waits hhosts i hp
      exact ⟨ph, hobeys, hph, hw.svme, hw.scratch⟩
    · intro p hp
      obtain ⟨ph, hobeys, hph, hw⟩ := h.waits hhosts next hp
      exact ⟨ph, hobeys, Hosts.runs ⟨hhosts.gif, rfl⟩ hph ⟨hw.svme, hw.scratch⟩⟩
    · intro _
      exact ⟨hhosts.gif, rfl⟩
  · exact ⟨nofun, h⟩

theorem step_ordered (s : Core ι) (e : CoreEvent ι) (h : s.Ordered) :
    (∀ out ∈ (s.step e).2, out.Good) ∧ ∀ s', (s.step e).1 = some s' → s'.Ordered := by
  cases e with
  | create a =>
    refine ⟨nofun, ?_⟩
    rintro s' ⟨⟩
    exact create_ordered h a
  | run c =>
    refine ⟨nofun, ?_⟩
    rintro s' ⟨⟩
    exact start_ordered h c
  | drop =>
    refine ⟨nofun, ?_⟩
    rintro s' ⟨⟩
    exact drop_ordered h
  | exec other =>
    obtain ⟨hgood, hordered⟩ := exec_ordered h other
    refine ⟨hgood, ?_⟩
    rintro s' ⟨⟩
    exact hordered
  | switch next =>
    obtain ⟨hgood, hordered⟩ := switch_ordered h next
    refine ⟨hgood, ?_⟩
    rintro s' ⟨⟩
    exact hordered

end Core

/-- Any number of vCPUs, in any schedule: SVM is enabled at every VMRUN, whatever EFER was before, and the guest runs
and is saved with its own hidden state; the host never goes on with the state of a guest. -/
theorem calls_do_not_interfere [DecidableEq ι] (running : ι) (efer : BitVec 64) (hsave : Option Hpa) (interrupts : ι → Bool)
    (es : List (CoreEvent ι)) :
    ∀ out ∈ (Machine.run Core.step (Core.fresh running efer hsave interrupts) es).2, out.Good :=
  run_outputs Core.Ordered CoreOutput.Good (fun s e h _ => Core.step_ordered s e h)
    (Core.fresh_ordered running efer hsave interrupts) (along_true _ es)

/-- What an instruction answers if nothing happens. -/
def quiet : (o : SvmOp) → o.Ans
  | .rdmsrEfer => 0#64
  | .vmrun => GuestRegisters.zero
  | .vmsaveGuest => fun _ => 0#8
  | .host => Steps.quietEnv
  | .wrmsrEfer _ => ()
  | .wrmsrHsave => ()
  | .vmsaveHost => ()
  | .clgi => ()
  | .vmloadGuest => ()
  | .vmloadHost => ()
  | .stgi => ()
  | .xsetbv _ => ()

def sharedCpu : SvmCpu := SvmCpu.new 0#64 0#64 0#64 0#64 0#64 0#64

/-- The first vCPU is preempted between `setup_svm` and VMRUN, and the second one runs meanwhile. -/
def preempted : List (CoreEvent Bool) :=
  [.create 1#64] ++ List.replicate 4 (.exec quiet) ++ [.run sharedCpu] ++ List.replicate 2 (.exec quiet) ++
    [.switch true, .create 2#64] ++ List.replicate 3 (.exec quiet) ++ [.run sharedCpu] ++
    List.replicate 11 (.exec quiet) ++ [.switch false] ++ List.replicate 9 (.exec quiet)

/-- The vCPU of a VMRUN. -/
def CoreOutput.enteredBy : CoreOutput Bool → Option Bool
  | .entered i _ => some i
  | _ => none

theorem calls_do_not_interfere_preempted :
    (Machine.run Core.step (Core.fresh false 0#64 none fun _ => true) preempted).2.filterMap CoreOutput.enteredBy =
      [true, false] ∧
    ∀ out ∈ (Machine.run Core.step (Core.fresh false 0#64 none fun _ => true) preempted).2, out.Good :=
  ⟨by decide +kernel, calls_do_not_interfere false 0#64 none (fun _ => true) preempted⟩

end Rhyve.Svm
