import Rhyve.Backend.Injection
import Rhyve.Backend.Shadow

/-! # No timer interrupt is lost

What is injected was asked for by an expiry, once. Here is the converse, for the same logs of the timer unit.

* `Delivers`: an entry into a guest that can take an interrupt leaves no vector behind.
* `PromptAt`: such an entry carries the vector of the last expiry, if that has not been injected yet.
* `coalesced`: the expiries that find the vector of the one before still waiting, and replace it.
* `no_interrupt_lost`: on both backends every expiry is injected, replaced by the next one, or still waiting.
-/

namespace Rhyve.Backend
open Apic Machine Vmx Svm
set_option autoImplicit false

/-- A pending vector is injected as soon as the guest can take it. -/
def Delivers (u : TimerUnit) : TimerEvent → Prop
  | .entered rflags blocking info =>
    rflags.getLsbD 9 = true → blocking = 0#64 → u.pending.isSome = true → isValid info = true
  | _ => True

/-- An entry that can take an interrupt injects the vector of the last expiry, if that one is still undelivered.
-/
def PromptAt (log : List TimerEvent) : TimerEvent → Prop
  | .entered rflags blocking info => rflags.getLsbD 9 = true → blocking = 0#64 →
    ∀ vector masked, lastExpiry log = some (vector, masked) → isValid info = true ∧ vectorOf info = vector
  | _ => True

/-- Counted from a log whose last expiry, unless injected, is this one. -/
def coalescedFrom : Option (BitVec 8 × Bool) → List TimerEvent → ℕ
  | _, [] => 0
  | last, e :: es => (if isExpiry e && last.isSome then 1 else 0) + coalescedFrom (unused last e) es

def coalesced (log : List TimerEvent) : ℕ := coalescedFrom none log

/-- Every expiry is injected, replaced by a later one, or still pending; and none waits longer than it has to.
-/
structure LosesNothing (log : List TimerEvent) : Prop where
  prompt : AtEach PromptAt log
  accounted : log.countP isExpiry =
    log.countP isInjection + coalesced log + (lastExpiry log).toList.length

/-! ## Logs of the timer unit -/

section Logs
variable {u : TimerUnit} {log : List TimerEvent}

theorem prompt_of_pends (h : Pends u log) {e : TimerEvent} (ha : u.allows e) (hd : Delivers u e) : PromptAt log e := by
  cases e with
  | wrote tsc msr value => trivial
  | expired tsc vector masked => trivial
  | entered rflags blocking info =>
    intro hif hblock vector masked hlast
    have hpending : u.pending = some vector := by
      rw [h.pending, hlast]
      rfl
    have hvalid : isValid info = true := hd hif hblock (by rw [hpending]; rfl)
    have hsame := (ha hvalid).1
    rw [hpending] at hsame
    exact ⟨hvalid, (Option.some.inj hsame).symm⟩

theorem legal_prompt (h : Legal TimerUnit.after (fun u e => u.allows e ∧ Delivers u e) TimerUnit.new log) :
    AtEach PromptAt log :=
  Legal.atEach (A := fun u e => TimerUnit.allows u e ∧ Delivers u e) Pends
    (fun _ _ _ hI hA => ⟨prompt_of_pends hI hA.1 hA.2, hI.after hA.1⟩) pends_new atEach_nil h

/-- By induction on the log: every expiry adds a vector that waits, or replaces one; every injection takes one away. -/
theorem legal_accounted (h : Legal TimerUnit.after TimerUnit.allows u log) (hquiet : u.timer.Quiet)
    {last : Option (BitVec 8 × Bool)} (hlast : u.pending = last.map Prod.fst) :
    log.countP isExpiry + last.toList.length =
      log.countP isInjection + coalescedFrom last log + (log.foldl unused last).toList.length := by
  induction h generalizing last with
  | nil => rfl
  | @cons u e es ha _ ih =>
    have hquiet' := TimerUnit.quiet_after hquiet e
    rw [List.countP_cons, List.countP_cons, List.foldl_cons, coalescedFrom]
    cases e with
    | wrote tsc msr value =>
      have hpending : (u.after (.wrote tsc msr value)).pending = last.map Prod.fst := hlast
      have hrest := ih hquiet' hpending
      simpa [isExpiry, isInjection, unused] using hrest
    | expired tsc vector masked =>
      obtain ⟨harmed, hvector, -⟩ := ha
      obtain ⟨deadline, hd⟩ := Option.isSome_iff_exists.mp harmed
      have hpending : u.expire.pending = (some (vector, masked)).map Prod.fst := by
        rw [TimerUnit.expire_some hd, hquiet harmed, hvector]
        rfl
      have hrest := ih hquiet' hpending
      cases last with
      | none =>
        simp only [isExpiry, isInjection, unused, Option.toList_some, Option.toList_none, List.length_singleton,
          List.length_nil, Option.isSome_none, Bool.and_false, Bool.false_eq_true, if_true, if_false] at hrest ⊢
        omega
      | some x =>
        simp only [isExpiry, isInjection, unused, Option.toList_some, List.length_singleton, Option.isSome_some,
          Bool.and_true, Bool.false_eq_true, if_true, if_false] at hrest ⊢
        omega
    | entered rflags blocking info =>
      cases hvalid : isValid info with
      | true =>
        obtain ⟨x, rfl⟩ : ∃ x, last = some x := by
          have hsome := (ha hvalid).1
          rw [hlast] at hsome
          obtain ⟨x, hx, -⟩ := Option.map_eq_some_iff.mp hsome
          exact ⟨x, hx⟩
        have hnone : (u.after (.entered rflags blocking info)).pending = (none : Option (BitVec 8 × Bool)).map Prod.fst := by
          show (if isValid info then { u with pending := none } else u).pending = none
          rw [hvalid]
          rfl
        have hrest := ih hquiet' hnone
        simp only [isExpiry, isInjection, unused, hvalid, Option.toList_some, Option.toList_none,
          List.length_singleton, List.length_nil, Bool.false_and, Bool.false_eq_true, if_true, if_false] at hrest ⊢
        omega
      | false =>
        have hsame : (u.after (.entered rflags blocking info)).pending = last.map Prod.fst := by
          show (if isValid info then { u with pending := none } else u).pending = _
          rw [hvalid]
          exact hlast
        have hrest := ih hquiet' hsame
        simpa [isExpiry, isInjection, unused, hvalid] using hrest

end Logs

/-! ## The backends -/

section Vmx
variable {c : VmxCpu}

theorem vmx_enter_delivers {entered : VmxCpu} {tsc : BitVec 64} (h : c.enter tsc = .ok entered) :
    Delivers c.timerUnit (Vmx.entryEvent entered) := by
  intro hif hblock hsome
  cases enter_injection h with
  | nothing hnone _ _ _ =>
    rw [show c.timerUnit.pending = none from hnone] at hsome
    cases hsome
  | injected vector _ _ _ _ hinfo =>
    rw [hinfo]
    exact (Vmx.eventInfo_fields vector).2.1
  | waiting hcannot _ _ _ => exact absurd ⟨flag_and_ne_zero hif, hblock⟩ hcannot

theorem vmx_exitEvents_delivers (timer : ApicTimer) (regs : GuestRegisters) (tsc exitTsc : BitVec 64)
    (basic : VmxBasicExitReason) : ∀ e ∈ Vmx.exitEvents timer regs tsc exitTsc basic, ∀ u, Delivers u e := by
  unfold Vmx.exitEvents
  intro e he u
  split at he
  · rw [List.mem_singleton.mp he]
    trivial
  · split at he
    · rw [List.mem_singleton.mp he]
      trivial
    · cases he
  · cases he

theorem vmx_turn_delivers (c : VmxCpu) (i : VmxTurn) :
    Legal TimerUnit.after Delivers c.timerUnit (Vmx.turn c i).2 := by
  rcases turn_cases c i with h | ⟨entered, henter, h⟩
  · rw [h]
    exact .nil
  have hentry : Delivers c.timerUnit (Vmx.entryEvent entered) :=
    vmx_enter_delivers (c := { c with regs := i.regs }) henter
  rcases h with h | ⟨r, hdispatch, h⟩
  · rw [h]
    exact legal_singleton hentry
  · obtain ⟨basic, hbasic, -⟩ := dispatch_unit hdispatch i.exitTsc
    rw [h, eventsAfter_basic hbasic]
    exact .cons hentry (legal_of_forall (vmx_exitEvents_delivers _ _ _ _ _) _)

end Vmx

section Svm
variable (c : SvmCpu)

theorem injectPending_delivers (hrflags : c.vmcb.readU64 saveRflags = c.regs.rflags) :
    Delivers c.timerUnit (Svm.entryEvent c.injectPending) := by
  have hflags : c.injectPending.vmcb.readU64 saveRflags = c.regs.rflags :=
    (injectPending_other c (by decide)).trans hrflags
  have hshadow : c.injectPending.vmcb.readU64 intState = c.vmcb.readU64 intState := injectPending_other c (by decide)
  intro hif hblock hsome
  rw [hflags] at hif
  rw [hshadow] at hblock
  obtain ⟨vector, hvector⟩ := Option.isSome_iff_exists.mp hsome
  exact ((injectPending_injects_iff hvector hif).mpr hblock).1

theorem svm_turn_delivers (i : SvmTurn) : Legal TimerUnit.after Delivers c.timerUnit (Svm.turn c i).2 := by
  have hbefore : Legal TimerUnit.after Delivers c.timerUnit (eventsBefore c i) := by
    obtain ⟨hunit, hvmcb, hregs⟩ :=
      serviceTimer_unit (SvmCpu.loadGuestRegisters { c with regs := i.regs }) i.input.entryTsc
    have hrflags := loadGuestRegisters_rflags { c with regs := i.regs }
    have henter := injectPending_delivers
      (SvmCpu.serviceTimer (SvmCpu.loadGuestRegisters { c with regs := i.regs }) i.input.entryTsc)
      (by rw [hvmcb, hregs]; exact hrflags)
    rw [hunit] at henter
    refine Legal.append (legal_of_forall ?_ _) (legal_singleton henter)
    unfold pollEvents
    intro e he u
    split at he
    · cases he
    · split at he
      · cases he
      · rw [List.mem_singleton.mp he]
        trivial
  cases hrun : SvmCpu.run { c with regs := i.regs } i.input with
  | error e =>
    rw [turn_error hrun]
    exact hbefore
  | ok r =>
    rw [turn_ok hrun]
    refine hbefore.append (legal_of_forall ?_ _)
    unfold Svm.exitEvents
    intro e he u
    split at he
    · rw [List.mem_singleton.mp he]
      trivial
    · cases he

end Svm

theorem losesNothing {log : List TimerEvent} (hallows : Legal TimerUnit.after TimerUnit.allows TimerUnit.new log)
    (hdelivers : Legal TimerUnit.after Delivers TimerUnit.new log) : LosesNothing log := by
  refine ⟨legal_prompt (hallows.and hdelivers), ?_⟩
  have hnone : TimerUnit.new.pending = (none : Option (BitVec 8 × Bool)).map Prod.fst := rfl
  exact legal_accounted hallows pends_new.quiet hnone

/-- Whatever the guest and the host do in the calls of `run`: an entry injects what is waiting as soon as the guest can
take it, and every expiry is injected, replaced by a later one, or the one that still waits. -/
theorem no_interrupt_lost (h : VmxCpu.HostCpu)
    (pointer apicAccessHpa iopmPa msrpmPa cpuId entryPoint guestRsp : BitVec 64) :
    (∀ c, VmxCpu.new h pointer apicAccessHpa cpuId entryPoint guestRsp = .ok c →
      ∀ is, LosesNothing (Machine.run Vmx.turn c is).2) ∧
    ∀ is, LosesNothing
      (Machine.run Svm.turn (SvmCpu.new pointer iopmPa msrpmPa cpuId entryPoint guestRsp) is).2 := by
  refine ⟨?_, ?_⟩
  · intro c hc is
    obtain ⟨hidle, hunit⟩ := Vmx.new_unit hc
    have hdelivers := (vmx_run_legal (fun c' i _ _ _ => vmx_turn_delivers c' i) hidle (along_true c is)).1
    rw [hunit] at hdelivers
    exact losesNothing (vmx_logs hc is).legal hdelivers
  · intro is
    have hdelivers := (svm_run_legal (fun c' i _ => svm_turn_delivers c' i)
      (along_true (SvmCpu.new pointer iopmPa msrpmPa cpuId entryPoint guestRsp) is)).1
    exact losesNothing (svm_logs pointer iopmPa msrpmPa cpuId entryPoint guestRsp is).legal hdelivers

/-- The deadline has passed, but interrupts are disabled. The guest sets another one. -/
def rearmDisabled : SvmTurn :=
  ⟨GuestRegisters.zero, 10#64, svmExitWith { GuestRegisters.zero with rcx := 0x6e0#64 } 0x7C#64 1#64 12#64,
    11#64, fun _ _ => ⟨0, 0, 0, 0⟩⟩

/-- An entry after both, with interrupts enabled. -/
def enabledLater : SvmTurn :=
  ⟨{ GuestRegisters.zero with rflags := 0x202#64 }, 20#64,
    svmExitWith GuestRegisters.zero 0x60#64 0#64 0#64, 21#64, fun _ _ => ⟨0, 0, 0, 0⟩⟩

/-- Two expiries, of which the second replaces the first. -/
theorem no_interrupt_lost_replaced :
    LosesNothing (Machine.run Svm.turn (SvmCpu.new 0 0 0 0 0 0) [armDeadline, rearmDisabled, enabledLater]).2 ∧
    (Machine.run Svm.turn (SvmCpu.new 0 0 0 0 0 0) [armDeadline, rearmDisabled, enabledLater]).2.countP isExpiry = 2 ∧
    (Machine.run Svm.turn (SvmCpu.new 0 0 0 0 0 0) [armDeadline, rearmDisabled, enabledLater]).2.countP isInjection = 1 ∧
    coalesced (Machine.run Svm.turn (SvmCpu.new 0 0 0 0 0 0) [armDeadline, rearmDisabled, enabledLater]).2 = 1 := by
  refine ⟨?_, by decide +kernel, by decide +kernel, by decide +kernel⟩
  exact (no_interrupt_lost blankHost 0 0 0 0 0 0 0).2 _

end Rhyve.Backend
