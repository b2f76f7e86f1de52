import Rhyve.Apic.Masking

/-! # The timer and its LVT mode

A local APIC disarms its timer when the mode changes and ignores the arming register of another mode.
`ApicTimer` keeps the mode as two flags next to the armed deadline, and its three registers update them
independently.

* `Traced`: the timer unit, the mode last written and the register that armed the deadline.
* `Obeys`, `ObeysAt`: the rule for states and for writes.
* `Orderly`: what the guest has to keep to.
* `obeysMode_iff`: the timer follows the rule in exactly the logs in which every write is orderly.
-/

namespace Rhyve.Apic
open Machine
set_option autoImplicit false

/-- The timer unit with what the guest has last written. -/
structure Traced where
  unit : TimerUnit
  /-- The mode bits of the last LVT write. -/
  mode : BitVec 64
  /-- The arming register that was written last. Such a write replaces the deadline or removes it, so an
  armed deadline comes from this one. -/
  armedBy : Option (BitVec 32)

namespace Traced

def new : Traced := ⟨TimerUnit.new, 0#64, none⟩

/-- An LVT write replaces the mode, a write to an arming register is remembered; no other event counts. -/
def after (s : Traced) (e : TimerEvent) : Traced where
  unit := s.unit.after e
  mode := match e with
    | .wrote _ msr value => if msr = ia32X2apicLvtTimer then value &&& lvtTimerModeMask else s.mode
    | _ => s.mode
  armedBy := match e with
    | .wrote _ msr _ => if msr = ia32TscDeadline ∨ msr = ia32X2apicInitCount then some msr else s.armedBy
    | _ => s.armedBy

end Traced

def trace (log : List TimerEvent) : Traced := log.foldl Traced.after Traced.new

theorem trace_concat (log : List TimerEvent) (e : TimerEvent) : trace (log ++ [e]) = (trace log).after e := by
  rw [trace, List.foldl_append]
  rfl

/-- A trace adds to the timer unit and does not change it. -/
theorem trace_unit (log : List TimerEvent) :
    (trace log).unit = log.foldl TimerUnit.after TimerUnit.new := by
  induction log using List.reverseRecOn with
  | nil => rfl
  | append_singleton log e ih =>
    rw [trace_concat, List.foldl_append, ← ih]
    rfl

/-! ## The rule -/

/-- What is armed fits the mode in force: a period only in periodic mode, a TSC deadline only in TSC-deadline
mode, a count only in the others. -/
structure Obeys (s : Traced) : Prop where
  period : s.unit.timer.period.isSome = true → s.mode = lvtTimerModePeriodic
  deadline : s.unit.timer.deadline.isSome = true → s.armedBy = some ia32TscDeadline →
    s.mode = lvtTimerModeTscDeadline
  count : s.unit.timer.deadline.isSome = true → s.armedBy = some ia32X2apicInitCount →
    s.mode ≠ lvtTimerModeTscDeadline

/-- The register does not arm the timer in this mode. -/
def Foreign (mode : BitVec 64) (msr : BitVec 32) : Prop :=
  (msr = ia32TscDeadline ∧ mode ≠ lvtTimerModeTscDeadline) ∨
    (msr = ia32X2apicInitCount ∧ mode = lvtTimerModeTscDeadline)

def ApicTimer.armed (t : ApicTimer) : Option (BitVec 64) × Option (BitVec 64) := (t.deadline, t.period)

/-- A write that changes the mode disarms the timer; one to a foreign register does nothing. -/
def ObeysAt (s : Traced) : TimerEvent → Prop
  | .wrote tsc msr value =>
    (msr = ia32X2apicLvtTimer → value &&& lvtTimerModeMask ≠ s.mode →
      (s.unit.timer.writeMsr tsc msr value).armed = (none, none)) ∧
    (Foreign s.mode msr → (s.unit.timer.writeMsr tsc msr value).armed = s.unit.timer.armed)
  | _ => True

/-- A log in which every state fits the mode, and every write is treated as its mode says. -/
structure ObeysMode (log : List TimerEvent) : Prop where
  states : ∀ pre, pre <+: log → Obeys (trace pre)
  writes : AtEach (fun pre e => ObeysAt (trace pre) e) log

/-! ## Orderly writes -/

/-- An LVT write keeps the mode, masks the timer or finds it disarmed; the register of another mode is
written only when there is nothing to disarm, and IA32_TSC_DEADLINE then with nothing to arm. -/
structure OrderlyWrite (s : Traced) (msr : BitVec 32) (value : BitVec 64) : Prop where
  lvt : msr = ia32X2apicLvtTimer → value &&& lvtTimerModeMask = s.mode ∨ value &&& lvtMasked ≠ 0#64 ∨
    s.unit.timer.deadline = none
  deadline : msr = ia32TscDeadline → s.mode = lvtTimerModeTscDeadline ∨
    (s.unit.timer.deadline = none ∧ (value = 0#64 ∨ s.unit.timer.masked = true))
  count : msr = ia32X2apicInitCount → s.mode ≠ lvtTimerModeTscDeadline ∨ s.unit.timer.deadline = none

/-- A write is orderly; other events are free. -/
def Orderly (s : Traced) : TimerEvent → Prop
  | .wrote _ msr value => OrderlyWrite s msr value
  | _ => True

/-! ## The flags -/

/-- The flags of the timer are those of the mode, and the timer is silent. -/
structure Coherent (s : Traced) : Prop where
  tscDeadline : s.unit.timer.tscDeadlineMode = (s.mode == lvtTimerModeTscDeadline)
  periodic : s.unit.timer.periodic = (s.mode == lvtTimerModePeriodic)
  silent : s.unit.timer.Silent

theorem writeLvt_flags (t : ApicTimer) (value : BitVec 64) :
    (t.writeLvt value).tscDeadlineMode = (value &&& lvtTimerModeMask == lvtTimerModeTscDeadline) ∧
      (t.writeLvt value).periodic = (value &&& lvtTimerModeMask == lvtTimerModePeriodic) := by
  unfold ApicTimer.writeLvt
  dsimp only
  split <;> exact ⟨rfl, rfl⟩

theorem writeMsr_flags (t : ApicTimer) (tsc value : BitVec 64) (msr : BitVec 32) :
    msr ≠ ia32X2apicLvtTimer → (t.writeMsr tsc msr value).tscDeadlineMode = t.tscDeadlineMode ∧
      (t.writeMsr tsc msr value).periodic = t.periodic := by
  revert msr
  apply ApicTimer.msr_cases
  · exact fun h => absurd rfl h
  · exact fun _ => ⟨rfl, rfl⟩
  · intro _
    show (t.writeInitCount tsc value).tscDeadlineMode = _ ∧ (t.writeInitCount tsc value).periodic = _
    unfold ApicTimer.writeInitCount
    split <;> exact ⟨rfl, rfl⟩
  · intro msr hlvt hdead hcount _
    rw [ApicTimer.writeMsr_other t tsc value hlvt hdead hcount]
    exact ⟨rfl, rfl⟩

theorem expire_flags (u : TimerUnit) : u.expire.timer.tscDeadlineMode = u.timer.tscDeadlineMode ∧
    u.expire.timer.periodic = u.timer.periodic := by
  unfold TimerUnit.expire
  split <;> exact ⟨rfl, rfl⟩

theorem Coherent.after {s : Traced} (h : Coherent s) (e : TimerEvent) : Coherent (s.after e) := by
  have hsilent := TimerUnit.silent_after h.silent e
  cases e with
  | wrote tsc msr value =>
    by_cases hlvt : msr = ia32X2apicLvtTimer
    · subst hlvt
      obtain ⟨hd, hp⟩ := writeLvt_flags s.unit.timer value
      exact ⟨hd, hp, hsilent⟩
    · obtain ⟨hd, hp⟩ := writeMsr_flags s.unit.timer tsc value msr hlvt
      have hmode : (s.after (.wrote tsc msr value)).mode = s.mode := if_neg hlvt
      refine ⟨?_, ?_, hsilent⟩
      · rw [hmode]
        exact hd.trans h.tscDeadline
      · rw [hmode]
        exact hp.trans h.periodic
  | expired tsc vector masked =>
    obtain ⟨hd, hp⟩ := expire_flags s.unit
    exact ⟨hd.trans h.tscDeadline, hp.trans h.periodic, hsilent⟩
  | entered rflags blocking info =>
    have htimer := TimerUnit.entered_timer s.unit rflags blocking info
    refine ⟨?_, ?_, hsilent⟩
    · exact (congrArg ApicTimer.tscDeadlineMode htimer).trans h.tscDeadline
    · exact (congrArg ApicTimer.periodic htimer).trans h.periodic

theorem coherent_trace (log : List TimerEvent) : Coherent (trace log) := by
  induction log using List.reverseRecOn with
  | nil => exact ⟨rfl, rfl, silent_new⟩
  | append_singleton log e ih =>
    rw [trace_concat]
    exact ih.after e

/-! ## Orderly writes keep the rule -/

theorem ApicTimer.Silent.disarmed {t : ApicTimer} (h : t.Silent) (hd : t.deadline = none) :
    t.armed = (none, none) := by
  have hp : t.period = none := by
    cases hp : t.period with
    | none => rfl
    | some p =>
      have hsome := (h.period p hp).2
      rw [hd] at hsome
      cases hsome
  rw [ApicTimer.armed, hd, hp]

theorem obeys_disarmed {s : Traced} (h : s.unit.timer.armed = (none, none)) : Obeys s := by
  obtain ⟨hd, hp⟩ := Prod.mk.inj h
  refine ⟨?_, ?_, ?_⟩
  · intro hsome
    rw [hp] at hsome
    cases hsome
  · intro hsome
    rw [hd] at hsome
    cases hsome
  · intro hsome
    rw [hd] at hsome
    cases hsome

theorem writeLvt_masking (t : ApicTimer) {value : BitVec 64} (h : value &&& lvtMasked ≠ 0#64) :
    (t.writeLvt value).armed = (none, none) := by
  unfold ApicTimer.writeLvt
  dsimp only
  rw [if_pos (bne_iff_ne.mpr h)]
  rfl

theorem writeLvt_unmasked (t : ApicTimer) {value : BitVec 64} (h : value &&& lvtMasked = 0#64) :
    (t.writeLvt value).armed = t.armed := by
  unfold ApicTimer.writeLvt
  dsimp only
  rw [if_neg (by rw [h]; decide)]
  rfl

theorem obeys_other {s : Traced} (h : Obeys s) (tsc value : BitVec 64) {msr : BitVec 32}
    (hlvt : msr ≠ ia32X2apicLvtTimer) (hdead : msr ≠ ia32TscDeadline) (hcount : msr ≠ ia32X2apicInitCount) :
    Obeys (s.after (.wrote tsc msr value)) ∧ ObeysAt s (.wrote tsc msr value) := by
  have hwrite := ApicTimer.writeMsr_other s.unit.timer tsc value hlvt hdead hcount
  have hsame : s.after (.wrote tsc msr value) = s := by
    simp only [Traced.after, TimerUnit.after, hwrite, hlvt, hdead, hcount, or_self, if_false]
  rw [hsame]
  refine ⟨h, fun hmsr => absurd hmsr hlvt, ?_⟩
  intro _
  rw [hwrite]

section Writes
variable {s : Traced} (hs : Coherent s) (tsc value : BitVec 64)
include hs

theorem obeys_lvt (h : Obeys s) (ho : OrderlyWrite s ia32X2apicLvtTimer value) :
    Obeys (s.after (.wrote tsc ia32X2apicLvtTimer value)) ∧
      ObeysAt s (.wrote tsc ia32X2apicLvtTimer value) := by
  have hown : ¬ Foreign s.mode ia32X2apicLvtTimer := by
    rintro (⟨hmsr, -⟩ | ⟨hmsr, -⟩)
    · exact absurd hmsr (by decide)
    · exact absurd hmsr (by decide)
  by_cases hm : value &&& lvtMasked = 0#64
  · have hsame := writeLvt_unmasked s.unit.timer hm
    rcases ho.lvt rfl with hmode | hm' | hd
    · obtain ⟨hdead, hper⟩ := Prod.mk.inj hsame
      refine ⟨⟨?_, ?_, ?_⟩, fun _ hne => absurd hmode hne, fun hf => absurd hf hown⟩
      · intro hsome
        exact hmode.trans (h.period (hper ▸ hsome))
      · intro hsome hby
        exact hmode.trans (h.deadline (hdead ▸ hsome) hby)
      · intro hsome hby heq
        exact h.count (hdead ▸ hsome) hby (hmode.symm.trans heq)
    · exact absurd hm hm'
    · have hnone := hsame.trans (hs.silent.disarmed hd)
      exact ⟨obeys_disarmed hnone, fun _ _ => hnone, fun hf => absurd hf hown⟩
  · have hnone := writeLvt_masking s.unit.timer hm
    exact ⟨obeys_disarmed hnone, fun _ _ => hnone, fun hf => absurd hf hown⟩

theorem obeys_deadline (ho : OrderlyWrite s ia32TscDeadline value) :
    Obeys (s.after (.wrote tsc ia32TscDeadline value)) ∧
      ObeysAt s (.wrote tsc ia32TscDeadline value) := by
  have hlvt : ¬ ia32TscDeadline = ia32X2apicLvtTimer := by decide
  rcases ho.deadline rfl with hmode | ⟨hd, hno⟩
  · refine ⟨⟨?_, fun _ _ => hmode, ?_⟩, fun hmsr => absurd hmsr hlvt, ?_⟩
    · intro hsome
      cases hsome
    · intro _ hby
      exact absurd (Option.some.inj hby) (by decide)
    · rintro (⟨-, hne⟩ | ⟨hmsr, -⟩)
      · exact absurd hmode hne
      · exact absurd hmsr (by decide)
  · have hnone : (s.unit.timer.writeMsr tsc ia32TscDeadline value).armed = (none, none) := by
      show ((if value ≠ 0#64 ∧ s.unit.timer.masked = false then some value else none), none) = (none, none)
      rw [if_neg]
      rintro ⟨hvalue, hmask⟩
      rcases hno with hno | hno
      · exact hvalue hno
      · rw [hno] at hmask
        cases hmask
    refine ⟨obeys_disarmed hnone, fun hmsr => absurd hmsr hlvt, ?_⟩
    intro _
    rw [hnone, hs.silent.disarmed hd]

theorem obeys_count (ho : OrderlyWrite s ia32X2apicInitCount value) :
    Obeys (s.after (.wrote tsc ia32X2apicInitCount value)) ∧
      ObeysAt s (.wrote tsc ia32X2apicInitCount value) := by
  have hlvt : ¬ ia32X2apicInitCount = ia32X2apicLvtTimer := by decide
  by_cases hoff : value = 0#64 ∨ s.unit.timer.masked = true ∨ s.unit.timer.tscDeadlineMode = true
  · have hnone : (s.unit.timer.writeMsr tsc ia32X2apicInitCount value).armed = (none, none) :=
      congrArg ApicTimer.armed (if_pos hoff : s.unit.timer.writeInitCount tsc value = _)
    refine ⟨obeys_disarmed hnone, fun hmsr => absurd hmsr hlvt, ?_⟩
    rintro (⟨hmsr, -⟩ | ⟨-, hmode⟩)
    · exact absurd hmsr (by decide)
    · rcases ho.count rfl with hne | hd
      · exact absurd hmode hne
      · rw [hnone, hs.silent.disarmed hd]
  · have hwrite : (s.unit.timer.writeMsr tsc ia32X2apicInitCount value).armed =
        (some (tsc + value), if s.unit.timer.periodic then some value else none) :=
      congrArg ApicTimer.armed (if_neg hoff : s.unit.timer.writeInitCount tsc value = _)
    have hmode : s.mode ≠ lvtTimerModeTscDeadline := by
      intro heq
      refine hoff (.inr (.inr ?_))
      rw [hs.tscDeadline, heq]
      rfl
    refine ⟨⟨?_, ?_, fun _ _ => hmode⟩, fun hmsr => absurd hmsr hlvt, ?_⟩
    · intro hsome
      have hper : (s.after (.wrote tsc ia32X2apicInitCount value)).unit.timer.period =
          if s.unit.timer.periodic then some value else none := (Prod.mk.inj hwrite).2
      rw [hper, hs.periodic] at hsome
      cases hp : s.mode == lvtTimerModePeriodic with
      | true => exact beq_iff_eq.mp hp
      | false =>
        rw [hp] at hsome
        cases hsome
    · intro _ hby
      exact absurd (Option.some.inj hby) (by decide)
    · rintro (⟨hmsr, -⟩ | ⟨-, heq⟩)
      · exact absurd hmsr (by decide)
      · exact absurd heq hmode

theorem obeys_write (h : Obeys s) (msr : BitVec 32) : OrderlyWrite s msr value →
    Obeys (s.after (.wrote tsc msr value)) ∧ ObeysAt s (.wrote tsc msr value) := by
  revert msr
  apply ApicTimer.msr_cases
  · exact obeys_lvt hs tsc value h
  · exact obeys_deadline hs tsc value
  · exact obeys_count hs tsc value
  · intro msr hlvt hdead hcount _
    exact obeys_other h tsc value hlvt hdead hcount

end Writes

theorem obeys_expired {s : Traced} (h : Obeys s) (tsc : BitVec 64) (vector : BitVec 8) (masked : Bool) :
    Obeys (s.after (.expired tsc vector masked)) := by
  cases hd : s.unit.timer.deadline with
  | none =>
    have hsame : s.after (.expired tsc vector masked) = s := by
      simp only [Traced.after, TimerUnit.after, TimerUnit.expire_none hd]
    rw [hsame]
    exact h
  | some deadline =>
    -- The period stays, and the deadline before was armed by the same register.
    have hsome : s.unit.timer.deadline.isSome = true := by rw [hd]; rfl
    have hexp := TimerUnit.expire_some hd
    refine ⟨?_, fun _ hby => h.deadline hsome hby, fun _ hby => h.count hsome hby⟩
    intro hp
    change s.unit.expire.timer.period.isSome = true at hp
    rw [hexp] at hp
    exact h.period hp

theorem obeys_after {s : Traced} (hs : Coherent s) (h : Obeys s) {e : TimerEvent} (ho : Orderly s e) :
    Obeys (s.after e) ∧ ObeysAt s e := by
  cases e with
  | wrote tsc msr value => exact obeys_write hs tsc value h msr ho
  | expired tsc vector masked => exact ⟨obeys_expired h tsc vector masked, trivial⟩
  | entered rflags blocking info =>
    have htimer := TimerUnit.entered_timer s.unit rflags blocking info
    refine ⟨⟨?_, ?_, ?_⟩, trivial⟩
    · exact fun hsome => h.period (htimer ▸ hsome)
    · exact fun hsome hby => h.deadline (htimer ▸ hsome) hby
    · exact fun hsome hby => h.count (htimer ▸ hsome) hby

/-! ## Only orderly writes keep it -/

theorem orderly_of_obeys {s : Traced} {e : TimerEvent} (h : Obeys (s.after e)) (hat : ObeysAt s e) :
    Orderly s e := by
  cases e with
  | wrote tsc msr value =>
    obtain ⟨hchange, hforeign⟩ := hat
    refine ⟨?_, ?_, ?_⟩
    · rintro rfl
      by_cases hmode : value &&& lvtTimerModeMask = s.mode
      · exact .inl hmode
      by_cases hm : value &&& lvtMasked = 0#64
      · have hnone := hchange rfl hmode
        rw [show s.unit.timer.writeMsr tsc ia32X2apicLvtTimer value = s.unit.timer.writeLvt value from rfl,
          writeLvt_unmasked s.unit.timer hm] at hnone
        exact .inr (.inr (Prod.mk.inj hnone).1)
      · exact .inr (.inl hm)
    · rintro rfl
      by_cases hmode : s.mode = lvtTimerModeTscDeadline
      · exact .inl hmode
      right
      obtain ⟨hd, -⟩ := Prod.mk.inj (hforeign (.inl ⟨rfl, hmode⟩))
      -- Armed through this register, the deadline would have to be one of the right mode.
      have hno : ¬ (value ≠ 0#64 ∧ s.unit.timer.masked = false) := by
        intro harm
        refine hmode (h.deadline ?_ rfl)
        show (if value ≠ 0#64 ∧ s.unit.timer.masked = false then some value else none).isSome = true
        rw [if_pos harm]
        rfl
      have hnone : s.unit.timer.deadline = none := by
        rw [← hd]
        exact if_neg hno
      refine ⟨hnone, ?_⟩
      by_cases hvalue : value = 0#64
      · exact .inl hvalue
      · right
        by_contra hmask
        exact hno ⟨hvalue, by simpa using hmask⟩
    · rintro rfl
      by_cases hmode : s.mode = lvtTimerModeTscDeadline
      · right
        obtain ⟨hd, -⟩ := Prod.mk.inj (hforeign (.inr ⟨rfl, hmode⟩))
        rw [← hd]
        cases hdead : (s.unit.timer.writeMsr tsc ia32X2apicInitCount value).deadline with
        | none => rfl
        | some deadline =>
          have hsome : (s.after (.wrote tsc ia32X2apicInitCount value)).unit.timer.deadline.isSome = true := by
            show (s.unit.timer.writeMsr tsc ia32X2apicInitCount value).deadline.isSome = true
            rw [hdead]
            rfl
          exact absurd hmode (h.count hsome rfl)
      · exact .inl hmode
  | expired tsc vector masked => trivial
  | entered rflags blocking info => trivial

/-! ## Every log -/

theorem obeysMode_iff (log : List TimerEvent) :
    ObeysMode log ↔ AtEach (fun pre e => Orderly (trace pre) e) log := by
  refine ⟨?_, ?_⟩
  · intro h pre e post heq
    refine orderly_of_obeys ?_ (h.writes pre e post heq)
    rw [← trace_concat]
    apply h.states
    exact ⟨post, by rw [heq, List.append_assoc, List.singleton_append]⟩
  · intro h
    induction log using List.reverseRecOn with
    | nil =>
      refine ⟨?_, atEach_nil⟩
      intro pre hpre
      rw [List.prefix_nil.mp hpre]
      exact obeys_disarmed rfl
    | append_singleton log e ih =>
      have hlog := ih (h.take (List.prefix_append log [e]))
      obtain ⟨hafter, hat⟩ := obeys_after (coherent_trace log) (hlog.states log (List.prefix_refl log))
        (h log e [] rfl)
      refine ⟨?_, hlog.writes.concat hat⟩
      intro pre hpre
      rcases List.prefix_concat_iff.mp hpre with heq | hpre'
      · rw [heq, trace_concat]
        exact hafter
      · exact hlog.states pre hpre'

end Rhyve.Apic
