import Rhyve.Apic.TimerUnit

/-! # A masked timer is silent

* `ApicTimer.Silent`: masking forgets the deadline and the period, and a stored period is never zero and
  never without a deadline.
* `SilentAt`: after a masking write, an event makes a vector pending only if the timer was unmasked and then
  given a new time.
* `legal_silent`: both hold in every log that the timer unit allows.
-/

namespace Rhyve.Apic
open Machine
set_option autoImplicit false

/-! ## States -/

/-- A masked timer has nothing armed, and a period comes with a deadline. -/
structure ApicTimer.Silent (t : ApicTimer) : Prop where
  masked : t.masked = true → t.deadline = none ∧ t.period = none
  period : ∀ p, t.period = some p → p ≠ 0#64 ∧ t.deadline.isSome = true

theorem silent_disarm (t : ApicTimer) : t.disarm.Silent := by
  refine ⟨fun _ => ⟨rfl, rfl⟩, ?_⟩
  intro p hp
  cases hp

namespace ApicTimer.Silent
variable {t : ApicTimer}

theorem writeLvt (h : t.Silent) (value : BitVec 64) : (t.writeLvt value).Silent := by
  unfold ApicTimer.writeLvt
  dsimp only
  split
  · exact silent_disarm _
  · rename_i hmask
    exact ⟨fun hm => absurd hm hmask, h.period⟩

theorem writeDeadline (value : BitVec 64) : (t.writeDeadline value).Silent := by
  refine ⟨?_, ?_⟩
  · intro hm
    refine ⟨if_neg ?_, rfl⟩
    rintro ⟨-, hno⟩
    rw [show t.masked = true from hm] at hno
    cases hno
  · intro p hp
    cases hp

theorem writeInitCount (tsc value : BitVec 64) : (t.writeInitCount tsc value).Silent := by
  unfold ApicTimer.writeInitCount
  split
  · exact silent_disarm t
  · rename_i hno
    simp only [not_or, Bool.not_eq_true] at hno
    obtain ⟨hvalue, hmask, -⟩ := hno
    refine ⟨?_, ?_⟩
    · intro hm
      rw [show t.masked = true from hm] at hmask
      cases hmask
    · intro p hp
      change (if t.periodic then some value else none) = some p at hp
      split at hp
      · rw [← Option.some.inj hp]
        exact ⟨hvalue, rfl⟩
      · cases hp

theorem writeMsr (h : t.Silent) (tsc : BitVec 64) (msr : BitVec 32) (value : BitVec 64) :
    (t.writeMsr tsc msr value).Silent := by
  revert msr
  apply ApicTimer.msr_cases
  · exact h.writeLvt value
  · exact writeDeadline value
  · exact writeInitCount tsc value
  · intro msr hlvt hdead hcount
    rw [ApicTimer.writeMsr_other t tsc value hlvt hdead hcount]
    exact h

end ApicTimer.Silent

/-- An expiry keeps the period, and arms the timer again exactly if there is one. -/
theorem TimerUnit.silent_expire {u : TimerUnit} (h : u.timer.Silent) : u.expire.timer.Silent := by
  cases hd : u.timer.deadline with
  | none =>
    rw [TimerUnit.expire_none hd]
    exact h
  | some deadline =>
    rw [TimerUnit.expire_some hd]
    refine ⟨?_, ?_⟩
    · intro hm
      have hnone := (h.masked hm).1
      rw [hd] at hnone
      cases hnone
    · intro p hp
      have hperiod : u.timer.period = some p := hp
      refine ⟨(h.period p hperiod).1, ?_⟩
      simp only [hperiod, Option.map_some, Option.isSome_some]

theorem TimerUnit.silent_after {u : TimerUnit} (h : u.timer.Silent) (e : TimerEvent) :
    (u.after e).timer.Silent := by
  cases e with
  | wrote tsc msr value => exact h.writeMsr tsc msr value
  | expired tsc vector masked => exact silent_expire h
  | entered rflags blocking info =>
    rw [TimerUnit.entered_timer]
    exact h

theorem silent_new : TimerUnit.new.timer.Silent := silent_disarm ApicTimer.default

/-! ## Logs -/

def masks : TimerEvent → Bool
  | .wrote _ msr value => msr == ia32X2apicLvtTimer && value &&& lvtMasked != 0#64
  | _ => false

/-- The guest writes an LVT that is not masked. -/
def unmasks : TimerEvent → Bool
  | .wrote _ msr value => msr == ia32X2apicLvtTimer && value &&& lvtMasked == 0#64
  | _ => false

/-- The guest writes a deadline or an initial count other than zero. -/
def asksTime : TimerEvent → Bool
  | .wrote _ msr value => (msr == ia32TscDeadline || msr == ia32X2apicInitCount) && value != 0#64
  | _ => false

/-- The timer was unmasked and later given a time. -/
def Rearmed (log : List TimerEvent) : Prop :=
  ∃ e e', unmasks e = true ∧ asksTime e' = true ∧ [e, e'].Sublist log

/-- An expiry, or anything else that leaves a vector pending that was not pending before. -/
def MakesPending (u : TimerUnit) (e : TimerEvent) : Prop :=
  isExpiry e = true ∨ ((u.after e).pending ≠ u.pending ∧ (u.after e).pending ≠ none)

/-- Whatever makes an interrupt pending here, the guest has armed the timer again since it last masked the LVT.
-/
def SilentAt (log : List TimerEvent) (e : TimerEvent) : Prop :=
  MakesPending (log.foldl TimerUnit.after TimerUnit.new) e →
    ∀ before m since, log = before ++ m :: since → masks m = true → Rearmed since

theorem MakesPending.expiry {u : TimerUnit} {e : TimerEvent} (h : MakesPending u e) : isExpiry e = true := by
  rcases h with h | ⟨hne, hsome⟩
  · exact h
  · cases e with
    | wrote tsc msr value => exact absurd rfl hne
    | expired tsc vector masked => rfl
    | entered rflags blocking info =>
      cases hv : isValid info <;> simp [TimerUnit.after, hv] at hne hsome

/-- The masking bit decides between the two outcomes of an LVT write. -/
theorem writeLvt_masked (t : ApicTimer) (value : BitVec 64) :
    (t.writeLvt value).masked = (value &&& lvtMasked != 0#64) := by
  unfold ApicTimer.writeLvt
  dsimp only
  split <;> rfl

theorem writeLvt_deadline_none {t : ApicTimer} (h : t.deadline = none) (value : BitVec 64) :
    (t.writeLvt value).deadline = none := by
  unfold ApicTimer.writeLvt
  dsimp only
  split
  · rfl
  · exact h

/-- A timer without a deadline does not get one while it is masked or not given a time, and only an LVT
write unmasks it. -/
theorem writeMsr_stays {t : ApicTimer} (hd : t.deadline = none) (tsc value : BitVec 64) (msr : BitVec 32) :
    t.masked = true ∨ asksTime (.wrote tsc msr value) = false →
      (t.writeMsr tsc msr value).deadline = none ∧
        (t.masked = true → (t.writeMsr tsc msr value).masked = true ∨
          unmasks (.wrote tsc msr value) = true) := by
  revert msr
  apply ApicTimer.msr_cases
  · intro _
    refine ⟨writeLvt_deadline_none hd value, ?_⟩
    intro _
    show (t.writeLvt value).masked = true ∨ _
    rw [writeLvt_masked]
    cases hm : value &&& lvtMasked != 0#64 with
    | true => exact .inl rfl
    | false =>
      right
      simpa [unmasks] using hm
  · intro hno
    refine ⟨if_neg ?_, fun hm => .inl hm⟩
    rintro ⟨hvalue, hmask⟩
    rcases hno with hno | hno
    · rw [hno] at hmask
      cases hmask
    · simp [asksTime, hvalue] at hno
  · intro hno
    have hoff : value = 0#64 ∨ t.masked = true ∨ t.tscDeadlineMode = true := by
      rcases hno with hno | hno
      · exact .inr (.inl hno)
      · left
        simpa [asksTime] using hno
    have hwrite : t.writeMsr tsc ia32X2apicInitCount value = t.disarm := if_pos hoff
    rw [hwrite]
    exact ⟨rfl, fun hm => .inl hm⟩
  · intro msr hlvt hdead hcount _
    rw [ApicTimer.writeMsr_other t tsc value hlvt hdead hcount]
    exact ⟨hd, fun hm => .inl hm⟩

theorem TimerUnit.stays_silent {u : TimerUnit} {e : TimerEvent} (hd : u.timer.deadline = none)
    (ha : u.allows e) (hno : u.timer.masked = true ∨ asksTime e = false) :
    (u.after e).timer.deadline = none ∧
      (u.timer.masked = true → (u.after e).timer.masked = true ∨ unmasks e = true) := by
  cases e with
  | wrote tsc msr value => exact writeMsr_stays hd tsc value msr hno
  | expired tsc vector masked =>
    have hsome := ha.1
    rw [hd] at hsome
    cases hsome
  | entered rflags blocking info =>
    rw [TimerUnit.entered_timer]
    exact ⟨hd, fun hm => .inl hm⟩

/-- Since the masking write the timer has been given a new time, or it has no deadline and can only get one
after an unmasking write. -/
def Muted (u : TimerUnit) (since : List TimerEvent) : Prop :=
  Rearmed since ∨ (u.timer.deadline = none ∧ (u.timer.masked = true ∨ ∃ e ∈ since, unmasks e = true))

theorem muted_of_masks {u : TimerUnit} {e : TimerEvent} (hm : masks e = true) : Muted (u.after e) [] := by
  right
  cases e with
  | wrote tsc msr value =>
    simp only [masks, Bool.and_eq_true, beq_iff_eq] at hm
    obtain ⟨rfl, hmask⟩ := hm
    have hmasked : (u.timer.writeLvt value).masked = true := (writeLvt_masked u.timer value).trans hmask
    have hquiet := quiet_writeLvt u.timer value
    refine ⟨?_, .inl hmasked⟩
    show (u.timer.writeLvt value).deadline = none
    cases hd : (u.timer.writeLvt value).deadline with
    | none => rfl
    | some deadline =>
      have hfalse := hquiet (by rw [hd]; rfl)
      rw [hmasked] at hfalse
      cases hfalse
  | expired tsc vector masked => cases hm
  | entered rflags blocking info => cases hm

theorem Muted.after {u : TimerUnit} {since : List TimerEvent} (h : Muted u since) {e : TimerEvent}
    (ha : u.allows e) : Muted (u.after e) (since ++ [e]) := by
  rcases h with ⟨e1, e2, h1, h2, hsub⟩ | ⟨hd, hmask⟩
  · exact .inl ⟨e1, e2, h1, h2, hsub.trans (List.sublist_append_left since [e])⟩
  by_cases hno : u.timer.masked = true ∨ asksTime e = false
  · -- The timer stays without a deadline.
    obtain ⟨hd', hmask'⟩ := TimerUnit.stays_silent hd ha hno
    refine .inr ⟨hd', ?_⟩
    rcases hmask with hm | ⟨e', he', hu⟩
    · rcases hmask' hm with hm' | hu
      · exact .inl hm'
      · exact .inr ⟨e, List.mem_append_right since (List.mem_singleton_self e), hu⟩
    · exact .inr ⟨e', List.mem_append_left [e] he', hu⟩
  · -- It is given a time, so it has been unmasked before.
    simp only [not_or, Bool.not_eq_false] at hno
    rcases hmask with hm | ⟨e', he', hu⟩
    · exact absurd hm hno.1
    · refine .inl ⟨e', e, hu, hno.2, ?_⟩
      exact (List.singleton_sublist.mpr he').append (List.Sublist.refl [e])

/-! ## Every log that the timer unit allows -/

/-- The state is the outcome of the log, and is silent since each masking write in it. -/
structure Silences (u : TimerUnit) (log : List TimerEvent) : Prop where
  logged : u = log.foldl TimerUnit.after TimerUnit.new
  muted : ∀ before m since, log = before ++ m :: since → masks m = true → Muted u since

theorem Silences.after {u : TimerUnit} {log : List TimerEvent} (h : Silences u log) {e : TimerEvent}
    (ha : u.allows e) : Silences (u.after e) (log ++ [e]) := by
  refine ⟨?_, ?_⟩
  · rw [List.foldl_append, ← h.logged]
    rfl
  · intro before m since heq hm
    -- The masking write is the event itself or one of the log.
    rcases List.eq_nil_or_concat since with hsince | ⟨since', e', hsince⟩
    · subst hsince
      obtain ⟨-, hlast⟩ := List.append_inj' heq rfl
      injection hlast with hlast
      rw [hlast]
      exact muted_of_masks hm
    · rw [hsince, List.concat_eq_append, ← List.cons_append, ← List.append_assoc] at heq
      obtain ⟨hlog, hlast⟩ := List.append_inj' heq rfl
      injection hlast with hlast
      rw [hsince, List.concat_eq_append, ← hlast]
      exact (h.muted before m since' hlog hm).after ha

theorem Silences.silentAt {u : TimerUnit} {log : List TimerEvent} (h : Silences u log) {e : TimerEvent}
    (ha : u.allows e) : SilentAt log e := by
  intro hmakes before m since heq hm
  rcases h.muted before m since heq hm with hre | ⟨hd, -⟩
  · exact hre
  · have hexpiry := hmakes.expiry
    cases e with
    | wrote tsc msr value => cases hexpiry
    | expired tsc vector masked =>
      have hsome := ha.1
      rw [hd] at hsome
      cases hsome
    | entered rflags blocking info => cases hexpiry

theorem legal_silent {log : List TimerEvent}
    (h : Legal TimerUnit.after TimerUnit.allows TimerUnit.new log) : AtEach SilentAt log := by
  have hstart : Silences TimerUnit.new [] := by
    refine ⟨rfl, ?_⟩
    intro before m since heq
    simp at heq
  exact Legal.atEach (A := TimerUnit.allows) Silences
    (fun _ _ _ hI hA => ⟨hI.silentAt hA, hI.after hA⟩) hstart atEach_nil h

theorem silent_foldl (log : List TimerEvent) : (log.foldl TimerUnit.after TimerUnit.new).timer.Silent := by
  induction log using List.reverseRecOn with
  | nil => exact silent_new
  | append_singleton log e ih =>
    rw [List.foldl_append]
    exact TimerUnit.silent_after ih e

end Rhyve.Apic
