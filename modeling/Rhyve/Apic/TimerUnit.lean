import Mathlib.Data.List.Induction
import Rhyve.Apic.Timer
import Rhyve.Lib.Machine

/-! # The timer unit: what the two backends implement

The timer and the pending vector, and the three kinds of events that concern them: the guest writes an MSR,
an armed deadline is found to have passed, the guest is entered. Both backends produce logs of such events;
the theorems here are about logs, whatever produced them.

* `TimerUnit.allows`, `TimerUnit.timely`: what may happen in a state.
* `legal_in_force`: an expiry has the vector and the mask that the guest wrote last.
* `legal_sound`: what is injected was asked for by an expiry, once.
* `legal_not_early`: no expiry comes before the time that the guest asked for.
-/

namespace Rhyve.Apic
open Machine
set_option autoImplicit false

/-- What can be seen of a virtual timer from outside: writes of the guest, expiries, and entries. -/
inductive TimerEvent where
  /-- A WRMSR, at a reading of the host's TSC. -/
  | wrote (tsc : BitVec 64) (msr : BitVec 32) (value : BitVec 64)
  /-- An armed deadline is taken to have passed; the vector and mask of the LVT at that time. -/
  | expired (tsc : BitVec 64) (vector : BitVec 8) (masked : Bool)
  /-- An entry: RFLAGS, the bits that block interrupts, the event-injection field. -/
  | entered (rflags blocking info : BitVec 64)
  deriving DecidableEq, Repr

/-- The layout of the event-injection field: bit 31 valid, bits 10:8 type, bits 7:0 vector. -/
def isValid (info : BitVec 64) : Bool := info.getLsbD 31
def typeOf (info : BitVec 64) : BitVec 3 := info.extractLsb' 8 3
def vectorOf (info : BitVec 64) : BitVec 8 := info.setWidth 8

theorem interrupt_flag {rflags : BitVec 64} (h : rflags &&& (1#64 <<< 9) ≠ 0#64) :
    rflags.getLsbD 9 = true := by
  cases hbit : rflags.getLsbD 9 with
  | true => rfl
  | false =>
    refine absurd ?_ h
    apply BitVec.eq_of_getLsbD_eq
    intro i hi
    rw [BitVec.getLsbD_and, BitVec.getLsbD_zero]
    by_cases h9 : i = 9
    · rw [h9, hbit, Bool.false_and]
    · have hshift : (1#64 <<< 9).getLsbD i = false := by
        rw [BitVec.getLsbD_shiftLeft, BitVec.getLsbD_one]
        simp
        omega
      rw [hshift, Bool.and_false]

/-- The timer with the vector that waits for an entry that can take it. -/
structure TimerUnit where
  timer : ApicTimer
  pending : Option (BitVec 8)
  deriving DecidableEq, Repr

namespace TimerUnit

def new : TimerUnit := ⟨ApicTimer.default, none⟩

/-- The deadline has passed. The vector becomes pending in place of an earlier one, unless the LVT is masked. -/
def expire (u : TimerUnit) : TimerUnit :=
  match u.timer.deadline with
  | none => u
  | some deadline => ⟨(u.timer.expire deadline u.pending).1, (u.timer.expire deadline u.pending).2⟩

theorem expire_none {u : TimerUnit} (h : u.timer.deadline = none) : u.expire = u := by
  rw [expire, h]

theorem expire_some {u : TimerUnit} {deadline : BitVec 64} (h : u.timer.deadline = some deadline) :
    u.expire = ⟨{ u.timer with
      deadline := u.timer.period.map fun period => ApicTimer.saturatingAdd deadline period },
      if u.timer.masked then u.pending else some u.timer.vector⟩ := by
  rw [expire, h]
  rfl

/-- The state after an event. An entry that injects takes the pending vector. -/
def after (u : TimerUnit) : TimerEvent → TimerUnit
  | .wrote tsc msr value => { u with timer := u.timer.writeMsr tsc msr value }
  | .expired _ _ _ => u.expire
  | .entered _ _ info => if isValid info then { u with pending := none } else u

/-- An expiry needs a deadline. An entry carries an event only if that is the pending vector, as an
external interrupt, and the guest can take it. -/
def allows (u : TimerUnit) : TimerEvent → Prop
  | .wrote _ _ _ => True
  | .expired _ vector masked =>
    u.timer.deadline.isSome = true ∧ vector = u.timer.vector ∧ masked = u.timer.masked
  | .entered rflags blocking info => isValid info = true →
    u.pending = some (vectorOf info) ∧ typeOf info = 0#3 ∧ rflags.getLsbD 9 = true ∧ blocking = 0#64

def Arms (t : ApicTimer) (msr : BitVec 32) (value : BitVec 64) : Prop :=
  msr = ia32X2apicInitCount ∧ value ≠ 0#64 ∧ t.masked = false ∧ t.tscDeadlineMode = false

/-- The times do not overflow, and an expiry is less than `slack` ahead of the deadline. -/
def timely (slack : ℕ) (u : TimerUnit) : TimerEvent → Prop
  | .wrote tsc msr value => Arms u.timer msr value → tsc.toNat + value.toNat < 2 ^ 64
  | .expired tsc _ _ => ∀ deadline, u.timer.deadline = some deadline →
    deadline.toNat < tsc.toNat + slack ∧
      ∀ period, u.timer.period = some period → deadline.toNat + period.toNat < 2 ^ 64
  | .entered _ _ _ => True

theorem entered_idle (u : TimerUnit) (rflags blocking : BitVec 64) {info : BitVec 64}
    (h : isValid info = false) :
    u.allows (.entered rflags blocking info) ∧ u = u.after (.entered rflags blocking info) := by
  refine ⟨?_, ?_⟩
  · intro hv
    rw [h] at hv
    cases hv
  · show u = if isValid info then _ else u
    rw [h]
    rfl

theorem entered_timer (u : TimerUnit) (rflags blocking info : BitVec 64) :
    (u.after (.entered rflags blocking info)).timer = u.timer := by
  show (if isValid info then { u with pending := none } else u).timer = u.timer
  split <;> rfl

theorem after_wrote_other {u : TimerUnit} {tsc value : BitVec 64} {msr : BitVec 32}
    (h : ApicTimer.isTimerMsr msr = false) : u.after (.wrote tsc msr value) = u := by
  simp only [ApicTimer.isTimerMsr, Bool.or_eq_false_iff, beq_eq_false_iff_ne] at h
  show { u with timer := u.timer.writeMsr tsc msr value } = u
  rw [ApicTimer.writeMsr_other u.timer tsc value h.1.1 h.1.2 h.2]

end TimerUnit

/-! ## The timer's own invariant -/

def ApicTimer.Quiet (t : ApicTimer) : Prop := t.deadline.isSome = true → t.masked = false

theorem quiet_disarm (t : ApicTimer) : t.disarm.Quiet := by
  intro hd
  cases hd

theorem quiet_writeLvt (t : ApicTimer) (value : BitVec 64) : (t.writeLvt value).Quiet := by
  unfold ApicTimer.writeLvt
  dsimp only
  split
  · exact quiet_disarm _
  · rename_i hmask
    intro _
    simpa using hmask

theorem quiet_writeDeadline (t : ApicTimer) (value : BitVec 64) : (t.writeDeadline value).Quiet := by
  intro hd
  simp only [ApicTimer.writeDeadline] at hd ⊢
  split at hd
  · rename_i hvalue
    exact hvalue.2
  · cases hd

theorem quiet_writeInitCount (t : ApicTimer) (tsc value : BitVec 64) :
    (t.writeInitCount tsc value).Quiet := by
  unfold ApicTimer.writeInitCount
  split
  · exact quiet_disarm t
  · rename_i hno
    intro _
    simp only [not_or, Bool.not_eq_true] at hno
    exact hno.2.1

theorem quiet_writeMsr {t : ApicTimer} (h : t.Quiet) (tsc : BitVec 64) (msr : BitVec 32)
    (value : BitVec 64) : (t.writeMsr tsc msr value).Quiet := by
  revert msr
  apply ApicTimer.msr_cases
  · exact quiet_writeLvt t value
  · exact quiet_writeDeadline t value
  · exact quiet_writeInitCount t tsc value
  · intro msr hlvt hdead hcount
    rw [ApicTimer.writeMsr_other t tsc value hlvt hdead hcount]
    exact h

theorem TimerUnit.quiet_after {u : TimerUnit} (h : u.timer.Quiet) (e : TimerEvent) :
    (u.after e).timer.Quiet := by
  cases e with
  | wrote tsc msr value => exact quiet_writeMsr h tsc msr value
  | expired tsc vector masked =>
    show u.expire.timer.Quiet
    cases hd : u.timer.deadline with
    | none =>
      rw [TimerUnit.expire_none hd]
      exact h
    | some deadline =>
      rw [TimerUnit.expire_some hd]
      intro _
      apply h
      rw [hd]
      rfl
  | entered rflags blocking info =>
    show (if isValid info then { u with pending := none } else u).timer.Quiet
    split <;> exact h

/-! ## The LVT in force -/

def lvtAfter (lvt : BitVec 64) : TimerEvent → BitVec 64
  | .wrote _ msr value => if msr = ia32X2apicLvtTimer then value else lvt
  | _ => lvt

/-- The value that the guest last wrote to the LVT timer register, which is zero after a reset. -/
def lvtOf (log : List TimerEvent) : BitVec 64 := log.foldl lvtAfter 0#64

theorem lvtOf_concat (log : List TimerEvent) (e : TimerEvent) : lvtOf (log ++ [e]) = lvtAfter (lvtOf log) e := by
  rw [lvtOf, List.foldl_append]
  rfl

/-- The vector and the mask of an expiry are bits 7:0 and bit 16 of that value. -/
def InForceAt (log : List TimerEvent) : TimerEvent → Prop
  | .expired _ vector masked => vector = (lvtOf log).setWidth 8 ∧ masked = (lvtOf log).getLsbD 16
  | _ => True

/-- The decoded fields are those of this LVT. -/
structure ApicTimer.Reflects (t : ApicTimer) (lvt : BitVec 64) : Prop where
  vector : t.vector = lvt.setWidth 8
  masked : t.masked = lvt.getLsbD 16

theorem reflects_writeLvt (t : ApicTimer) (value : BitVec 64) : (t.writeLvt value).Reflects value := by
  have hvector : (value &&& 0xff#64).setWidth 8 = value.setWidth 8 := by
    have hones : 0xff#64 = (BitVec.allOnes 8).setWidth 64 := by decide
    rw [hones]
    ext i hi
    simp only [BitVec.getElem_setWidth, BitVec.getLsbD_and, BitVec.getLsbD_setWidth, BitVec.getLsbD_allOnes]
    have hwide : i < 64 := by omega
    simp [hi, hwide]
  have hmasked : (value &&& lvtMasked != 0#64) = value.getLsbD 16 := by
    unfold lvtMasked
    rw [← BitVec.twoPow_eq, BitVec.and_twoPow]
    cases value.getLsbD 16 <;> rfl
  unfold ApicTimer.writeLvt
  dsimp only
  split
  · exact ⟨hvector, hmasked⟩
  · exact ⟨hvector, hmasked⟩

theorem ApicTimer.Reflects.writeMsr {t : ApicTimer} {lvt : BitVec 64} (h : t.Reflects lvt) (tsc value : BitVec 64)
    (msr : BitVec 32) : (t.writeMsr tsc msr value).Reflects (lvtAfter lvt (.wrote tsc msr value)) := by
  revert msr
  apply ApicTimer.msr_cases
  · exact reflects_writeLvt t value
  · exact ⟨h.vector, h.masked⟩
  · show (t.writeInitCount tsc value).Reflects lvt
    unfold ApicTimer.writeInitCount
    split
    · exact ⟨h.vector, h.masked⟩
    · exact ⟨h.vector, h.masked⟩
  · intro msr hlvt hdead hcount
    rw [ApicTimer.writeMsr_other t tsc value hlvt hdead hcount, lvtAfter, if_neg hlvt]
    exact h

theorem ApicTimer.Reflects.after {u : TimerUnit} {lvt : BitVec 64} (h : u.timer.Reflects lvt) (e : TimerEvent) :
    (u.after e).timer.Reflects (lvtAfter lvt e) := by
  cases e with
  | wrote tsc msr value => exact h.writeMsr tsc value msr
  | expired tsc vector masked =>
    show u.expire.timer.Reflects lvt
    cases hd : u.timer.deadline with
    | none =>
      rw [TimerUnit.expire_none hd]
      exact h
    | some deadline =>
      rw [TimerUnit.expire_some hd]
      exact ⟨h.vector, h.masked⟩
  | entered rflags blocking info =>
    rw [TimerUnit.entered_timer]
    exact h

theorem reflects_new : TimerUnit.new.timer.Reflects (lvtOf []) := ⟨by decide, by decide⟩

/-- The flags of the timer are those of the last LVT write, and an expiry has them from the timer. -/
theorem legal_in_force {log : List TimerEvent} (h : Legal TimerUnit.after TimerUnit.allows TimerUnit.new log) :
    AtEach InForceAt log := by
  have hstep : ∀ (u : TimerUnit) (log : List TimerEvent) (e : TimerEvent), u.timer.Reflects (lvtOf log) →
      u.allows e → InForceAt log e ∧ (u.after e).timer.Reflects (lvtOf (log ++ [e])) := by
    intro u log e hI hA
    refine ⟨?_, ?_⟩
    · cases e with
      | wrote tsc msr value => trivial
      | expired tsc vector masked => exact ⟨hA.2.1.trans hI.vector, hA.2.2.trans hI.masked⟩
      | entered rflags blocking info => trivial
    · rw [lvtOf_concat]
      exact hI.after e
  exact Legal.atEach (fun u log => u.timer.Reflects (lvtOf log)) hstep reflects_new atEach_nil h

/-! ## Injection -/

/-- The vector and mask of the last expiry, unless something has been injected since. -/
def unused : Option (BitVec 8 × Bool) → TimerEvent → Option (BitVec 8 × Bool)
  | last, .wrote _ _ _ => last
  | _, .expired _ vector masked => some (vector, masked)
  | last, .entered _ _ info => if isValid info then none else last

def lastExpiry (log : List TimerEvent) : Option (BitVec 8 × Bool) := log.foldl unused none

theorem lastExpiry_concat (log : List TimerEvent) (e : TimerEvent) :
    lastExpiry (log ++ [e]) = unused (lastExpiry log) e := by
  rw [lastExpiry, List.foldl_append]
  rfl

/-- An entry carries a valid event only if the guest can take an interrupt; the event is an external
interrupt, with the vector of the most recent expiry, which came after the previous injection and while
the timer was not masked. -/
def SoundAt (log : List TimerEvent) : TimerEvent → Prop
  | .entered rflags blocking info => isValid info = true →
    rflags.getLsbD 9 = true ∧ blocking = 0#64 ∧ typeOf info = 0#3 ∧
      lastExpiry log = some (vectorOf info, false)
  | _ => True

def isInjection : TimerEvent → Bool
  | .entered _ _ info => isValid info
  | _ => false

def isExpiry : TimerEvent → Bool
  | .expired _ _ _ => true
  | _ => false

/-- The pending vector is the one of the last expiry, if that has not been injected. -/
structure Pends (u : TimerUnit) (log : List TimerEvent) : Prop where
  quiet : u.timer.Quiet
  pending : u.pending = (lastExpiry log).map Prod.fst
  unmasked : ∀ x, lastExpiry log = some x → x.2 = false

theorem Pends.after {u : TimerUnit} {log : List TimerEvent} (h : Pends u log) {e : TimerEvent}
    (ha : u.allows e) : Pends (u.after e) (log ++ [e]) := by
  refine ⟨TimerUnit.quiet_after h.quiet e, ?_, ?_⟩
  · rw [lastExpiry_concat]
    cases e with
    | wrote tsc msr value => exact h.pending
    | expired tsc vector masked =>
      obtain ⟨harmed, hvector, -⟩ := ha
      obtain ⟨deadline, hd⟩ := Option.isSome_iff_exists.mp harmed
      show u.expire.pending = some vector
      rw [TimerUnit.expire_some hd, h.quiet harmed, hvector]
      rfl
    | entered rflags blocking info =>
      show (if isValid info then { u with pending := none } else u).pending =
        (if isValid info then none else lastExpiry log).map Prod.fst
      cases isValid info with
      | true => rfl
      | false => exact h.pending
  · intro x hx
    rw [lastExpiry_concat] at hx
    cases e with
    | wrote tsc msr value => exact h.unmasked x hx
    | expired tsc vector masked =>
      obtain ⟨harmed, -, hmasked⟩ := ha
      injection hx with hx
      rw [← hx, hmasked]
      exact h.quiet harmed
    | entered rflags blocking info =>
      change (if isValid info then none else lastExpiry log) = some x at hx
      cases hv : isValid info with
      | true =>
        rw [hv] at hx
        cases hx
      | false =>
        rw [hv] at hx
        exact h.unmasked x hx

theorem Pends.sound {u : TimerUnit} {log : List TimerEvent} (h : Pends u log) {e : TimerEvent}
    (ha : u.allows e) : SoundAt log e := by
  cases e with
  | wrote tsc msr value => trivial
  | expired tsc vector masked => trivial
  | entered rflags blocking info =>
    intro hv
    obtain ⟨hpending, htype, hif, hblock⟩ := ha hv
    rw [h.pending] at hpending
    obtain ⟨⟨vector, masked⟩, hlast, hvector⟩ := Option.map_eq_some_iff.mp hpending
    have hmasked := h.unmasked _ hlast
    refine ⟨hif, hblock, htype, ?_⟩
    rw [hlast, ← hvector, ← hmasked]

theorem pends_new : Pends TimerUnit.new [] := by
  refine ⟨?_, rfl, ?_⟩
  · intro hd
    cases hd
  · intro x hx
    cases hx

theorem legal_sound {log : List TimerEvent}
    (h : Legal TimerUnit.after TimerUnit.allows TimerUnit.new log) : AtEach SoundAt log :=
  Legal.atEach (A := TimerUnit.allows) Pends
    (fun _ _ _ hI hA => ⟨hI.sound hA, hI.after hA⟩) pends_new atEach_nil h

theorem injections_le_expiries {log : List TimerEvent} (h : AtEach SoundAt log) :
    log.countP isInjection + (lastExpiry log).toList.length ≤ log.countP isExpiry := by
  induction log using List.reverseRecOn with
  | nil => exact Nat.le_refl 0
  | append_singleton log e ih =>
    have hlog := ih (h.take (List.prefix_append log [e]))
    have hlast := h log e [] rfl
    rw [lastExpiry_concat, List.countP_append, List.countP_append, List.countP_singleton,
      List.countP_singleton]
    cases e with
    | wrote tsc msr value => simpa [isInjection, isExpiry, unused] using hlog
    | expired tsc vector masked =>
      simp only [isInjection, isExpiry, unused, Option.toList_some, List.length_singleton, if_true]
      have hle : log.countP isInjection ≤ log.countP isExpiry := by omega
      simpa using hle
    | entered rflags blocking info =>
      cases hv : isValid info with
      | true =>
        obtain ⟨-, -, -, hsome⟩ := hlast hv
        rw [hsome] at hlog
        simpa [isInjection, isExpiry, unused, hv] using hlog
      | false => simpa [isInjection, isExpiry, unused, hv] using hlog

/-! ## Due times -/

/-- What the guest asked for with its last write to an arming register. -/
inductive Request where
  /-- The count, and the TSC when it was written. -/
  | count (tsc n : ℕ)
  | deadline (d : ℕ)
  deriving DecidableEq, Repr

/-- The time of the `k`-th expiry, counted from one. -/
def Request.due : Request → ℕ → ℕ
  | .count tsc n, k => tsc + k * n
  | .deadline d, _ => d

/-- The last request, and the number of expiries since. -/
structure Asked where
  request : Option Request
  expiries : ℕ
  deriving DecidableEq, Repr

/-- An arming write replaces the request, zero withdraws it, and an expiry is counted against it. -/
def Asked.next (a : Asked) : TimerEvent → Asked
  | .wrote tsc msr value =>
    if msr = ia32X2apicInitCount then
      ⟨if value = 0#64 then none else some (.count tsc.toNat value.toNat), 0⟩
    else if msr = ia32TscDeadline then
      ⟨if value = 0#64 then none else some (.deadline value.toNat), 0⟩
    else a
  | .expired _ _ _ => { a with expiries := a.expiries + 1 }
  | .entered _ _ _ => a

def asked (log : List TimerEvent) : Asked := log.foldl Asked.next ⟨none, 0⟩

theorem asked_concat (log : List TimerEvent) (e : TimerEvent) : asked (log ++ [e]) = (asked log).next e := by
  rw [asked, List.foldl_append]
  rfl

/-- An expiry that makes the vector pending answers a request, and comes less than `slack` before the time
that the guest asked for. -/
def NotEarly (slack : ℕ) (log : List TimerEvent) : TimerEvent → Prop
  | .expired tsc _ masked => masked = false →
    ∃ r, (asked log).request = some r ∧ r.due ((asked log).expiries + 1) < tsc.toNat + slack
  | _ => True

/-- The armed deadline is the next time that the guest asked for. -/
structure Answers (t : ApicTimer) (a : Asked) : Prop where
  quiet : t.Quiet
  due : ∀ deadline, t.deadline = some deadline →
    ∃ r, a.request = some r ∧ deadline.toNat = r.due (a.expiries + 1) ∧
      ∀ period, t.period = some period → ∃ tsc, r = .count tsc period.toNat

theorem Answers.disarm (t : ApicTimer) (a : Asked) : Answers t.disarm a := by
  refine ⟨quiet_disarm t, ?_⟩
  intro deadline hd
  cases hd

theorem Answers.writeLvt {t : ApicTimer} {a : Asked} (h : Answers t a) (value : BitVec 64) :
    Answers (t.writeLvt value) a := by
  refine ⟨quiet_writeLvt t value, ?_⟩
  intro deadline hd
  unfold ApicTimer.writeLvt at hd ⊢
  dsimp only at hd ⊢
  split at hd
  · cases hd
  · rename_i hmask
    rw [if_neg hmask]
    exact h.due deadline hd

theorem answers_writeDeadline (t : ApicTimer) (value : BitVec 64) :
    Answers (t.writeDeadline value) ⟨if value = 0#64 then none else some (.deadline value.toNat), 0⟩ := by
  refine ⟨quiet_writeDeadline t value, ?_⟩
  intro deadline hd
  simp only [ApicTimer.writeDeadline] at hd
  split at hd
  · rename_i hvalue
    injection hd with hd
    refine ⟨.deadline value.toNat, if_neg hvalue.1, ?_, ?_⟩
    · rw [← hd]
      rfl
    · intro period hp
      cases hp
  · cases hd

theorem answers_writeInitCount {t : ApicTimer} {tsc value : BitVec 64}
    (hfit : TimerUnit.Arms t ia32X2apicInitCount value → tsc.toNat + value.toNat < 2 ^ 64) :
    Answers (t.writeInitCount tsc value)
      ⟨if value = 0#64 then none else some (.count tsc.toNat value.toNat), 0⟩ := by
  unfold ApicTimer.writeInitCount
  split
  · exact Answers.disarm t _
  · rename_i hno
    simp only [not_or, Bool.not_eq_true] at hno
    obtain ⟨hvalue, hmask, hmode⟩ := hno
    have hlt := hfit ⟨rfl, hvalue, hmask, hmode⟩
    refine ⟨fun _ => hmask, ?_⟩
    intro deadline hd
    injection hd with hd
    refine ⟨.count tsc.toNat value.toNat, if_neg hvalue, ?_, ?_⟩
    · rw [← hd, BitVec.toNat_add, Nat.mod_eq_of_lt hlt]
      simp [Request.due]
    · intro period hp
      change (if t.periodic then some value else none) = some period at hp
      split at hp
      · injection hp with hp
        exact ⟨tsc.toNat, by rw [hp]⟩
      · cases hp

theorem Answers.writeMsr {t : ApicTimer} {a : Asked} (h : Answers t a) {tsc : BitVec 64}
    {value : BitVec 64} (msr : BitVec 32) :
    (TimerUnit.Arms t msr value → tsc.toNat + value.toNat < 2 ^ 64) →
      Answers (t.writeMsr tsc msr value) (a.next (.wrote tsc msr value)) := by
  revert msr
  apply ApicTimer.msr_cases
  · exact fun _ => h.writeLvt value
  · exact fun _ => answers_writeDeadline t value
  · exact answers_writeInitCount
  · intro msr hlvt hdead hcount _
    rw [ApicTimer.writeMsr_other t tsc value hlvt hdead hcount]
    show Answers t (if msr = ia32X2apicInitCount then _ else _)
    rw [if_neg hcount, if_neg hdead]
    exact h

theorem saturatingAdd_toNat {a b : BitVec 64} (h : a.toNat + b.toNat < 2 ^ 64) :
    (ApicTimer.saturatingAdd a b).toNat = a.toNat + b.toNat := by
  rw [ApicTimer.saturatingAdd, if_pos h, BitVec.toNat_add, Nat.mod_eq_of_lt h]

/-- A periodic timer is armed again for the next time. -/
theorem Answers.expire {u : TimerUnit} {a : Asked} (h : Answers u.timer a) {slack : ℕ} {tsc : BitVec 64}
    {vector : BitVec 8} {masked : Bool} (ht : u.timely slack (.expired tsc vector masked)) :
    Answers u.expire.timer (a.next (.expired tsc vector masked)) := by
  cases hd : u.timer.deadline with
  | none =>
    rw [TimerUnit.expire_none hd]
    refine ⟨h.quiet, ?_⟩
    intro deadline hd'
    rw [hd] at hd'
    cases hd'
  | some deadline =>
    obtain ⟨r, hr, hdue, hperiod⟩ := h.due deadline hd
    refine ⟨TimerUnit.quiet_after h.quiet (.expired tsc vector masked), ?_⟩
    intro next hnext
    rw [TimerUnit.expire_some hd] at hnext
    obtain ⟨period, hp, hadd⟩ := Option.map_eq_some_iff.mp hnext
    obtain ⟨start, rfl⟩ := hperiod period hp
    refine ⟨.count start period.toNat, hr, ?_, ?_⟩
    · rw [← hadd, saturatingAdd_toNat ((ht deadline hd).2 period hp), hdue]
      show start + (a.expiries + 1) * period.toNat + period.toNat =
        start + (a.expiries + 1 + 1) * period.toNat
      rw [Nat.succ_mul (a.expiries + 1), Nat.add_assoc]
    · intro period' hp'
      rw [TimerUnit.expire_some hd] at hp'
      change u.timer.period = some period' at hp'
      rw [hp] at hp'
      injection hp' with hp'
      exact ⟨start, by rw [hp']⟩

theorem Answers.after {u : TimerUnit} {a : Asked} (h : Answers u.timer a) {slack : ℕ} {e : TimerEvent}
    (ht : u.timely slack e) : Answers (u.after e).timer (a.next e) := by
  cases e with
  | wrote tsc msr value => exact h.writeMsr msr ht
  | expired tsc vector masked => exact h.expire ht
  | entered rflags blocking info =>
    show Answers (if isValid info then { u with pending := none } else u).timer a
    split <;> exact h

theorem Answers.notEarly {u : TimerUnit} {log : List TimerEvent} (h : Answers u.timer (asked log))
    {slack : ℕ} {e : TimerEvent} (ha : u.allows e) (ht : u.timely slack e) : NotEarly slack log e := by
  cases e with
  | wrote tsc msr value => trivial
  | expired tsc vector masked =>
    intro _
    obtain ⟨deadline, hd⟩ := Option.isSome_iff_exists.mp ha.1
    obtain ⟨r, hr, hdue, -⟩ := h.due deadline hd
    refine ⟨r, hr, ?_⟩
    rw [← hdue]
    exact (ht deadline hd).1
  | entered rflags blocking info => trivial

theorem legal_not_early {slack : ℕ} {log : List TimerEvent}
    (h : Legal TimerUnit.after (fun u e => u.allows e ∧ u.timely slack e) TimerUnit.new log) :
    AtEach (NotEarly slack) log := by
  have hstart : Answers TimerUnit.new.timer (asked []) := Answers.disarm ApicTimer.default _
  have hstep : ∀ (u : TimerUnit) (log : List TimerEvent) (e : TimerEvent), Answers u.timer (asked log) →
      u.allows e ∧ u.timely slack e →
      NotEarly slack log e ∧ Answers (u.after e).timer (asked (log ++ [e])) := by
    intro u log e hI hA
    rw [asked_concat]
    exact ⟨hI.notEarly hA.1 hA.2, hI.after hA.2⟩
  exact Legal.atEach (fun u log => Answers u.timer (asked log)) hstep hstart atEach_nil h

end Rhyve.Apic
