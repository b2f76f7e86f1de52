import Rhyve.Svm.Turn

/-! # The periodic timer of the AMD-V backend (`service_timer` of `svm/mod.rs`)

The deadline is polled once per entry, and an expiry moves it on by one period from where it was, not from the
time of the poll. So the deadlines are an arithmetic progression, however late the entries are.

* `Ticking`: the timer after `k` expiries since it was armed.
* `Ticking.poll`: one poll; `run_ticking`: a run without writes to the timer.
* `periodic_timer_exact`: expiries and elapsed periods at every entry.
-/

namespace Rhyve.Svm
open Apic Backend Machine SvmCpu
set_option autoImplicit false

/-- The LVT is unmasked and in periodic mode. -/
structure PeriodicMode (t : ApicTimer) : Prop where
  unmasked : t.masked = false
  periodic : t.periodic = true
  count : t.tscDeadlineMode = false

/-- The deadline after `k` expiries. It stops at the largest value of the TSC. -/
def tickAt (t0 p : BitVec 64) (k : ℕ) : ℕ := min (t0.toNat + (k + 1) * p.toNat) (2 ^ 64 - 1)

/-- The timer waits for the `k`-th tick. -/
structure Ticking (t0 p : BitVec 64) (k : ℕ) (t : ApicTimer) : Prop where
  deadline : t.deadline = some (BitVec.ofNat 64 (tickAt t0 p k))
  period : t.period = some p

section Ticks
variable {t0 p : BitVec 64} {k : ℕ}

theorem tickAt_toNat (t0 p : BitVec 64) (k : ℕ) : (BitVec.ofNat 64 (tickAt t0 p k)).toNat = tickAt t0 p k := by
  rw [BitVec.toNat_ofNat]
  apply Nat.mod_eq_of_lt
  unfold tickAt
  omega

theorem tickAt_succ (h : t0.toNat + (k + 1) * p.toNat < 2 ^ 64 - 1) :
    ApicTimer.saturatingAdd (BitVec.ofNat 64 (tickAt t0 p k)) p = BitVec.ofNat 64 (tickAt t0 p (k + 1)) := by
  have hp := p.isLt
  have hnow : tickAt t0 p k = t0.toNat + (k + 1) * p.toNat := Nat.min_eq_left (Nat.le_of_lt h)
  have hnext : tickAt t0 p (k + 1) = min (t0.toNat + (k + 1) * p.toNat + p.toNat) (2 ^ 64 - 1) := by
    rw [tickAt, Nat.succ_mul, Nat.add_assoc]
  unfold ApicTimer.saturatingAdd
  rw [tickAt_toNat]
  apply BitVec.eq_of_toNat_eq
  rw [tickAt_toNat, hnext, hnow]
  split
  · rw [BitVec.toNat_add, BitVec.toNat_ofNat]
    omega
  · rw [BitVec.toNat_allOnes]
    omega

theorem arm_ticking {t : ApicTimer} (ht : PeriodicMode t) (hp : p ≠ 0#64) (hfit : t0.toNat + p.toNat < 2 ^ 64) :
    Ticking t0 p 0 (t.writeMsr t0 ia32X2apicInitCount p) := by
  have harm : t.writeMsr t0 ia32X2apicInitCount p =
      { t with deadline := some (t0 + p), period := some p } := by
    show t.writeInitCount t0 p = _
    unfold ApicTimer.writeInitCount
    rw [if_neg (by simp [hp, ht.unmasked, ht.count]), ht.periodic]
    rfl
  rw [harm]
  refine ⟨?_, rfl⟩
  have htick : tickAt t0 p 0 = t0.toNat + p.toNat := by
    rw [tickAt]
    omega
  rw [htick, BitVec.ofNat_add, BitVec.ofNat_toNat, BitVec.ofNat_toNat, BitVec.setWidth_eq, BitVec.setWidth_eq]

/-- One poll: the deadline is ahead, or one expiry is due and the next deadline is one period later. -/
theorem Ticking.poll {u : TimerUnit} (h : Ticking t0 p k u.timer) {tsc : BitVec 64}
    (hmax : tsc.toNat < 2 ^ 64 - 1) :
    ∃ k', k' = k + (pollEvents u.timer tsc).countP isExpiry ∧
      Ticking t0 p k' ((pollEvents u.timer tsc).foldl TimerUnit.after u).timer ∧
      (k' = k ∧ tsc.toNat < t0.toNat + (k + 1) * p.toNat ∨
        k' = k + 1 ∧ t0.toNat + (k + 1) * p.toNat ≤ tsc.toNat) := by
  have hnat := tickAt_toNat t0 p k
  unfold pollEvents
  rw [h.deadline]
  by_cases hlt : tsc < BitVec.ofNat 64 (tickAt t0 p k)
  · simp only [if_pos hlt]
    rw [BitVec.lt_def, hnat, tickAt] at hlt
    exact ⟨k, rfl, h, .inl ⟨rfl, by omega⟩⟩
  · simp only [if_neg hlt]
    rw [BitVec.lt_def, hnat, tickAt] at hlt
    -- the deadline has not saturated: the largest reading lies below
    have hdue : t0.toNat + (k + 1) * p.toNat ≤ tsc.toNat := by omega
    refine ⟨k + 1, rfl, ?_, .inr ⟨rfl, hdue⟩⟩
    show Ticking t0 p (k + 1) u.expire.timer
    rw [TimerUnit.expire_some h.deadline, h.period]
    refine ⟨?_, h.period⟩
    show some (ApicTimer.saturatingAdd _ p) = _
    rw [tickAt_succ (by omega)]

end Ticks

/-! ## Runs -/

/-- The exit of the call is no WRMSR to one of the timer's registers. -/
def NoTimerWrite (c : SvmCpu) (i : SvmTurn) : Prop :=
  isWrmsr (exitState c i) → ApicTimer.isTimerMsr (exitState c i).regs.msrIndex = false

theorem exitEvents_timer {c : SvmCpu} {i : SvmTurn} (h : NoTimerWrite c i) (u : TimerUnit) (tsc : BitVec 64) :
    (exitEvents (exitState c i) tsc).foldl TimerUnit.after u = u ∧
      (exitEvents (exitState c i) tsc).countP isExpiry = 0 := by
  unfold exitEvents
  by_cases hw : isWrmsr (exitState c i)
  · rw [if_pos hw]
    exact ⟨TimerUnit.after_wrote_other (h hw), rfl⟩
  · rw [if_neg hw]
    exact ⟨rfl, rfl⟩

theorem eventsBefore_timer (c : SvmCpu) (i : SvmTurn) :
    ((eventsBefore c i).foldl TimerUnit.after c.timerUnit).timer =
        ((pollEvents c.apicTimer i.input.entryTsc).foldl TimerUnit.after c.timerUnit).timer ∧
      (eventsBefore c i).countP isExpiry = (pollEvents c.apicTimer i.input.entryTsc).countP isExpiry := by
  unfold eventsBefore
  rw [List.foldl_append, List.countP_append]
  simp only [entryEvent, List.foldl_cons, List.foldl_nil]
  exact ⟨TimerUnit.entered_timer _ _ _ _, rfl⟩

section Run
variable {t0 p : BitVec 64} {k : ℕ} {c : SvmCpu}

theorem Ticking.enter (h : Ticking t0 p k c.apicTimer) {i : SvmTurn}
    (hmax : i.input.entryTsc.toNat < 2 ^ 64 - 1) :
    ∃ k', k' = k + (eventsBefore c i).countP isExpiry ∧ Ticking t0 p k' (exitState c i).apicTimer ∧
      (k' = k ∧ i.input.entryTsc.toNat < t0.toNat + (k + 1) * p.toNat ∨
        k' = k + 1 ∧ t0.toNat + (k + 1) * p.toNat ≤ i.input.entryTsc.toNat) := by
  obtain ⟨htimer, hcount⟩ := eventsBefore_timer c i
  obtain ⟨k', hk, htick, hcases⟩ := Ticking.poll (u := c.timerUnit) h hmax
  refine ⟨k', ?_, ?_, hcases⟩
  · rw [hcount]
    exact hk
  · have hunit : (exitState c i).apicTimer = ((eventsBefore c i).foldl TimerUnit.after c.timerUnit).timer :=
      congrArg TimerUnit.timer (eventsBefore_unit c i)
    rw [hunit, htimer]
    exact htick

/-- A call that writes no timer register. -/
theorem Ticking.turn (h : Ticking t0 p k c.apicTimer) {i : SvmTurn} (hmax : i.input.entryTsc.toNat < 2 ^ 64 - 1)
    (hwrite : NoTimerWrite c i) {c' : SvmCpu} (hc : (Svm.turn c i).1 = some c') :
    ∃ k', k' = k + (Svm.turn c i).2.countP isExpiry ∧ Ticking t0 p k' c'.apicTimer ∧
      (k' = k ∨ k' = k + 1 ∧ t0.toNat + (k + 1) * p.toNat ≤ i.input.entryTsc.toNat) := by
  obtain ⟨k', hk, htick, hcases⟩ := h.enter hmax
  cases hrun : SvmCpu.run { c with regs := i.regs } i.input with
  | error e =>
    rw [turn_error hrun] at hc
    cases hc
  | ok r =>
    obtain ⟨hexit, hnone⟩ := exitEvents_timer hwrite (exitState c i).timerUnit i.input.env.tsc
    have hunit := (turn_unit c i).2 c' hc
    rw [turn_ok hrun] at hunit ⊢
    rw [List.foldl_append, ← eventsBefore_unit, hexit] at hunit
    have htimer : c'.apicTimer = (exitState c i).apicTimer := congrArg TimerUnit.timer hunit
    refine ⟨k', ?_, ?_, ?_⟩
    · rw [List.countP_append, hnone]
      exact hk
    · rw [htimer]
      exact htick
    · rcases hcases with ⟨hsame, -⟩ | hnext
      · exact .inl hsame
      · exact .inr hnext

/-- A run at nondecreasing readings. No expiry is ahead of the last reading, nor of a later one. -/
theorem run_ticking (h : Ticking t0 p k c.apicTimer) {is : List SvmTurn}
    (hmax : ∀ j ∈ is, j.input.entryTsc.toNat < 2 ^ 64 - 1) (hwrites : Along turn NoTimerWrite c is)
    {c' : SvmCpu} (hrun : (Machine.run turn c is).1 = some c') {tsc : BitVec 64}
    (hstart : t0.toNat + k * p.toNat ≤ tsc.toNat) (hlater : ∀ j ∈ is, j.input.entryTsc ≤ tsc) :
    ∃ k', k' = k + (Machine.run turn c is).2.countP isExpiry ∧ Ticking t0 p k' c'.apicTimer ∧
      t0.toNat + k' * p.toNat ≤ tsc.toNat := by
  induction is generalizing c k with
  | nil =>
    obtain rfl := Option.some.inj hrun
    exact ⟨k, rfl, h, hstart⟩
  | cons i is ih =>
    obtain ⟨hwrite, hrest⟩ := hwrites
    cases hs : (turn c i).1 with
    | none =>
      simp only [Machine.run, hs] at hrun
      cases hrun
    | some c1 =>
      obtain ⟨k1, hk1, htick, hcases⟩ := h.turn (hmax i List.mem_cons_self) hwrite hs
      have hbound : t0.toNat + k1 * p.toNat ≤ tsc.toNat := by
        have hle : i.input.entryTsc.toNat ≤ tsc.toNat := hlater i List.mem_cons_self
        rcases hcases with rfl | ⟨rfl, hdue⟩
        · exact hstart
        · exact hdue.trans hle
      simp only [Machine.run, hs] at hrun ⊢
      obtain ⟨k', hk', hfinal⟩ := ih htick (fun j hj => hmax j (List.mem_cons_of_mem i hj)) (hrest c1 hs) hrun
        hbound (fun j hj => hlater j (List.mem_cons_of_mem i hj))
      refine ⟨k', ?_, hfinal⟩
      rw [List.countP_append, hk', hk1, Nat.add_assoc]

end Run

/-- At every entry of a periodic timer: the expiries so far are no more than the periods that have passed, the next
deadline is exactly the next multiple, and an entry that has not caught up yet is an expiry itself. -/
theorem periodic_timer_exact (t : ApicTimer) (ht : PeriodicMode t) (t0 p : BitVec 64) (hp : p ≠ 0#64)
    (hfit : t0.toNat + p.toNat < 2 ^ 64) (c : SvmCpu)
    (hc : c.apicTimer = t.writeMsr t0 ia32X2apicInitCount p) (is : List SvmTurn) (i : SvmTurn)
    (hmono : (t0 :: (is ++ [i]).map fun j => j.input.entryTsc).Pairwise (· ≤ ·))
    (hmax : ∀ j ∈ is ++ [i], j.input.entryTsc.toNat < 2 ^ 64 - 1) (hwrites : Along turn NoTimerWrite c is)
    (c' : SvmCpu) (hrun : (Machine.run turn c is).1 = some c') :
    ∃ k, k = ((Machine.run turn c is).2 ++ eventsBefore c' i).countP isExpiry ∧
      k ≤ (i.input.entryTsc.toNat - t0.toNat) / p.toNat ∧
      (SvmCpu.enter { c' with regs := i.regs } i.input.entryTsc).apicTimer.deadline =
        some (BitVec.ofNat 64 (min (t0.toNat + (k + 1) * p.toNat) (2 ^ 64 - 1))) ∧
      (k = (i.input.entryTsc.toNat - t0.toNat) / p.toNat ∨ ∃ e ∈ eventsBefore c' i, isExpiry e = true) := by
  have hpos : 0 < p.toNat := Nat.pos_of_ne_zero fun h => hp (BitVec.eq_of_toNat_eq h)
  rw [List.pairwise_cons, List.map_append, List.pairwise_append] at hmono
  obtain ⟨hfirst, -, -, hlast⟩ := hmono
  have hlater : ∀ j ∈ is, j.input.entryTsc ≤ i.input.entryTsc := by
    intro j hj
    exact hlast _ (List.mem_map_of_mem hj) _ List.mem_cons_self
  have ht0 : t0.toNat ≤ i.input.entryTsc.toNat :=
    hfirst _ (List.mem_append_right _ List.mem_cons_self)
  have harmed : Ticking t0 p 0 _ := arm_ticking ht hp hfit
  rw [← hc] at harmed
  have hstart : t0.toNat + 0 * p.toNat ≤ i.input.entryTsc.toNat := by omega
  obtain ⟨k0, hk0, htick, hbound⟩ := run_ticking harmed
    (fun j hj => hmax j (List.mem_append_left _ hj)) hwrites hrun hstart hlater
  obtain ⟨k, hk, hnow, hcases⟩ := htick.enter (hmax i (List.mem_append_right _ List.mem_cons_self))
  have hcount : k = ((Machine.run turn c is).2 ++ eventsBefore c' i).countP isExpiry := by
    rw [List.countP_append, hk, hk0, Nat.zero_add]
  refine ⟨k, hcount, ?_, hnow.deadline, ?_⟩
  · rw [Nat.le_div_iff_mul_le hpos]
    rcases hcases with ⟨rfl, -⟩ | ⟨rfl, hdue⟩
    · omega
    · omega
  · rcases hcases with ⟨rfl, hahead⟩ | ⟨rfl, -⟩
    · left
      apply Nat.le_antisymm
      · rw [Nat.le_div_iff_mul_le hpos]
        omega
      · rw [← Nat.lt_succ_iff, Nat.div_lt_iff_lt_mul hpos]
        show _ < (k + 1) * p.toNat
        omega
    · right
      have hsome : 0 < (eventsBefore c' i).countP isExpiry := by omega
      exact List.countP_pos_iff.mp hsome

/-- A call at this time, left by an interrupt of the host. -/
def enterAt (tsc : BitVec 64) : SvmTurn :=
  ⟨GuestRegisters.zero, tsc,
    ⟨GuestRegisters.zero, ByteMem.ofWords fun i => if i = exitcodeField / 8 then ExitCode.intr else 0#64⟩, tsc,
    fun _ _ => ⟨0, 0, 0, 0⟩⟩

/-- A period of 10 from TSC 100 on. -/
def tenTicks : SvmCpu :=
  writeApicTimerMsr { SvmCpu.new 0 0 0 0 0 0 with
    apicTimer := ⟨0x20#8, false, false, true, none, none⟩ } 100#64 ia32X2apicInitCount 10#64

theorem enterAt_noTimerWrite (c : SvmCpu) (tsc : BitVec 64) : NoTimerWrite c (enterAt tsc) := by
  intro hw
  have hsaved : (enterAt 0#64).input.exit.vmcb.readU64 exitcodeField = ExitCode.intr := by decide +kernel
  have hcode : (exitState c (enterAt tsc)).vmcb.readU64 exitcodeField = ExitCode.intr :=
    (Vmcb.readU64_saved _ _ exitcodeField (by decide)).trans hsaved
  have hmsr := hw.1
  rw [hcode] at hmsr
  exact absurd hmsr (by decide)

/-- Polled late: at 135 three periods have passed, and the second of two entries there is the second expiry. -/
theorem periodic_timer_exact_late :
    ∃ c', (Machine.run turn tenTicks [enterAt 105#64, enterAt 135#64]).1 = some c' ∧
      ((Machine.run turn tenTicks [enterAt 105#64, enterAt 135#64]).2 ++
        eventsBefore c' (enterAt 135#64)).countP isExpiry = 2 ∧
      (SvmCpu.enter { c' with regs := GuestRegisters.zero } 135#64).apicTimer.deadline = some 130#64 := by
  have hsome : (Machine.run turn tenTicks [enterAt 105#64, enterAt 135#64]).1.map (fun c' =>
      ((Machine.run turn tenTicks [enterAt 105#64, enterAt 135#64]).2 ++
        eventsBefore c' (enterAt 135#64)).countP isExpiry) = some 2 := by decide +kernel
  obtain ⟨c', hc', hcount⟩ := Option.map_eq_some_iff.mp hsome
  obtain ⟨k, hk, -, hdeadline, -⟩ := periodic_timer_exact ⟨0x20#8, false, false, true, none, none⟩ ⟨rfl, rfl, rfl⟩
    100#64 10#64 (by decide) (by decide) tenTicks rfl [enterAt 105#64, enterAt 135#64] (enterAt 135#64)
    (by decide) (by decide)
    ⟨enterAt_noTimerWrite _ _, fun _ _ => ⟨enterAt_noTimerWrite _ _, fun _ _ => trivial⟩⟩ c' hc'
  rw [hcount] at hk
  rw [hk] at hdeadline
  exact ⟨c', hc', hcount, hdeadline⟩

end Rhyve.Svm
