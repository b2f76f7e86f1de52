import Mathlib.Data.Nat.Notation
import Mathlib.Tactic.Ring

/-! # The emulated local-APIC timer (`apic.rs`)

Both backends keep an `ApicTimer` and treat guest writes to the three timer MSRs alike. They differ in how
they notice that the deadline has passed; what they do then is `expire`. A reading of the host's TSC is an
argument. The release build wraps on overflow, so arming a count adds modulo `2 ^ 64`.
-/

namespace Rhyve.Apic
set_option autoImplicit false

def ia32TscDeadline : BitVec 32 := 0x6e0#32
def ia32X2apicLvtTimer : BitVec 32 := 0x832#32
def ia32X2apicInitCount : BitVec 32 := 0x838#32

def lvtTimerModeMask : BitVec 64 := 0b11#64 <<< 17
def lvtTimerModePeriodic : BitVec 64 := 0b01#64 <<< 17
def lvtTimerModeTscDeadline : BitVec 64 := 0b10#64 <<< 17
def lvtMasked : BitVec 64 := 1#64 <<< 16

/-- `ApicTimer`: the LVT as the guest has last written it, and what is armed. -/
structure ApicTimer where
  vector : BitVec 8
  masked : Bool
  tscDeadlineMode : Bool
  periodic : Bool
  deadline : Option (BitVec 64)
  period : Option (BitVec 64)
  deriving DecidableEq, Repr

namespace ApicTimer

def default : ApicTimer := ⟨0, false, false, false, none, none⟩

def disarm (t : ApicTimer) : ApicTimer := { t with deadline := none, period := none }

/-- `write_lvt`. A masked LVT also disarms the timer. -/
def writeLvt (t : ApicTimer) (value : BitVec 64) : ApicTimer :=
  let mode := value &&& lvtTimerModeMask
  let t := { t with
    vector := (value &&& 0xff#64).setWidth 8
    masked := value &&& lvtMasked != 0#64
    tscDeadlineMode := mode == lvtTimerModeTscDeadline
    periodic := mode == lvtTimerModePeriodic }
  if t.masked then t.disarm else t

/-- A write of IA32_TSC_DEADLINE. Zero disarms, and so does a masked LVT. -/
def writeDeadline (t : ApicTimer) (value : BitVec 64) : ApicTimer :=
  { t with
    deadline := if value ≠ 0#64 ∧ t.masked = false then some value else none
    period := none }

/-- A write of the initial count, which is relative to the TSC at the write. It does nothing in TSC-deadline
mode but disarm. -/
def writeInitCount (t : ApicTimer) (tsc value : BitVec 64) : ApicTimer :=
  if value = 0#64 ∨ t.masked = true ∨ t.tscDeadlineMode = true then t.disarm
  else
    { t with
      deadline := some (tsc + value)
      period := if t.periodic then some value else none }

/-- `write_apic_timer_msr` of both backends. -/
def writeMsr (t : ApicTimer) (tsc : BitVec 64) (msr : BitVec 32) (value : BitVec 64) : ApicTimer :=
  if msr = ia32X2apicLvtTimer then t.writeLvt value
  else if msr = ia32TscDeadline then t.writeDeadline value
  else if msr = ia32X2apicInitCount then t.writeInitCount tsc value
  else t

section WriteMsr
variable (t : ApicTimer) (tsc value : BitVec 64)

theorem writeMsr_other {msr : BitVec 32} (hlvt : msr ≠ ia32X2apicLvtTimer) (hdead : msr ≠ ia32TscDeadline)
    (hcount : msr ≠ ia32X2apicInitCount) : t.writeMsr tsc msr value = t := by
  rw [writeMsr, if_neg hlvt, if_neg hdead, if_neg hcount]

/-- A property of the three registers and of all other MSRs is one of all MSRs. -/
theorem msr_cases {P : BitVec 32 → Prop} (hlvt : P ia32X2apicLvtTimer) (hdead : P ia32TscDeadline)
    (hcount : P ia32X2apicInitCount)
    (hother : ∀ msr, msr ≠ ia32X2apicLvtTimer → msr ≠ ia32TscDeadline → msr ≠ ia32X2apicInitCount → P msr)
    (msr : BitVec 32) : P msr := by
  by_cases h1 : msr = ia32X2apicLvtTimer
  · rw [h1]
    exact hlvt
  by_cases h2 : msr = ia32TscDeadline
  · rw [h2]
    exact hdead
  by_cases h3 : msr = ia32X2apicInitCount
  · rw [h3]
    exact hcount
  exact hother msr h1 h2 h3

end WriteMsr

def saturatingAdd (a b : BitVec 64) : BitVec 64 :=
  if a.toNat + b.toNat < 2 ^ 64 then a + b else BitVec.allOnes 64

/-- The timer and the pending vector after the expiry of `deadline`. -/
def expire (t : ApicTimer) (deadline : BitVec 64) (pending : Option (BitVec 8)) :
    ApicTimer × Option (BitVec 8) :=
  ({ t with deadline := t.period.map fun period => saturatingAdd deadline period },
    if t.masked then pending else some t.vector)

/-- The MSR indices that `writeMsr` handles. -/
def isTimerMsr (msr : BitVec 32) : Bool :=
  msr == ia32X2apicLvtTimer || msr == ia32TscDeadline || msr == ia32X2apicInitCount

end ApicTimer

end Rhyve.Apic
