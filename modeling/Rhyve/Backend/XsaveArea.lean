import Rhyve.Backend.Fpu

/-! # XSETBV on behalf of the guest

Both backends execute the XSETBV of a guest on the host, with the operands of the guest. The instruction faults if it
is given another register than XCR0 or a value that the processor does not accept. XCR0 then decides how much the next
`FpuState::save` writes into an area of fixed size.

* `XsaveEvent`: the saves of a run with their sizes, and the XSETBVs. `xsaveStep` is `fpStep` with these outputs.
* `guest_xsetbv_contained_iff`: when no XSETBV faults and no save overruns its area.
-/

namespace Rhyve.Backend
open Machine Vmx Svm
set_option autoImplicit false

variable {V β ι : Type}

/-- The size of `FpuState`. -/
def fpuStateBytes : ℕ := 4096

/-- What concerns the XSAVE areas: an XSAVE of so many bytes, and an XSETBV. -/
inductive XsaveEvent where
  | save (size : ℕ)
  | xsetbv (op : Xsetbv)
  deriving DecidableEq, Repr

/-- A call saves the host's registers before the entry and the guest's after the exit; `area` is the size of the
XSAVE area as a function of XCR0. -/
def xsaveStep (area : BitVec 64 → ℕ) (executed : β → ι → List Xsetbv) (call : β → ι → SwitchCall β) (s : β × Fp V)
    (i : FpInput ι V) : Option (β × Fp V) × List XsaveEvent :=
  let events :=
    if (call s.1 i.call).reached then
      .save (area s.2.xcr0) :: .save (area s.2.xcr0) :: (executed s.1 i.call).map .xsetbv
    else []
  ((fpStep call s i).1, events)

/-! ## What has to hold -/

/-- The processor executes the XSETBV without a fault, and an area of `FpuState` is large enough afterwards. -/
structure Acceptable (area : BitVec 64 → ℕ) (supported : BitVec 64) (op : Xsetbv) : Prop where
  index : op.ecx = 0#32
  valid : validXcr0 supported op.value = true
  fits : area op.value ≤ fpuStateBytes

/-- A save after an XSETBV stays inside its area. -/
def Held (before : List XsaveEvent) (e : XsaveEvent) : Prop :=
  ∀ size, e = .save size → (∃ op, .xsetbv op ∈ before) → size ≤ fpuStateBytes

/-- Every XCR0 that is written is acceptable, and every XSAVE stays inside its area. -/
structure Contained (area : BitVec 64 → ℕ) (supported : BitVec 64) (log : List XsaveEvent) : Prop where
  xsetbvs : ∀ op, .xsetbv op ∈ log → Acceptable area supported op
  saves : AtEach Held log

/-! ## Runs -/

section Step
variable {call : β → ι → SwitchCall β} {s : β × Fp V} {i : FpInput ι V}

theorem fpStep_xcr0 {s' : β × Fp V} (h : (fpStep call s i).1 = some s') :
    ∃ r, (call s.1 i.call).result = .ok r ∧
      (r.xsetbv = none ∧ s'.2.xcr0 = s.2.xcr0 ∨ ∃ op, r.xsetbv = some op ∧ s'.2.xcr0 = op.value) := by
  unfold fpStep at h
  dsimp only at h
  split at h
  · obtain ⟨r, hr, ⟨hnone, hsame⟩ | ⟨op, hop, hset⟩⟩ := fpNext_ok h
    · refine ⟨r, hr, .inl ⟨hnone, ?_⟩⟩
      rw [hsame, switch_xcr0]
      rfl
    · refine ⟨r, hr, .inr ⟨op, hop, ?_⟩⟩
      rw [hset]
  · cases h

end Step

theorem atEach_xsetbvs {log : List XsaveEvent} (h : AtEach Held log) (ops : List Xsetbv) :
    AtEach Held (log ++ ops.map .xsetbv) := by
  induction ops generalizing log with
  | nil =>
    rw [List.map_nil, List.append_nil]
    exact h
  | cons op ops ih =>
    have hnext : AtEach Held (log ++ [.xsetbv op]) := h.concat nofun
    have hrest := ih hnext
    rw [List.append_assoc, List.singleton_append] at hrest
    exact hrest

theorem atEach_saves {log : List XsaveEvent} (h : AtEach Held log) {size : ℕ}
    (hsize : (∃ op, XsaveEvent.xsetbv op ∈ log) → size ≤ fpuStateBytes) :
    AtEach Held (log ++ [.save size, .save size]) := by
  have hfirst : AtEach Held (log ++ [.save size]) := by
    refine h.concat ?_
    rintro _ ⟨rfl⟩ hset
    exact hsize hset
  have hsecond : Held (log ++ [.save size]) (.save size) := by
    rintro _ ⟨rfl⟩ ⟨op, hop⟩
    rcases List.mem_append.mp hop with hop | hop
    · exact hsize ⟨op, hop⟩
    · cases List.mem_singleton.mp hop
  have hboth := hfirst.concat hsecond
  rw [List.append_assoc] at hboth
  exact hboth

section Run
variable {call : β → ι → SwitchCall β} {executed : β → ι → List Xsetbv} {asked : β → ι → Xsetbv → Prop}
  {area : BitVec 64 → ℕ} {supported : BitVec 64}

/-- The guest asks for nothing that the processor or the area cannot take. -/
def AsksSafely (asked : β → ι → Xsetbv → Prop) (area : BitVec 64 → ℕ) (supported : BitVec 64) (s : β × Fp V)
    (i : FpInput ι V) : Prop := ∀ op, asked s.1 i.call op → Acceptable area supported op

theorem xsaveStep_iff (hpath : XsetbvPath call executed asked) (s : β × Fp V) (i : FpInput ι V) :
    (∀ e ∈ (xsaveStep area executed call s i).2, ∀ op, e = .xsetbv op → Acceptable area supported op) ↔
      AsksSafely asked area supported s i := by
  unfold xsaveStep
  dsimp only
  split
  · rename_i hreached
    constructor
    · intro hall op hasked
      have hmem : op ∈ executed s.1 i.call := (hpath.operands _ _ _).mpr hasked
      exact hall (.xsetbv op) (by simp [hmem]) op rfl
    · rintro hsafe _ he op rfl
      have hmem : op ∈ executed s.1 i.call := by simpa using he
      exact hsafe op ((hpath.operands _ _ _).mp hmem)
  · rename_i hreached
    refine ⟨fun _ op hasked => ?_, fun _ => nofun⟩
    exact absurd (hpath.reached _ _ _ ((hpath.operands _ _ _).mpr hasked)) hreached

/-- After an XSETBV the area of XCR0 fits, and so far every save did. -/
structure XsaveInv (area : BitVec 64 → ℕ) (f : Fp V) (log : List XsaveEvent) : Prop where
  fits : (∃ op, XsaveEvent.xsetbv op ∈ log) → area f.xcr0 ≤ fpuStateBytes
  saves : AtEach Held log

theorem xsaveStep_inv (hpath : XsetbvPath call executed asked) (s : β × Fp V) (log : List XsaveEvent)
    (i : FpInput ι V) (h : XsaveInv area s.2 log) (hsafe : AsksSafely asked area supported s i) :
    AtEach Held (log ++ (xsaveStep area executed call s i).2) ∧
      ∀ s', (xsaveStep area executed call s i).1 = some s' →
        XsaveInv area s'.2 (log ++ (xsaveStep area executed call s i).2) := by
  have hsaves : AtEach Held (log ++ (xsaveStep area executed call s i).2) := by
    unfold xsaveStep
    dsimp only
    split
    · have hlog := atEach_xsetbvs (atEach_saves h.saves h.fits) (executed s.1 i.call)
      rw [List.append_assoc] at hlog
      exact hlog
    · rw [List.append_nil]
      exact h.saves
  refine ⟨hsaves, fun s' hs => ⟨?_, hsaves⟩⟩
  rintro ⟨op, hop⟩
  obtain ⟨r, hr, ⟨hnone, hsame⟩ | ⟨op', hop', hset⟩⟩ := fpStep_xcr0 hs
  · -- This call has executed no XSETBV, so there was one before.
    have hempty : op ∉ executed s.1 i.call := by
      intro hmem
      rw [(hpath.result _ _ r hr op).mpr hmem] at hnone
      cases hnone
    rw [hsame]
    apply h.fits
    rcases List.mem_append.mp hop with hop | hop
    · exact ⟨op, hop⟩
    · unfold xsaveStep at hop
      dsimp only at hop
      split at hop
      · simp [hempty] at hop
      · cases hop
  · rw [hset]
    exact (hsafe op' ((hpath.operands _ _ _).mp ((hpath.result _ _ r hr op').mp hop'))).fits

theorem contained_iff (hpath : XsetbvPath call executed asked) (s : β × Fp V) (is : List (FpInput ι V)) :
    Contained area supported (Machine.run (xsaveStep area executed call) s is).2 ↔
      Along (xsaveStep area executed call) (AsksSafely asked area supported) s is := by
  have hiff : (∀ e ∈ (Machine.run (xsaveStep area executed call) s is).2,
      ∀ op, e = .xsetbv op → Acceptable area supported op) ↔
      Along (xsaveStep area executed call) (AsksSafely asked area supported) s is :=
    outputs_iff (fun _ => True) (fun e => ∀ op, e = XsaveEvent.xsetbv op → Acceptable area supported op)
      (fun s i _ _ => ⟨xsaveStep_iff hpath s i, fun _ _ _ => trivial⟩) trivial (along_true s is)
  constructor
  · intro h
    refine hiff.mp ?_
    rintro _ he op rfl
    exact h.xsetbvs op he
  · intro h
    refine ⟨fun op hop => hiff.mpr h _ hop op rfl, ?_⟩
    exact (run_log (fun s log => XsaveInv area s.2 log) (AtEach Held) (xsaveStep_inv hpath) [] ⟨nofun, atEach_nil⟩
      atEach_nil h).1

end Run

/-! ## The two backends -/

/-- In every run of either backend, on every processor: no XSETBV faults and no save after one overruns its area if and
only if the guest asks for nothing else. -/
theorem guest_xsetbv_contained_iff (area : BitVec 64 → ℕ) (f : Fp V) :
    (∀ c is, Contained area f.supported (Machine.run (xsaveStep area vmxXsetbvs vmxSwitchCall) (c, f) is).2 ↔
      Along (xsaveStep area vmxXsetbvs vmxSwitchCall) (AsksSafely VmxAsks area f.supported) (c, f) is) ∧
    ∀ c is, Contained area f.supported (Machine.run (xsaveStep area svmXsetbvs svmSwitchCall) (c, f) is).2 ↔
      Along (xsaveStep area svmXsetbvs svmSwitchCall) (AsksSafely SvmAsks area f.supported) (c, f) is := by
  refine ⟨?_, ?_⟩
  · intro c is
    exact contained_iff vmxPath (c, f) is
  · intro c is
    exact contained_iff svmPath (c, f) is

/-- Where the components end in the XSAVE area of a processor with AVX-512, PKRU and AMX. x87, SSE and the header take
the first 576 bytes. -/
def componentEnds : List (ℕ × ℕ) :=
  [(2, 832), (5, 1152), (6, 1664), (7, 2688), (9, 2696), (17, 2816), (18, 11008)]

def amxArea (xcr0 : BitVec 64) : ℕ :=
  (componentEnds.filter fun e => xcr0.getLsbD e.1).foldl (fun size e => max size e.2) 576

def amxStart : Fp ℕ := { fpAtStart 0b011#64 with supported := 0x602e7#64 }

/-- The guest writes XCR0. -/
def vmxXsetbvCall (xcr0 : BitVec 64) : FpInput (GuestRegisters × VmxCpu.VmxInput) ℕ :=
  ⟨(GuestRegisters.zero, (vmxTurnWith 55#64 { GuestRegisters.zero with rax := xcr0 } 0#64).input), fun _ => 0,
    fun _ => 0⟩

/-- On VT-x the guest enables the tiles of AMX, and the next save writes 11008 bytes. On AMD-V it clears XCR0, and the
host faults. -/
theorem guest_xsetbv_overruns :
    let amx := Machine.run (xsaveStep amxArea vmxXsetbvs vmxSwitchCall) (blankCpu, amxStart)
      [vmxXsetbvCall 0x60007#64, vmxXsetbvCall 0x60007#64]
    let cleared := Machine.run (xsaveStep amxArea svmXsetbvs svmSwitchCall) (SvmCpu.new 0 0 0 0 0 0, amxStart)
      [xsetbvCall 0#64 0 0]
    amx.2.take 4 = [.save 576, .save 576, .xsetbv ⟨0#32, 0x60007#32, 0#32⟩, .save 11008] ∧
      ¬ Contained amxArea amxStart.supported amx.2 ∧
      cleared.1.isNone ∧ cleared.2 = [.save 576, .save 576, .xsetbv ⟨0#32, 0#32, 0#32⟩] ∧
      ¬ Contained amxArea amxStart.supported cleared.2 := by
  intro amx cleared
  have hamx : amx.2.take 4 = [.save 576, .save 576, .xsetbv ⟨0#32, 0x60007#32, 0#32⟩, .save 11008] := by
    decide +kernel
  have hcleared : cleared.2 = [.save 576, .save 576, .xsetbv ⟨0#32, 0#32, 0#32⟩] := by decide +kernel
  have hstops : cleared.1.isNone := by decide +kernel
  refine ⟨hamx, ?_, hstops, hcleared, ?_⟩
  · intro h
    have hmem : XsaveEvent.xsetbv ⟨0#32, 0x60007#32, 0#32⟩ ∈ amx.2 := List.mem_of_mem_take (by rw [hamx]; decide)
    exact absurd (h.xsetbvs _ hmem).fits (by decide)
  · intro h
    rw [hcleared] at h
    exact absurd (h.xsetbvs ⟨0#32, 0#32, 0#32⟩ (by decide)).valid (by decide)

end Rhyve.Backend
