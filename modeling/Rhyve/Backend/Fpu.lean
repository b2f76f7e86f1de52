import Mathlib.Data.BitVec
import Rhyve.Backend.Switch

/-! # The FP registers of host and guest (`fpu.rs`)

Neither kind of VM-entry switches the FP register file, so both `run` functions do: the host's registers are
saved and the guest's restored before the entry, and the other way round after the exit. Which components a
save or restore copies is decided by XCR0, which host and guest share and the guest sets through XSETBV.

* `Fp`: one value for each XSAVE component in the registers and in the two areas. A restore only loads; that
  XRSTOR faults on an area with a component that XCR0 lacks is not modelled.
* `fpStep`: a call of `run`, after any FP activity of the host. The registers at the call are arbitrary.
* `fp_state_preserved`: neither side sees the other's values as long as XCR0 only grows.
* `fp_state_corrupted`: a guest that clears a component.
-/

namespace Rhyve.Backend
open Machine Vmx Svm
set_option autoImplicit false

variable {V β ι : Type}

/-- One value for each XSAVE component. -/
abbrev FpFile (V : Type) := Fin 64 → V

/-- The components in `mask` from the first file, the others from the second. -/
def overlay (mask : BitVec 64) (new old : FpFile V) : FpFile V :=
  fun i => if mask.getLsbD i then new i else old i

theorem overlay_of_eq {mask : BitVec 64} {new old file : FpFile V}
    (hnew : ∀ i, mask.getLsbD i.val = true → new i = file i)
    (hold : ∀ i, mask.getLsbD i.val = false → old i = file i) : overlay mask new old = file := by
  funext i
  unfold overlay
  cases h : mask.getLsbD i.val with
  | false => exact hold i h
  | true => exact hnew i h

theorem overlay_pos {mask : BitVec 64} {new old : FpFile V} {i : Fin 64} (h : mask.getLsbD i.val = true) :
    overlay mask new old i = new i := if_pos h

theorem overlay_neg {mask : BitVec 64} {new old : FpFile V} {i : Fin 64} (h : mask.getLsbD i.val = false) :
    overlay mask new old i = old i := if_neg (by rw [h]; decide)

/-! ## The registers and the two areas -/

/-- The extended state of a core, XCR0, and the two areas that a vCPU saves it to. -/
structure Fp (V : Type) where
  live : FpFile V
  xcr0 : BitVec 64
  /-- The bits that XCR0 may have on this processor. -/
  supported : BitVec 64
  guestFpu : FpFile V
  /-- The field `host_fpu`: `new` allocates it, and every call of `run` uses it again. -/
  hostFpu : FpFile V

/-- `FpuState::save`: XSAVE of every component. -/
def fpuSave (xcr0 : BitVec 64) (live area : FpFile V) : FpFile V := overlay xcr0 live area

/-- `FpuState::restore`: XRSTOR of every component. -/
def fpuRestore (xcr0 : BitVec 64) (area live : FpFile V) : FpFile V := overlay xcr0 area live

/-- XCR0 does not keep anyone from using x87 and SSE. -/
def legacy : BitVec 64 := 0b11#64

/-- What XSETBV accepts: x87 is set, AVX needs SSE, and so on. -/
def validXcr0 (supported value : BitVec 64) : Bool :=
  value &&& ~~~supported == 0#64 && value.getLsbD 0 &&
    (!value.getLsbD 2 || value.getLsbD 1) && value.getLsbD 3 == value.getLsbD 4 &&
    value.getLsbD 5 == value.getLsbD 6 && value.getLsbD 6 == value.getLsbD 7 &&
    (!value.getLsbD 5 || value.getLsbD 2) && value.getLsbD 17 == value.getLsbD 18

def Xsetbv.value (op : Xsetbv) : BitVec 64 := op.edx ++ op.eax

namespace Fp

/-- FP code that leaves `file` behind. -/
def activity (f : Fp V) (file : FpFile V) : Fp V :=
  { f with live := overlay (f.xcr0 ||| legacy) file f.live }

/-- XSETBV, or a general-protection fault of the host. -/
def xsetbv (f : Fp V) (op : Xsetbv) : Option (Fp V) :=
  if op.ecx = 0#32 ∧ validXcr0 f.supported op.value then some { f with xcr0 := op.value } else none

/-- `host_fpu.save()` and `guest_fpu.restore()`. -/
def toGuest (f : Fp V) : Fp V :=
  { f with
    hostFpu := fpuSave f.xcr0 f.live f.hostFpu
    live := fpuRestore f.xcr0 f.guestFpu f.live }

/-- `guest_fpu.save()` and `host_fpu.restore()`. -/
def toHost (f : Fp V) : Fp V :=
  { f with
    guestFpu := fpuSave f.xcr0 f.live f.guestFpu
    live := fpuRestore f.xcr0 f.hostFpu f.live }

/-- What the guest leaves behind; if the entry fails it does not run. -/
def inGuest (f : Fp V) (entered : Bool) (file : FpFile V) : Fp V := if entered then f.activity file else f

end Fp

/-! ## Calls of `run` -/

/-- The registers at the points of a call that host and guest can tell. -/
structure FpCall (V : Type) where
  before : FpFile V
  entry : Option (FpFile V)
  exit : Option (FpFile V)
  after : FpFile V

/-- One way into the guest and back, with what the registers hold on the way. After a failed entry nothing has
run between the two switches. -/
def Fp.switch (f : Fp V) (entered : Bool) (guest : FpFile V) : Fp V × FpCall V :=
  let entry := f.toGuest
  let exit := entry.inGuest entered guest
  let back := exit.toHost
  (back, ⟨f.live, some entry.live, if entered then some exit.live else none, back.live⟩)

/-- A call, with the host's state before it and what the guest leaves in the registers. -/
structure FpInput (ι V : Type) where
  call : ι
  host : FpFile V
  guest : FpFile V

/-- XSETBV is executed after the host's registers have been restored. -/
def fpNext (a : SwitchCall β) (f : Fp V) : Option (β × Fp V) :=
  match a.result with
  | .error _ => none
  | .ok r =>
    match r.xsetbv with
    | none => some (r.cpu, f)
    | some op => (f.xsetbv op).map (r.cpu, ·)

/-- A call of `run` with the registers around it. A call that fails before the entry leaves them alone. -/
def fpStep (call : β → ι → SwitchCall β) (s : β × Fp V) (i : FpInput ι V) :
    Option (β × Fp V) × List (FpCall V) :=
  let a := call s.1 i.call
  let f := s.2.activity i.host
  if a.reached then
    (fpNext a (f.switch a.entered i.guest).1, [(f.switch a.entered i.guest).2])
  else (none, [⟨f.live, none, none, f.live⟩])

/-! ## What has to hold -/

/-- What the guest left behind at its last exit. -/
def lastExit (log : List (FpCall V)) : Option (FpFile V) := log.reverse.findSome? FpCall.exit

/-- No call changes an enabled component of the host, and every entry brings back what the guest last had. -/
structure FpPreserved (enabled : BitVec 64) (log : List (FpCall V)) : Prop where
  host : ∀ o ∈ log, ∀ i : Fin 64, enabled.getLsbD i.val = true → o.after i = o.before i
  guest : AtEach (fun pre o => ∀ entry, o.entry = some entry → ∀ exit, lastExit pre = some exit →
    entry = exit) log

/-- SSE is enabled, and what is not enabled is in its initial state. -/
structure FpStart (initial : FpFile V) (f : Fp V) : Prop where
  guestFpu : f.guestFpu = initial
  x87 : f.xcr0.getLsbD 0 = true
  sse : f.xcr0.getLsbD 1 = true
  disabled : ∀ i : Fin 64, f.xcr0.getLsbD i.val = false → f.live i = initial i

/-- An XSETBV of the guest clears no component. -/
def OnlyEnables (asked : β → ι → Xsetbv → Prop) (s : β × Fp V) (i : FpInput ι V) : Prop :=
  ∀ op, asked s.1 i.call op → ∀ k : Fin 64, s.2.xcr0.getLsbD k.val = true → op.value.getLsbD k.val = true

/-! ## One call -/

theorem Fp.inGuest_frame (f : Fp V) (entered : Bool) (file : FpFile V) :
    (f.inGuest entered file).xcr0 = f.xcr0 ∧ (f.inGuest entered file).hostFpu = f.hostFpu := by
  cases entered with
  | false => exact ⟨rfl, rfl⟩
  | true => exact ⟨rfl, rfl⟩

/-- Whatever is not enabled is in its initial state, in the registers and in the guest's area. -/
structure Fp.Confined (initial : FpFile V) (f : Fp V) : Prop where
  x87 : f.xcr0.getLsbD 0 = true
  sse : f.xcr0.getLsbD 1 = true
  live : ∀ i : Fin 64, f.xcr0.getLsbD i.val = false → f.live i = initial i
  guestFpu : ∀ i : Fin 64, f.xcr0.getLsbD i.val = false → f.guestFpu i = initial i

namespace Fp.Confined
variable {initial : FpFile V} {f : Fp V}

theorem activity_live (h : Confined initial f) (file : FpFile V) {i : Fin 64}
    (hi : f.xcr0.getLsbD i.val = false) : (f.activity file).live i = f.live i := by
  have hx87 : i.val ≠ 0 := by
    intro h0
    rw [h0, h.x87] at hi
    cases hi
  have hsse : i.val ≠ 1 := by
    intro h1
    rw [h1, h.sse] at hi
    cases hi
  have hlegacy : legacy.getLsbD i.val = false := by
    have hbits : ∀ k : Fin 64, k.val ≠ 0 → k.val ≠ 1 → legacy.getLsbD k.val = false := by decide
    exact hbits i hx87 hsse
  have hmask : (f.xcr0 ||| legacy).getLsbD i.val = false := by
    rw [BitVec.getLsbD_or, hi, hlegacy]
    rfl
  exact overlay_neg hmask

theorem activity (h : Confined initial f) (file : FpFile V) : Confined initial (f.activity file) :=
  ⟨h.x87, h.sse, fun i hi => (h.activity_live file hi).trans (h.live i hi), h.guestFpu⟩

theorem inGuest (h : Confined initial f) (entered : Bool) (file : FpFile V) :
    Confined initial (f.inGuest entered file) := by
  cases entered with
  | false => exact h
  | true => exact h.activity file

theorem toGuest_live (h : Confined initial f) : f.toGuest.live = f.guestFpu := by
  apply overlay_of_eq
  · intro i _
    rfl
  · intro i hi
    exact (h.live i hi).trans (h.guestFpu i hi).symm

theorem toGuest (h : Confined initial f) : Confined initial f.toGuest := by
  refine ⟨h.x87, h.sse, ?_, h.guestFpu⟩
  intro i hi
  rw [h.toGuest_live]
  exact h.guestFpu i hi

theorem toHost_guestFpu (h : Confined initial f) : f.toHost.guestFpu = f.live := by
  apply overlay_of_eq
  · intro i _
    rfl
  · intro i hi
    exact (h.guestFpu i hi).trans (h.live i hi).symm

theorem toHost_live (h : Confined initial f) (entered : Bool) (file : FpFile V) :
    (f.toGuest.inGuest entered file).toHost.live = f.live := by
  obtain ⟨hxcr0, hhost⟩ := Fp.inGuest_frame f.toGuest entered file
  apply overlay_of_eq
  · intro i hi
    rw [hxcr0] at hi
    rw [hhost]
    exact overlay_pos hi
  · intro i hi
    have hguest := (h.toGuest.inGuest entered file).live i hi
    rw [hxcr0] at hi
    exact hguest.trans (h.live i hi).symm

theorem switch (h : Confined initial f) (entered : Bool) (file : FpFile V) :
    Confined initial (f.switch entered file).1 := by
  show Confined initial (f.toGuest.inGuest entered file).toHost
  obtain ⟨hxcr0, -⟩ := Fp.inGuest_frame f.toGuest entered file
  have hexit := h.toGuest.inGuest entered file
  refine ⟨hexit.x87, hexit.sse, ?_, ?_⟩
  · intro i hi
    rw [h.toHost_live]
    apply h.live i
    rw [← hi]
    exact congrArg (fun x => x.getLsbD i.val) hxcr0.symm
  · intro i hi
    rw [hexit.toHost_guestFpu]
    exact hexit.live i hi

theorem enable (h : Confined initial f) {value : BitVec 64}
    (hmore : ∀ k : Fin 64, f.xcr0.getLsbD k.val = true → value.getLsbD k.val = true) :
    Confined initial { f with xcr0 := value } := by
  have hless : ∀ k : Fin 64, value.getLsbD k.val = false → f.xcr0.getLsbD k.val = false := by
    intro k hk
    cases hf : f.xcr0.getLsbD k.val with
    | false => rfl
    | true =>
      rw [hmore k hf] at hk
      cases hk
  exact ⟨hmore 0 h.x87, hmore 1 h.sse, fun i hi => h.live i (hless i hi),
    fun i hi => h.guestFpu i (hless i hi)⟩

end Fp.Confined

/-! ## Runs -/

theorem lastExit_concat (log : List (FpCall V)) (o : FpCall V) :
    lastExit (log ++ [o]) = o.exit.or (lastExit log) := by
  unfold lastExit
  rw [List.reverse_append, List.reverse_singleton, List.singleton_append, List.findSome?_cons]
  cases o.exit with
  | none => rfl
  | some e => rfl

theorem FpPreserved.concat {enabled : BitVec 64} {log : List (FpCall V)} {o : FpCall V}
    (h : FpPreserved enabled log) (hhost : o.after = o.before)
    (hguest : ∀ entry, o.entry = some entry → ∀ exit, lastExit log = some exit → entry = exit) :
    FpPreserved enabled (log ++ [o]) := by
  refine ⟨?_, h.guest.concat hguest⟩
  intro o' ho i hi
  rcases List.mem_append.mp ho with ho | ho
  · exact h.host o' ho i hi
  · rw [List.mem_singleton.mp ho, hhost]

/-- The guest's area holds what the guest left behind. -/
structure FpInv (initial : FpFile V) (enabled : BitVec 64) (f : Fp V) (log : List (FpCall V)) : Prop where
  confined : f.Confined initial
  exit : ∀ e, lastExit log = some e → f.guestFpu = e
  preserved : FpPreserved enabled log

theorem fpNext_ok {a : SwitchCall β} {f : Fp V} {s : β × Fp V} (h : fpNext a f = some s) :
    ∃ r, a.result = .ok r ∧
      (r.xsetbv = none ∧ s.2 = f ∨ ∃ op, r.xsetbv = some op ∧ s.2 = { f with xcr0 := op.value }) := by
  unfold fpNext at h
  split at h
  · cases h
  · rename_i r hr
    refine ⟨r, hr, ?_⟩
    cases hop : r.xsetbv with
    | none =>
      rw [hop] at h
      exact .inl ⟨rfl, (congrArg Prod.snd (Option.some.inj h)).symm⟩
    | some op =>
      rw [hop] at h
      obtain ⟨f', hf, hs⟩ := Option.map_eq_some_iff.mp h
      refine .inr ⟨op, rfl, ?_⟩
      unfold Fp.xsetbv at hf
      split at hf
      · rw [← hs, ← Option.some.inj hf]
      · cases hf

namespace FpInv
variable {initial : FpFile V} {enabled : BitVec 64} {f : Fp V} {log : List (FpCall V)}

theorem activity (h : FpInv initial enabled f log) (file : FpFile V) :
    FpInv initial enabled (f.activity file) log :=
  ⟨h.confined.activity file, h.exit, h.preserved⟩

theorem switch (h : FpInv initial enabled f log) (entered : Bool) (file : FpFile V) :
    FpInv initial enabled (f.switch entered file).1 (log ++ [(f.switch entered file).2]) := by
  refine ⟨h.confined.switch entered file, ?_, ?_⟩
  · intro e he
    rw [lastExit_concat] at he
    have harea : (f.switch entered file).1.guestFpu = (f.toGuest.inGuest entered file).live :=
      (h.confined.toGuest.inGuest entered file).toHost_guestFpu
    rw [harea]
    cases entered with
    | true => exact Option.some.inj he
    | false =>
      -- The guest did not run, and its area is what it was.
      exact h.confined.toGuest_live.trans (h.exit e he)
  · refine h.preserved.concat (h.confined.toHost_live entered file) ?_
    intro entry hentry exit hexit
    rw [← Option.some.inj hentry, h.confined.toGuest_live]
    exact h.exit exit hexit

theorem enable (h : FpInv initial enabled f log) {value : BitVec 64}
    (hmore : ∀ k : Fin 64, f.xcr0.getLsbD k.val = true → value.getLsbD k.val = true) :
    FpInv initial enabled { f with xcr0 := value } log :=
  ⟨h.confined.enable hmore, h.exit, h.preserved⟩

end FpInv

theorem switch_xcr0 (f : Fp V) (entered : Bool) (file : FpFile V) :
    (f.switch entered file).1.xcr0 = f.xcr0 := (Fp.inGuest_frame f.toGuest entered file).1

section Run
variable {call : β → ι → SwitchCall β} {executed : β → ι → List Xsetbv} {asked : β → ι → Xsetbv → Prop}
  {initial : FpFile V}

theorem fpStep_inv (hpath : XsetbvPath call executed asked) {enabled : BitVec 64} (s : β × Fp V) (log : List (FpCall V))
    (i : FpInput ι V) (h : FpInv initial enabled s.2 log) (honly : OnlyEnables asked s i) :
    FpPreserved enabled (log ++ (fpStep call s i).2) ∧
      ∀ s', (fpStep call s i).1 = some s' → FpInv initial enabled s'.2 (log ++ (fpStep call s i).2) := by
  have hhost := h.activity i.host
  unfold fpStep
  dsimp only
  split
  · have hback := hhost.switch (call s.1 i.call).entered i.guest
    refine ⟨hback.preserved, ?_⟩
    intro s' hs
    obtain ⟨r, hr, ⟨-, hsame⟩ | ⟨op, hop, hset⟩⟩ := fpNext_ok hs
    · rw [hsame]
      exact hback
    · rw [hset]
      apply hback.enable
      intro k hk
      rw [switch_xcr0] at hk
      exact honly op ((hpath.operands _ _ _).mp ((hpath.result _ _ r hr op).mp hop)) k hk
  · refine ⟨h.preserved.concat rfl ?_, ?_⟩
    · intro _ hentry
      cases hentry
    · intro s' hs
      cases hs

theorem fp_run_preserved (hpath : XsetbvPath call executed asked) {f : Fp V} (h : FpStart initial f) (c : β)
    (is : List (FpInput ι V)) (honly : Along (fpStep call) (OnlyEnables asked) (c, f) is) :
    FpPreserved f.xcr0 (Machine.run (fpStep call) (c, f) is).2 := by
  have hnil : FpPreserved f.xcr0 ([] : List (FpCall V)) := ⟨nofun, atEach_nil⟩
  have hstart : FpInv initial f.xcr0 f [] :=
    ⟨⟨h.x87, h.sse, h.disabled, fun i _ => congrFun h.guestFpu i⟩, nofun, hnil⟩
  exact (run_log (fun s log => FpInv initial f.xcr0 s.2 log) (FpPreserved f.xcr0) (fpStep_inv hpath) [] hstart hnil
    honly).1

end Run

/-- Every run of either backend, whatever host and guest do with the FP registers. -/
theorem fp_state_preserved {initial : FpFile V} {f : Fp V} (h : FpStart initial f) :
    (∀ c is, Along (fpStep vmxSwitchCall) (OnlyEnables VmxAsks) (c, f) is →
      FpPreserved f.xcr0 (Machine.run (fpStep vmxSwitchCall) (c, f) is).2) ∧
    ∀ c is, Along (fpStep svmSwitchCall) (OnlyEnables SvmAsks) (c, f) is →
      FpPreserved f.xcr0 (Machine.run (fpStep svmSwitchCall) (c, f) is).2 := by
  refine ⟨?_, ?_⟩
  · intro c is honly
    exact fp_run_preserved vmxPath h c is honly
  · intro c is honly
    exact fp_run_preserved svmPath h c is honly

/-- A processor with x87, SSE and AVX, and zeros in every component. -/
def fpAtStart (xcr0 : BitVec 64) : Fp ℕ := ⟨fun _ => 0, xcr0, 0b111#64, fun _ => 0, fun _ => 0⟩

/-- The guest sets XCR0. Before the call the host leaves `host` in every component it can reach, and the guest
`guest`. -/
def xsetbvCall (xcr0 : BitVec 64) (host guest : ℕ) : FpInput (GuestRegisters × SvmCpu.SvmInput) ℕ :=
  ⟨(GuestRegisters.zero, svmCall 0#64 GuestRegisters.zero [(exitcodeField, ExitCode.xsetbv), (saveRax, xcr0)]),
    fun _ => host, fun _ => guest⟩

theorem xsetbvCall_asks {c : SvmCpu} {host guest : ℕ} {op : Xsetbv}
    (h : SvmAsks c (xsetbvCall 0b111#64 host guest).call op) : op.value = 0b111#64 := by
  have hvalue : (askedXsetbv { GuestRegisters.zero with
      rax := (xsetbvCall 0b111#64 0 0).call.2.exit.vmcb.readU64 saveRax }).value = 0b111#64 := by decide +kernel
  rw [h.2]
  exact hvalue

def sseOf (o : FpCall ℕ) : ℕ × Option ℕ × Option ℕ × ℕ :=
  (o.before 1, o.entry.map (· 1), o.exit.map (· 1), o.after 1)

/-- The guest enables AVX: it finds its 2 in SSE again, and the host its 1. -/
theorem fp_state_preserved_avx :
    let log := (Machine.run (fpStep svmSwitchCall) (SvmCpu.new 0 0 0 0 0 0, fpAtStart 0b011#64)
      [xsetbvCall 0b111#64 1 2, xsetbvCall 0b111#64 1 3]).2
    log.map sseOf = [(1, some 0, some 2, 1), (1, some 2, some 3, 1)] ∧
      FpPreserved (fpAtStart 0b011#64).xcr0 log := by
  have hstart : FpStart (fun _ => 0) (fpAtStart 0b011#64) := ⟨rfl, rfl, rfl, fun _ _ => rfl⟩
  have hxcr0 : (fpStep svmSwitchCall (SvmCpu.new 0 0 0 0 0 0, fpAtStart 0b011#64) (xsetbvCall 0b111#64 1 2)).1.map
      (fun s => s.2.xcr0) = some 0b111#64 := by decide +kernel
  have hfirst : OnlyEnables SvmAsks (SvmCpu.new 0 0 0 0 0 0, fpAtStart 0b011#64) (xsetbvCall 0b111#64 1 2) := by
    intro op hasks
    rw [xsetbvCall_asks hasks]
    decide
  refine ⟨by decide +kernel, (fp_state_preserved hstart).2 _ _ ⟨hfirst, ?_⟩⟩
  intro s hs
  refine ⟨?_, fun _ _ => trivial⟩
  intro op hasks
  rw [hs] at hxcr0
  have hsame : s.2.xcr0 = 0b111#64 := Option.some.inj hxcr0
  rw [xsetbvCall_asks hasks, hsame]
  exact fun _ hk => hk

/-- The guest leaves 2 in SSE and clears it in XCR0. The next entry finds the host's value 1, and after it the
host finds the guest's value 3. -/
theorem fp_state_corrupted :
    let log := (Machine.run (fpStep svmSwitchCall) (SvmCpu.new 0 0 0 0 0 0, fpAtStart 0b111#64)
      [xsetbvCall 0b001#64 1 2, xsetbvCall 0b001#64 1 3]).2
    log.map sseOf = [(1, some 0, some 2, 1), (1, some 1, some 3, 3)] ∧
      ¬ FpPreserved (fpAtStart 0b111#64).xcr0 log := by
  intro log
  have htable : log.map sseOf = [(1, some 0, some 2, 1), (1, some 1, some 3, 3)] := by decide +kernel
  refine ⟨htable, ?_⟩
  intro h
  have hsame : ∀ t ∈ log.map sseOf, t.2.2.2 = t.1 := by
    intro t ht
    obtain ⟨o, ho, rfl⟩ := List.mem_map.mp ht
    exact h.host o ho 1 (by decide)
  rw [htable] at hsame
  exact absurd hsame (by decide)

end Rhyve.Backend
