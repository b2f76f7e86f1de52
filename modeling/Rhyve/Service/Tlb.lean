import Rhyve.Lib.TagCache
import Rhyve.Service.Isolation
import Rhyve.Service.Vcpus
import Rhyve.Vmx.HostState

/-! # Cached translations

A core keeps nested translations and goes on using them without a look at the tables. It runs vCPUs of several VMs one
after the other, and a new VM may get its tables where a dropped one had them. On AMD-V all vCPUs have the same ASID,
and `setup_control` asks for a flush at every VMRUN. On VT-x a translation is tagged with the root table, and nothing
in `vmx` ever drops one.

* `cached`: the machine `shared`, on cores that may use a cached translation instead of the tables.
* `Orderly`: what the host has to see to. On VT-x, a VM must not start on a root table that a core remembers.
* `Coherent`: what a core remembers of a VM that exists is what its tables say.

Translations of guest-linear addresses are not modelled: they are flushed with the others on AMD-V, and at every
VM-entry on VT-x, where VPIDs are not used.
-/

namespace Rhyve.Service
open Backend ByteMem Machine PageWalk Paging Svm TagCache Vmx Words
set_option autoImplicit false

/-- What tells translations of different guests apart: the ASID on AMD-V, the root table on VT-x. -/
inductive TlbTag where
  | asid (n : BitVec 32)
  | root (table : ℕ)
  deriving DecidableEq

/-- Page numbers of the guest, and the host-physical addresses behind them. -/
abbrev Tlb := List (Entry TlbTag ℕ ℕ)

/-- What an entry loads. -/
inductive NestedContext where
  | npt (ncr3 : BitVec 64) (asid : BitVec 32)
  | ept (eptp : BitVec 64)

namespace NestedContext

def scheme : NestedContext → Scheme
  | .npt _ _ => .npt
  | .ept _ => .ept

def pointer : NestedContext → BitVec 64
  | .npt ncr3 _ => ncr3
  | .ept eptp => eptp

def tag : NestedContext → TlbTag
  | .npt _ asid => .asid asid
  | .ept eptp => .root (frame eptp)

/-- Through the tables. -/
def resolve (g : NestedContext) (phys : Mem) (a : ℕ) : Option ℕ :=
  (g.scheme.translate phys g.pointer a).toOption.map Translation.addr

/-- Where an access goes, with a cached translation or without. -/
def target (g : NestedContext) (phys : Mem) (a : ℕ) : Option ℕ → Option ℕ
  | some frame => some (frame + a % pageSize)
  | none => g.resolve phys a

end NestedContext

namespace VcpuBackend

/-- What an entry of this vCPU makes the processor use. -/
def context : VcpuBackend → NestedContext
  | .svm c => .npt (c.vmcb.readU64 nCr3) ((c.vmcb.readU64 guestAsid).setWidth 32)
  | .vmx c => .ept (c.vmcs.value Control.eptpFull)

/-- What is left of the cached translations at an entry. A VMRUN flushes all of them, those of the ASID or none, by its
TLB-control byte; a VM-entry keeps those that come from EPT. -/
def flush (tlb : Tlb) : VcpuBackend → Tlb
  | .svm c =>
    let word := c.vmcb.readU64 guestAsid
    let control : BitVec 8 := (word >>> 32).setWidth 8
    if control = 1#8 then []
    else if control = 3#8 then tlb.filter fun e => e.tag ≠ .asid (word.setWidth 32)
    else tlb
  | .vmx _ => tlb

theorem flush_subset (tlb : Tlb) (cpu : VcpuBackend) : cpu.flush tlb ⊆ tlb := by
  cases cpu with
  | vmx c => exact List.Subset.refl tlb
  | svm c =>
    unfold flush
    dsimp only
    split
    · exact List.nil_subset tlb
    · split
      · exact List.filter_subset_self _
      · exact List.Subset.refl tlb

end VcpuBackend

/-! ## The machine -/

/-- What happens on a host whose cores remember translations. -/
inductive TlbEvent where
  | memory (e : MemoryEvent)
  /-- A vCPU of a VM is entered. -/
  | enter (core id : ℕ) (cpu : VcpuBackend)
  | exit (core : ℕ)
  /-- The processor takes a translation into its cache, whether it is needed or not. -/
  | fill (core : ℕ) (page : BitVec 36)
  /-- A guest stores a byte or loads one, with a cached translation or through the tables. -/
  | access (core id : ℕ) (a : BitVec 48) (store : Option (BitVec 8)) (hit : Option ℕ)

/-- The access, as an event of the memory. -/
def accessEvent (id : ℕ) (a : BitVec 48) : Option (BitVec 8) → MemoryEvent
  | some v => .write id a v
  | none => .read id a

/-- What of an event can be seen without caches. -/
def TlbEvent.seen : TlbEvent → Option MemoryEvent
  | .memory e => some e
  | .access _ id a store _ => some (accessEvent id a store)
  | _ => none

/-- The guest that is running, with the id of its VM. -/
structure Core where
  guest : Option (ℕ × NestedContext)
  tlb : Tlb

/-- The memory, and the cores. -/
structure CachedMemory where
  memory : SharedMemory
  cores : ℕ → Core

/-- An access, once it is known where it goes. -/
def accessAt (s : SharedMemory) : Option ℕ → Option (BitVec 8) → SharedMemory × Answer
  | none, _ => (s, none)
  | some x, none => (s, some (s.phys x))
  | some x, some v => ({ s with phys := Function.update s.phys x v }, some v)

/-- The machine. A core runs at most one guest, an entry may flush, and an access uses either the tables or a
translation that the core remembers. -/
def cached (s : CachedMemory) : TlbEvent → Option CachedMemory × List Answer
  | .memory e => ((shared s.memory e).1.map fun m => { s with memory := m }, (shared s.memory e).2)
  | .enter core id cpu =>
    (some { s with
      cores := Function.update s.cores core ⟨some (id, cpu.context), cpu.flush (s.cores core).tlb⟩ }, [])
  | .exit core =>
    (some { s with cores := Function.update s.cores core { s.cores core with guest := none } }, [])
  | .fill core page =>
    match (s.cores core).guest with
    | none => (some s, [])
    | some (_, g) =>
      match g.resolve s.memory.phys (page.toNat * pageSize) with
      | none => (some s, [])
      | some x =>
        (some { s with
          cores := Function.update s.cores core
            { s.cores core with tlb := ⟨g.tag, page.toNat, x⟩ :: (s.cores core).tlb } }, [])
  | .access core _ a store hit =>
    match (s.cores core).guest with
    | none => (some s, [none])
    | some (_, g) =>
      let x := g.target s.memory.phys a.toNat hit
      (some { s with memory := (accessAt s.memory x store).1 }, [(accessAt s.memory x store).2])

/-- The vCPU of a VM at an entry, in the state where some calls of `run` have left it. -/
inductive Enters (r : Resident) : VcpuBackend → Prop
  | svm {h : CpuHost} {vcpuId entryPoint stackPointer : BitVec 64} {c₀ c : SvmCpu} {calls : List SvmTurn}
      (regs : GuestRegisters) (tsc : BitVec 64)
      (hnew : newCpu r.host.scheme h r.pointer r.vm.apicAccessHpa vcpuId entryPoint stackPointer = .ok (.svm c₀))
      (hrun : (run Svm.call c₀ calls).1 = some c) :
      Enters r (.svm (SvmCpu.enter { c with regs := regs } tsc))
  | vmx {h : CpuHost} {vcpuId entryPoint stackPointer : BitVec 64} {c₀ c entered : VmxCpu} {calls : List VmxTurn}
      {i : VmxTurn}
      (hnew : newCpu r.host.scheme h r.pointer r.vm.apicAccessHpa vcpuId entryPoint stackPointer = .ok (.vmx c₀))
      (hrun : (run Vmx.turn c₀ calls).1 = some c) (henters : entersWith c i = some entered) :
      Enters r (.vmx entered)

/-- A VM is dropped when none of its vCPUs runs. -/
def Quiet (s : CachedMemory) : MemoryEvent → Prop
  | .boot _ r _ => r.host.scheme = .ept → ∀ core, ∀ e ∈ (s.cores core).tlb, e.tag ≠ .root (frame r.pointer)
  | .drop id => ∀ core g, (s.cores core).guest ≠ some (id, g)
  | _ => True

/-- The host starts a VM as `Sound` and `Quiet` say, only vCPUs of existing VMs are entered, and a hit is one of
the cache. -/
def Orderly (s : CachedMemory) : TlbEvent → Prop
  | .memory e => Sound s.memory e ∧ Quiet s e
  | .enter _ id cpu => ∃ r, s.memory.residents id = some r ∧ Enters r cpu
  | .access core id a _ hit => ∃ g, (s.cores core).guest = some (id, g) ∧
    ∀ frame, hit = some frame → ⟨g.tag, a.toNat / pageSize, frame⟩ ∈ (s.cores core).tlb
  | _ => True

/-! ## What an entry loads -/

section Entry
variable {scheme : Scheme} {h : CpuHost} {pointer apicAccessHpa vcpuId entryPoint stackPointer : BitVec 64}

theorem newCpu_svm {c : SvmCpu}
    (hnew : newCpu scheme h pointer apicAccessHpa vcpuId entryPoint stackPointer = .ok (.svm c)) :
    scheme = .npt ∧ ∃ iopmPa msrpmPa, c = SvmCpu.new pointer iopmPa msrpmPa vcpuId entryPoint stackPointer := by
  unfold newCpu at hnew
  split at hnew
  · split at hnew
    · cases hnew
      exact ⟨rfl, _, _, rfl⟩
    · cases hnew
  · split at hnew
    · cases hnew
    · cases hnew

theorem newCpu_vmx {c : VmxCpu}
    (hnew : newCpu scheme h pointer apicAccessHpa vcpuId entryPoint stackPointer = .ok (.vmx c)) :
    scheme = .ept ∧ VmxCpu.new h.vmx pointer apicAccessHpa vcpuId entryPoint stackPointer = .ok c := by
  unfold newCpu at hnew
  split at hnew
  · split at hnew
    · cases hnew
    · cases hnew
  · split at hnew
    · rename_i c' hc
      cases hnew
      exact ⟨rfl, hc⟩
    · cases hnew

end Entry

/-- The processor loads the pointer of the VM, and on AMD-V it forgets every translation. -/
structure Fresh (r : Resident) (cpu : VcpuBackend) : Prop where
  scheme : cpu.context.scheme = r.host.scheme
  pointer : cpu.context.pointer = r.pointer
  flush : r.host.scheme = .npt → ∀ tlb, cpu.flush tlb = []

theorem Enters.fresh {r : Resident} {cpu : VcpuBackend} (h : Enters r cpu) : Fresh r cpu := by
  cases h with
  | @svm _ _ _ _ _ c _ regs tsc hnew hrun =>
    obtain ⟨hscheme, iopmPa, msrpmPa, rfl⟩ := newCpu_svm hnew
    have hintact := (run_intact (new_intact r.pointer iopmPa msrpmPa _ _ _) _).2 _ hrun
    have hentry := (enter_framed { c with regs := regs } tsc).intact hintact
    refine ⟨hscheme.symm, hentry.root, ?_⟩
    intro _ tlb
    unfold VcpuBackend.flush
    dsimp only
    rw [hentry.asid]
    exact if_pos (by decide)
  | @vmx _ _ _ _ c₀ c entered _ i hnew hrun henters =>
    obtain ⟨hscheme, hnew⟩ := newCpu_vmx hnew
    have hsettled : Vmx.Settled c₀ c :=
      run_invariant (Vmx.Settled c₀) (fun _ _ _ hs _ => hs.turn) (Vmx.Settled.refl c₀) (along_true c₀ _) hrun
    have hentered := hsettled.enterWith (entersWith_some henters)
    obtain ⟨virtualApicHpa, hfield⟩ := VmxCpu.new_vmcs hnew
    refine ⟨hscheme.symm, (hentered.fields Control.eptpFull rfl).trans (hfield Control.eptpFull), ?_⟩
    intro hnpt
    rw [hscheme] at hnpt
    cases hnpt

/-! ## Coherence -/

/-- The host-physical address behind a page of the guest. -/
def Resident.frameOf (r : Resident) (page : ℕ) : Option ℕ := (r.space page).map BitVec.toNat

theorem Resident.byteOf_page (r : Resident) (page : ℕ) : byteOf r.space (page * pageSize) = r.frameOf page := by
  have hdiv : page * pageSize / pageSize = page := Nat.mul_div_cancel _ (by decide)
  have hmod : page * pageSize % pageSize = 0 := Nat.mul_mod_left _ _
  unfold byteOf Resident.frameOf
  rw [hdiv, hmod]
  rfl

theorem page_bound (page : BitVec 36) : page.toNat * pageSize < 2 ^ 48 := by
  have hpage := page.isLt
  unfold pageSize
  omega

theorem Scheme.root_frame {s : Scheme} {p : BitVec 64} {x : ℕ} (h : s.root p = some x) : frame p = x := by
  cases s with
  | ept =>
    simp only [Scheme.root] at h
    split at h
    · exact Option.some.inj h
    · cases h
  | npt => exact Option.some.inj h

theorem Resident.root_inTable (r : Resident) : r.InTable (frame r.pointer) := by
  obtain ⟨S, hS, -⟩ := r.built.represents
  have howned := hS.owned hS.root
  obtain ⟨p, hp, hroot⟩ := r.host.scheme.root_pointer r.pointed (hS.allocated howned).aligned
  rw [Scheme.root_frame hroot]
  exact ⟨r.vm.paging.pml4, howned, p, hp, le_refl _, Nat.lt_add_of_pos_right (by decide)⟩

theorem NestedContext.resolve_eq {g : NestedContext} {r : Resident} (hscheme : g.scheme = r.host.scheme)
    (hpointer : g.pointer = r.pointer) {phys : Mem} (hshown : r.Shown phys) {a : ℕ} (ha : a < 2 ^ 48) :
    g.resolve phys a = byteOf r.space a := by
  rw [← r.resolve_eq hshown ha]
  unfold NestedContext.resolve Resident.resolve
  rw [hscheme, hpointer]
  cases r.host.scheme.translate phys r.pointer a <;> rfl

/-- A core that runs a guest of the VM: no translation under its tag is another one's. -/
structure Hosts (core : Core) (r : Resident) (g : NestedContext) : Prop where
  scheme : g.scheme = r.host.scheme
  pointer : g.pointer = r.pointer
  faithful : Faithful core.tlb g.tag r.frameOf

/-- A running guest belongs to a VM that exists, and no core remembers a wrong translation of such a VM. -/
structure Coherent (residents : ℕ → Option Resident) (cores : ℕ → Core) : Prop where
  running : ∀ {core id g}, (cores core).guest = some (id, g) → ∃ r, residents id = some r ∧ Hosts (cores core) r g
  /-- On VT-x, the translations of a VM stay while it does not run. -/
  kept : ∀ {core id r}, residents id = some r → r.host.scheme = .ept →
    Faithful (cores core).tlb (.root (frame r.pointer)) r.frameOf

namespace Coherent
variable {residents : ℕ → Option Resident} {cores : ℕ → Core}

theorem update (h : Coherent residents cores) (core : ℕ) {c : Core}
    (hrunning : ∀ {id g}, c.guest = some (id, g) → ∃ r, residents id = some r ∧ Hosts c r g)
    (hkept : ∀ {id r}, residents id = some r → r.host.scheme = .ept →
      Faithful c.tlb (.root (frame r.pointer)) r.frameOf) :
    Coherent residents (Function.update cores core c) := by
  refine ⟨?_, ?_⟩
  · intro k id g hg
    by_cases hk : k = core
    · rw [hk, Function.update_self] at hg ⊢
      exact hrunning hg
    · rw [Function.update_of_ne hk] at hg ⊢
      exact h.running hg
  · intro k id r hr hept
    by_cases hk : k = core
    · rw [hk, Function.update_self]
      exact hkept hr hept
    · rw [Function.update_of_ne hk]
      exact h.kept hr hept

theorem enter (h : Coherent residents cores) (core : ℕ) {id : ℕ} {r : Resident} (hr : residents id = some r)
    {cpu : VcpuBackend} (hfresh : Fresh r cpu) :
    Coherent residents (Function.update cores core ⟨some (id, cpu.context), cpu.flush (cores core).tlb⟩) := by
  have hkept : ∀ {id r}, residents id = some r → r.host.scheme = .ept →
      Faithful (cpu.flush (cores core).tlb) (.root (frame r.pointer)) r.frameOf :=
    fun hr hept => (h.kept hr hept).subset (cpu.flush_subset _)
  refine h.update core ?_ hkept
  intro id' g hg
  cases hg
  refine ⟨r, hr, hfresh.scheme, hfresh.pointer, ?_⟩
  cases hcontext : cpu.context with
  | npt ncr3 asid =>
    have hnpt := hfresh.scheme
    rw [hcontext] at hnpt
    rw [hfresh.flush hnpt.symm]
    exact faithful_nil
  | ept eptp =>
    have hept := hfresh.scheme
    have hpointer := hfresh.pointer
    rw [hcontext] at hept hpointer
    have hroot := hkept hr hept.symm
    rw [← hpointer] at hroot
    exact hroot

theorem exit (h : Coherent residents cores) (core : ℕ) :
    Coherent residents (Function.update cores core { cores core with guest := none }) :=
  h.update core nofun h.kept

/-- A new translation. If a VM on VT-x has its tag, it is the VM that runs: no two VMs have a table in common. -/
theorem fill (h : Coherent residents cores)
    (hdisjoint : ∀ {id id' r r'}, id ≠ id' → residents id = some r → residents id' = some r' →
      ∀ x, r.Uses x → ¬ r'.Uses x)
    {core id : ℕ} {g : NestedContext} (hg : (cores core).guest = some (id, g)) {page x : ℕ}
    (hx : ∀ r, residents id = some r → Hosts (cores core) r g → r.frameOf page = some x) :
    Coherent residents
      (Function.update cores core { cores core with tlb := ⟨g.tag, page, x⟩ :: (cores core).tlb }) := by
  obtain ⟨r, hr, hhosts⟩ := h.running hg
  have hframe := hx r hr hhosts
  refine h.update core ?_ ?_
  · intro id' g' hg'
    obtain ⟨rfl, rfl⟩ := Prod.mk.inj (Option.some.inj (hg.symm.trans hg'))
    exact ⟨r, hr, hhosts.scheme, hhosts.pointer, hhosts.faithful.cons fun _ => hframe⟩
  · intro id' r' hr' hept
    refine (h.kept hr' hept).cons ?_
    intro htag
    have hroot : frame r.pointer = frame r'.pointer := by
      rw [← hhosts.pointer]
      cases g with
      | npt ncr3 asid => cases htag
      | ept eptp => exact TlbTag.root.inj htag
    have hid : id = id' := by
      by_contra hne
      have htable := r.root_inTable
      have htable' := r'.root_inTable
      rw [← hroot] at htable'
      exact hdisjoint hne hr hr' _ (.inr htable) (.inr htable')
    rw [← hid, hr] at hr'
    rw [← Option.some.inj hr']
    exact hframe

theorem boot (h : Coherent residents cores) {id : ℕ} {r : Resident} (hid : residents id = none)
    (hquiet : r.host.scheme = .ept → ∀ core, ∀ e ∈ (cores core).tlb, e.tag ≠ .root (frame r.pointer)) :
    Coherent (Function.update residents id (some r)) cores := by
  refine ⟨?_, ?_⟩
  · intro core id' g hg
    obtain ⟨r', hr', hhosts⟩ := h.running hg
    have hne : id' ≠ id := by
      rintro rfl
      rw [hid] at hr'
      cases hr'
    exact ⟨r', (Function.update_of_ne hne _ _).trans hr', hhosts⟩
  · intro core id' r' hr' hept
    by_cases hid' : id' = id
    · rw [hid', Function.update_self] at hr'
      rw [← Option.some.inj hr'] at hept ⊢
      exact faithful_of_ne (hquiet hept core)
    · rw [Function.update_of_ne hid'] at hr'
      exact h.kept hr' hept

theorem drop (h : Coherent residents cores) {id : ℕ} (hquiet : ∀ core g, (cores core).guest ≠ some (id, g)) :
    Coherent (Function.update residents id none) cores := by
  refine ⟨?_, ?_⟩
  · intro core id' g hg
    obtain ⟨r, hr, hhosts⟩ := h.running hg
    have hne : id' ≠ id := by
      rintro rfl
      exact hquiet core g hg
    exact ⟨r, (Function.update_of_ne hne _ _).trans hr, hhosts⟩
  · intro core id' r hr hept
    by_cases hid : id' = id
    · rw [hid, Function.update_self] at hr
      cases hr
    · rw [Function.update_of_ne hid] at hr
      exact h.kept hr hept

end Coherent

end Rhyve.Service
