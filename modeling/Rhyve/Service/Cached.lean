import Rhyve.Service.Tlb

/-! # Guests and cached translations

* `guests_isolated_cached`: no guest can tell cores that remember translations from memories of their own.
* `stale_translation`: what happens on VT-x if a VM starts on a root table that a core remembers.
-/

namespace Rhyve.Service
open Backend ByteMem Machine PageWalk Paging Svm TagCache Vmx Words
set_option autoImplicit false

/-! ## One step -/

theorem shared_access (s : SharedMemory) (id : ℕ) (a : BitVec 48) (store : Option (BitVec 8)) :
    shared s (accessEvent id a store) =
      (some (accessAt s ((s.residents id).bind fun r => r.resolve s.phys a.toNat) store).1,
        [(accessAt s ((s.residents id).bind fun r => r.resolve s.phys a.toNat) store).2]) := by
  have hview : (s.residents id).bind (fun r => r.view s.phys a) =
      ((s.residents id).bind fun r => r.resolve s.phys a.toNat).map s.phys := by
    cases s.residents id <;> rfl
  cases store with
  | none =>
    unfold accessEvent shared
    dsimp only
    rw [hview]
    cases (s.residents id).bind fun r => r.resolve s.phys a.toNat <;> rfl
  | some v =>
    unfold accessEvent shared
    dsimp only
    cases (s.residents id).bind fun r => r.resolve s.phys a.toNat <;> rfl

section Step
variable {s : CachedMemory} {m : ℕ → Option GuestMemory}

/-- A hit says what the tables say, so the access could as well have gone through the tables. -/
theorem cached_access (h : Follows s.memory.residents s.memory.phys m) (hc : Coherent s.memory.residents s.cores)
    {core id : ℕ} {a : BitVec 48} {store : Option (BitVec 8)} {hit : Option ℕ}
    (ho : Orderly s (.access core id a store hit)) :
    cached s (.access core id a store hit) = cached s (.memory (accessEvent id a store)) := by
  obtain ⟨g, hg, hhit⟩ := ho
  obtain ⟨r, hr, hhosts⟩ := hc.running hg
  have hresolve : r.resolve s.memory.phys a.toNat = byteOf r.space a.toNat := r.resolve_eq (h.shown hr) a.isLt
  have hwalk : g.resolve s.memory.phys a.toNat = byteOf r.space a.toNat :=
    NestedContext.resolve_eq hhosts.scheme hhosts.pointer (h.shown hr) a.isLt
  have htarget : g.target s.memory.phys a.toNat hit = byteOf r.space a.toNat := by
    cases hit with
    | none => exact hwalk
    | some frame =>
      have hframe := hhosts.faithful.lookup (hhit frame rfl)
      unfold Resident.frameOf at hframe
      obtain ⟨v, hv, rfl⟩ := Option.map_eq_some_iff.mp hframe
      unfold NestedContext.target byteOf
      rw [hv, Option.map_some]
  simp only [cached, hg, htarget, shared_access, hr, Option.bind_some, hresolve, Option.map_some]

theorem cached_memory (h : Follows s.memory.residents s.memory.phys m) (hc : Coherent s.memory.residents s.cores)
    {e : MemoryEvent} (hsound : Sound s.memory e) (hquiet : Quiet s e) :
    (cached s (.memory e)).2 = (apart m e).2 ∧
      Option.Rel (fun s m => Follows s.memory.residents s.memory.phys m ∧ Coherent s.memory.residents s.cores)
        (cached s (.memory e)).1 (apart m e).1 := by
  obtain ⟨hout, hnext⟩ := shared_step h e hsound
  have hcoherent : ∀ memory, (shared s.memory e).1 = some memory → Coherent memory.residents s.cores := by
    intro memory hmemory
    cases e with
    | boot id r image =>
      rw [← Option.some.inj hmemory]
      exact hc.boot hsound.1 hquiet
    | drop id =>
      rw [← Option.some.inj hmemory]
      exact hc.drop hquiet
    | host phys | read id a =>
      rw [← Option.some.inj hmemory]
      exact hc
    | serve id a v | write id a v =>
      simp only [shared] at hmemory
      split at hmemory
      · rw [← Option.some.inj hmemory]
        exact hc
      · rw [← Option.some.inj hmemory]
        exact hc
  refine ⟨hout, ?_⟩
  show Option.Rel _ ((shared s.memory e).1.map _) _
  generalize (shared s.memory e).1 = memory at hnext hcoherent
  generalize (apart m e).1 = own at hnext
  cases hnext with
  | none => exact .none
  | some hf => exact .some ⟨hf, hcoherent _ rfl⟩

theorem cached_fill {core id : ℕ} {g : NestedContext} (hg : (s.cores core).guest = some (id, g)) {page : BitVec 36}
    {x : ℕ} (hx : g.resolve s.memory.phys (page.toNat * pageSize) = some x) :
    cached s (.fill core page) =
      (some { s with
        cores := Function.update s.cores core
          { s.cores core with tlb := ⟨g.tag, page.toNat, x⟩ :: (s.cores core).tlb } }, []) := by
  simp only [cached, hg, hx]

theorem cached_step (h : Follows s.memory.residents s.memory.phys m) (hc : Coherent s.memory.residents s.cores)
    (e : TlbEvent) (ho : Orderly s e) :
    (cached s e).2 = (skipping apart TlbEvent.seen m e).2 ∧
      Option.Rel (fun s m => Follows s.memory.residents s.memory.phys m ∧ Coherent s.memory.residents s.cores)
        (cached s e).1 (skipping apart TlbEvent.seen m e).1 := by
  cases e with
  | memory e => exact cached_memory h hc ho.1 ho.2
  | access core id a store hit =>
    rw [cached_access h hc ho]
    cases store with
    | none => exact cached_memory h hc trivial trivial
    | some v => exact cached_memory h hc trivial trivial
  | enter core id cpu =>
    obtain ⟨r, hr, henters⟩ := ho
    exact ⟨rfl, .some ⟨h, hc.enter core hr henters.fresh⟩⟩
  | exit core => exact ⟨rfl, .some ⟨h, hc.exit core⟩⟩
  | fill core page =>
    simp only [cached]
    split
    · exact ⟨rfl, .some ⟨h, hc⟩⟩
    · rename_i id g hg
      split
      · exact ⟨rfl, .some ⟨h, hc⟩⟩
      · rename_i x hx
        refine ⟨rfl, .some ⟨h, hc.fill h.disjoint hg ?_⟩⟩
        intro r hr hhosts
        rw [← hx, ← r.byteOf_page]
        exact (NestedContext.resolve_eq hhosts.scheme hhosts.pointer (h.shown hr) (page_bound page)).symm

end Step

/-! ## Runs -/

/-- A host without VMs, and cores with nothing in their caches. -/
def coldStart (phys : Mem) : CachedMemory := ⟨⟨fun _ => none, phys⟩, fun _ => ⟨none, []⟩⟩

/-- On any number of cores, with any cached translations used at any time: every access of a guest is answered as if the
guest had a memory of its own. -/
theorem guests_isolated_cached (phys : Mem) (events : List TlbEvent) (h : Along cached Orderly (coldStart phys) events) :
    (run cached (coldStart phys) events).2 = (run apart (fun _ => none) (events.filterMap TlbEvent.seen)).2 := by
  have hfollows : Follows (fun _ => none) phys (fun _ => none) := ⟨nofun, nofun, fun _ => nofun, fun _ => rfl⟩
  have hcoherent : Coherent (fun _ => none) (fun _ => ⟨none, []⟩) := ⟨nofun, nofun⟩
  rw [← run_skipping]
  exact (run_simulates
    (fun s m => Follows s.memory.residents s.memory.phys m ∧ Coherent s.memory.residents s.cores)
    (fun _ _ e hr ho => cached_step hr.1 hr.2 e ho) ⟨hfollows, hcoherent⟩ h).1

/-- One VM has run and is gone; then another one runs on the same core. -/
def inTurn (a b : Resident) (x y : VcpuBackend) (page : BitVec 36) (phys phys' : Mem) : List TlbEvent :=
  [.memory (.boot 0 a (a.view phys)), .enter 0 0 x, .fill 0 page, .exit 0, .memory (.drop 0), .memory (.host phys'),
    .memory (.boot 1 b (b.view phys')), .enter 0 1 y]

theorem Enters.vmx_context {r : Resident} (hept : r.host.scheme = .ept) {cpu : VcpuBackend} (h : Enters r cpu) :
    cpu.context = .ept r.pointer ∧ ∀ tlb, cpu.flush tlb = tlb := by
  have hfresh := h.fresh
  cases cpu with
  | svm c => cases hfresh.scheme.trans hept
  | vmx c => exact ⟨congrArg NestedContext.ept hfresh.pointer, fun _ => rfl⟩

/-- On VT-x, if the second VM has its root table where the first one had it: the core may take the second guest to the
memory that the first one had. -/
theorem stale_translation {a b : Resident} (hepta : a.host.scheme = .ept) (heptb : b.host.scheme = .ept)
    (hroot : frame a.pointer = frame b.pointer) {x y : VcpuBackend} (hx : Enters a x) (hy : Enters b y)
    {phys : Mem} (hshown : a.Shown phys) {page : BitVec 36} {f : ℕ} (hf : a.frameOf page.toNat = some f) (phys' : Mem) :
    ∃ s, (run cached (coldStart phys) (inTurn a b x y page phys phys')).1 = some s ∧
      Orderly s (.access 0 1 (page ++ 0#12) none (some f)) ∧
      (cached s (.access 0 1 (page ++ 0#12) none (some f))).2 = [some (phys' f)] := by
  obtain ⟨hxc, hxflush⟩ := hx.vmx_context hepta
  obtain ⟨hyc, hyflush⟩ := hy.vmx_context heptb
  have hfill : (NestedContext.ept a.pointer).resolve phys (page.toNat * pageSize) = some f := by
    rw [← hf, ← a.byteOf_page]
    exact NestedContext.resolve_eq (g := .ept a.pointer) hepta.symm rfl hshown (page_bound page)
  have hrun : (run cached (coldStart phys) (inTurn a b x y page phys phys')).1 =
      some ⟨⟨Function.update (fun _ => none) 1 (some b), phys'⟩, Function.update (fun _ => ⟨none, []⟩) 0
        ⟨some (1, .ept b.pointer), [⟨(NestedContext.ept a.pointer).tag, page.toNat, f⟩]⟩⟩ := by
    simp [inTurn, run, cached, shared, coldStart, hxc, hyc, hxflush, hyflush, hfill]
  have hshift : (page ++ 0#12).toNat = page.toNat * pageSize := by
    rw [BitVec.toNat_append, BitVec.toNat_ofNat, Nat.zero_mod, Nat.or_zero, Nat.shiftLeft_eq]
    rfl
  refine ⟨_, hrun, ⟨.ept b.pointer, rfl, ?_⟩, ?_⟩
  · rintro frame ⟨⟩
    have htag : (NestedContext.ept a.pointer).tag = (NestedContext.ept b.pointer).tag := congrArg TlbTag.root hroot
    rw [hshift, Nat.mul_div_cancel _ (by decide), ← htag]
    exact List.mem_cons_self
  · show [some (phys' (f + (page ++ 0#12).toNat % pageSize))] = _
    rw [hshift, Nat.mul_mod_left, Nat.add_zero]

/-! ## Two VMs on one core -/

/-- The first entry of the boot CPU on AMD-V. -/
def firstEntry (r : Resident) : VcpuBackend :=
  .svm (SvmCpu.enter
    { SvmCpu.new r.pointer 0#64 0#64 0#64 0#64 0#64 with regs := bootRegisters 0#64 0#64 0#64 } 0#64)

theorem firstEntry_enters {r : Resident} (h : r.host.scheme = .npt) : Enters r (firstEntry r) := by
  have hnew : newCpu r.host.scheme ⟨idleCpuHost.vmx, some (0#64, 0#64)⟩ r.pointer r.vm.apicAccessHpa 0#64 0#64 0#64 =
      .ok (.svm (SvmCpu.new r.pointer 0#64 0#64 0#64 0#64 0#64)) := by
    rw [h]
    rfl
  have hrun : ∀ c : SvmCpu, (run Svm.call c []).1 = some c := fun _ => rfl
  exact .svm _ _ hnew (hrun _)

/-- One guest writes with a cached translation, then the other one reads at the same address. -/
def pairTlbEvents (a b : Resident) (phys : Mem) : List TlbEvent :=
  [.memory (.boot 0 a (a.view phys)), .memory (.boot 1 b (b.view phys)), .enter 0 0 (firstEntry a), .fill 0 1#36,
    .access 0 0 0x1000#48 (some 7#8) (some 0x201000), .exit 0, .enter 0 1 (firstEntry b),
    .access 0 1 0x1000#48 none none]

theorem guests_isolated_cached_pair : ∃ (a b : Resident) (phys : Mem),
    Along cached Orderly (coldStart phys) (pairTlbEvents a b phys) ∧
      (run cached (coldStart phys) (pairTlbEvents a b phys)).2 = [some 7#8, b.view phys 0x1000#48] := by
  obtain ⟨a, b, hpair⟩ := pair_exists .npt
  have hnptA : a.host.scheme = .npt := by
    rw [hpair.first.host]
    rfl
  have hnptB : b.host.scheme = .npt := by
    rw [hpair.second.host]
    rfl
  have hentersA := firstEntry_enters hnptA
  have hentersB := firstEntry_enters hnptB
  have hpage : (1#36).toNat * pageSize = 0x1000 := by decide
  have hfill : (firstEntry a).context.resolve (pairImage a b) ((1#36).toNat * pageSize) = some 0x201000 := by
    rw [NestedContext.resolve_eq hentersA.fresh.scheme hentersA.fresh.pointer hpair.shownFirst (by decide), hpage,
      hpair.first.byteOf_eq]
    rfl
  have hnoept : ∀ r : Resident, r.host.scheme = .npt → r.host.scheme ≠ .ept := by
    intro r hnpt hept
    cases hnpt.symm.trans hept
  have horderly : Along cached Orderly (coldStart (pairImage a b)) (pairTlbEvents a b (pairImage a b)) := by
    refine ⟨⟨hpair.bootFirst, fun hept => absurd hept (hnoept a hnptA)⟩, ?_⟩
    rintro s ⟨⟩
    refine ⟨⟨hpair.bootSecond, fun hept => absurd hept (hnoept b hnptB)⟩, ?_⟩
    rintro s ⟨⟩
    refine ⟨⟨a, rfl, hentersA⟩, ?_⟩
    rintro s ⟨⟩
    refine ⟨trivial, ?_⟩
    intro s hs
    rw [cached_fill rfl hfill] at hs
    cases hs
    refine ⟨⟨(firstEntry a).context, rfl, ?_⟩, ?_⟩
    · rintro frame ⟨⟩
      exact List.mem_cons_self
    · rintro s ⟨⟩
      refine ⟨trivial, ?_⟩
      rintro s ⟨⟩
      refine ⟨⟨b, rfl, hentersB⟩, ?_⟩
      rintro s ⟨⟩
      exact ⟨⟨(firstEntry b).context, rfl, nofun⟩, fun _ _ => trivial⟩
  refine ⟨a, b, pairImage a b, horderly, ?_⟩
  obtain ⟨⟨v, hv⟩, -⟩ := hpair.mapped (by decide : (0x1000#48).toNat / 4096 < 0x13)
  have hseen : (pairTlbEvents a b (pairImage a b)).filterMap TlbEvent.seen =
      [.boot 0 a (a.view (pairImage a b)), .boot 1 b (b.view (pairImage a b)), .write 0 0x1000#48 7#8,
        .read 1 0x1000#48] := rfl
  rw [guests_isolated_cached (pairImage a b) _ horderly, hseen]
  generalize a.view (pairImage a b) = f at hv ⊢
  generalize b.view (pairImage a b) = g
  simp [run, apart, storeApart, Function.update, hv]

end Rhyve.Service
