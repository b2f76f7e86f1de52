import Rhyve.Service.SharedMemory

/-! # Guests are isolated

* `guests_isolated`: no guest can tell the shared memory from one of its own.
* `PairVm`: a VM in memory of its own, and what it takes to start it beside another one.
-/

namespace Rhyve.Service
open ByteMem Machine Paging
set_option autoImplicit false

/-! ## Runs -/

/-- From a host without VMs on, every access of a guest is answered as if the guest had a memory of its own. -/
theorem guests_isolated (phys : Mem) (events : List MemoryEvent)
    (h : Along shared Sound ⟨fun _ => none, phys⟩ events) :
    (run shared ⟨fun _ => none, phys⟩ events).2 = (run apart (fun _ => none) events).2 := by
  have hstart : Follows (fun _ => none) phys (fun _ => none) := ⟨nofun, nofun, fun _ => nofun, fun _ => rfl⟩
  exact (run_simulates (fun s m => Follows s.residents s.phys m) (fun _ _ e hf hs => shared_step hf e hs) hstart h).1

/-! ## Two VMs at a time -/

/-- The first of 64 frames from `k` TiB on that holds no table in use. -/
def pooledTable (k : ℕ) (live : List (BitVec 64)) : Option (BitVec 64) :=
  ((List.range 64).map fun i => BitVec.ofNat 64 (k * 2 ^ 40 + i * 4096)).find? fun t =>
    live.all fun u => u.toNat % 2 ^ 52 != t.toNat % 2 ^ 52

section pooledTable
variable {k : ℕ} {live : List (BitVec 64)} {t : BitVec 64}

theorem pooledTable_aligned (h : pooledTable k live = some t) : t.toNat % 4096 = 0 := by
  obtain ⟨i, -, rfl⟩ := List.mem_map.mp (List.mem_of_find?_eq_some h)
  rw [BitVec.toNat_ofNat]
  omega

theorem pooledTable_ne (h : pooledTable k live = some t) {u : BitVec 64} (hu : u ∈ live) :
    u.toNat % 2 ^ 52 ≠ t.toNat % 2 ^ 52 := by
  have hall := List.find?_some h
  rw [List.all_eq_true] at hall
  exact bne_iff_ne.mp (hall u hu)

theorem pooledTable_distinct (h : pooledTable k live = some t) {u p : BitVec 64} (hu : u ∈ live)
    (ht : directHost.virtualToPhysical t = some p) : directHost.virtualToPhysical u ≠ some p := by
  intro he
  rw [← ht] at he
  have hnat := congrArg BitVec.toNat (Option.some.inj he)
  rw [BitVec.toNat_ofNat, BitVec.toNat_ofNat] at hnat
  have hne := pooledTable_ne h hu
  omega

end pooledTable

/-- A host with direct mapping that takes tables from `k` TiB on. -/
def pooledHost (k : ℕ) : Host where
  virtualToPhysical := directHost.virtualToPhysical
  allocZeroed _ live := pooledTable k live
  v2p_offset := directHost.v2p_offset
  v2p_page := directHost.v2p_page
  v2p_bound := directHost.v2p_bound
  alloc_aligned h := pooledTable_aligned h
  alloc_fresh h ht := pooledTable_ne h ht rfl
  alloc_distinct h hu ht := pooledTable_distinct h hu ht

/-- 76 KiB of guest memory at `2 k` MiB, and the two pages one MiB further. -/
def pairHost (s : Scheme) (k : ℕ) : RunHost where
  scheme := s
  tables := pooledHost k
  heap := emptyHeap
  allocate := fun _ => BitVec.ofNat 64 (k * 0x200000)
  allocate_aligned := by
    intro size
    rw [BitVec.toNat_ofNat]
    unfold pageSize
    omega
  apicAccessPage := some (BitVec.ofNat 64 (k * 0x200000 + 0x100000))
  ioapicPage := some (BitVec.ofNat 64 (k * 0x200000 + 0x101000))
  sinceEpoch := some 0
  processorFrequency := 1000#16

theorem pairHost_pages (s : Scheme) (k : ℕ) : PagesAligned (pairHost s k) := by
  refine ⟨?_, ?_⟩
  · intro p hp
    rw [← Option.some.inj hp, BitVec.toNat_ofNat]
    unfold pageSize
    omega
  · intro p hp
    rw [← Option.some.inj hp, BitVec.toNat_ofNat]
    unfold pageSize
    omega

/-- A VM on one of the two hosts. -/
structure PairVm (s : Scheme) (k : ℕ) (r : Resident) : Prop where
  which : k = 1 ∨ k = 2
  host : r.host = pairHost s k
  guestBase : r.vm.guestBase = BitVec.ofNat 64 (k * 0x200000)
  guestSize : r.vm.guestSize = 0x13000#64

theorem pairHost_vm (s : Scheme) {k : ℕ} (hk : k = 1 ∨ k = 2) : ∃ r, PairVm s k r := by
  have hok : (Vm.new (pairHost s k) (BitVec.ofNat 64 (k * 0x200000)) 0x13000#64).isOk = true := by
    cases s <;> rcases hk with rfl | rfl <;> decide +kernel
  cases h : Vm.new (pairHost s k) (BitVec.ofNat 64 (k * 0x200000)) 0x13000#64 with
  | error e =>
    rw [h] at hok
    cases hok
  | ok vm =>
    obtain ⟨hbase, hsize, -⟩ := vm_new_built (pairHost_pages s k) h
    have hcreated : Vm.new (pairHost s k) vm.guestBase vm.guestSize = .ok vm := by rw [hbase, hsize, h]
    obtain ⟨pointer, hpointer⟩ : ∃ ptr, s.pointer (pooledHost k) vm.paging = .ok ptr := by
      cases s
      · exact ⟨_, rfl⟩
      · exact ⟨_, rfl⟩
    exact ⟨⟨pairHost s k, pairHost_pages s k, vm, hcreated, pointer, hpointer⟩, hk, rfl, hbase, hsize⟩

namespace PairVm
variable {s : Scheme} {k : ℕ} {r : Resident}

theorem physical (h : PairVm s k r) {n : ℕ} (hn : n ≤ 0x200000) :
    (pairHost s k).tables.virtualToPhysical (BitVec.ofNat 64 (k * 0x200000 + n)) =
      some (BitVec.ofNat 64 (k * 0x200000 + n)) := by
  have hk := h.which
  apply directHost_physical
  rw [BitVec.toNat_ofNat]
  omega

theorem apicAccess (h : PairVm s k r) : r.vm.apicAccessHpa = BitVec.ofNat 64 (k * 0x200000 + 0x100000) := by
  have hpage := r.built.apicAccess
  rw [h.host] at hpage
  have hphys : (pairHost s k).apicAccessPage.bind (pairHost s k).tables.virtualToPhysical =
      some (BitVec.ofNat 64 (k * 0x200000 + 0x100000)) := h.physical (by decide)
  exact Option.some.inj (hpage.symm.trans hphys)

theorem ioapic (h : PairVm s k r) : ioapicHpa r.host = BitVec.ofNat 64 (k * 0x200000 + 0x101000) := by
  rw [h.host]
  have hphys : (pairHost s k).ioapicPage.bind (pairHost s k).tables.virtualToPhysical =
      some (BitVec.ofNat 64 (k * 0x200000 + 0x101000)) := h.physical (by decide)
  unfold ioapicHpa
  rw [hphys, Option.getD_some]

theorem ramPage (h : PairVm s k r) (page : ℕ) :
    ramSpace r.host.tables r.vm.guestBase r.vm.guestSize page =
      if page < 0x13 then some (BitVec.ofNat 64 (k * 0x200000 + page * 4096)) else none := by
  have hpages : (0x13000#64).toNat / pageSize = 0x13 := by decide
  rw [h.host, h.guestBase, h.guestSize]
  unfold ramSpace Paging.ramPage
  rw [hpages]
  split
  · rw [← BitVec.ofNat_add]
    exact h.physical (by unfold pageSize; omega)
  · rfl

/-- The address space: 76 KiB and two pages. -/
theorem byteOf_eq (h : PairVm s k r) (a : ℕ) :
    byteOf r.space a =
      if a / 4096 = 0xFEC00 then some (k * 0x200000 + 0x101000 + a % 4096)
      else if a / 4096 = 0xFEE00 then some (k * 0x200000 + 0x100000 + a % 4096)
      else if a / 4096 < 0x13 then some (k * 0x200000 + a) else none := by
  have hk := h.which
  have hio : ioapicBase.toNat / pageSize = 0xFEC00 := by decide
  have hapic : lapicBase.toNat / pageSize = 0xFEE00 := by decide
  have hnat : ∀ n, n ≤ 0x200000 → (BitVec.ofNat 64 (k * 0x200000 + n)).toNat = k * 0x200000 + n := by
    intro n hn
    rw [BitVec.toNat_ofNat]
    omega
  unfold byteOf Resident.space vmSpace Space.map
  rw [h.apicAccess, h.ioapic, hio, hapic]
  unfold pageSize
  by_cases h1 : a / 4096 = 0xFEC00
  · rw [if_pos h1, h1, Function.update_self, Option.map_some, hnat _ (by decide)]
  · rw [if_neg h1, Function.update_of_ne h1]
    by_cases h2 : a / 4096 = 0xFEE00
    · rw [if_pos h2, h2, Function.update_self, Option.map_some, hnat _ (by decide)]
    · rw [if_neg h2, Function.update_of_ne h2, h.ramPage]
      split
      · have hpage : a / 4096 * 4096 + a % 4096 = a := Nat.div_add_mod' a 4096
        rw [Option.map_some, hnat _ (by omega), Nat.add_assoc, hpage]
      · rw [Option.map_none]

theorem reaches (h : PairVm s k r) {x : ℕ} (hx : r.Reaches x) :
    k * 0x200000 ≤ x ∧ x < k * 0x200000 + 0x200000 := by
  obtain ⟨a, ha⟩ := hx
  rw [h.byteOf_eq] at ha
  split at ha
  · obtain rfl := Option.some.inj ha
    omega
  · split at ha
    · obtain rfl := Option.some.inj ha
      omega
    · split at ha
      · obtain rfl := Option.some.inj ha
        omega
      · cases ha

theorem table (h : PairVm s k r) {t : BitVec 64} (ht : t ∈ r.vm.paging.owned) :
    k * 2 ^ 40 ≤ t.toNat ∧ t.toNat < k * 2 ^ 40 + 2 ^ 18 ∧ t.toNat % 4096 = 0 := by
  have hk := h.which
  obtain ⟨S, hS, -⟩ := r.built.represents
  obtain ⟨j, live, halloc⟩ := hS.allocated ht
  rw [h.host] at halloc
  obtain ⟨i, hi, rfl⟩ := List.mem_map.mp (List.mem_of_find?_eq_some halloc)
  rw [List.mem_range] at hi
  rw [BitVec.toNat_ofNat]
  omega

theorem inTable (h : PairVm s k r) {x : ℕ} (hx : r.InTable x) : k * 2 ^ 40 ≤ x ∧ x < k * 2 ^ 40 + 2 ^ 19 := by
  have hk := h.which
  obtain ⟨t, ht, p, hp, hlo, hhi⟩ := hx
  obtain ⟨htlo, hthi, -⟩ := h.table ht
  rw [h.host] at hp
  have hphys := directHost_physical t (by omega)
  obtain rfl := Option.some.inj (hphys.symm.trans hp)
  unfold pageSize at hhi
  omega

theorem separate (h : PairVm s k r) : r.Separate := by
  have hk := h.which
  refine ⟨?_, ?_⟩
  · intro a b x ha hb
    rw [h.byteOf_eq] at ha hb
    apply BitVec.eq_of_toNat_eq
    split at ha <;> split at hb <;> grind
  · intro x hreach htable
    have hlow := h.reaches hreach
    have hhigh := h.inTable htable
    omega

theorem uses (h : PairVm s k r) {x : ℕ} (hx : r.Uses x) :
    k * 0x200000 ≤ x ∧ x < k * 0x200000 + 0x200000 ∨ k * 2 ^ 40 ≤ x ∧ x < k * 2 ^ 40 + 2 ^ 19 :=
  hx.imp h.reaches h.inTable

/-- The second VM, while the first one is the only one there. -/
theorem disjoint {a b : Resident} (ha : PairVm s 1 a) (hb : PairVm s 2 b) (id : ℕ) (r : Resident)
    (hr : Function.update (fun _ => none) 0 (some a) id = some r) (x : ℕ) (hx : b.Uses x) : ¬ r.Uses x := by
  have hra : r = a := by
    by_cases hid : id = 0
    · rw [hid] at hr
      exact (Option.some.inj hr).symm
    · have hnone : Function.update (fun _ => none) 0 (some a) id = none := Function.update_of_ne hid _ _
      cases hnone.symm.trans hr
  rw [hra]
  intro hx'
  have hlow := hb.uses hx
  have hhigh := ha.uses hx'
  omega

end PairVm

/-- Physical memory with the tables of both VMs. -/
def pairImage (a b : Resident) : Mem := ofWords fun i =>
  (if i < 2 ^ 38 then a else b).vm.paging.heap.cells (BitVec.ofNat 64 (i / 512 * 4096)) (i % 512)

theorem pairImage_shows {s : Scheme} {k : ℕ} {r a b : Resident} (h : PairVm s k r)
    (hpick : ∀ i, k * 2 ^ 37 ≤ i → i < k * 2 ^ 37 + 2 ^ 37 → (if i < 2 ^ 38 then a else b) = r) :
    r.Shown (pairImage a b) := by
  intro t p ht hp i hi
  obtain ⟨hlo, hhi, hal⟩ := h.table ht
  have hk := h.which
  rw [h.host] at hp
  have hphys := directHost_physical t (by omega)
  obtain rfl := Option.some.inj (hphys.symm.trans hp)
  unfold entryCount at hi
  have hslot : k * 2 ^ 37 ≤ t.toNat / 8 + i ∧ t.toNat / 8 + i < k * 2 ^ 37 + 2 ^ 37 := by omega
  have haddr : t.toNat + 8 * i = 8 * (t.toNat / 8 + i) := by omega
  have hpage : (t.toNat / 8 + i) / 512 * 4096 = t.toNat := by omega
  have hindex : (t.toNat / 8 + i) % 512 = i := by omega
  rw [haddr, pairImage, load64_ofWords, hpick _ hslot.1 hslot.2, hpage, hindex, BitVec.ofNat_toNat,
    BitVec.setWidth_eq]

/-- Both VMs, with their tables in one memory. -/
structure Pair (s : Scheme) (a b : Resident) : Prop where
  first : PairVm s 1 a
  second : PairVm s 2 b

theorem pair_exists (s : Scheme) : ∃ a b, Pair s a b := by
  obtain ⟨a, ha⟩ := pairHost_vm s (.inl rfl)
  obtain ⟨b, hb⟩ := pairHost_vm s (.inr rfl)
  exact ⟨a, b, ha, hb⟩

namespace Pair
variable {s : Scheme} {a b : Resident}

theorem shownFirst (h : Pair s a b) : a.Shown (pairImage a b) :=
  pairImage_shows h.first fun i hlo hhi => if_pos (by omega)

theorem shownSecond (h : Pair s a b) : b.Shown (pairImage a b) :=
  pairImage_shows h.second fun i hlo hhi => if_neg (by omega)

theorem bootFirst (h : Pair s a b) :
    Sound ⟨fun _ => none, pairImage a b⟩ (.boot 0 a (a.view (pairImage a b))) :=
  ⟨rfl, h.shownFirst, h.first.separate, nofun, rfl⟩

theorem bootSecond (h : Pair s a b) :
    Sound ⟨Function.update (fun _ => none) 0 (some a), pairImage a b⟩ (.boot 1 b (b.view (pairImage a b))) :=
  ⟨rfl, h.shownSecond, h.second.separate, h.first.disjoint h.second, rfl⟩

/-- Both have memory at every address that `byteOf_eq` finds in the RAM. -/
theorem mapped (h : Pair s a b) {x : BitVec 48} (hx : x.toNat / 4096 < 0x13) :
    (∃ v, a.view (pairImage a b) x = some v) ∧ ∃ v, b.view (pairImage a b) x = some v := by
  have hio : x.toNat / 4096 ≠ 0xFEC00 := by omega
  have hapic : x.toNat / 4096 ≠ 0xFEE00 := by omega
  rw [Resident.view_eq h.shownFirst, h.first.byteOf_eq, Resident.view_eq h.shownSecond, h.second.byteOf_eq,
    if_neg hio, if_neg hapic, if_pos hx, if_neg hio, if_neg hapic, if_pos hx]
  exact ⟨⟨_, rfl⟩, _, rfl⟩

end Pair

theorem shared_write_residents {s s' : SharedMemory} {id : ℕ} {a : BitVec 48} {v : BitVec 8}
    (h : (shared s (.write id a v)).1 = some s') : s'.residents = s.residents := by
  unfold shared at h
  dsimp only at h
  split at h
  · obtain rfl := Option.some.inj h
    rfl
  · obtain rfl := Option.some.inj h
    rfl

/-- One guest writes and the host stores for the other one, at the same guest-physical address; then both read it. -/
def pairEvents (a b : Resident) (phys : Mem) : List MemoryEvent :=
  [.boot 0 a (a.view phys), .boot 1 b (b.view phys), .write 0 0x1000#48 7#8, .serve 1 0x1000#48 9#8,
    .read 0 0x1000#48, .read 1 0x1000#48]

/-- Each reads what was written to its own memory. -/
theorem guests_isolated_pair : ∃ (a b : Resident) (phys : Mem),
    Along shared Sound ⟨fun _ => none, phys⟩ (pairEvents a b phys) ∧
      (run shared ⟨fun _ => none, phys⟩ (pairEvents a b phys)).2 = [some 7#8, some 7#8, some 9#8] := by
  obtain ⟨a, b, hpair⟩ := pair_exists .ept
  have hsound : Along shared Sound ⟨fun _ => none, pairImage a b⟩ (pairEvents a b (pairImage a b)) := by
    refine ⟨hpair.bootFirst, ?_⟩
    rintro s ⟨⟩
    refine ⟨hpair.bootSecond, ?_⟩
    rintro s ⟨⟩
    refine ⟨trivial, ?_⟩
    intro s hs
    have hres : s.residents 1 = some b := congrFun (shared_write_residents hs) 1
    refine ⟨?_, fun _ _ => ⟨trivial, fun _ _ => ⟨trivial, fun _ _ => trivial⟩⟩⟩
    intro r hr
    obtain rfl := Option.some.inj (hres.symm.trans hr)
    rw [hpair.second.guestSize]
    decide
  refine ⟨a, b, pairImage a b, hsound, ?_⟩
  obtain ⟨⟨v, hv⟩, w, hw⟩ := hpair.mapped (by decide : (0x1000#48).toNat / 4096 < 0x13)
  rw [guests_isolated (pairImage a b) _ hsound]
  unfold pairEvents
  generalize a.view (pairImage a b) = f at hv ⊢
  generalize b.view (pairImage a b) = g at hw ⊢
  simp [run, apart, storeApart, Function.update, hv, hw]

end Rhyve.Service
