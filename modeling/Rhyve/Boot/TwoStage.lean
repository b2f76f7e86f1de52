import Rhyve.Boot.GuestMemory
import Rhyve.Paging.Exact

/-! # Two-stage translation at boot

The guest starts with `CR3 = BOOT_PML4`. The processor fetches each entry of the guest's tables from
guest-physical memory, that is through the nested tables, and sends the resulting guest-physical address
through the nested tables once more.

* `guestFetch`: reads an entry of a guest table.
* `twoStage`: the whole translation of a guest-virtual address.
* `RamBacks`: physical memory shows the guest buffer at the addresses the host gave it.
-/

namespace Rhyve.Boot
open Words PageWalk ByteMem Paging
set_option autoImplicit false

/-- The guest's own entries, as its kernel uses them. -/
def guestFormat : Format :=
  longMode fun e => ⟨true, hasBit e 2#64, !e.msb⟩

/-- A fault of the guest's own tables, or one of the nested tables behind the final address. -/
inductive BootFault where
  | guestPage (f : Fault NestedFault)
  | nestedPage (f : NestedFault)
  deriving DecidableEq, Repr

section Walk
variable (s : Scheme) (phys : Mem) (ptr : BitVec 64)

/-- An entry of the guest's tables, which are themselves guest-physical. -/
def guestFetch (gpa : ℕ) : Except NestedFault (BitVec 64) :=
  match s.translate phys ptr gpa with
  | .error f => .error f
  | .ok t => .ok (load64 phys t.addr)

/-- The translation of a guest-virtual address, with the permissions that both stages allow. -/
def twoStage (cr3 va : BitVec 64) : Except BootFault Translation :=
  match walk guestFormat (guestFetch s phys ptr) 3 (frame cr3) Perm.all va.toNat with
  | .error f => .error (.guestPage f)
  | .ok g =>
    match s.translate phys ptr g.addr with
    | .error f => .error (.nestedPage f)
    | .ok h => .ok ⟨h.addr, g.perm.meet h.perm⟩

end Walk

/-- Physical memory shows the guest buffer. -/
def RamBacks (host : Host) (guestBase size : BitVec 64) (buf phys : Mem) : Prop :=
  ∀ off pa, off < size.toNat → host.virtualToPhysical (guestBase + BitVec.ofNat 64 off) = some pa →
    phys pa.toNat = buf off

/-- Bits 63:47 of the address are equal. -/
def Canonical (va : BitVec 64) : Prop := va.toNat < 2 ^ 47 ∨ 2 ^ 64 - 2 ^ 47 ≤ va.toNat

/-! ## Entries of the boot tables -/

theorem pdEntry_decodes (i : Fin 512) :
    guestFormat.present (pdEntry i) = true ∧ guestFormat.valid 1 (pdEntry i) = true ∧
      guestFormat.large 1 (pdEntry i) = true ∧ guestFormat.perm (pdEntry i) = Perm.all ∧
      frame (pdEntry i) = i.val * 2 ^ 21 := by
  revert i
  decide +kernel

/-- A link of the boot tables: present, writable, to a table at `p`. -/
theorem bootLink_decodes (level : ℕ) (hl : level = 2 ∨ level = 3) (e : BitVec 64)
    (he : e = 0x11003#64 ∨ e = 0x12003#64) :
    guestFormat.present e = true ∧ guestFormat.valid level e = true ∧
      guestFormat.large level e = false ∧ guestFormat.perm e = Perm.all := by
  rcases hl with rfl | rfl <;> rcases he with rfl | rfl <;> decide

/-- However the tables are fetched: the first GiB is mapped onto itself. -/
theorem walk_bootTables {fetch : ℕ → Except NestedFault (BitVec 64)} {m : Mem}
    (hfetch : ∀ gpa, gpa % 8 = 0 → gpa + 8 ≤ 0x13000 → fetch gpa = .ok (load64 (initGuestMemory m) gpa)) {a : ℕ}
    (ha : a < 2 ^ 30) : walk guestFormat fetch 3 bootPml4 Perm.all a = .ok ⟨a, Perm.all⟩ := by
  have h3 : index 3 a = 0 := by
    unfold index
    omega
  have h2 : index 2 a = 0 := by
    unfold index
    omega
  have hi1 := index_lt 1 a
  have hfetch3 := hfetch (bootPml4 + 8 * index 3 a) (by unfold bootPml4; omega) (by unfold bootPml4; omega)
  rw [initGuestMemory_pml4 m _ (index_lt 3 a), if_pos h3] at hfetch3
  have hfetch2 := hfetch (bootPdpte + 8 * index 2 a) (by unfold bootPdpte bootPml4; omega)
    (by unfold bootPdpte bootPml4; omega)
  rw [initGuestMemory_pdpt m _ (index_lt 2 a), if_pos h2] at hfetch2
  have hfetch1 := hfetch (bootPde + 8 * index 1 a) (by unfold bootPde bootPml4; omega)
    (by unfold bootPde bootPml4; omega)
  rw [initGuestMemory_pd m _ hi1] at hfetch1
  obtain ⟨hp3, hv3, hl3, hperm3⟩ := bootLink_decodes 3 (Or.inr rfl) 0x11003#64 (Or.inl rfl)
  obtain ⟨hp2, hv2, hl2, hperm2⟩ := bootLink_decodes 2 (Or.inl rfl) 0x12003#64 (Or.inr rfl)
  obtain ⟨hp1, hv1, hl1, hperm1, hframe⟩ := pdEntry_decodes ⟨index 1 a, hi1⟩
  have hpdpt : frame 0x11003#64 = bootPdpte := by decide
  have hpd : frame 0x12003#64 = bootPde := by decide
  rw [walk_table hfetch3 hp3 hv3 hl3, hperm3, Perm.meet_all, hpdpt]
  rw [walk_table hfetch2 hp2 hv2 hl2, hperm2, Perm.meet_all, hpd]
  rw [walk_largePage hfetch1 hp1 hv1 hl1]
  unfold pageAt
  rw [hperm1, hframe, Perm.meet_all]
  have haddr : index 1 a * 2 ^ 21 / 2 ^ (12 + 9 * (0 + 1)) * 2 ^ (12 + 9 * (0 + 1)) +
      a % 2 ^ (12 + 9 * (0 + 1)) = a := by
    unfold index
    omega
  rw [haddr]

/-! ## Translation over a booted guest -/

/-- Guest memory as the processor sees it: nested tables over the buffer that holds the boot tables. -/
structure Booted (s : Scheme) (host : Host) (guestBase size : BitVec 64) (buf phys : Mem)
    (ptr : BitVec 64) : Prop where
  room : 0x13000 ≤ size.toNat
  bound : size.toNat ≤ 2 ^ 30
  /-- Addresses in guest memory resolve to the buffer's bytes. -/
  ram : ∀ a, a < size.toNat →
    ∃ pa, host.virtualToPhysical (guestBase + BitVec.ofNat 64 a) = some pa ∧
      s.translate phys ptr a = .ok ⟨pa.toNat, Perm.all⟩
  /-- The bytes of a page are contiguous in physical memory. -/
  contiguous : ∀ a j pa, a % 8 = 0 → j < 8 → a + j < size.toNat →
    host.virtualToPhysical (guestBase + BitVec.ofNat 64 a) = some pa → phys (pa.toNat + j) = buf (a + j)
  beyond : ∀ a, size.toNat ≤ a → a < 2 ^ 48 → ∃ l, s.translate phys ptr a = .error (.notPresent l)

section Booted
variable {s : Scheme} {host : Host} {guestBase size : BitVec 64} {m phys : Mem} {ptr : BitVec 64}

theorem Booted.fetch {buf : Mem} (h : Booted s host guestBase size buf phys ptr) (gpa : ℕ)
    (halign : gpa % 8 = 0) (hin : gpa + 8 ≤ size.toNat) :
    guestFetch s phys ptr gpa = .ok (load64 buf gpa) := by
  obtain ⟨pa, hpa, hwalk⟩ := h.ram gpa (by omega)
  unfold guestFetch
  rw [hwalk]
  refine congrArg Except.ok (load64_shift fun j hj => ?_)
  exact h.contiguous gpa j pa halign hj (by omega) hpa

theorem Booted.guest_unmapped (h : Booted s host guestBase size (initGuestMemory m) phys ptr) {a : ℕ}
    (ha : index 3 a ≠ 0 ∨ index 2 a ≠ 0) :
    ∃ l, walk guestFormat (guestFetch s phys ptr) 3 bootPml4 Perm.all a = .error (.notPresent l) := by
  have hroom := h.room
  have hi3 := index_lt 3 a
  have hi2 := index_lt 2 a
  have hfetch3 := h.fetch (bootPml4 + 8 * index 3 a) (by unfold bootPml4; omega)
    (by unfold bootPml4; omega)
  rw [initGuestMemory_pml4 m _ hi3] at hfetch3
  by_cases h3 : index 3 a = 0
  · rw [if_pos h3] at hfetch3
    obtain ⟨hp, hv, hl, hperm⟩ := bootLink_decodes 3 (Or.inr rfl) 0x11003#64 (Or.inl rfl)
    have h2 : index 2 a ≠ 0 := ha.resolve_left (fun hne => hne h3)
    have hfetch2 := h.fetch (bootPdpte + 8 * index 2 a) (by unfold bootPdpte bootPml4; omega)
      (by unfold bootPdpte bootPml4; omega)
    rw [initGuestMemory_pdpt m _ hi2, if_neg h2] at hfetch2
    refine ⟨2, ?_⟩
    rw [walk_table hfetch3 hp hv hl]
    exact walk_absent hfetch2 (by decide)
  · rw [if_neg h3] at hfetch3
    exact ⟨3, walk_absent hfetch3 (by decide)⟩

theorem Booted.guest_identity (h : Booted s host guestBase size (initGuestMemory m) phys ptr) {a : ℕ}
    (ha : a < 2 ^ 30) :
    walk guestFormat (guestFetch s phys ptr) 3 bootPml4 Perm.all a = .ok ⟨a, Perm.all⟩ := by
  have hroom := h.room
  refine walk_bootTables (m := m) ?_ ha
  intro gpa halign hin
  exact h.fetch gpa halign (by omega)

end Booted

/-- `new` over a buffer that physical memory shows. -/
theorem booted_of_new {s : Scheme} {host : Host} {heap : Heap} {guestBase size : BitVec 64}
    {n : Nested} (hnew : s.new host heap guestBase size = .ok n) {ptr : BitVec 64}
    (hptr : s.pointer host n = .ok ptr) {buf phys : Mem} (hphys : Backs host n phys)
    (hram : RamBacks host guestBase size buf phys) (hroom : 0x13000 ≤ size.toNat) :
    Booted s host guestBase size buf phys ptr := by
  have hrep := Scheme.new_represents hnew
  rw [s.new_eq] at hnew
  obtain ⟨hbase, hsize, hmax, hpages, -⟩ := new_built hnew
  refine ⟨hroom, hmax, fun a ha => ?_, fun a j pa hal hj hin hpa => ?_, fun a ha h48 => ?_⟩
  · obtain ⟨v, pa, hv, hpa, hsum⟩ := ramSpace_byte hbase hsize hpages ha
    refine ⟨pa, hpa, ?_⟩
    rw [hsum]
    exact (hrep.translate hptr hphys (by omega)).1 v hv
  · obtain ⟨v, pa₀, hv, hpa₀, hsum⟩ := ramSpace_byte hbase hsize hpages (by omega : a < size.toNat)
    obtain ⟨w, pa₁, hw, hpa₁, hsum₁⟩ := ramSpace_byte hbase hsize hpages hin
    -- both bytes lie in one page
    have hpage : (a + j) / pageSize = a / pageSize := by
      unfold pageSize
      omega
    rw [hpage, hv, Option.some.injEq] at hw
    rw [hpa, Option.some.injEq] at hpa₀
    have haddr : pa.toNat + j = pa₁.toNat := by
      rw [hpa₀, hsum, hsum₁, hw]
      unfold pageSize
      omega
    rw [haddr]
    exact hram (a + j) pa₁ hin hpa₁
  · exact (hrep.translate hptr hphys h48).2 (ramSpace_none hsize ha)

/-- What the guest's first instructions can reach: its own memory, one to one and writable. -/
theorem boot_translation_exact (s : Scheme) (host : Host) (heap : Heap) (guestBase size : BitVec 64)
    (hroom : 0x13000 ≤ size.toNat) (n : Nested)
    (hnew : s.new host heap guestBase size = .ok n) (ptr : BitVec 64)
    (hptr : s.pointer host n = .ok ptr) (buf phys : Mem) (hphys : Backs host n phys)
    (hram : RamBacks host guestBase size (initGuestMemory buf) phys) (va : BitVec 64)
    (hva : Canonical va) :
    (va.toNat < size.toNat →
      ∃ pa, host.virtualToPhysical (guestBase + va) = some pa ∧
        twoStage s phys ptr (BitVec.ofNat 64 bootPml4) va = .ok ⟨pa.toNat, Perm.all⟩) ∧
    (size.toNat ≤ va.toNat ∧ va.toNat < 2 ^ 30 →
      ∃ l, twoStage s phys ptr (BitVec.ofNat 64 bootPml4) va = .error (.nestedPage (.notPresent l))) ∧
    (2 ^ 30 ≤ va.toNat →
      ∃ l, twoStage s phys ptr (BitVec.ofNat 64 bootPml4) va = .error (.guestPage (.notPresent l))) := by
  have hboot := booted_of_new hnew hptr hphys hram hroom
  have hmax := hboot.bound
  have hroot : frame (BitVec.ofNat 64 bootPml4) = bootPml4 := by decide
  unfold twoStage
  rw [hroot]
  refine ⟨fun hin => ?_, fun hout => ?_, fun hhigh => ?_⟩
  · obtain ⟨pa, hpa, hwalk⟩ := hboot.ram va.toNat hin
    rw [BitVec.ofNat_toNat, BitVec.setWidth_eq] at hpa
    refine ⟨pa, hpa, ?_⟩
    rw [hboot.guest_identity (by omega)]
    simp only [hwalk, Perm.meet_all]
  · obtain ⟨l, hl⟩ := hboot.beyond va.toNat hout.1 (by omega)
    refine ⟨l, ?_⟩
    rw [hboot.guest_identity hout.2]
    simp only [hl]
  · have hindex : index 3 va.toNat ≠ 0 ∨ index 2 va.toNat ≠ 0 := by
      unfold Canonical at hva
      unfold index
      omega
    obtain ⟨l, hl⟩ := hboot.guest_unmapped hindex
    refine ⟨l, ?_⟩
    rw [hl]

/-- Physical memory of the direct host: guest memory at 2 MiB, and the tables. -/
def bootImage (n : Nested) (buf : Mem) : Mem := fun x =>
  if 0x200000 ≤ x ∧ x < 0x213000 then buf (x - 0x200000) else directImage n x

theorem bootImage_backs {k : Flags} {n : Nested} {sp : Space} (h : Represents k directHost n sp)
    (buf : Mem) : Backs directHost n (bootImage n buf) := by
  intro t p ht hp i hi
  rw [← directImage_backs h t p ht hp i hi]
  obtain ⟨S, hS, -⟩ := h
  obtain ⟨hlow, hhigh⟩ := directHost_allocated (hS.allocated ht)
  rw [directHost_physical t (by omega), Option.some.injEq] at hp
  subst hp
  apply load64_congr
  intro x h1 h2
  rw [bootImage, if_neg (by omega)]

theorem bootImage_ram (n : Nested) (buf : Mem) :
    RamBacks directHost 0x200000#64 0x13000#64 buf (bootImage n buf) := by
  intro off pa hoff hpa
  have hlt : off < 0x13000 := hoff
  have haddr : (0x200000#64 + BitVec.ofNat 64 off).toNat = 0x200000 + off := by
    rw [BitVec.toNat_add, BitVec.toNat_ofNat]
    change (0x200000 + off % 2 ^ 64) % 2 ^ 64 = 0x200000 + off
    omega
  rw [directHost_physical _ (by omega), Option.some.injEq] at hpa
  subst hpa
  rw [haddr, bootImage, if_pos (by omega), Nat.add_sub_cancel_left]

theorem boot_translation_exact_sample :
    ∃ n ptr, Scheme.npt.new directHost emptyHeap 0x200000#64 0x13000#64 = .ok n ∧
      twoStage .npt (bootImage n (initGuestMemory fun _ => 0)) ptr (BitVec.ofNat 64 bootPml4)
        0x12345#64 = .ok ⟨0x212345, Perm.all⟩ := by
  obtain ⟨n, hnew⟩ := directHost_new .npt
  obtain ⟨ptr, hptr⟩ := directHost_pointer .npt n
  obtain ⟨pa, hpa, hwalk⟩ := (boot_translation_exact .npt directHost emptyHeap 0x200000#64 0x13000#64
    (by decide) n hnew ptr hptr (fun _ => 0) _ (bootImage_backs (Scheme.new_represents hnew) _)
    (bootImage_ram n _) 0x12345#64 (Or.inl (by decide))).1 (by decide)
  rw [directHost_physical _ (by decide), Option.some.injEq] at hpa
  subst hpa
  exact ⟨n, ptr, hnew, hwalk⟩

end Rhyve.Boot
