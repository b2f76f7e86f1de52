import Rhyve.Lib.ByteMem

/-! # The guest's boot memory: `init_guest_memory`

A GDT, and page tables that map the first GiB of guest-physical memory onto itself with 2 MiB pages. All
stores go to fixed offsets of the guest buffer. `initGuestMemory_pml4`, `initGuestMemory_pdpt` and
`initGuestMemory_pd` say what the three tables hold afterwards, whatever the buffer held before,
`initGuestMemory_gdt` what the GDT holds, and `initGuestMemory_outside` that nothing else is written.
-/

namespace Rhyve.Boot
open ByteMem
set_option autoImplicit false

def gdtOffset : ℕ := 0x1000
def bootInfoOffset : ℕ := 0x9000
def bootPml4 : ℕ := 0x10000
def bootPdpte : ℕ := bootPml4 + 0x1000
def bootPde : ℕ := bootPml4 + 0x2000

def pgPresent : BitVec 64 := 1#64 <<< 0
def pgRw : BitVec 64 := 1#64 <<< 1
def pgHuge : BitVec 64 := 1#64 <<< 7

def writeEntry (m : Mem) (off : ℕ) (val : BitVec 64) : Mem := store64 m off val

/-- The null descriptor, a 64-bit code segment and a data segment. -/
def writeGdt (m : Mem) : Mem :=
  let m := writeEntry m gdtOffset 0#64
  let m := writeEntry m (gdtOffset + 8) 0x00AF9B000000FFFF#64
  writeEntry m (gdtOffset + 16) 0x00CF93000000FFFF#64

/-- The first loop, `n` iterations of it. -/
def clearTables (m : Mem) (n : ℕ) : Mem :=
  (List.range n).foldl
    (fun m i => writeEntry (writeEntry m (bootPml4 + i * 8) 0#64) (bootPdpte + i * 8) 0#64) m

/-- Entry `i` of the page directory. -/
def pdEntry (i : ℕ) : BitVec 64 := (BitVec.ofNat 64 i <<< 21) ||| pgPresent ||| pgRw ||| pgHuge

/-- The second loop, `n` iterations of it. -/
def writePd (m : Mem) (n : ℕ) : Mem :=
  (List.range n).foldl (fun m i => writeEntry m (bootPde + i * 8) (pdEntry i)) m

/-- `init_guest_memory`: the GDT, and tables that map the first GiB to itself in pages of 2 MiB. -/
def initGuestMemory (m : Mem) : Mem :=
  let m := writeGdt m
  let m := clearTables m 512
  let m := writeEntry m bootPml4 (BitVec.ofNat 64 bootPdpte ||| pgPresent ||| pgRw)
  let m := writeEntry m bootPdpte (BitVec.ofNat 64 bootPde ||| pgPresent ||| pgRw)
  writePd m 512

/-! ## The loops -/

theorem clearTables_succ (m : Mem) (n : ℕ) :
    clearTables m (n + 1) =
      writeEntry (writeEntry (clearTables m n) (bootPml4 + n * 8) 0#64) (bootPdpte + n * 8) 0#64 := by
  unfold clearTables
  rw [List.range_succ, List.foldl_append]
  rfl

theorem writePd_succ (m : Mem) (n : ℕ) :
    writePd m (n + 1) = writeEntry (writePd m n) (bootPde + n * 8) (pdEntry n) := by
  unfold writePd
  rw [List.range_succ, List.foldl_append]
  rfl

theorem clearTables_zero (m : Mem) (n : ℕ) (hn : n ≤ 512) (i : ℕ) (hi : i < n) :
    load64 (clearTables m n) (bootPml4 + i * 8) = 0#64 ∧
      load64 (clearTables m n) (bootPdpte + i * 8) = 0#64 := by
  induction n with
  | zero => omega
  | succ n ih =>
    rw [clearTables_succ]
    unfold writeEntry bootPdpte
    -- the PML4 and the PDPT do not overlap
    rw [load64_store64_disjoint _ _ (bootPml4 + 0x1000 + n * 8) _ (by omega)]
    by_cases h : i = n
    · subst h
      rw [load64_store64_same, load64_store64_same]
      exact ⟨rfl, rfl⟩
    · rw [load64_store64_disjoint _ _ _ _ (by omega), load64_store64_disjoint _ _ _ _ (by omega),
        load64_store64_disjoint _ _ _ _ (by omega)]
      exact ih (by omega) (by omega)

theorem writePd_below (m : Mem) (n a : ℕ) (ha : a + 8 ≤ bootPde) :
    load64 (writePd m n) a = load64 m a := by
  induction n with
  | zero => rfl
  | succ n ih =>
    rw [writePd_succ, writeEntry, load64_store64_disjoint _ _ _ _ (by omega)]
    exact ih

theorem writePd_entry (m : Mem) (n i : ℕ) (hi : i < n) :
    load64 (writePd m n) (bootPde + i * 8) = pdEntry i := by
  induction n with
  | zero => omega
  | succ n ih =>
    rw [writePd_succ, writeEntry]
    by_cases h : i = n
    · subst h
      rw [load64_store64_same]
    · rw [load64_store64_disjoint _ _ _ _ (by omega)]
      exact ih (by omega)

/-! ## The tables -/

theorem initGuestMemory_pml4 (m : Mem) (i : ℕ) (hi : i < 512) :
    load64 (initGuestMemory m) (bootPml4 + 8 * i) = if i = 0 then 0x11003#64 else 0#64 := by
  unfold initGuestMemory
  simp only
  rw [writePd_below _ _ _ (by unfold bootPde; omega), Nat.mul_comm 8 i]
  unfold writeEntry
  rw [load64_store64_disjoint _ _ _ _ (by unfold bootPdpte; omega)]
  by_cases h : i = 0
  · subst h
    rw [if_pos rfl]
    exact load64_store64_same _ _ _
  · rw [if_neg h, load64_store64_disjoint _ _ _ _ (by omega)]
    exact (clearTables_zero _ 512 (le_refl _) i hi).1

theorem initGuestMemory_pdpt (m : Mem) (i : ℕ) (hi : i < 512) :
    load64 (initGuestMemory m) (bootPdpte + 8 * i) = if i = 0 then 0x12003#64 else 0#64 := by
  unfold initGuestMemory
  simp only
  rw [writePd_below _ _ _ (by unfold bootPde bootPdpte; omega), Nat.mul_comm 8 i]
  unfold writeEntry
  by_cases h : i = 0
  · subst h
    rw [if_pos rfl]
    exact load64_store64_same _ _ _
  · rw [if_neg h, load64_store64_disjoint _ _ _ _ (by omega),
      load64_store64_disjoint _ _ _ _ (by unfold bootPdpte; omega)]
    exact (clearTables_zero _ 512 (le_refl _) i hi).2

theorem initGuestMemory_pd (m : Mem) (i : ℕ) (hi : i < 512) :
    load64 (initGuestMemory m) (bootPde + 8 * i) = pdEntry i := by
  unfold initGuestMemory
  simp only
  rw [Nat.mul_comm 8 i]
  exact writePd_entry _ 512 i hi

/-! ## The GDT, and the bytes that are left alone -/

theorem writeEntry_outside (m : Mem) {off x : ℕ} (val : BitVec 64) (h : x < off ∨ off + 8 ≤ x) :
    writeEntry m off val x = m x :=
  storeLE_outside m off 8 val.toNat x h

theorem clearTables_outside (m : Mem) {n x : ℕ} (hn : n ≤ 512) (h : x < bootPml4 ∨ bootPde ≤ x) :
    clearTables m n x = m x := by
  unfold bootPde at h
  induction n with
  | zero => rfl
  | succ n ih =>
    rw [clearTables_succ, writeEntry_outside _ _ (by unfold bootPdpte; omega), writeEntry_outside _ _ (by omega)]
    exact ih (by omega)

theorem writePd_outside (m : Mem) {n x : ℕ} (hn : n ≤ 512) (h : x < bootPde ∨ bootPde + 0x1000 ≤ x) :
    writePd m n x = m x := by
  induction n with
  | zero => rfl
  | succ n ih =>
    rw [writePd_succ, writeEntry_outside _ _ (by omega)]
    exact ih (by omega)

/-- After the GDT, only the tables are written. -/
theorem initGuestMemory_belowTables (m : Mem) {x : ℕ} (h : x < bootPml4 ∨ bootPml4 + 0x3000 ≤ x) :
    initGuestMemory m x = writeGdt m x := by
  have hpd : x < bootPde ∨ bootPde + 0x1000 ≤ x := by
    unfold bootPde bootPml4
    unfold bootPml4 at h
    omega
  have hpdpte : x < bootPdpte ∨ bootPdpte + 8 ≤ x := by
    unfold bootPdpte bootPml4
    unfold bootPml4 at h
    omega
  have hpml4 : x < bootPml4 ∨ bootPml4 + 8 ≤ x := by
    unfold bootPml4 at h ⊢
    omega
  have htables : x < bootPml4 ∨ bootPde ≤ x := by
    unfold bootPde bootPml4
    unfold bootPml4 at h
    omega
  unfold initGuestMemory
  rw [writePd_outside _ (le_refl 512) hpd, writeEntry_outside _ _ hpdpte, writeEntry_outside _ _ hpml4,
    clearTables_outside _ (le_refl 512) htables]

/-- The null descriptor, the code segment and the data segment. -/
def gdtEntries : List (BitVec 64) := [0#64, 0x00AF9B000000FFFF#64, 0x00CF93000000FFFF#64]

theorem initGuestMemory_gdt (m : Mem) {i : ℕ} (hi : i < gdtEntries.length) :
    load64 (initGuestMemory m) (gdtOffset + 8 * i) = gdtEntries.get ⟨i, hi⟩ := by
  have hlt : i < 3 := hi
  have hframe : load64 (initGuestMemory m) (gdtOffset + 8 * i) = load64 (writeGdt m) (gdtOffset + 8 * i) := by
    apply load64_congr
    intro x _ hx
    apply initGuestMemory_belowTables
    unfold gdtOffset at hx
    unfold bootPml4
    omega
  rw [hframe]
  unfold writeGdt writeEntry
  dsimp only
  obtain rfl | rfl | rfl : i = 0 ∨ i = 1 ∨ i = 2 := by omega
  · rw [load64_store64_disjoint _ _ _ _ (by omega), load64_store64_disjoint _ _ _ _ (by omega)]
    exact load64_store64_same m gdtOffset _
  · rw [load64_store64_disjoint _ _ _ _ (by omega)]
    exact load64_store64_same _ (gdtOffset + 8) _
  · exact load64_store64_same _ (gdtOffset + 16) _

theorem initGuestMemory_outside (m : Mem) {x : ℕ} (hgdt : x < gdtOffset ∨ gdtOffset + 8 * gdtEntries.length ≤ x)
    (htables : x < bootPml4 ∨ bootPml4 + 0x3000 ≤ x) : initGuestMemory m x = m x := by
  have hlen : gdtEntries.length = 3 := rfl
  rw [hlen] at hgdt
  rw [initGuestMemory_belowTables m htables]
  unfold writeGdt
  rw [writeEntry_outside _ _ (by omega), writeEntry_outside _ _ (by omega), writeEntry_outside _ _ (by omega)]

end Rhyve.Boot
