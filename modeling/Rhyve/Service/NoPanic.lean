import Rhyve.Lib.Errors
import Rhyve.Paging.Exact
import Rhyve.Service.RunGuest

/-! # When a run request panics

The binary aborts on a panic, so a request that panics takes the whole service down.

* `isPanic`: a computation that avoids it returns a value or an error value.
* `new_panicFree`, `vm_new_panicFree`: what the assertions of the nested page tables ask for.
* `Placed`, `HostReady`, `Safe`: the conditions on a request.
* `run_guest_panic_free_iff`: these are exactly the conditions under which a request does not panic.
* `run_guest_panics`: a request that does.
-/

namespace Rhyve.Service
open ByteMem Errors Paging
set_option autoImplicit false

def isPanic : Abort → Prop
  | .panic _ => True
  | .error _ => False

/-! ## Building blocks -/

section Blocks
variable {α β : Type}

theorem orError_bind (e : HypervisorError) (o : Option α) (f : α → Except Abort β) :
    Avoids isPanic (orError e o >>= f) ↔ ∀ a, o = some a → Avoids isPanic (f a) := by
  cases o with
  | none =>
    refine ⟨fun _ a ha => ?_, fun _ h => h⟩
    cases ha
  | some a =>
    refine ⟨fun h b hb => ?_, fun h => h a rfl⟩
    rw [← Option.some.inj hb]
    exact h

theorem unwrap_bind (o : Option α) (f : α → Except Abort β) :
    Avoids isPanic (unwrap o >>= f) ↔ ∃ a, o = some a ∧ Avoids isPanic (f a) := by
  cases o with
  | none =>
    refine ⟨fun h => absurd trivial h, ?_⟩
    rintro ⟨a, ha, -⟩
    cases ha
  | some a =>
    refine ⟨fun h => ⟨a, rfl, h⟩, ?_⟩
    rintro ⟨b, hb, h⟩
    rw [← Option.some.inj hb] at h
    exact h

/-- A check that panics if its condition does not hold. -/
theorem check_bind (p : Prop) [Decidable p] (panic : Panic) (f : Unit → Except Abort β) :
    Avoids isPanic ((if p then .ok () else .error (.panic panic)) >>= f) ↔ p ∧ Avoids isPanic (f ()) := by
  by_cases hp : p
  · rw [if_pos hp]
    exact ⟨fun h => ⟨hp, h⟩, fun h => h.2⟩
  · rw [if_neg hp]
    exact ⟨fun h => absurd trivial h, fun h => absurd h.1 hp⟩

theorem sliceRange_bind (len first last : ℕ) (f : Unit → Except Abort β) :
    Avoids isPanic (sliceRange len first last >>= f) ↔
      (first ≤ last ∧ last ≤ len) ∧ Avoids isPanic (f ()) :=
  check_bind (first ≤ last ∧ last ≤ len) .sliceOutOfRange f

theorem vecCapacity_bind (len : ℕ) (f : Unit → Except Abort β) :
    Avoids isPanic (vecCapacity len >>= f) ↔ len < 2 ^ 63 ∧ Avoids isPanic (f ()) :=
  check_bind (len < 2 ^ 63) .capacityOverflow f

end Blocks

/-! ## The nested page tables -/

section Tables
variable (k : Flags) (host : Host)

theorem hostPhysical_panicFree (p : BitVec 64) : Avoids isPanic (hostPhysical host p) := by
  unfold hostPhysical
  split
  · trivial
  · exact fun h => h

theorem fillPt_panicFree (guestBase : BitVec 64) (numPages i : ℕ) (js : List ℕ) (pt : ℕ → BitVec 64) :
    Avoids isPanic (fillPt k host guestBase numPages i js pt) := by
  induction js generalizing pt with
  | nil => trivial
  | cons j js ih =>
    rw [fillPt, avoids_ite]
    refine ⟨fun _ => trivial, fun _ => ?_⟩
    rw [avoids_bind]
    exact ⟨hostPhysical_panicFree host _, fun hpa _ => ih _⟩

theorem buildPts_panicFree (guestBase : BitVec 64) (numPages : ℕ) (is : List ℕ) (n : Nested) :
    Avoids isPanic (buildPts k host guestBase numPages is n) := by
  induction is generalizing n with
  | nil => trivial
  | cons i is ih =>
    unfold buildPts
    split
    · exact fun h => h
    · simp only [avoids_bind, fillPt_panicFree, hostPhysical_panicFree, ih, implies_true, and_self]

/-- The three assertions. -/
theorem new_panicFree (heap : Heap) (guestBase size : BitVec 64) :
    Avoids isPanic (Paging.new k host heap guestBase size) ↔
      guestBase.toNat % pageSize = 0 ∧ size.toNat % pageSize = 0 ∧
        (size.toNat / pageSize + (entryCount - 1)) / entryCount ≤ entryCount := by
  unfold Paging.new
  rw [avoids_ite, avoids_ite]
  dsimp only
  rw [avoids_ite]
  refine ⟨?_, ?_⟩
  · rintro ⟨hbase, hsize⟩
    have hbase : guestBase.toNat % pageSize = 0 := by_contra fun hn => hbase hn trivial
    obtain ⟨hsize, hpts⟩ := hsize (not_not.mpr hbase)
    have hsize : size.toNat % pageSize = 0 := by_contra fun hn => hsize hn trivial
    exact ⟨hbase, hsize, by_contra fun hn => (hpts (not_not.mpr hsize)).1 hn trivial⟩
  · rintro ⟨hbase, hsize, hpts⟩
    refine ⟨fun hn => absurd hbase hn, fun _ => ⟨fun hn => absurd hsize hn, fun _ =>
      ⟨fun hn => absurd hpts hn, fun _ => ?_⟩⟩⟩
    -- what is left are allocations and translations, and their failures are error values
    split
    · exact fun h => h
    · split
      · exact fun h => h
      · split
        · exact fun h => h
        · simp only [avoids_bind, hostPhysical_panicFree, buildPts_panicFree, implies_true, and_self]

theorem childOrAlloc_panicFree (n : Nested) (parent : BitVec 64) (idx : ℕ) :
    Avoids isPanic (childOrAlloc k host n parent idx).1 := by
  unfold childOrAlloc
  dsimp only
  split
  · split
    · trivial
    · exact fun h => h
  · split
    · exact fun h => h
    · rename_i table heap _
      have hhpa := hostPhysical_panicFree host table
      revert hhpa
      cases hostPhysical host table with
      | error a => exact fun h => h
      | ok hpa => exact fun h => h

theorem mapPage_panicFree (n : Nested) {gpa : BitVec 64} (hpa : BitVec 64)
    (hlow : (gpa >>> 39) &&& 0x1ff#64 = 0) (hhigh : (gpa >>> 30) &&& 0x1ff#64 ≠ 0) :
    Avoids isPanic (mapPage k host n gpa hpa).1 := by
  unfold mapPage
  rw [if_neg (not_not.mpr hlow), if_neg hhigh]
  dsimp only
  have hpd := childOrAlloc_panicFree k host n n.pdpt ((gpa >>> 30) &&& 0x1ff#64).toNat
  split
  · rename_i a n' heq
    rw [heq] at hpd
    exact hpd
  · rename_i pd n' heq
    have hpt := childOrAlloc_panicFree k host n' pd ((gpa >>> 21) &&& 0x1ff#64).toNat
    split
    · rename_i a n'' heq'
      rw [heq'] at hpt
      exact hpt
    · trivial

end Tables

theorem mapMmio_panicFree (s : Scheme) (host : Host) (n : Nested) (hpa : BitVec 64) :
    Avoids isPanic (s.mapMmio host n lapicBase hpa).1 ∧
      Avoids isPanic (s.mapMmio host n ioapicBase hpa).1 := by
  rw [Scheme.mapMmio_eq]
  exact ⟨mapPage_panicFree s.flags host n hpa (by decide) (by decide),
    mapPage_panicFree s.flags host n hpa (by decide) (by decide)⟩

theorem vm_new_panicFree (host : RunHost) (guestBase size : BitVec 64) :
    Avoids isPanic (Vm.new host guestBase size) ↔
      guestBase.toNat % pageSize = 0 ∧ size.toNat % pageSize = 0 ∧
        (size.toNat / pageSize + (entryCount - 1)) / entryCount ≤ entryCount := by
  have hnew := new_panicFree host.scheme.flags host.tables host.heap guestBase size
  rw [← Scheme.new_eq] at hnew
  rw [← hnew, Vm.new, avoids_bind]
  refine ⟨fun h => h.1, fun h => ⟨h, ?_⟩⟩
  intro paging _
  simp only [orError_bind]
  intro _ _ _ _
  simp only [avoids_bind, hostPhysical_panicFree, true_and]
  intro apicAccessHpa _
  refine ⟨(mapMmio_panicFree _ _ _ _).1, fun _ _ ioapicHpa _ => ⟨(mapMmio_panicFree _ _ _ _).2, ?_⟩⟩
  intro _ _
  trivial

/-! ## The size of the guest -/

/-- The requested memory in MiB. The shift by 20 bits keeps 44 bits of it. -/
def requestedMib (memMib : Option (BitVec 64)) : ℕ :=
  max (memMib.getD defaultGuestMib).toNat minGuestMib.toNat % 2 ^ 44

/-- Bytes in the large pages that hold this many MiB. -/
def largePageBytes (mib : ℕ) : ℕ := (mib + 1) / 2 * 2 ^ 21

theorem nextMultipleOf_largePage (a : BitVec 64) :
    (nextMultipleOf a largePageSize).toNat = (a.toNat + (2 ^ 21 - 1)) / 2 ^ 21 * 2 ^ 21 % 2 ^ 64 := by
  have ha := a.isLt
  have hpage : largePageSize.toNat = 2 ^ 21 := by decide
  have hmod : (a % largePageSize).toNat = a.toNat % 2 ^ 21 := by rw [BitVec.toNat_umod, hpage]
  unfold nextMultipleOf
  split
  · rename_i hzero
    have hzero' : a.toNat % 2 ^ 21 = 0 := by rw [← hmod, hzero, BitVec.toNat_zero]
    omega
  · rename_i hzero
    have hzero' : a.toNat % 2 ^ 21 ≠ 0 := by
      intro h
      exact hzero (BitVec.eq_of_toNat_eq (by rw [hmod, h, BitVec.toNat_zero]))
    have hle : a % largePageSize ≤ largePageSize := by
      rw [BitVec.le_def, hmod, hpage]
      omega
    rw [BitVec.toNat_add, BitVec.toNat_sub_of_le hle, hmod, hpage]
    omega

theorem guestSize_toNat (memMib : Option (BitVec 64)) :
    (guestSize memMib).toNat = largePageBytes (requestedMib memMib) % 2 ^ 64 := by
  unfold guestSize requestedMib
  dsimp only
  generalize memMib.getD defaultGuestMib = asked
  have hmax : (if asked ≤ minGuestMib then minGuestMib else asked).toNat =
      max asked.toNat minGuestMib.toNat := by
    split
    · rename_i hle
      exact (Nat.max_eq_right hle).symm
    · rename_i hle
      exact (Nat.max_eq_left (Nat.le_of_lt (BitVec.not_le.mp hle))).symm
  rw [nextMultipleOf_largePage, BitVec.toNat_shiftLeft, Nat.shiftLeft_eq, hmax, largePageBytes]
  omega

theorem guestSize_small (memMib : Option (BitVec 64)) (h : requestedMib memMib ≤ 1024) :
    (guestSize memMib).toNat = largePageBytes (requestedMib memMib) := by
  rw [guestSize_toNat, Nat.mod_eq_of_lt]
  unfold largePageBytes
  omega

/-- The kernel fits and the assertions hold. A size that wrapped to a small one is too small for the
kernel. -/
theorem guestSize_fits (memMib : Option (BitVec 64)) (n : ℕ) :
    (kernelOffset + n ≤ (guestSize memMib).toNat ∧ (guestSize memMib).toNat % pageSize = 0 ∧
      ((guestSize memMib).toNat / pageSize + (entryCount - 1)) / entryCount ≤ entryCount) ↔
    requestedMib memMib ≤ 1024 ∧ kernelOffset + n ≤ largePageBytes (requestedMib memMib) := by
  have hlt : requestedMib memMib < 2 ^ 44 := Nat.mod_lt _ (by decide)
  rw [guestSize_toNat]
  generalize requestedMib memMib = mib at hlt
  unfold kernelOffset pageSize entryCount largePageBytes
  omega

/-! ## The request -/

section Request
variable {κ ι τ : Type} (lib : Libraries κ ι τ) (host : RunHost)

/-- The file can be read, and what was read is a kernel. -/
def Parses (image : ImageFile) (kernel : κ) : Prop :=
  image.opens = true ∧ ∃ len data, image.metadata = some len ∧ len.toNat < 2 ^ 63 ∧
    image.read = some data ∧ lib.parse (imageBuffer len.toNat data) = some kernel

/-- The file is no longer than a vector can be. -/
def LengthOk (image : ImageFile) : Prop :=
  ∀ len, image.metadata = some len → image.opens = true → len.toNat < 2 ^ 63

theorem kernelRange_iff (size n : BitVec 64) :
    (kernelOffset ≤ (BitVec.ofNat 64 kernelOffset + n).toNat ∧
      (BitVec.ofNat 64 kernelOffset + n).toNat ≤ size.toNat) ↔ kernelOffset + n.toNat ≤ size.toNat := by
  have hn := n.isLt
  have hsize := size.isLt
  rw [BitVec.toNat_add, BitVec.toNat_ofNat]
  unfold kernelOffset
  omega

theorem opens_iff (image : ImageFile) (u : Unit) :
    (if image.opens then some () else none) = some u ↔ image.opens = true := by
  by_cases h : image.opens = true
  · rw [if_pos h]
    exact ⟨fun _ => h, fun _ => rfl⟩
  · rw [if_neg h]
    refine ⟨fun hn => ?_, fun ho => absurd ho h⟩
    cases hn

theorem loadGuestImage_panicFree (image : ImageFile) (size : BitVec 64) (ram : Mem) :
    Avoids isPanic (loadGuestImage lib image size ram) ↔
      LengthOk image ∧ ∀ kernel, Parses lib image kernel →
        kernelOffset + (lib.memSize kernel).toNat ≤ size.toNat := by
  simp only [loadGuestImage, orError_bind, vecCapacity_bind, sliceRange_bind, kernelRange_iff, opens_iff]
  refine ⟨fun h => ⟨?_, ?_⟩, ?_⟩
  · intro len hlen hopens
    exact (h len hlen () hopens).1
  · rintro kernel ⟨hopens, len, data, hlen, -, hread, hparse⟩
    exact ((h len hlen () hopens).2 data hread kernel hparse).1
  · rintro ⟨hlength, hfits⟩ len hlen _ hopens
    have hlt := hlength len hlen hopens
    refine ⟨hlt, ?_⟩
    intro data hread kernel hparse
    exact ⟨hfits kernel ⟨hopens, len, data, hlen, hlt, hread, hparse⟩, trivial⟩

/-- Loading succeeds for a kernel that fits. -/
theorem loadGuestImage_parses {image : ImageFile} {kernel : κ} (h : Parses lib image kernel)
    {size : BitVec 64} (hfits : kernelOffset + (lib.memSize kernel).toNat ≤ size.toNat) (ram : Mem) :
    loadGuestImage lib image size ram = .ok ((lib.loadKernel kernel kernelOffset).1,
      storeBytes ram kernelOffset
        ((lib.loadKernel kernel kernelOffset).2.take (lib.memSize kernel).toNat)) := by
  obtain ⟨hopens, len, data, hlen, hlt, hread, hparse⟩ := h
  have hrange := (kernelRange_iff size (lib.memSize kernel)).mpr hfits
  have hcapacity : vecCapacity len.toNat = .ok () := if_pos hlt
  have hslice : sliceRange size.toNat kernelOffset
      (BitVec.ofNat 64 kernelOffset + lib.memSize kernel).toNat = .ok () := if_pos hrange
  have hfound : orError .parseError (lib.parse (imageBuffer len.toNat data)) = .ok kernel := by
    rw [hparse]
    rfl
  rw [loadGuestImage, hlen, hopens, hread]
  show (vecCapacity len.toNat >>= fun _ => orError .parseError (lib.parse (imageBuffer len.toNat data)) >>=
    fun kernel => _) = _
  rw [hcapacity, hfound]
  show (sliceRange size.toNat kernelOffset
    (BitVec.ofNat 64 kernelOffset + lib.memSize kernel).toNat >>= fun _ => _) = _
  rw [hslice]
  rfl

theorem loadGuestImage_ok {image : ImageFile} {size : BitVec 64} {ram : Mem} {r : LoadedKernel ι × Mem}
    (h : loadGuestImage lib image size ram = .ok r) :
    ∃ kernel, Parses lib image kernel ∧ kernelOffset + (lib.memSize kernel).toNat ≤ size.toNat := by
  have hfree : Avoids isPanic (loadGuestImage lib image size ram) := by
    rw [h]
    trivial
  obtain ⟨hlength, hfits⟩ := (loadGuestImage_panicFree lib image size ram).mp hfree
  obtain ⟨len, hlen, h⟩ := bind_ok h
  obtain ⟨u, hopens, h⟩ := bind_ok h
  obtain ⟨_, hlt, h⟩ := bind_ok h
  obtain ⟨data, hread, h⟩ := bind_ok h
  obtain ⟨kernel, hparse, -⟩ := bind_ok h
  have hopens := (opens_iff image u).mp (orError_ok.mp hopens)
  have hlen := orError_ok.mp hlen
  have hparses : Parses lib image kernel :=
    ⟨hopens, len, data, hlen, hlength len hlen hopens, orError_ok.mp hread, orError_ok.mp hparse⟩
  exact ⟨kernel, hparses, hfits kernel hparses⟩

theorem frequency_iff (freq : BitVec 16) (f : BitVec 32 → Prop) :
    (∃ a, (if freq.setWidth 32 * 1000#32 = 0#32 then none else some (freq.setWidth 32 * 1000#32)) = some a ∧
      f a) ↔ freq ≠ 0#16 ∧ f (freq.setWidth 32 * 1000#32) := by
  have hzero : freq.setWidth 32 * 1000#32 = 0#32 ↔ freq = 0#16 := by
    have hlt := freq.isLt
    have hthousand : (1000#32).toNat = 1000 := by decide
    have hwide : freq.toNat % 2 ^ 32 = freq.toNat := Nat.mod_eq_of_lt (by omega)
    rw [← BitVec.toNat_inj, ← BitVec.toNat_inj, BitVec.toNat_mul, BitVec.toNat_setWidth, hthousand, hwide,
      BitVec.toNat_zero, BitVec.toNat_zero, Nat.mod_eq_of_lt (by omega)]
    omega
  by_cases h : freq = 0#16
  · rw [if_pos (hzero.mpr h)]
    refine ⟨?_, fun hf => absurd h hf.1⟩
    rintro ⟨a, ha, -⟩
    cases ha
  · rw [if_neg (mt hzero.mp h)]
    refine ⟨?_, fun hf => ⟨_, rfl, hf.2⟩⟩
    rintro ⟨a, ha, hf⟩
    rw [← Option.some.inj ha] at hf
    exact ⟨h, hf⟩

/-- What the host and the libraries contribute to the boot info and the device tree, in a guest with this
much memory. -/
structure HostReady (size : BitVec 64) (bytes : ℕ) : Prop where
  clock : ∃ nanos, host.sinceEpoch = some nanos ∧ ∃ t, lib.fromUnixTimestampNanos nanos = some t
  frequency : host.processorFrequency ≠ 0#16
  tree : ∃ fdt, lib.writeFdt (guestFdt size) = some fdt ∧ fdtOffset + fdt.length ≤ bytes

theorem buildGuest_panicFree (guestBase size : BitVec 64) (loaded : LoadedKernel ι) (ram : Mem) :
    Avoids isPanic (buildGuest lib host guestBase size loaded ram) ↔
      HostReady lib host size size.toNat ∧ Boot.bootInfoOffset + 1 ≤ size.toNat ∧
        guestBase.toNat % pageSize = 0 ∧ size.toNat % pageSize = 0 ∧
          (size.toNat / pageSize + (entryCount - 1)) / entryCount ≤ entryCount := by
  rw [← vm_new_panicFree host guestBase size]
  have hvm : ∀ (ram : Mem) (entryPoint : BitVec 64),
      Avoids isPanic (Vm.new host guestBase size >>= fun vm => .ok (⟨vm, ram, entryPoint⟩ : Guest)) ↔
        Avoids isPanic (Vm.new host guestBase size) := by
    intro ram entryPoint
    rw [avoids_bind]
    exact ⟨fun h => h.1, fun h => ⟨h, fun _ _ => trivial⟩⟩
  simp only [buildGuest, unwrap_bind, sliceRange_bind, frequency_iff]
  refine ⟨?_, ?_⟩
  · rintro ⟨nanos, hnanos, hfreq, t, ht, fdt, hfdt, ⟨-, hrange⟩, ⟨-, hinfo⟩, h⟩
    exact ⟨⟨⟨nanos, hnanos, t, ht⟩, hfreq, fdt, hfdt, hrange⟩, hinfo, (hvm _ _).mp h⟩
  · rintro ⟨⟨⟨nanos, hnanos, t, ht⟩, hfreq, fdt, hfdt, hrange⟩, hinfo, h⟩
    exact ⟨nanos, hnanos, hfreq, t, ht, fdt, hfdt, ⟨Nat.le_add_right _ _, hrange⟩,
      ⟨Nat.le_add_right _ _, hinfo⟩, (hvm _ _).mpr h⟩

/-- The conditions on a request: an image that parses has to fit into the memory that was asked for, which
is at most 1 GiB. -/
structure Safe (image : ImageFile) (memMib : Option (BitVec 64)) : Prop where
  length : LengthOk image
  placed : ∀ kernel, Parses lib image kernel →
    requestedMib memMib ≤ 1024 ∧
      kernelOffset + (lib.memSize kernel).toNat ≤ largePageBytes (requestedMib memMib) ∧
      HostReady lib host (guestSize memMib) (largePageBytes (requestedMib memMib))

theorem initHypervisor_panicFree (image : ImageFile) (memMib : Option (BitVec 64)) :
    Avoids isPanic (initHypervisor lib host image (guestSize memMib)) ↔ Safe lib host image memMib := by
  have hload := loadGuestImage_panicFree lib image (guestSize memMib) (fun _ => 0#8)
  have hbuild := buildGuest_panicFree lib host (host.allocate (guestSize memMib)) (guestSize memMib)
  have hsize := guestSize_small memMib
  have hinit : initHypervisor lib host image (guestSize memMib) =
      loadGuestImage lib image (guestSize memMib) (fun _ => 0#8) >>= fun r =>
        buildGuest lib host (host.allocate (guestSize memMib)) (guestSize memMib) r.1 r.2 := rfl
  rw [hinit, avoids_bind, hload]
  refine ⟨?_, ?_⟩
  · rintro ⟨⟨hlength, hfits⟩, hrest⟩
    refine ⟨hlength, ?_⟩
    intro kernel hparses
    have hfit := hfits kernel hparses
    obtain ⟨hready, -, -, hpages, hpts⟩ :=
      (hbuild _ _).mp (hrest _ (loadGuestImage_parses lib hparses hfit _))
    obtain ⟨hmib, hkernel⟩ := (guestSize_fits memMib _).mp ⟨hfit, hpages, hpts⟩
    rw [hsize hmib] at hready
    exact ⟨hmib, hkernel, hready⟩
  · intro hsafe
    have hfits : ∀ kernel, Parses lib image kernel →
        kernelOffset + (lib.memSize kernel).toNat ≤ (guestSize memMib).toNat := by
      intro kernel hparses
      obtain ⟨hmib, hkernel, -⟩ := hsafe.placed kernel hparses
      rw [hsize hmib]
      exact hkernel
    refine ⟨⟨hsafe.length, hfits⟩, ?_⟩
    intro r hr
    obtain ⟨kernel, hparses, hfit⟩ := loadGuestImage_ok lib hr
    obtain ⟨hmib, hkernel, hready⟩ := hsafe.placed kernel hparses
    obtain ⟨-, hpages, hpts⟩ := (guestSize_fits memMib _).mpr ⟨hmib, hkernel⟩
    rw [← hsize hmib] at hready
    -- the boot info lies below the kernel
    have hinfo : Boot.bootInfoOffset + 1 ≤ (guestSize memMib).toNat :=
      (Nat.le_add_right_of_le (by decide : Boot.bootInfoOffset + 1 ≤ kernelOffset)).trans hfit
    exact (hbuild r.1 r.2).mpr ⟨hready, hinfo, host.allocate_aligned _, hpages, hpts⟩

/-- A request does not panic if and only if its name is refused or the conditions hold. -/
theorem run_guest_panic_free_iff (files : String → ImageFile) (name : String)
    (memMib : Option (BitVec 64)) :
    (∃ outcome, runGuest lib host files name memMib = .ok outcome) ↔
      invalidName name = true ∨ Safe lib host (files ("/image/" ++ name)) memMib := by
  rw [← initHypervisor_panicFree]
  unfold runGuest
  by_cases hname : invalidName name = true
  · rw [if_pos hname]
    exact ⟨fun _ => .inl hname, fun _ => ⟨_, rfl⟩⟩
  · rw [if_neg hname]
    generalize initHypervisor lib host (files ("/image/" ++ name)) (guestSize memMib) = result
    cases result with
    | ok guest => exact ⟨fun _ => .inr trivial, fun _ => ⟨_, rfl⟩⟩
    | error a =>
      cases a with
      | error e => exact ⟨fun _ => .inr fun h => h, fun _ => ⟨_, rfl⟩⟩
      | panic p =>
        refine ⟨?_, fun h => absurd trivial (h.resolve_left hname)⟩
        rintro ⟨outcome, h⟩
        cases h

end Request

/-! ## Requests that panic -/

def littleEndian (bytes value : ℕ) : List (BitVec 8) := (List.range bytes).map fun i => BitVec.ofNat 8 (value / 256 ^ i)

/-- An ELF file for x86-64: the header, one program header, and a segment of two instructions. -/
def elfImage : List (BitVec 8) :=
  [0x7F#8, 0x45#8, 0x4C#8, 0x46#8, 2#8, 1#8, 1#8, 0xFF#8] ++ littleEndian 8 0 ++
    -- position-independent, machine, version, entry point, offsets of the program and section headers, flags
    littleEndian 2 3 ++ littleEndian 2 0x3E ++ littleEndian 4 1 ++ littleEndian 8 0 ++ littleEndian 8 0x40 ++
    littleEndian 8 0 ++ littleEndian 4 0 ++
    -- sizes and numbers of headers
    littleEndian 2 0x40 ++ littleEndian 2 0x38 ++ littleEndian 2 1 ++ littleEndian 2 0x40 ++ littleEndian 4 0 ++
    -- loadable, readable and executable, offset, addresses, sizes, alignment
    littleEndian 4 1 ++ littleEndian 4 5 ++ littleEndian 8 0x78 ++ littleEndian 8 0 ++ littleEndian 8 0 ++
    littleEndian 8 2 ++ littleEndian 8 2 ++ littleEndian 8 0x1000 ++ [0x90#8, 0xF4#8]

/-- The header of a device tree, and as many bytes behind it as the tree of a guest has. -/
def sampleFdt : List (BitVec 8) :=
  ([0xD00DFEED, 0x10E, 0x38, 0xD8, 0x28, 0x11, 0x10, 0, 0x36, 0xA0].flatMap fun word => (littleEndian 4 word).reverse) ++
    List.replicate 230 0#8

/-- The memory range, the serial port and the address of the device tree, in 128 bytes. -/
def sampleBootInfo (info : BootInfo Unit Unit) : List (BitVec 8) :=
  littleEndian 8 0 ++ littleEndian 8 info.physAddrEnd.toNat ++ littleEndian 8 info.serialPortBase.toNat ++
    littleEndian 8 info.deviceTree ++ List.replicate 96 0#8

/-- A loader that takes an ELF file for a kernel of this size. -/
def kernelOf (size : BitVec 64) : Libraries Unit Unit Unit where
  parse bytes := if 64 ≤ bytes.length ∧ bytes.take 4 = [0x7F#8, 0x45#8, 0x4C#8, 0x46#8] then some () else none
  memSize := fun _ => size
  loadKernel := fun _ _ => (⟨(), 0x80000#64⟩, [])
  writeFdt := fun _ => some sampleFdt
  fromUnixTimestampNanos := fun _ => some ()
  rawBootInfo := sampleBootInfo

/-- A host with VT-x where nothing fails. -/
def readyHost : RunHost where
  scheme := .ept
  tables := directHost
  heap := emptyHeap
  allocate := fun _ => 0x200000#64
  allocate_aligned := fun _ => rfl
  apicAccessPage := some 0x5000#64
  ioapicPage := some 0x6000#64
  sinceEpoch := some 0
  processorFrequency := 1000#16

def storedImage : String → ImageFile := fun _ => ⟨some 122#64, true, some elfImage⟩

/-- One MiB too much, a kernel that is too large, and a size that the shift turns into 0. -/
theorem run_guest_panics :
    runGuest (kernelOf 0x1000#64) readyHost storedImage "hello" (some 1025#64) =
      .error .guestLargerThanOneGiB ∧
    runGuest (kernelOf 0x40000000#64) readyHost storedImage "hello" none = .error .sliceOutOfRange ∧
    runGuest (kernelOf 0x1000#64) readyHost storedImage "hello" (some 0x100000000000#64) =
      .error .sliceOutOfRange := by
  have hname : invalidName "hello" = false := by decide
  have hpanics : ∀ (x : Except Panic Outcome) (p : Panic),
      (match x with | .error q => decide (q = p) | .ok _ => false) = true → x = .error p := by
    rintro (q | outcome) p h
    · rw [of_decide_eq_true h]
    · cases h
  refine ⟨?_, ?_, ?_⟩ <;>
  · unfold runGuest
    rw [hname]
    exact hpanics _ _ (by decide +kernel)

end Rhyve.Service
