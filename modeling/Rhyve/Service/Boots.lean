import Rhyve.Paging.Granted
import Rhyve.Service.Image
import Rhyve.Service.Space

/-! # Requests that boot a guest

A request that does not panic can still fail: with the image, or with the tables of the VM.

* `initHypervisor_boots`: if these are there, the guest is.
* `vm_new_supplied`: a host with enough tables builds every VM that the assertions allow.
* `request_boots`: on such a host, a safe request for an image that parses boots a guest.
-/

namespace Rhyve.Service
open ByteMem Errors Paging
set_option autoImplicit false

def isError : Abort → Prop
  | .panic _ => False
  | .error _ => True

theorem ok_of_avoids {α : Type} {x : Except Abort α} (hpanic : Avoids isPanic x) (herror : Avoids isError x) :
    ∃ a, x = .ok a := by
  cases x with
  | ok a => exact ⟨a, rfl⟩
  | error e =>
    cases e with
    | panic p => exact absurd trivial hpanic
    | error err => exact absurd trivial herror

theorem unwrap_errorFree {α : Type} (o : Option α) : Avoids isError (unwrap o) := by
  cases o with
  | none => exact fun h => h
  | some a => trivial

theorem sliceRange_errorFree (len first last : ℕ) : Avoids isError (sliceRange len first last) := by
  unfold sliceRange
  rw [avoids_ite]
  exact ⟨fun _ => trivial, fun _ h => h⟩

section Boots
variable {κ ι τ : Type} {lib : Libraries κ ι τ} {host : RunHost} {image : ImageFile} {size : BitVec 64} {vm : Vm}

/-- Once the image is loaded, only building the VM can fail with an error. -/
theorem buildGuest_errorFree {base : BitVec 64} (h : Vm.new host base size = .ok vm) (loaded : LoadedKernel ι)
    (ram : Mem) : Avoids isError (buildGuest lib host base size loaded ram) := by
  simp only [buildGuest, avoids_bind, unwrap_errorFree, sliceRange_errorFree, true_and, h]
  intros
  exact ⟨trivial, fun _ _ => trivial⟩

theorem initHypervisor_boots (hfree : Avoids isPanic (initHypervisor lib host image size)) {kernel : κ}
    (hparses : Parses lib image kernel) (hvm : Vm.new host (host.allocate size) size = .ok vm) :
    ∃ guest, initHypervisor lib host image size = .ok guest := by
  refine ok_of_avoids hfree ?_
  have hload := ((avoids_bind _ _).mp hfree).1
  have hfits := ((loadGuestImage_panicFree lib image size _).mp hload).2 kernel hparses
  unfold initHypervisor
  rw [loadGuestImage_parses lib hparses hfits]
  exact buildGuest_errorFree hvm _ _

/-- Three tables, one for each 2 MiB, and two for each of the APIC pages. -/
theorem vm_new_supplied (hpages : PagesAligned host) {bound : ℕ} (hsupplies : host.tables.Supplies bound)
    {apicAccessPage ioapicPage : BitVec 64} (hapic : host.apicAccessPage = some apicAccessPage)
    (hioapic : host.ioapicPage = some ioapicPage) {base : BitVec 64} (hbase : base.toNat % pageSize = 0)
    (hsize : size.toNat % pageSize = 0)
    (hpts : (size.toNat / pageSize + (entryCount - 1)) / entryCount ≤ entryCount)
    (hroom : 7 + (size.toNat / pageSize + (entryCount - 1)) / entryCount ≤ bound) :
    ∃ vm, Vm.new host base size = .ok vm := by
  obtain ⟨paging, hnew, howned⟩ := Scheme.new_supplied (s := host.scheme) hsupplies host.heap hbase hsize hpts
    (by omega)
  obtain ⟨apicHpa, hapicHpa⟩ := hsupplies.hostPhysical apicAccessPage
  obtain ⟨ioapicHpa, hioapicHpa⟩ := hsupplies.hostPhysical ioapicPage
  have hrep := Scheme.new_represents hnew
  obtain ⟨paging₁, hlapic, howned₁⟩ := Scheme.mapMmio_supplied hsupplies hrep (by omega)
    (by decide : 2 ^ 30 ≤ lapicBase.toNat) (by decide) apicHpa
  have hrep₁ := mapMmio_represents hrep (by decide) (by decide) (hpages.apicAccess _ hapic) (hostPhysical_ok hapicHpa)
    hlapic
  obtain ⟨paging₂, hmap, -⟩ := Scheme.mapMmio_supplied hsupplies hrep₁ (by omega)
    (by decide : 2 ^ 30 ≤ ioapicBase.toNat) (by decide) ioapicHpa
  refine ⟨⟨paging₂, apicHpa, base, size⟩, ?_⟩
  unfold Vm.new
  rw [hnew, ok_bind, hapic, hioapic, orError_ok.mpr rfl, ok_bind, orError_ok.mpr rfl, ok_bind, hapicHpa, ok_bind,
    hlapic]
  dsimp only
  rw [ok_bind, hioapicHpa, ok_bind, hmap]
  rfl

/-- At most 1 GiB takes 519 tables. -/
theorem request_boots {memMib : Option (BitVec 64)} (hpages : PagesAligned host) (hsupplies : host.tables.Supplies 519)
    {apicAccessPage ioapicPage : BitVec 64} (hapic : host.apicAccessPage = some apicAccessPage)
    (hioapic : host.ioapicPage = some ioapicPage) (hsafe : Safe lib host image memMib) {kernel : κ}
    (hparses : Parses lib image kernel) :
    ∃ guest, initHypervisor lib host image (guestSize memMib) = .ok guest := by
  obtain ⟨hmib, hkernel, -⟩ := hsafe.placed kernel hparses
  obtain ⟨-, hsize, hpts⟩ := (guestSize_fits memMib _).mpr ⟨hmib, hkernel⟩
  have hroom : 7 + ((guestSize memMib).toNat / pageSize + (entryCount - 1)) / entryCount ≤ 519 :=
    Nat.add_le_add_left hpts 7
  obtain ⟨vm, hvm⟩ := vm_new_supplied hpages hsupplies hapic hioapic (host.allocate_aligned (guestSize memMib)) hsize
    hpts hroom
  exact initHypervisor_boots ((initHypervisor_panicFree lib host image memMib).mpr hsafe) hparses hvm

end Boots

end Rhyve.Service
