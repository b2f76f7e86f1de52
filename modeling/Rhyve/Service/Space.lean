import Rhyve.Paging.Exact
import Rhyve.Service.NoPanic

/-! # The guest-physical address space of a VM (`vm.rs`)

`Vm::new` maps the guest's memory and two pages for the APICs. `Resident` is a VM that has been created, with its
nested-paging pointer.

* `vmSpace`: the address space, page by page. `Resident.represents`: it is what the tables stand for.
* `Resident.resolve_eq`: the processor resolves exactly these pages. `Resident.ram_byte`: it finds the guest's memory
  where the host has it.
* `Resident.view`: the memory of the guest, as a guest-physical address shows it.
-/

namespace Rhyve.Service
open ByteMem Errors PageWalk Paging Words
set_option autoImplicit false

/-- Guest memory, the APIC-access page and the page of the I/O APIC. -/
def vmSpace (host : Host) (guestBase guestSize apicAccessHpa ioapicHpa : BitVec 64) : Space :=
  ((ramSpace host guestBase guestSize).map lapicBase apicAccessHpa).map ioapicBase ioapicHpa

/-- The two pages are aligned, as the type `Page` asks for. -/
structure PagesAligned (host : RunHost) : Prop where
  apicAccess : ∀ p, host.apicAccessPage = some p → p.toNat % pageSize = 0
  ioapic : ∀ p, host.ioapicPage = some p → p.toNat % pageSize = 0

theorem readyHost_pages : PagesAligned readyHost := by
  refine ⟨?_, ?_⟩
  · rintro p ⟨⟩
    decide
  · rintro p ⟨⟩
    decide

def ioapicHpa (host : RunHost) : BitVec 64 := (host.ioapicPage.bind host.tables.virtualToPhysical).getD 0#64

/-- What `Vm::new` has done. -/
structure VmBuilt (host : RunHost) (vm : Vm) : Prop where
  aligned : vm.guestBase.toNat % pageSize = 0 ∧ vm.guestSize.toNat % pageSize = 0
  bound : vm.guestSize.toNat ≤ 2 ^ 30
  resolves : ∀ page, page < vm.guestSize.toNat / pageSize →
    (ramPage host.tables vm.guestBase (vm.guestSize.toNat / pageSize) page).isSome = true
  apicAccess : host.apicAccessPage.bind host.tables.virtualToPhysical = some vm.apicAccessHpa
  represents : Represents host.scheme.flags host.tables vm.paging
    (vmSpace host.tables vm.guestBase vm.guestSize vm.apicAccessHpa (ioapicHpa host))

section New
variable {host : RunHost} {guestBase guestSize : BitVec 64} {vm : Vm}

/-- A mapping of a page beyond the guest's memory that succeeded. -/
theorem mapMmio_represents {s : Scheme} {tables : Host} {n n' : Nested} {sp : Space}
    (h : Represents s.flags tables n sp) {gpa page hpa : BitVec 64} (hlo : 2 ^ 30 ≤ gpa.toNat)
    (hhi : gpa.toNat < 2 ^ 39) (hpage : page.toNat % pageSize = 0)
    (hhpa : tables.virtualToPhysical page = some hpa) (hmap : s.mapMmio tables n gpa hpa = (.ok (), n')) :
    Represents s.flags tables n' (sp.map gpa hpa) := by
  rw [s.mapMmio_eq] at hmap
  rcases mapPage_represents s.flags_ok h hlo hhi (tables.aligned hhpa hpage) hmap with ⟨-, hrep⟩ | ⟨herr, -⟩
  · exact hrep
  · cases herr

theorem vm_new_built (hpages : PagesAligned host) (h : Vm.new host guestBase guestSize = .ok vm) :
    vm.guestBase = guestBase ∧ vm.guestSize = guestSize ∧ VmBuilt host vm := by
  obtain ⟨paging, hnew, h⟩ := bind_ok h
  obtain ⟨apicAccessPage, hapic, h⟩ := bind_ok h
  obtain ⟨ioapicPage, hioapic, h⟩ := bind_ok h
  obtain ⟨apicAccessHpa, hapicHpa, h⟩ := bind_ok h
  have hapic := orError_ok.mp hapic
  have hioapic := orError_ok.mp hioapic
  have hapicHpa := hostPhysical_ok hapicHpa
  have hrep := Scheme.new_represents hnew
  rw [host.scheme.new_eq] at hnew
  obtain ⟨hbase, hsize, hbound, hram, -⟩ := new_built hnew
  cases hlapic : host.scheme.mapMmio host.tables paging lapicBase apicAccessHpa with
  | mk lapic paging₁ =>
    rw [hlapic] at h
    obtain ⟨⟨⟩, hok, h⟩ := bind_ok h
    rw [hok] at hlapic
    have hrep₁ := mapMmio_represents hrep (by decide) (by decide) (hpages.apicAccess _ hapic) hapicHpa hlapic
    obtain ⟨hpa, hhpa, h⟩ := bind_ok h
    have hhpa := hostPhysical_ok hhpa
    cases hmap : host.scheme.mapMmio host.tables paging₁ ioapicBase hpa with
    | mk ioapic paging₂ =>
      rw [hmap] at h
      obtain ⟨⟨⟩, hok, h⟩ := bind_ok h
      rw [hok] at hmap
      have hrep₂ := mapMmio_represents hrep₁ (by decide) (by decide) (hpages.ioapic _ hioapic) hhpa hmap
      have hhpa' : ioapicHpa host = hpa := by
        unfold ioapicHpa
        rw [hioapic, Option.bind_some, hhpa, Option.getD_some]
      obtain rfl := Except.ok.inj h
      refine ⟨rfl, rfl, ⟨hbase, hsize⟩, hbound, hram, ?_, ?_⟩
      · rw [hapic, Option.bind_some, hapicHpa]
      · rw [hhpa']
        exact hrep₂

end New

/-! ## A VM and the memory behind it -/

/-- A VM that has been created, and the pointer its vCPUs get. -/
structure Resident where
  host : RunHost
  pages : PagesAligned host
  vm : Vm
  created : Vm.new host vm.guestBase vm.guestSize = .ok vm
  pointer : BitVec 64
  pointed : host.scheme.pointer host.tables vm.paging = .ok pointer

/-- The host byte behind a guest-physical address. -/
def byteOf (sp : Space) (a : ℕ) : Option ℕ := (sp (a / pageSize)).map fun v => v.toNat + a % pageSize

namespace Resident
variable (r : Resident)

def space : Space :=
  vmSpace r.host.tables r.vm.guestBase r.vm.guestSize r.vm.apicAccessHpa (ioapicHpa r.host)

/-- Physical memory shows the tables of the VM. -/
def Shown (phys : Mem) : Prop := Backs r.host.tables r.vm.paging phys

/-- Where an access of the guest goes; nowhere, if it ends in a nested page fault. -/
def resolve (phys : Mem) (a : ℕ) : Option ℕ :=
  match r.host.scheme.translate phys r.pointer a with
  | .ok t => some t.addr
  | .error _ => none

/-- The host's own access to the guest's buffer. -/
def hostByte (a : ℕ) : Option ℕ :=
  (r.host.tables.virtualToPhysical (r.vm.guestBase + BitVec.ofNat 64 a)).map BitVec.toNat

/-- The guest's memory. Guest-physical addresses have 48 bits. -/
def view (phys : Mem) (a : BitVec 48) : Option (BitVec 8) := (r.resolve phys a.toNat).map phys

variable {r}

theorem built : VmBuilt r.host r.vm := (vm_new_built r.pages r.created).2.2

/-- The processor resolves the pages of the address space and no others. -/
theorem resolve_eq {phys : Mem} (h : r.Shown phys) {a : ℕ} (ha : a < 2 ^ 48) :
    r.resolve phys a = byteOf r.space a := by
  obtain ⟨hsome, hnone⟩ := r.built.represents.translate r.pointed h ha
  unfold resolve byteOf
  cases hpage : r.space (a / pageSize) with
  | none =>
    obtain ⟨l, hl⟩ := hnone hpage
    rw [hl]
    rfl
  | some v =>
    rw [hsome v hpage]
    rfl

/-- The host reaches the guest's memory through its own mapping of the buffer. -/
theorem ram_byte {a : ℕ} (ha : a < r.vm.guestSize.toNat) :
    ∃ pa, r.host.tables.virtualToPhysical (r.vm.guestBase + BitVec.ofNat 64 a) = some pa ∧
      byteOf r.space a = some pa.toNat := by
  have hbuilt := r.built
  obtain ⟨v, pa, hv, hpa, hsum⟩ := ramSpace_byte hbuilt.aligned.1 hbuilt.aligned.2 hbuilt.resolves ha
  have hbound := hbuilt.bound
  have hlapic : a / pageSize ≠ lapicBase.toNat / pageSize := by
    have hpage : lapicBase.toNat / pageSize = 0xFEE00 := by decide
    rw [hpage]
    unfold pageSize
    omega
  have hioapic : a / pageSize ≠ ioapicBase.toNat / pageSize := by
    have hpage : ioapicBase.toNat / pageSize = 0xFEC00 := by decide
    rw [hpage]
    unfold pageSize
    omega
  refine ⟨pa, hpa, ?_⟩
  unfold byteOf space vmSpace Space.map
  rw [Function.update_of_ne hioapic, Function.update_of_ne hlapic, hv, Option.map_some, hsum]

/-- A byte that the guest can reach. -/
def Reaches (r : Resident) (x : ℕ) : Prop := ∃ a : BitVec 48, byteOf r.space a.toNat = some x

/-- The address lies in a page table of the VM. -/
def InTable (r : Resident) (x : ℕ) : Prop :=
  ∃ t ∈ r.vm.paging.owned, ∃ p, r.host.tables.virtualToPhysical t = some p ∧
    p.toNat ≤ x ∧ x < p.toNat + pageSize

def Uses (r : Resident) (x : ℕ) : Prop := r.Reaches x ∨ r.InTable x

/-- The allocations of the VM are apart: no byte backs two guest-physical addresses, and none that backs one is in
a table. -/
structure Separate (r : Resident) : Prop where
  injective : ∀ a b : BitVec 48, ∀ x, byteOf r.space a.toNat = some x → byteOf r.space b.toNat = some x → a = b
  tables : ∀ x, r.Reaches x → ¬ r.InTable x

theorem Shown.congr {phys phys' : Mem} (h : r.Shown phys) (hsame : ∀ x, r.InTable x → phys' x = phys x) :
    r.Shown phys' := by
  intro t p ht hp i hi
  rw [← h t p ht hp i hi]
  apply load64_congr
  intro x hlo hhi
  refine hsame x ⟨t, ht, p, hp, by omega, ?_⟩
  unfold entryCount at hi
  unfold pageSize
  omega

theorem view_eq {phys : Mem} (h : r.Shown phys) (a : BitVec 48) :
    r.view phys a = (byteOf r.space a.toNat).map phys := by
  unfold view
  rw [r.resolve_eq h a.isLt]

theorem view_congr {phys phys' : Mem} (h : r.Shown phys) (h' : r.Shown phys')
    (hsame : ∀ x, r.Reaches x → phys' x = phys x) : r.view phys' = r.view phys := by
  funext a
  rw [view_eq h, view_eq h']
  cases hx : byteOf r.space a.toNat with
  | none => rfl
  | some x => exact congrArg some (hsame x ⟨a, hx⟩)

/-- A write to the byte behind one address, where no byte is behind two. -/
theorem view_update {phys : Mem} {a : BitVec 48} {x : ℕ} {v : BitVec 8} (h : r.Shown phys)
    (h' : r.Shown (Function.update phys x v)) (hx : byteOf r.space a.toNat = some x)
    (hinj : ∀ a b : BitVec 48, ∀ x, byteOf r.space a.toNat = some x → byteOf r.space b.toNat = some x → a = b) :
    r.view (Function.update phys x v) = Function.update (r.view phys) a (some v) := by
  funext b
  rw [view_eq h' b]
  by_cases hb : b = a
  · rw [hb, Function.update_self, hx, Option.map_some, Function.update_self]
  · rw [Function.update_of_ne hb, view_eq h b]
    cases hy : byteOf r.space b.toNat with
    | none => rfl
    | some y =>
      have hyx : y ≠ x := fun heq => hb (hinj b a x (heq ▸ hy) hx)
      rw [Option.map_some, Option.map_some, Function.update_of_ne hyx]

end Resident

end Rhyve.Service
