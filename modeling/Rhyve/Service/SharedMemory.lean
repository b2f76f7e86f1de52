import Rhyve.Lib.Machine
import Rhyve.Service.Space

/-! # The memory that guests share

One physical memory holds all VMs, their memories and their nested page tables, and every access of a guest is
resolved through tables in that same memory. VMs are created and dropped in any order, and their accesses interleave
in any way with each other and with what the host does to the rest of the memory.

* `shared`: this machine. `apart`: the same events, with a memory of its own for every guest.
* `Sound`: what the host has to see to. A new VM gets memory that no other VM has, and the host leaves alone what
  a VM has.
* `shared_step`: every event keeps the two machines together.

The accessed bits that the processor sets while it walks the tables are not modelled.
-/

namespace Rhyve.Service
open ByteMem Machine Paging
set_option autoImplicit false

/-- The memory of a guest; `none` where an access ends in a nested page fault. -/
abbrev GuestMemory := BitVec 48 → Option (BitVec 8)

/-- What happens to the memory of a host with several VMs. -/
inductive MemoryEvent where
  /-- A VM starts, with this memory. -/
  | boot (id : ℕ) (r : Resident) (image : GuestMemory)
  | drop (id : ℕ)
  /-- The host leaves physical memory like this. -/
  | host (phys : Mem)
  /-- The host stores into the buffer of a guest, as for the result of a hypercall. -/
  | serve (id : ℕ) (a : BitVec 48) (v : BitVec 8)
  | write (id : ℕ) (a : BitVec 48) (v : BitVec 8)
  | read (id : ℕ) (a : BitVec 48)

/-- What an access of a guest is answered with; other events have no answer. -/
abbrev Answer := Option (BitVec 8)

/-- The VMs, and the physical memory that holds them and their tables. -/
structure SharedMemory where
  residents : ℕ → Option Resident
  phys : Mem

/-- Accesses of a guest go through its tables in physical memory, and those of the host to the buffer of the
guest. -/
def shared (s : SharedMemory) : MemoryEvent → Option SharedMemory × List Answer
  | .boot id r _ => (some { s with residents := Function.update s.residents id (some r) }, [])
  | .drop id => (some { s with residents := Function.update s.residents id none }, [])
  | .host phys => (some { s with phys := phys }, [])
  | .serve id a v =>
    match (s.residents id).bind fun r => r.hostByte a.toNat with
    | none => (some s, [])
    | some x => (some { s with phys := Function.update s.phys x v }, [])
  | .write id a v =>
    match (s.residents id).bind fun r => r.resolve s.phys a.toNat with
    | none => (some s, [none])
    | some x => (some { s with phys := Function.update s.phys x v }, [some v])
  | .read id a => (some s, [(s.residents id).bind fun r => r.view s.phys a])

/-- A store to the memory of one guest, where it has memory. -/
def storeApart (m : ℕ → Option GuestMemory) (id : ℕ) (a : BitVec 48) (v : BitVec 8) :
    (ℕ → Option GuestMemory) × Answer :=
  match m id with
  | none => (m, none)
  | some memory =>
    match memory a with
    | none => (m, none)
    | some _ => (Function.update m id (some (Function.update memory a (some v))), some v)

/-- The same events, where every guest has a memory of its own. What the host does elsewhere does not matter. -/
def apart (m : ℕ → Option GuestMemory) : MemoryEvent → Option (ℕ → Option GuestMemory) × List Answer
  | .boot id _ image => (some (Function.update m id (some image)), [])
  | .drop id => (some (Function.update m id none), [])
  | .host _ => (some m, [])
  | .serve id a v => (some (storeApart m id a v).1, [])
  | .write id a v => (some (storeApart m id a v).1, [(storeApart m id a v).2])
  | .read id a => (some m, [(m id).bind fun memory => memory a])

/-- A VM starts under an unused id, in memory that is its own and holds its tables and its image. The host changes
only bytes that no VM uses, and what it stores for a guest goes into the guest's buffer. -/
def Sound (s : SharedMemory) : MemoryEvent → Prop
  | .boot id r image => s.residents id = none ∧ r.Shown s.phys ∧ r.Separate ∧
    (∀ id' r', s.residents id' = some r' → ∀ x, r.Uses x → ¬ r'.Uses x) ∧ r.view s.phys = image
  | .host phys => ∀ id r, s.residents id = some r → ∀ x, r.Uses x → phys x = s.phys x
  | .serve id a _ => ∀ r, s.residents id = some r → a.toNat < r.vm.guestSize.toNat
  | _ => True

/-! ## One step -/

/-- Every VM has memory that is its own, and the guests' own memories are what they see in it. -/
structure Follows (residents : ℕ → Option Resident) (phys : Mem) (m : ℕ → Option GuestMemory) : Prop where
  shown : ∀ {id r}, residents id = some r → r.Shown phys
  separate : ∀ {id r}, residents id = some r → r.Separate
  disjoint : ∀ {id id' r r'}, id ≠ id' → residents id = some r → residents id' = some r' →
    ∀ x, r.Uses x → ¬ r'.Uses x
  views : ∀ id, m id = (residents id).map fun r => r.view phys

namespace Follows
variable {residents : ℕ → Option Resident} {phys : Mem} {m : ℕ → Option GuestMemory}

/-- Memory changes where no VM has its memory. -/
theorem host (h : Follows residents phys m) {phys' : Mem}
    (hsame : ∀ id r, residents id = some r → ∀ x, r.Uses x → phys' x = phys x) : Follows residents phys' m := by
  have hshown : ∀ {id r}, residents id = some r → r.Shown phys' := by
    intro id r hr
    exact (h.shown hr).congr fun x hx => hsame id r hr x (.inr hx)
  refine ⟨hshown, h.separate, h.disjoint, ?_⟩
  intro id
  rw [h.views id]
  cases hr : residents id with
  | none => rw [Option.map_none, Option.map_none]
  | some r =>
    have hview := Resident.view_congr (h.shown hr) (hshown hr) fun x hx => hsame id r hr x (.inl hx)
    rw [Option.map_some, Option.map_some, hview]

theorem drop (h : Follows residents phys m) (id : ℕ) :
    Follows (Function.update residents id none) phys (Function.update m id none) := by
  have hold : ∀ {k r}, Function.update residents id none k = some r → residents k = some r := by
    intro k r hr
    by_cases hk : k = id
    · rw [hk, Function.update_self] at hr
      cases hr
    · rwa [Function.update_of_ne hk] at hr
  refine ⟨fun hr => h.shown (hold hr), fun hr => h.separate (hold hr),
    fun hne hr hr' => h.disjoint hne (hold hr) (hold hr'), ?_⟩
  intro k
  by_cases hk : k = id
  · rw [hk, Function.update_self, Function.update_self]
    rfl
  · rw [Function.update_of_ne hk, Function.update_of_ne hk]
    exact h.views k

theorem boot (h : Follows residents phys m) {id : ℕ} {r : Resident} (hshown : r.Shown phys) (hseparate : r.Separate)
    (hdisjoint : ∀ id' r', residents id' = some r' → ∀ x, r.Uses x → ¬ r'.Uses x) :
    Follows (Function.update residents id (some r)) phys (Function.update m id (some (r.view phys))) := by
  have hcases : ∀ {k r'}, Function.update residents id (some r) k = some r' →
      k = id ∧ r' = r ∨ k ≠ id ∧ residents k = some r' := by
    intro k r' hr
    by_cases hk : k = id
    · rw [hk, Function.update_self] at hr
      exact .inl ⟨hk, (Option.some.inj hr).symm⟩
    · rw [Function.update_of_ne hk] at hr
      exact .inr ⟨hk, hr⟩
  refine ⟨?_, ?_, ?_, ?_⟩
  · intro k r' hr
    rcases hcases hr with ⟨-, rfl⟩ | ⟨-, hr⟩
    · exact hshown
    · exact h.shown hr
  · intro k r' hr
    rcases hcases hr with ⟨-, rfl⟩ | ⟨-, hr⟩
    · exact hseparate
    · exact h.separate hr
  · intro k k' r₁ r₂ hne hr₁ hr₂ x hx hx'
    rcases hcases hr₁ with ⟨hk, rfl⟩ | ⟨-, hold₁⟩
    · rcases hcases hr₂ with ⟨hk', -⟩ | ⟨-, hold₂⟩
      · exact hne (hk.trans hk'.symm)
      · exact hdisjoint k' r₂ hold₂ x hx hx'
    · rcases hcases hr₂ with ⟨-, rfl⟩ | ⟨-, hold₂⟩
      · exact hdisjoint k r₁ hold₁ x hx' hx
      · exact h.disjoint hne hold₁ hold₂ x hx hx'
  · intro k
    by_cases hk : k = id
    · rw [hk, Function.update_self, Function.update_self, Option.map_some]
    · rw [Function.update_of_ne hk, Function.update_of_ne hk]
      exact h.views k

/-- Memory changes where one guest reaches it: no table is written, and the others see what they saw. -/
theorem rewrite (h : Follows residents phys m) {id : ℕ} {r : Resident} (hr : residents id = some r) {phys' : Mem}
    (hsame : ∀ x, ¬ r.Reaches x → phys' x = phys x) :
    Follows residents phys' (Function.update m id (some (r.view phys'))) := by
  have hother : ∀ {k r'}, k ≠ id → residents k = some r' → ∀ x, r'.Uses x → phys' x = phys x := by
    intro k r' hk hr' x hx
    exact hsame x fun hreach => h.disjoint (Ne.symm hk) hr hr' x (.inl hreach) hx
  have htable : ∀ {k r'}, residents k = some r' → ∀ x, r'.InTable x → phys' x = phys x := by
    intro k r' hr' x hin
    by_cases hk : k = id
    · rw [hk, hr, Option.some.injEq] at hr'
      rw [← hr'] at hin
      exact hsame x fun hreach => (h.separate hr).tables x hreach hin
    · exact hother hk hr' x (.inr hin)
  have hshown : ∀ {k r'}, residents k = some r' → r'.Shown phys' := fun hr' => (h.shown hr').congr (htable hr')
  refine ⟨hshown, h.separate, h.disjoint, ?_⟩
  intro k
  by_cases hk : k = id
  · rw [hk, Function.update_self, hr, Option.map_some]
  · rw [Function.update_of_ne hk, h.views k]
    cases hr' : residents k with
    | none => rw [Option.map_none, Option.map_none]
    | some r' =>
      have hview := Resident.view_congr (h.shown hr') (hshown hr') fun x hx => hother hk hr' x (.inl hx)
      rw [Option.map_some, Option.map_some, hview]

/-- A guest writes to a byte that it reaches: its own view changes at one address. -/
theorem write (h : Follows residents phys m) {id : ℕ} {r : Resident} (hr : residents id = some r) {a : BitVec 48}
    {x : ℕ} (hx : byteOf r.space a.toNat = some x) (v : BitVec 8) :
    Follows residents (Function.update phys x v)
      (Function.update m id (some (Function.update (r.view phys) a (some v)))) := by
  have hwritten : Follows residents (Function.update phys x v)
      (Function.update m id (some (r.view (Function.update phys x v)))) := by
    apply h.rewrite hr
    intro y hy
    have hne : y ≠ x := fun hyx => hy ⟨a, hyx ▸ hx⟩
    exact Function.update_of_ne hne v phys
  rw [Resident.view_update (h.shown hr) (hwritten.shown hr) hx (h.separate hr).injective] at hwritten
  exact hwritten

theorem store_none (h : Follows residents phys m) {id : ℕ} (hr : residents id = none) (a : BitVec 48) (v : BitVec 8) :
    storeApart m id a v = (m, none) := by
  have hm := h.views id
  rw [hr, Option.map_none] at hm
  unfold storeApart
  rw [hm]

theorem store_unmapped (h : Follows residents phys m) {id : ℕ} {r : Resident} (hr : residents id = some r)
    {a : BitVec 48} (hx : byteOf r.space a.toNat = none) (v : BitVec 8) : storeApart m id a v = (m, none) := by
  have hm := h.views id
  rw [hr, Option.map_some] at hm
  unfold storeApart
  rw [hm]
  dsimp only
  rw [Resident.view_eq (h.shown hr), hx, Option.map_none]

theorem store_some (h : Follows residents phys m) {id : ℕ} {r : Resident} (hr : residents id = some r)
    {a : BitVec 48} {x : ℕ} (hx : byteOf r.space a.toNat = some x) (v : BitVec 8) :
    storeApart m id a v = (Function.update m id (some (Function.update (r.view phys) a (some v))), some v) := by
  have hm := h.views id
  rw [hr, Option.map_some] at hm
  unfold storeApart
  rw [hm]
  dsimp only
  rw [Resident.view_eq (h.shown hr), hx, Option.map_some]

end Follows

theorem shared_step {s : SharedMemory} {m : ℕ → Option GuestMemory} (h : Follows s.residents s.phys m)
    (e : MemoryEvent) (hsound : Sound s e) :
    (shared s e).2 = (apart m e).2 ∧
      Option.Rel (fun s m => Follows s.residents s.phys m) (shared s e).1 (apart m e).1 := by
  cases e with
  | boot id r image =>
    obtain ⟨-, hshown, hseparate, hdisjoint, rfl⟩ := hsound
    exact ⟨rfl, .some (h.boot hshown hseparate hdisjoint)⟩
  | drop id => exact ⟨rfl, .some (h.drop id)⟩
  | host phys => exact ⟨rfl, .some (h.host hsound)⟩
  | read id a =>
    refine ⟨?_, .some h⟩
    show [_] = [_]
    rw [h.views id]
    cases s.residents id <;> rfl
  | serve id a v =>
    cases hr : s.residents id with
    | none =>
      unfold shared apart
      dsimp only
      rw [hr, h.store_none hr]
      exact ⟨rfl, .some h⟩
    | some r =>
      obtain ⟨pa, hpa, hx⟩ := Resident.ram_byte (hsound r hr)
      have hbyte : r.hostByte a.toNat = some pa.toNat := by
        unfold Resident.hostByte
        rw [hpa, Option.map_some]
      unfold shared apart
      dsimp only
      rw [hr, Option.bind_some, hbyte, h.store_some hr hx]
      exact ⟨rfl, .some (h.write hr hx v)⟩
  | write id a v =>
    cases hr : s.residents id with
    | none =>
      unfold shared apart
      dsimp only
      rw [hr, h.store_none hr]
      exact ⟨rfl, .some h⟩
    | some r =>
      unfold shared apart
      dsimp only
      rw [hr, Option.bind_some, Resident.resolve_eq (h.shown hr) a.isLt]
      cases hx : byteOf r.space a.toNat with
      | none =>
        rw [h.store_unmapped hr hx]
        exact ⟨rfl, .some h⟩
      | some x =>
        rw [h.store_some hr hx]
        exact ⟨rfl, .some (h.write hr hx v)⟩

end Rhyve.Service
