import Rhyve.Paging.Failure

/-! # The addresses that `map_page` accepts

The two assertions of `map_page` compare 9-bit slices of the address, and the rest of the function uses slices too.
The sixteen bits above the top slice are looked at nowhere.

* `lowAddress`: an address without these bits. `map_page` cannot tell the two apart (`mapPage_low`).
* `MapStep`: what a call with any address does to the tree.
* `MapsOnly`: one page translates to the given host page, and every other address as before.
* `map_page_range_iff`: for which addresses the assertions are the documented interval.
-/

namespace Rhyve.Paging
open Errors Words PageWalk RadixTree ByteMem
set_option autoImplicit false

/-! ## The bits that are looked at -/

def lowAddress (gpa : BitVec 64) : BitVec 64 := BitVec.ofNat 64 (gpa.toNat % 2 ^ 48)

theorem lowAddress_toNat (gpa : BitVec 64) : (lowAddress gpa).toNat = gpa.toNat % 2 ^ 48 := by
  rw [lowAddress, BitVec.toNat_ofNat]
  omega

/-- The four slices that `map_page` takes. -/
theorem slice_low (gpa : BitVec 64) {s : ℕ} (hs : s ∈ [12, 21, 30, 39]) :
    (lowAddress gpa >>> s) &&& 0x1ff#64 = (gpa >>> s) &&& 0x1ff#64 := by
  apply BitVec.eq_of_toNat_eq
  rw [slice_toNat, slice_toNat, lowAddress_toNat]
  simp only [List.mem_cons, List.not_mem_nil, or_false] at hs
  rcases hs with rfl | rfl | rfl | rfl
  · omega
  · omega
  · omega
  · omega

theorem mapPage_low (k : Flags) (host : Host) (n : Nested) (gpa hpa : BitVec 64) :
    mapPage k host n (lowAddress gpa) hpa = mapPage k host n gpa hpa := by
  have h3 := slice_low gpa (s := 39) (by decide)
  have h2 := slice_low gpa (s := 30) (by decide)
  have h1 := slice_low gpa (s := 21) (by decide)
  have h0 := slice_low gpa (s := 12) (by decide)
  simp only [mapPage, h3, h2, h1, h0]

/-- Outside the first GiB and below 512 GiB. -/
def Mappable (a : ℕ) : Prop := 2 ^ 30 ≤ a ∧ a < 2 ^ 39

instance Mappable.decidable (a : ℕ) : Decidable (Mappable a) := inferInstanceAs (Decidable (_ ∧ _))

theorem mapPage_rejects {gpa : BitVec 64} (h : ¬ Mappable (gpa.toNat % 2 ^ 48)) (k : Flags) (host : Host) (n : Nested)
    (hpa : BitVec 64) : ∃ p, mapPage k host n gpa hpa = (.error (.panic p), n) := by
  unfold mapPage
  by_cases habove : (gpa >>> 39) &&& 0x1ff#64 ≠ 0
  · rw [if_pos habove]
    exact ⟨_, rfl⟩
  have hfirst : (gpa >>> 30) &&& 0x1ff#64 = 0 := by
    have hzero := congrArg BitVec.toNat (not_not.mp habove)
    rw [slice_toNat] at hzero
    have hbits : gpa.toNat / 2 ^ 39 % 512 = 0 := hzero
    apply BitVec.eq_of_toNat_eq
    rw [slice_toNat]
    show gpa.toNat / 2 ^ 30 % 512 = 0
    unfold Mappable at h
    omega
  rw [if_neg habove, if_pos hfirst]
  exact ⟨_, rfl⟩

/-! ## Calls with any address -/

/-- A call takes the tree with values `val` to one with values `val'`. -/
inductive MapStep (gpa hpa : BitVec 64) (val val' : List ℕ → Option (BitVec 64)) : Except Abort Unit → Prop
  | rejected (p : Panic) (hrange : ¬ Mappable (gpa.toNat % 2 ^ 48)) (hval : val' = val) :
      MapStep gpa hpa val val' (.error (.panic p))
  | refused (hrange : Mappable (gpa.toNat % 2 ^ 48)) (hval : val' = val) :
      MapStep gpa hpa val val' (.error (.error .allocationFailed))
  | mapped (hrange : Mappable (gpa.toNat % 2 ^ 48))
      (hval : ∀ π, val' π = if π = leafPath 3 (gpa.toNat % 2 ^ 48) [] then some hpa else val π) :
      MapStep gpa hpa val val' (.ok ())

section Calls
variable {s : Scheme} {host : Host} {n n' : Nested} {S : Shape (BitVec 64) (BitVec 64)} {gpa hpa : BitVec 64}
  {res : Except Abort Unit}

theorem Scheme.mapMmio_step (h : Wired s.flags host n S) (r : Refusals)
    (e : s.mapMmio (host.refusing r) n gpa hpa = (res, n')) :
    ∃ S', Wired s.flags host n' S' ∧ Grows n n' ∧ MapStep gpa hpa S.val S'.val res := by
  by_cases hrange : Mappable (gpa.toNat % 2 ^ 48)
  · have hlow : s.mapMmio (host.refusing r) n (lowAddress gpa) hpa = (res, n') := by
      rw [s.mapMmio_eq, mapPage_low, ← s.mapMmio_eq]
      exact e
    have hbeyond : MapCall.BeyondRam ⟨lowAddress gpa, hpa⟩ := by
      refine ⟨?_, ?_⟩
      · rw [lowAddress_toNat]
        exact hrange.1
      · rw [lowAddress_toNat]
        exact hrange.2
    obtain ⟨S', hS', hgrows, ⟨rfl, -, hval⟩ | ⟨rfl, -, hval⟩⟩ := Scheme.mapMmio_wired h r hbeyond hlow
    · refine ⟨S', hS', hgrows, .mapped hrange fun π => ?_⟩
      rw [hval, Shape.setLeaf, lowAddress_toNat]
    · exact ⟨S', hS', hgrows, .refused hrange hval⟩
  · obtain ⟨p, hp⟩ := mapPage_rejects hrange s.flags (host.refusing r) n hpa
    rw [← s.mapMmio_eq, e] at hp
    obtain ⟨rfl, rfl⟩ := Prod.mk.inj hp
    exact ⟨S, h, ⟨rfl, id⟩, .rejected p hrange rfl⟩

theorem Scheme.mapRefusing_reaches (h : Wired s.flags host n S) (calls : List (Refusals × MapCall)) :
    ∃ S', Wired s.flags host (s.mapRefusing host n calls) S' := by
  refine Scheme.mapRefusing_invariant (P := fun n => ∃ S, Wired s.flags host n S) (Q := fun _ => True) ?_ ⟨S, h⟩
    fun _ _ => trivial
  rintro n r c ⟨S, hS⟩ -
  obtain ⟨S', hS', -⟩ := Scheme.mapMmio_step hS r rfl
  exact ⟨S', hS'⟩

end Calls

/-! ## What is mapped -/

/-- The four levels cover 48 address bits. A guest-physical address with a higher bit set does not translate. -/
def Scheme.translateGuest (s : Scheme) (phys : Mem) (ptr : BitVec 64) (a : ℕ) : Option Translation :=
  if a < 2 ^ 48 then (s.translate phys ptr a).toOption else none

/-- From `n` to `n'` the page of `gpa` is mapped to the host page `hpa`, and no other address translates otherwise. -/
def MapsOnly (s : Scheme) (host : Host) (n n' : Nested) (gpa : ℕ) (hpa : BitVec 64) : Prop :=
  ∀ ptr ptr' phys phys', s.pointer host n = .ok ptr → s.pointer host n' = .ok ptr' → Backs host n phys →
    Backs host n' phys' → ∀ a, s.translateGuest phys' ptr' a =
      if a / pageSize = gpa / pageSize then some ⟨hpa.toNat + a % pageSize, Perm.all⟩
      else s.translateGuest phys ptr a

theorem Scheme.resolve_leaf (s : Scheme) {hpa : BitVec 64} (hal : Aligned hpa) (a : ℕ) :
    (resolve s.format (hpa ||| s.flags.leaf) Perm.all a : Except NestedFault Translation) =
      .ok ⟨hpa.toNat + a % pageSize, Perm.all⟩ := by
  obtain ⟨hpresent, hvalid, hframe, hperm⟩ := s.leaf_decodes hal
  have hpage := hal.page
  rw [resolve_page hpresent hvalid, pageAt, hframe, hperm, Perm.meet_all]
  congr 2
  unfold pageSize
  omega

theorem Wired.mapsOnly {s : Scheme} {host : Host} {n n' : Nested} {S S' : Shape (BitVec 64) (BitVec 64)} {gpa : ℕ}
    {hpa : BitVec 64} (h : Wired s.flags host n S) (h' : Wired s.flags host n' S') (hgpa : gpa < 2 ^ 48)
    (hal : Aligned hpa) (hval : ∀ π, S'.val π = if π = leafPath 3 gpa [] then some hpa else S.val π) :
    MapsOnly s host n n' gpa hpa := by
  intro ptr ptr' phys phys' hptr hptr' hphys hphys' a
  unfold Scheme.translateGuest
  by_cases ha : a < 2 ^ 48
  · rw [if_pos ha, if_pos ha, h.translate hptr hphys, h'.translate hptr' hphys', hval]
    have hpath := leafPath_inj ha hgpa
    by_cases hpage : a / pageSize = gpa / pageSize
    · rw [if_pos (hpath.mpr hpage), if_pos hpage, Option.bind_some, s.resolve_leaf hal]
      rfl
    · rw [if_neg (mt hpath.mp hpage), if_neg hpage]
  · have hother : a / pageSize ≠ gpa / pageSize := by
      unfold pageSize
      omega
    rw [if_neg ha, if_neg ha, if_neg hother]

/-- No assertion of `map_page` fails. -/
def Passes (res : Except Abort Unit) : Prop := ∀ p, res ≠ .error (.panic p)

/-- The assertions are the interval that the documentation gives, and a call that succeeds maps the page asked for. -/
structure MapsAsDocumented (s : Scheme) (host : Host) (n n' : Nested) (gpa hpa : BitVec 64) (res : Except Abort Unit) :
    Prop where
  asserts : Passes res ↔ Mappable gpa.toNat
  maps : res = .ok () → MapsOnly s host n n' gpa.toNat hpa

theorem MapStep.passes_iff {gpa hpa : BitVec 64} {val val' : List ℕ → Option (BitVec 64)} {res : Except Abort Unit}
    (h : MapStep gpa hpa val val' res) : Passes res ↔ Mappable (gpa.toNat % 2 ^ 48) := by
  cases h with
  | rejected p hrange _ => exact iff_of_false (fun hpass => hpass p rfl) hrange
  | refused hrange _ => exact iff_of_true nofun hrange
  | mapped hrange _ => exact iff_of_true nofun hrange

/-- In every state that calls with any addresses lead to, and for every address: a call that succeeds maps the page at
the address without its upper sixteen bits. So `map_page` does what is documented if and only if these bits are 0, or
an assertion fails for another reason. -/
theorem map_page_range_iff (s : Scheme) (host : Host) (heap : Heap) (guestBase size : BitVec 64) (n₀ : Nested)
    (hnew : s.new host heap guestBase size = .ok n₀) (calls : List (Refusals × MapCall)) (n : Nested)
    (hn : s.mapRefusing host n₀ calls = n) (r : Refusals) (gpa hpa : BitVec 64) (hal : Aligned hpa)
    (res : Except Abort Unit) (n' : Nested) (hmap : s.mapMmio (host.refusing r) n gpa hpa = (res, n')) :
    (res = .ok () → MapsOnly s host n n' (gpa.toNat % 2 ^ 48) hpa) ∧
    (MapsAsDocumented s host n n' gpa hpa res ↔
      gpa.toNat < 2 ^ 48 ∨ ¬ Mappable (gpa.toNat % 2 ^ 48)) := by
  rw [s.new_eq] at hnew
  obtain ⟨-, -, -, -, S₀, hS₀, -⟩ := new_built hnew
  obtain ⟨S, hS⟩ := Scheme.mapRefusing_reaches hS₀.toWired calls
  rw [hn] at hS
  obtain ⟨S', hS', -, hstep⟩ := Scheme.mapMmio_step hS r hmap
  have hmaps : res = .ok () → MapsOnly s host n n' (gpa.toNat % 2 ^ 48) hpa := by
    rintro rfl
    cases hstep with
    | mapped hrange hval => exact hS.mapsOnly hS' (by omega) hal hval
  refine ⟨hmaps, ?_, ?_⟩
  · intro hdoc
    by_contra hnot
    obtain ⟨hhigh, hrange⟩ := not_or.mp hnot
    have hin : Mappable gpa.toNat := hdoc.asserts.mp (hstep.passes_iff.mpr (not_not.mp hrange))
    unfold Mappable at hin
    omega
  · have hpasses := hstep.passes_iff
    rintro (hlow | hrange)
    · rw [Nat.mod_eq_of_lt hlow] at hpasses hmaps
      exact ⟨hpasses, hmaps⟩
    · have hfails : ¬ Passes res := mt hpasses.mp hrange
      refine ⟨iff_of_false hfails ?_, ?_⟩
      · intro hin
        apply hrange
        unfold Mappable at hin ⊢
        omega
      · rintro rfl
        exact absurd nofun hfails

/-- The page of the local APIC. -/
theorem map_page_range_iff_apic :
    ∃ n n', Scheme.ept.new directHost emptyHeap 0x200000#64 0x13000#64 = .ok n ∧
      Scheme.ept.mapMmio (directHost.refusing granting) n 0xFEE00000#64 0x5000#64 = (.ok (), n') ∧
      MapsAsDocumented .ept directHost n n' 0xFEE00000#64 0x5000#64 (.ok ()) := by
  obtain ⟨n, hnew, hok⟩ : ∃ n, Scheme.ept.new directHost emptyHeap 0x200000#64 0x13000#64 = .ok n ∧
      (Scheme.ept.mapMmio (directHost.refusing granting) n 0xFEE00000#64 0x5000#64).1 = .ok () :=
    ok_of_map (by decide +kernel)
  have hmap : Scheme.ept.mapMmio (directHost.refusing granting) n 0xFEE00000#64 0x5000#64 = (.ok (), _) :=
    Prod.ext hok rfl
  obtain ⟨-, hiff⟩ := map_page_range_iff .ept directHost emptyHeap 0x200000#64 0x13000#64 n hnew [] n rfl granting
    0xFEE00000#64 0x5000#64 ⟨by decide, by decide⟩ _ _ hmap
  exact ⟨n, _, hnew, hmap, hiff.mpr (.inl (by decide))⟩

/-- An address with bit 48 set. The call succeeds, and it is the page of the local APIC that is mapped. -/
theorem high_address_aliased :
    ∃ n n' ptr, Scheme.ept.new directHost emptyHeap 0x200000#64 0x13000#64 = .ok n ∧
      Scheme.ept.mapMmio (directHost.refusing granting) n 0x10000FEE00000#64 0x5000#64 = (.ok (), n') ∧
      Scheme.ept.translateGuest (directImage n) ptr 0xFEE00000 = none ∧
      Scheme.ept.translateGuest (directImage n') ptr 0xFEE00000 = some ⟨0x5000, Perm.all⟩ ∧
      ¬ MapsAsDocumented .ept directHost n n' 0x10000FEE00000#64 0x5000#64 (.ok ()) := by
  obtain ⟨n, hnew, hok⟩ : ∃ n, Scheme.ept.new directHost emptyHeap 0x200000#64 0x13000#64 = .ok n ∧
      (Scheme.ept.mapMmio (directHost.refusing granting) n 0x10000FEE00000#64 0x5000#64).1 = .ok () :=
    ok_of_map (by decide +kernel)
  have hmap : Scheme.ept.mapMmio (directHost.refusing granting) n 0x10000FEE00000#64 0x5000#64 = (.ok (), _) :=
    Prod.ext hok rfl
  obtain ⟨S, hS, -⟩ := Scheme.new_represents hnew
  obtain ⟨S', hS', hgrows, hstep⟩ := Scheme.mapMmio_step hS.toWired granting hmap
  obtain ⟨ptr, hptr⟩ := directHost_pointer .ept n
  have hptr' := (hgrows.pointer .ept directHost).trans hptr
  have hbefore : Scheme.ept.translateGuest (directImage n) ptr 0xFEE00000 = none := by
    have hnone : ramSpace directHost 0x200000#64 0x13000#64 (0xFEE00000 / pageSize) = none :=
      ramSpace_none (by decide) (by decide)
    have hspace := (Scheme.new_represents hnew).translate hptr hS.toWired.directImage_backs (a := 0xFEE00000) (by decide)
    obtain ⟨l, hl⟩ := hspace.2 hnone
    rw [Scheme.translateGuest, if_pos (by decide), hl]
    rfl
  refine ⟨n, _, ptr, hnew, hmap, hbefore, ?_, ?_⟩
  · cases hstep with
    | mapped _ hval =>
      have hmaps := hS.toWired.mapsOnly hS' (by decide) ⟨by decide, by decide⟩ hval ptr ptr _ _ hptr hptr'
        hS.toWired.directImage_backs hS'.directImage_backs 0xFEE00000
      exact hmaps
  · intro hdoc
    exact absurd (hdoc.asserts.mp nofun) (by decide)

end Rhyve.Paging
