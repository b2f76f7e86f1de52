import Mathlib.Data.List.Nodup
import Mathlib.Data.List.Perm.Subperm
import Rhyve.Paging.Exact

/-! # Tables from a host that has enough of them

`new` and `map_page` fail if the host has no table left or does not know the address of one. On a host that supplies
enough tables they succeed.

* `Host.Supplies`: a number of tables that the host never refuses, and every address is known.
* `Scheme.new_supplied`, `Scheme.mapMmio_supplied`: the two operations on such a host.
* `directHost_supplies`: the host with direct mapping is one.
-/

namespace Rhyve.Paging
open Errors
set_option autoImplicit false

/-- An owner of fewer than `bound` tables gets one more, and every address has a physical one. -/
structure Host.Supplies (host : Host) (bound : ℕ) : Prop where
  alloc : ∀ k live, live.length < bound → host.Grants (.alloc k live)
  lookup : ∀ v, host.Grants (.lookup v)

theorem Host.Supplies.mono {host : Host} {bound bound' : ℕ} (h : host.Supplies bound) (hle : bound' ≤ bound) :
    host.Supplies bound' :=
  ⟨fun k live hlive => h.alloc k live (hlive.trans_le hle), h.lookup⟩

section Supplied
variable {k : Flags} {host : Host} {bound : ℕ} {n : Nested}

theorem Host.Supplies.allocTable (h : host.Supplies bound) {live : List (BitVec 64)} (hlive : live.length < bound)
    (heap : Heap) : ∃ t heap', allocTable host live heap = (some t, heap') := by
  obtain ⟨t, ht⟩ := Option.isSome_iff_exists.mp (h.alloc heap.allocs live hlive)
  unfold Paging.allocTable
  rw [ht]
  exact ⟨_, _, rfl⟩

theorem Host.Supplies.hostPhysical (h : host.Supplies bound) (v : BitVec 64) : ∃ p, hostPhysical host v = .ok p := by
  obtain ⟨p, hp⟩ := Option.isSome_iff_exists.mp (h.lookup v)
  unfold Paging.hostPhysical
  rw [hp]
  exact ⟨p, rfl⟩

theorem fillPt_supplied (h : host.Supplies bound) (guestBase : BitVec 64) (numPages i : ℕ) (js : List ℕ)
    (pt : ℕ → BitVec 64) : ∃ entries, fillPt k host guestBase numPages i js pt = .ok entries := by
  induction js generalizing pt with
  | nil => exact ⟨pt, rfl⟩
  | cons j js ih =>
    rw [fillPt]
    split
    · exact ⟨pt, rfl⟩
    · obtain ⟨hpa, hhpa⟩ := h.hostPhysical (guestBase + BitVec.ofNat 64 ((i * entryCount + j) * pageSize))
      dsimp only
      rw [hhpa, ok_bind]
      exact ih _

/-- The outer loop allocates one table in each round. -/
theorem buildPts_supplied (h : host.Supplies bound) (guestBase : BitVec 64) (numPages : ℕ) (is : List ℕ)
    (hroom : n.owned.length + is.length ≤ bound) (hextra : n.extra = []) :
    ∃ n', buildPts k host guestBase numPages is n = .ok n' ∧ n'.owned.length = n.owned.length + is.length := by
  induction is generalizing n with
  | nil => exact ⟨n, rfl, rfl⟩
  | cons i is ih =>
    rw [List.length_cons] at hroom
    obtain ⟨pt, heap, halloc⟩ := h.allocTable (show n.owned.length < bound by omega) n.heap
    obtain ⟨entries, hentries⟩ := fillPt_supplied (k := k) h guestBase numPages i (List.range entryCount) (heap.cells pt)
    obtain ⟨ptHpa, hptHpa⟩ := h.hostPhysical pt
    rw [buildPts, halloc]
    dsimp only
    rw [hentries, ok_bind, hptHpa, ok_bind]
    generalize hnext : ({ n with
      heap := (heap.fill pt entries).write n.pd i (ptHpa ||| k.table), pts := n.pts ++ [pt] } : Nested) = next
    have hone : next.owned.length = n.owned.length + 1 := by
      rw [← hnext]
      simp [Nested.owned, hextra]
    have hextra' : next.extra = [] := by
      rw [← hnext]
      exact hextra
    obtain ⟨n', hn', hlength⟩ := ih (by omega) hextra'
    refine ⟨n', hn', ?_⟩
    rw [hlength, hone, List.length_cons]
    omega

theorem new_supplied (h : host.Supplies bound) (heap : Heap) {guestBase size : BitVec 64}
    (hbase : guestBase.toNat % pageSize = 0) (hsize : size.toNat % pageSize = 0)
    (hpts : (size.toNat / pageSize + (entryCount - 1)) / entryCount ≤ entryCount)
    (hroom : 3 + (size.toNat / pageSize + (entryCount - 1)) / entryCount ≤ bound) :
    ∃ n, new k host heap guestBase size = .ok n ∧
      n.owned.length = 3 + (size.toNat / pageSize + (entryCount - 1)) / entryCount := by
  have hthree : 3 ≤ bound := (Nat.le_add_right 3 _).trans hroom
  obtain ⟨pml4, heap₁, hpml4⟩ := h.allocTable (show ([] : List (BitVec 64)).length < bound by simp; omega) heap
  obtain ⟨pdpt, heap₂, hpdpt⟩ := h.allocTable (show [pml4].length < bound by simp; omega) heap₁
  obtain ⟨pd, heap₃, hpd⟩ := h.allocTable (show [pml4, pdpt].length < bound by simp; omega) heap₂
  obtain ⟨pdptHpa, hpdptHpa⟩ := h.hostPhysical pdpt
  obtain ⟨pdHpa, hpdHpa⟩ := h.hostPhysical pd
  unfold new
  rw [if_neg (not_not.mpr hbase), if_neg (not_not.mpr hsize)]
  dsimp only
  rw [if_neg (not_not.mpr hpts), hpml4]
  dsimp only
  rw [hpdpt]
  dsimp only
  rw [hpd]
  dsimp only
  rw [hpdptHpa, ok_bind, hpdHpa, ok_bind]
  have hbuild := buildPts_supplied (k := k) (n :=
    { heap := (heap₃.write pml4 0 (pdptHpa ||| k.table)).write pdpt 0 (pdHpa ||| k.table), pml4 := pml4, pdpt := pdpt,
      pd := pd, pts := [], extra := [] }) h guestBase (size.toNat / pageSize)
    (List.range ((size.toNat / pageSize + (entryCount - 1)) / entryCount)) (by rw [List.length_range]; exact hroom) rfl
  rw [List.length_range] at hbuild
  exact hbuild

theorem Host.Supplies.childRequests (h : host.Supplies bound) (hroom : n.owned.length < bound) (parent : BitVec 64)
    (idx : ℕ) : ∀ q ∈ childRequests k host n parent idx, host.Grants q := by
  intro q hq
  unfold Paging.childRequests at hq
  split at hq
  · cases hq
  · split at hq
    · obtain rfl := List.mem_singleton.mp hq
      exact h.alloc _ _ hroom
    · rcases List.mem_cons.mp hq with rfl | hq
      · exact h.alloc _ _ hroom
      · obtain rfl := List.mem_singleton.mp hq
        exact h.lookup _

/-- A step down takes at most one table. -/
theorem childOrAlloc_owned (k : Flags) (host : Host) (n : Nested) (parent : BitVec 64) (idx : ℕ) :
    (childOrAlloc k host n parent idx).2.owned.length ≤ n.owned.length + 1 := by
  unfold childOrAlloc
  dsimp only
  split
  · split
    · exact Nat.le_succ _
    · exact Nat.le_succ _
  · split
    · exact Nat.le_succ _
    · split
      · exact Nat.le_succ _
      · simp [Nested.owned, Nat.add_assoc]

theorem mapPage_owned (k : Flags) (host : Host) (n : Nested) (gpa hpa : BitVec 64) :
    (mapPage k host n gpa hpa).2.owned.length ≤ n.owned.length + 2 := by
  have hfirst := childOrAlloc_owned k host n n.pdpt ((gpa >>> 30) &&& 0x1ff#64).toNat
  unfold mapPage
  split
  · exact Nat.le_add_right _ _
  · split
    · exact Nat.le_add_right _ _
    · dsimp only
      cases hpd : childOrAlloc k host n n.pdpt ((gpa >>> 30) &&& 0x1ff#64).toNat with
      | mk r n₁ =>
        rw [hpd] at hfirst
        dsimp only at hfirst
        cases r with
        | error a => exact hfirst.trans (Nat.le_succ _)
        | ok pd =>
          have hsecond := childOrAlloc_owned k host n₁ pd ((gpa >>> 21) &&& 0x1ff#64).toNat
          dsimp only
          cases hpt : childOrAlloc k host n₁ pd ((gpa >>> 21) &&& 0x1ff#64).toNat with
          | mk r n₂ =>
            rw [hpt] at hsecond
            dsimp only at hsecond
            have hboth : n₂.owned.length ≤ n.owned.length + 2 := by omega
            cases r with
            | error a => exact hboth
            | ok pt => exact hboth

theorem Host.Supplies.mapRequests (h : host.Supplies bound) (hroom : n.owned.length + 1 < bound) (gpa : BitVec 64) :
    ∀ q ∈ mapRequests k host n gpa, host.Grants q := by
  intro q hq
  have hfirst := childOrAlloc_owned k host n n.pdpt ((gpa >>> 30) &&& 0x1ff#64).toNat
  unfold Paging.mapRequests at hq
  dsimp only at hq
  rcases List.mem_append.mp hq with hq | hq
  · exact h.childRequests (by omega) _ _ q hq
  · split at hq
    · cases hq
    · rename_i pd n₁ hpd
      rw [hpd] at hfirst
      dsimp only at hfirst
      exact h.childRequests (by omega) _ _ q hq

end Supplied

section Schemes
variable {s : Scheme} {host : Host} {bound : ℕ}

/-- Three tables, and one for each 2 MiB. -/
theorem Scheme.new_supplied (h : host.Supplies bound) (heap : Heap) {guestBase size : BitVec 64}
    (hbase : guestBase.toNat % pageSize = 0) (hsize : size.toNat % pageSize = 0)
    (hpts : (size.toNat / pageSize + (entryCount - 1)) / entryCount ≤ entryCount)
    (hroom : 3 + (size.toNat / pageSize + (entryCount - 1)) / entryCount ≤ bound) :
    ∃ n, s.new host heap guestBase size = .ok n ∧
      n.owned.length = 3 + (size.toNat / pageSize + (entryCount - 1)) / entryCount := by
  rw [s.new_eq]
  exact Paging.new_supplied h heap hbase hsize hpts hroom

/-- Two more tables are enough for one page. -/
theorem Scheme.mapMmio_supplied (h : host.Supplies bound) {n : Nested} {sp : Space}
    (hrep : Represents s.flags host n sp) (hroom : n.owned.length + 1 < bound) {gpa : BitVec 64}
    (hlow : 2 ^ 30 ≤ gpa.toNat) (hhigh : gpa.toNat < 2 ^ 39) (hpa : BitVec 64) :
    ∃ n', s.mapMmio host n gpa hpa = (.ok (), n') ∧ n'.owned.length ≤ n.owned.length + 2 := by
  obtain ⟨S, hS, -⟩ := hrep
  rw [s.mapMmio_eq]
  have howned := mapPage_owned s.flags host n gpa hpa
  cases hmap : mapPage s.flags host n gpa hpa with
  | mk r n' =>
    rw [hmap] at howned
    obtain ⟨-, -, -, ⟨rfl, -⟩ | ⟨-, ⟨q, hq, hrefused⟩, -⟩⟩ :=
      mapPage_wired hS.toWired (Host.Restricts.refl host) s.flags_ok hlow hhigh hmap
    · exact ⟨n', rfl, howned⟩
    · exact absurd (h.mapRequests hroom gpa q hq) hrefused

end Schemes

/-- The pool has an address that none of fewer than 1024 tables has. -/
theorem directHost_supplies : directHost.Supplies 1024 := by
  refine ⟨?_, fun v => rfl⟩
  intro k live hlive
  show (directHost.allocZeroed k live).isSome = true
  rw [directHost_alloc]
  by_contra hnone
  have hnone := List.find?_eq_none.mp (Option.not_isSome_iff_eq_none.mp hnone)
  have hsub : (List.range 1024).map (fun i => 2 ^ 40 + i * 4096) ⊆ live.map fun u => u.toNat % 2 ^ 52 := by
    intro x hx
    obtain ⟨i, hi, rfl⟩ := List.mem_map.mp hx
    have hlt := List.mem_range.mp hi
    have htaken := hnone _ (mem_tablePool.mpr ⟨i, hlt, rfl⟩)
    simp only [List.all_eq_true, bne_iff_ne, ne_eq, not_forall, not_not] at htaken
    obtain ⟨u, hu, heq⟩ := htaken
    rw [BitVec.toNat_ofNat] at heq
    refine List.mem_map.mpr ⟨u, hu, ?_⟩
    omega
  have hnodup : ((List.range 1024).map fun i => 2 ^ 40 + i * 4096).Nodup := by
    refine List.Nodup.map ?_ List.nodup_range
    intro i j hij
    dsimp only at hij
    omega
  have hlength := (List.Nodup.subperm hnodup hsub).length_le
  rw [List.length_map, List.length_range, List.length_map] at hlength
  omega

end Rhyve.Paging
