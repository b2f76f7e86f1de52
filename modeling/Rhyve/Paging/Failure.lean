import Rhyve.Lib.Errors
import Rhyve.Paging.Exact

/-! # Mappings that fail

`map_page` can run out of memory after it has linked a page directory and before it has a page table to go below it.
The half-built path stays, and later calls have to find and use it.

* `Refusals`: the requests that fail during one call; `Scheme.mapRefusing`: calls in sequence, each with its own.
* `EntriesListed`: every table on the way to a page is found in `extra`.
* `SameTranslation`: two states that the processor cannot tell apart.
* `failed_mapping_harmless`: why a call fails, what it leaves, and what repeating it does.
-/

namespace Rhyve.Paging
open Errors Words PageWalk RadixTree ByteMem
set_option autoImplicit false

/-- Allocations are refused by their number, lookups by the page. No call looks a page up twice. -/
structure Refusals where
  alloc : ℕ → Bool
  lookup : ℕ → Bool

/-- The same host, where some allocations and lookups fail. -/
def Host.refusing (host : Host) (r : Refusals) : Host where
  virtualToPhysical v := if r.lookup (v.toNat / 4096) then none else host.virtualToPhysical v
  allocZeroed k live := if r.alloc k then none else host.allocZeroed k live
  v2p_offset := by
    intro v p h
    split at h
    · cases h
    · exact host.v2p_offset h
  v2p_page := by
    intro v w p hpage h
    rw [← hpage]
    split at h
    · cases h
    · rename_i hlookup
      rw [if_neg hlookup]
      exact host.v2p_page hpage h
  v2p_bound := by
    intro v p h
    split at h
    · cases h
    · exact host.v2p_bound h
  alloc_aligned := by
    intro k live t h
    split at h
    · cases h
    · exact host.alloc_aligned h
  alloc_fresh := by
    intro k live t h
    split at h
    · cases h
    · exact host.alloc_fresh h
  alloc_distinct := by
    intro k live t u p h hu ht
    split at h
    · cases h
    split at ht
    · cases ht
    split
    · exact nofun
    · exact host.alloc_distinct h hu ht

theorem Host.refusing_restricts (host : Host) (r : Refusals) : (host.refusing r).Restricts host := by
  constructor
  · intro v p h
    simp only [Host.refusing] at h
    split at h
    · cases h
    · exact h
  · intro k live t h
    simp only [Host.refusing] at h
    split at h
    · cases h
    · exact h

/-- Calls with failing requests. A call that fails keeps what it has linked. -/
def Scheme.mapRefusing (s : Scheme) (host : Host) : Nested → List (Refusals × MapCall) → Nested
  | n, [] => n
  | n, (r, c) :: calls => s.mapRefusing host (s.mapMmio (host.refusing r) n c.gpa c.hpa).2 calls

/-- Beyond the first GiB and below 512 GiB. The host page may be any word. -/
structure MapCall.BeyondRam (c : MapCall) : Prop where
  low : 2 ^ 30 ≤ c.gpa.toNat
  high : c.gpa.toNat < 2 ^ 39

/-! ## The list of tables after `new` -/

theorem buildPts_extra {k : Flags} {host : Host} {guestBase : BitVec 64} {numPages : ℕ} {is : List ℕ} {n n' : Nested}
    (e : buildPts k host guestBase numPages is n = .ok n') : n'.extra = n.extra := by
  induction is generalizing n with
  | nil => rw [← Except.ok.inj e]
  | cons i is ih =>
    rw [buildPts] at e
    split at e
    · cases e
    · obtain ⟨entries, -, e⟩ := bind_ok e
      obtain ⟨ptHpa, -, e⟩ := bind_ok e
      have hrest := ih e
      exact hrest

theorem new_extra {k : Flags} {host : Host} {heap : Heap} {guestBase size : BitVec 64} {n : Nested}
    (e : new k host heap guestBase size = .ok n) : n.extra = [] := by
  unfold new at e
  split at e
  · cases e
  split at e
  · cases e
  dsimp only at e
  split at e
  · cases e
  split at e
  · cases e
  split at e
  · cases e
  split at e
  · cases e
  obtain ⟨pdptHpa, -, e⟩ := bind_ok e
  obtain ⟨pdHpa, -, e⟩ := bind_ok e
  exact buildPts_extra e

/-! ## Whole runs -/

section Run
variable {s : Scheme} {host : Host} {n : Nested} {S : Shape (BitVec 64) (BitVec 64)}

theorem Scheme.mapMmio_wired (h : Wired s.flags host n S) (r : Refusals) {c : MapCall} (hc : c.BeyondRam)
    {res : Except Abort Unit} {n' : Nested} (e : s.mapMmio (host.refusing r) n c.gpa c.hpa = (res, n')) :
    ∃ S', Wired s.flags host n' S' ∧ Grows n n' ∧
      (res = .ok () ∧ (∀ q ∈ mapRequests s.flags (host.refusing r) n c.gpa, (host.refusing r).Grants q) ∧
          S'.val = (S.setLeaf (leafPath 3 c.gpa.toNat []) c.hpa).val ∨
        res = .error (.error .allocationFailed) ∧
          (∃ q ∈ mapRequests s.flags (host.refusing r) n c.gpa, ¬ (host.refusing r).Grants q) ∧ S'.val = S.val) := by
  rw [s.mapMmio_eq] at e
  exact mapPage_wired h (host.refusing_restricts r) s.flags_ok hc.low hc.high e

theorem Grows.pointer {n n' : Nested} (h : Grows n n') (s : Scheme) (host : Host) :
    s.pointer host n' = s.pointer host n := by
  cases s
  · simp only [Scheme.pointer, Ept.eptp, h.pml4]
  · simp only [Scheme.pointer, Npt.ncr3, h.pml4]

theorem Scheme.mapRefusing_invariant {P : Nested → Prop} {Q : MapCall → Prop}
    (hstep : ∀ n r c, P n → Q c → P (s.mapMmio (host.refusing r) n c.gpa c.hpa).2) (h : P n)
    {calls : List (Refusals × MapCall)} (hcalls : ∀ c ∈ calls, Q c.2) : P (s.mapRefusing host n calls) := by
  induction calls generalizing n with
  | nil => exact h
  | cons c calls ih =>
    have hnext := hstep n c.1 c.2 h (hcalls c List.mem_cons_self)
    exact ih hnext fun c' hc' => hcalls c' (List.mem_cons_of_mem c hc')

theorem Scheme.mapRefusing_wired (h : Wired s.flags host n S) (hnodup : (n.extra.map Prod.fst).Nodup)
    {calls : List (Refusals × MapCall)} (hcalls : ∀ c ∈ calls, c.2.BeyondRam) :
    ∃ S', Wired s.flags host (s.mapRefusing host n calls) S' ∧
      ((s.mapRefusing host n calls).extra.map Prod.fst).Nodup := by
  refine Scheme.mapRefusing_invariant
    (P := fun n => ∃ S, Wired s.flags host n S ∧ (n.extra.map Prod.fst).Nodup) ?_ ⟨S, h, hnodup⟩ hcalls
  rintro n r c ⟨S, hS, hdistinct⟩ hc
  obtain ⟨S₁, hS₁, hgrows, -⟩ := Scheme.mapMmio_wired hS r hc rfl
  exact ⟨S₁, hS₁, hgrows.addresses hdistinct⟩

/-- The search by physical address succeeds for the entry of the PDPT, and then for that of the page directory. -/
def EntriesListed (k : Flags) (n : Nested) : Prop :=
  ∀ i3 i2, i3 ≠ 0 → i3 < entryCount → i2 < entryCount → n.heap.cells n.pdpt i3 &&& k.present ≠ 0 →
    ∃ p pd, n.extra.find? (fun q => q.1 == n.heap.cells n.pdpt i3 &&& addrMask) = some (p, pd) ∧
      (n.heap.cells pd i2 &&& k.present ≠ 0 →
        ∃ p' pt, n.extra.find? (fun q => q.1 == n.heap.cells pd i2 &&& addrMask) = some (p', pt))

theorem Wired.entriesListed (h : Wired s.flags host n S) : EntriesListed s.flags n := by
  intro i3 i2 h3 hlt3 hlt2 hpresent
  obtain ⟨pd, hpd, hlink⟩ := (h.present_iff s.flags_ok h.pdpt (by simp) hlt3).mp hpresent
  obtain ⟨p, hfind⟩ := h.find_extra s.flags_ok hpd ⟨i3, h3, Or.inl rfl⟩
  rw [← hlink] at hfind
  refine ⟨p, pd, hfind, fun hpresent' => ?_⟩
  obtain ⟨pt, hpt, hlink'⟩ := (h.present_iff s.flags_ok hpd (by simp) hlt2).mp hpresent'
  obtain ⟨p', hfind'⟩ := h.find_extra s.flags_ok hpt ⟨i3, h3, Or.inr ⟨i2, rfl⟩⟩
  rw [← hlink'] at hfind'
  exact ⟨p', pt, hfind'⟩

/-- Every address translates the same, or in neither state. At which level a walk without a translation ends is not
compared: a linked page directory with nothing below it moves that level. -/
def SameTranslation (s : Scheme) (host : Host) (n n' : Nested) : Prop :=
  ∀ ptr ptr' phys phys', s.pointer host n = .ok ptr → s.pointer host n' = .ok ptr' → Backs host n phys →
    Backs host n' phys' → ∀ a, (s.translate phys' ptr' a).toOption = (s.translate phys ptr a).toOption

theorem Wired.sameTranslation {n' : Nested} {S' : Shape (BitVec 64) (BitVec 64)} (h : Wired s.flags host n S)
    (h' : Wired s.flags host n' S') (hval : S'.val = S.val) : SameTranslation s host n n' := by
  intro ptr ptr' phys phys' hptr hptr' hphys hphys' a
  rw [h.translate hptr hphys, h'.translate hptr' hphys', hval]

end Run

/-- In every state that calls with failing requests lead to: a call fails only if one of its own requests does, and
then no address translates otherwise than before. If all requests of the repeated call are granted it succeeds, and
the addresses translate as if there had been no failed call. -/
theorem failed_mapping_harmless (s : Scheme) (host : Host) (heap : Heap) (guestBase size : BitVec 64) (n₀ : Nested)
    (hnew : s.new host heap guestBase size = .ok n₀) (calls : List (Refusals × MapCall))
    (hcalls : ∀ c ∈ calls, c.2.BeyondRam) (n : Nested) (hn : s.mapRefusing host n₀ calls = n) (r : Refusals)
    (c : MapCall) (hc : c.BeyondRam) (res : Except Abort Unit) (n' : Nested)
    (hmap : s.mapMmio (host.refusing r) n c.gpa c.hpa = (res, n')) :
    ((n.extra.map Prod.fst).Nodup ∧ EntriesListed s.flags n) ∧
    ∀ e, res = .error e →
      (e = .error .allocationFailed ∧
        ∃ q ∈ mapRequests s.flags (host.refusing r) n c.gpa, ¬ (host.refusing r).Grants q) ∧
      (s.pointer host n' = s.pointer host n ∧ SameTranslation s host n n') ∧
      ∀ r₁ res₁ n₁, s.mapMmio (host.refusing r₁) n' c.gpa c.hpa = (res₁, n₁) →
        (∀ q ∈ mapRequests s.flags (host.refusing r₁) n' c.gpa, (host.refusing r₁).Grants q) →
        res₁ = .ok () ∧ ∀ r₂ n₂, s.mapMmio (host.refusing r₂) n c.gpa c.hpa = (.ok (), n₂) →
          SameTranslation s host n₂ n₁ := by
  rw [s.new_eq] at hnew
  have hempty : n₀.extra = [] := new_extra hnew
  obtain ⟨-, -, -, -, S₀, hS₀, -⟩ := new_built hnew
  obtain ⟨S, hS, hnodup⟩ := Scheme.mapRefusing_wired hS₀.toWired (by rw [hempty]; exact List.nodup_nil) hcalls
  rw [hn] at hS hnodup
  refine ⟨⟨hnodup, hS.entriesListed⟩, ?_⟩
  rintro e rfl
  obtain ⟨S', hS', hgrows, ⟨hok, -⟩ | ⟨herr, hrefused, hval⟩⟩ := Scheme.mapMmio_wired hS r hc hmap
  · cases hok
  refine ⟨⟨Except.error.inj herr, hrefused⟩, ⟨hgrows.pointer s host, hS.sameTranslation hS' hval⟩, ?_⟩
  intro r₁ res₁ n₁ hmap₁ hgranted
  obtain ⟨S₁, hS₁, -, ⟨hok₁, -, hval₁⟩ | ⟨-, ⟨q, hq, hnot⟩, -⟩⟩ := Scheme.mapMmio_wired hS' r₁ hc hmap₁
  swap
  · exact absurd (hgranted q hq) hnot
  refine ⟨hok₁, ?_⟩
  intro r₂ n₂ hmap₂
  obtain ⟨S₂, hS₂, -, ⟨-, -, hval₂⟩ | ⟨herr₂, -⟩⟩ := Scheme.mapMmio_wired hS r₂ hc hmap₂
  · refine hS₂.sameTranslation hS₁ ?_
    rw [hval₁, hval₂]
    simp only [Shape.setLeaf, hval]
  · cases herr₂

/-- 76 KiB of guest memory take allocations 0 to 3. The next call gets its page directory, and no page table. -/
def noPageTable : Refusals := ⟨fun k => k == 5, fun _ => false⟩

def granting : Refusals := ⟨fun _ => false, fun _ => false⟩

/-- The local APIC page. -/
def apicCall : MapCall := ⟨0xFEE00000#64, 0x5000#64⟩

/-- The failed call leaves a page directory, and the repeated one uses it. -/
theorem failed_mapping_harmless_retry :
    ∃ n₀ n' n₁ n₂ ptr, Scheme.ept.new directHost emptyHeap 0x200000#64 0x13000#64 = .ok n₀ ∧
      Scheme.ept.mapMmio (directHost.refusing noPageTable) n₀ apicCall.gpa apicCall.hpa =
        (.error (.error .allocationFailed), n') ∧ n'.extra.length = 1 ∧
      Scheme.ept.mapMmio (directHost.refusing granting) n' apicCall.gpa apicCall.hpa = (.ok (), n₁) ∧
      Scheme.ept.mapMmio (directHost.refusing granting) n₀ apicCall.gpa apicCall.hpa = (.ok (), n₂) ∧
      ∀ a, (Scheme.ept.translate (directImage n₁) ptr a).toOption =
        (Scheme.ept.translate (directImage n₂) ptr a).toOption := by
  obtain ⟨n₀, hnew, hsaw⟩ : ∃ n₀, Scheme.ept.new directHost emptyHeap 0x200000#64 0x13000#64 = .ok n₀ ∧
      (let m := Scheme.ept.mapMmio (directHost.refusing noPageTable) n₀ apicCall.gpa apicCall.hpa
      (m.1, m.2.extra.length,
        decide (∀ q ∈ mapRequests Scheme.ept.flags (directHost.refusing granting) m.2 apicCall.gpa,
          (directHost.refusing granting).Grants q),
        (Scheme.ept.mapMmio (directHost.refusing granting) n₀ apicCall.gpa apicCall.hpa).1)) =
      (.error (.error .allocationFailed), 1, true, .ok ()) :=
    ok_of_map (by decide +kernel)
  cases hm : Scheme.ept.mapMmio (directHost.refusing noPageTable) n₀ apicCall.gpa apicCall.hpa with
  | mk res n' =>
    cases hm₂ : Scheme.ept.mapMmio (directHost.refusing granting) n₀ apicCall.gpa apicCall.hpa with
    | mk res₂ n₂ =>
      cases hm₁ : Scheme.ept.mapMmio (directHost.refusing granting) n' apicCall.gpa apicCall.hpa with
      | mk res₁ n₁ =>
        simp only [hm, hm₂, Prod.mk.injEq] at hsaw
        obtain ⟨rfl, hextra, hgranted, rfl⟩ := hsaw
        have hrange : apicCall.BeyondRam := ⟨by decide, by decide⟩
        obtain ⟨-, hfailed⟩ := failed_mapping_harmless .ept directHost emptyHeap 0x200000#64 0x13000#64 n₀ hnew []
          nofun n₀ rfl noPageTable apicCall hrange _ n' hm
        obtain ⟨-, ⟨hptr', -⟩, hretry⟩ := hfailed _ rfl
        obtain ⟨rfl, hsame⟩ := hretry granting res₁ n₁ hm₁ (of_decide_eq_true hgranted)
        rw [Scheme.ept.new_eq] at hnew
        obtain ⟨-, -, -, -, S₀, hS₀, -⟩ := new_built hnew
        obtain ⟨S', hS', -⟩ := Scheme.mapMmio_wired hS₀.toWired noPageTable hrange hm
        obtain ⟨S₁, hS₁, hgrows₁, -⟩ := Scheme.mapMmio_wired hS' granting hrange hm₁
        obtain ⟨S₂, hS₂, hgrows₂, -⟩ := Scheme.mapMmio_wired hS₀.toWired granting hrange hm₂
        obtain ⟨ptr, hptr⟩ := directHost_pointer .ept n₀
        refine ⟨n₀, n', n₁, n₂, ptr, hnew, hm, hextra, hm₁, hm₂, ?_⟩
        exact hsame granting n₂ hm₂ ptr ptr _ _ ((hgrows₂.pointer _ _).trans hptr)
          ((hgrows₁.pointer _ _).trans (hptr'.trans hptr)) hS₂.directImage_backs hS₁.directImage_backs

end Rhyve.Paging
