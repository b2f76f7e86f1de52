import Rhyve.Lib.Errors
import Rhyve.Paging.Wired

/-! # The tables of `Ept` and `Npt` as a guest-physical address space

The abstract model of nested paging is a `Space`: which host page backs each guest page. Guest memory
gives the initial space, `map_page` replaces one page of it.

* `buildPts_wired`, `new_built`: the tables that `new` builds.
* `Represents`: the tables stand for a space. `new_represents` and `mapPage_represents` say for which.
-/

namespace Rhyve.Paging
open Errors Words PageWalk RadixTree
set_option autoImplicit false

/-! ## Construction -/

section New
variable {k : Flags} {host : Host} {guestBase : BitVec 64} {numPages : ℕ}

/-- The host page behind guest page `page`, for the pages of guest memory. -/
def ramPage (host : Host) (guestBase : BitVec 64) (numPages page : ℕ) : Option (BitVec 64) :=
  if page < numPages then host.virtualToPhysical (guestBase + BitVec.ofNat 64 (page * pageSize))
  else none

/-- The inner loop from entry `j` on: the entries below `j` are kept, the others are filled with the
pages of guest memory, or stay blank beyond its end. -/
theorem fillPt_entries {i : ℕ} : ∀ (m j : ℕ) (pt pt' : ℕ → BitVec 64), j + m = entryCount →
    (∀ x, j ≤ x → pt x = 0) →
    fillPt k host guestBase numPages i (List.range' j m) pt = .ok pt' →
    (∀ x, x < j → pt' x = pt x) ∧
    (∀ x, j ≤ x → x < entryCount →
      pt' x = (ramPage host guestBase numPages (i * entryCount + x)).elim 0 (fun v => v ||| k.leaf) ∧
      (i * entryCount + x < numPages →
        (ramPage host guestBase numPages (i * entryCount + x)).isSome)) := by
  intro m
  induction m with
  | zero =>
    intro j pt pt' hj _ e
    simp only [List.range'_zero, fillPt, Except.ok.injEq] at e
    subst e
    exact ⟨fun _ _ => rfl, fun x h1 h2 => absurd h2 (by omega)⟩
  | succ m ih =>
    intro j pt pt' hj hzero e
    rw [List.range'_succ, fillPt] at e
    by_cases hend : numPages ≤ i * entryCount + j
    · -- the `break`: every later page lies beyond guest memory too
      simp only [hend, if_true, Except.ok.injEq] at e
      subst e
      refine ⟨fun _ _ => rfl, fun x h1 _ => ⟨?_, fun h => absurd h (by omega)⟩⟩
      have hnone : ramPage host guestBase numPages (i * entryCount + x) = none := by
        rw [ramPage, if_neg (by omega)]
      rw [hnone, hzero x h1]
      rfl
    · simp only [hend, if_false] at e
      obtain ⟨hpa, hph, e⟩ := bind_ok e
      have hj' : ramPage host guestBase numPages (i * entryCount + j) = some hpa := by
        rw [ramPage, if_pos (by omega)]
        exact hostPhysical_ok hph
      obtain ⟨hlow, hhigh⟩ := ih (j + 1) _ pt' (by omega)
        (fun x hx => by rw [Function.update_of_ne (by omega)]; exact hzero x (by omega)) e
      refine ⟨fun x hx => ?_, fun x h1 h2 => ?_⟩
      · rw [hlow x (by omega), Function.update_of_ne (by omega)]
      · by_cases hx : x = j
        · subst hx
          rw [hlow x (by omega), Function.update_self, hj']
          exact ⟨rfl, fun _ => rfl⟩
        · exact hhigh x (by omega) h2

/-- The values of the tree after `i` page tables. -/
def ramVal (host : Host) (guestBase : BitVec 64) (numPages i : ℕ) : List ℕ → Option (BitVec 64)
  | [x, y, 0, 0] => if y < i then ramPage host guestBase numPages (y * entryCount + x) else none
  | _ => none

theorem ramVal_succ (i j : ℕ) (ρ : List ℕ) :
    ramVal host guestBase numPages (i + 1) (j :: ρ) =
      if ρ = [i, 0, 0] then ramPage host guestBase numPages (i * entryCount + j)
      else ramVal host guestBase numPages i (j :: ρ) := by
  by_cases e : ρ = [i, 0, 0]
  · subst e
    simp [ramVal]
  · rw [if_neg e]
    unfold ramVal
    split
    · rename_i x y heq
      obtain ⟨rfl, rfl⟩ := List.cons.inj heq
      have hy : y ≠ i := fun h => e (by rw [h])
      by_cases hlt : y < i
      · rw [if_pos hlt, if_pos (by omega)]
      · rw [if_neg hlt, if_neg (by omega)]
    · rfl

theorem ramPage_aligned (hbase : guestBase.toNat % pageSize = 0) {page : ℕ} {v : BitVec 64}
    (h : ramPage host guestBase numPages page = some v) : Aligned v := by
  unfold ramPage at h
  split at h
  · apply Host.aligned h
    rw [BitVec.toNat_add, BitVec.toNat_ofNat]
    unfold pageSize at hbase ⊢
    omega
  · cases h

theorem ramVal_aligned (hbase : guestBase.toNat % pageSize = 0) {i : ℕ} {π : List ℕ} {v : BitVec 64}
    (h : ramVal host guestBase numPages i π = some v) : Aligned v := by
  unfold ramVal at h
  split at h
  · split at h
    · exact ramPage_aligned hbase h
    · cases h
  · cases h

/-- The tree after page table `i` has been attached, `pt` with the pages of guest memory from
`i * entryCount` on. -/
theorem attach_ramVal {S : Shape (BitVec 64) (BitVec 64)} {i : ℕ} (pt : BitVec 64)
    (hval : S.val = ramVal host guestBase numPages i) :
    (S.attach [i, 0, 0] pt (fun j => ramPage host guestBase numPages (i * entryCount + j))).val =
      ramVal host guestBase numPages (i + 1) := by
  funext π
  cases π with
  | nil =>
    have hnil := congrFun hval []
    simpa [Shape.attach, ramVal] using hnil
  | cons j ρ =>
    rw [ramVal_succ]
    by_cases hρ : ρ = [i, 0, 0]
    · rw [if_pos hρ, hρ, Shape.attach_val_cons]
    · rw [if_neg hρ, Shape.attach_val_ne S pt _ j hρ, hval]

/-- One page table of the outer loop, filled and then linked from the page directory. -/
theorem Wired.hang_pt {n : Nested} {S : Shape (BitVec 64) (BitVec 64)} {i : ℕ} {heap : Heap}
    {pt ptHpa : BitVec 64} {entries : ℕ → BitVec 64} (h : Wired k host n S)
    (hpd : S.loc [0, 0] = some n.pd) (hfree : S.loc [i, 0, 0] = none)
    (ha : allocTable host n.owned n.heap = (some pt, heap)) (hph : hostPhysical host pt = .ok ptHpa)
    (hentries : ∀ j, j < entryCount → entries j =
      (ramPage host guestBase numPages (i * entryCount + j)).elim 0 (fun v => v ||| k.leaf)) :
    Wired k host { n with
        heap := (heap.fill pt entries).write n.pd i (ptHpa ||| k.table)
        pts := n.pts ++ [pt] }
      (S.attach [i, 0, 0] pt (fun j => ramPage host guestBase numPages (i * entryCount + j))) := by
  refine h.hang hpd (by simp) hfree (allocTable_fresh ha) (hostPhysical_ok hph)
    (fun hl => absurd hl (by simp)) (fun _ j hj => hentries j hj) rfl rfl rfl ?_ (fun q hq => hq)
    (fun q hq => Or.inl hq) ?_
  · intro u
    simp only [Nested.owned, List.mem_cons, List.mem_append, List.not_mem_nil, or_false]
    tauto
  · rintro ⟨i3, h3, h | ⟨i2, h⟩⟩
    · simp at h
    · simp only [List.cons.injEq] at h
      omega

/-- The outer loop from page table `i` on. -/
theorem buildPts_wired {n n' : Nested} {S : Shape (BitVec 64) (BitVec 64)} {i m : ℕ}
    (him : i + m ≤ entryCount) (h : Wired k host n S) (hpd : S.loc [0, 0] = some n.pd)
    (hfree : ∀ y, i ≤ y → S.loc [y, 0, 0] = none)
    (hval : S.val = ramVal host guestBase numPages i)
    (hram : ∀ page, page < i * entryCount → page < numPages →
      (ramPage host guestBase numPages page).isSome)
    (e : buildPts k host guestBase numPages (List.range' i m) n = .ok n') :
    ∃ S', Wired k host n' S' ∧ S'.val = ramVal host guestBase numPages (i + m) ∧
      ∀ page, page < (i + m) * entryCount → page < numPages →
        (ramPage host guestBase numPages page).isSome := by
  induction m generalizing i n S with
  | zero =>
    simp only [List.range'_zero, buildPts, Except.ok.injEq] at e
    subst e
    exact ⟨S, h, hval, hram⟩
  | succ m ih =>
    rw [List.range'_succ, buildPts] at e
    cases ha : allocTable host n.owned n.heap with
    | mk res heap =>
      cases res with
      | none => simp [ha] at e
      | some pt =>
        simp only [ha] at e
        obtain ⟨entries, hf, e⟩ := bind_ok e
        obtain ⟨ptHpa, hph, e⟩ := bind_ok e
        rw [List.range_eq_range'] at hf
        obtain ⟨-, hentries⟩ := fillPt_entries entryCount 0 (heap.cells pt) entries (by omega)
          (fun x _ => by rw [(allocTable_fresh ha).zeroed]) hf
        have hstep := h.hang_pt hpd (hfree i (le_refl i)) ha hph
          (fun j hj => (hentries j (by omega) hj).1)
        have hpd' := (Shape.attach_loc_ne S pt
          (fun j => ramPage host guestBase numPages (i * entryCount + j))
          (by simp : [0, 0] ≠ [i, 0, 0])).trans hpd
        have hfree' : ∀ y, i + 1 ≤ y → (S.attach [i, 0, 0] pt
            (fun j => ramPage host guestBase numPages (i * entryCount + j))).loc [y, 0, 0] = none := by
          intro y hy
          have hne : [y, 0, 0] ≠ [i, 0, 0] := by
            simp only [ne_eq, List.cons.injEq]
            omega
          rw [Shape.attach_loc_ne S pt _ hne]
          exact hfree y (by omega)
        have hram' : ∀ page, page < (i + 1) * entryCount → page < numPages →
            (ramPage host guestBase numPages page).isSome := by
          intro page h1 h2
          by_cases hp : page < i * entryCount
          · exact hram page hp h2
          · have hin := (hentries (page - i * entryCount) (by omega)
              (by unfold entryCount at *; omega)).2
            have hadd : i * entryCount + (page - i * entryCount) = page := by omega
            rw [hadd] at hin
            exact hin h2
        have hnext := ih (by omega) hstep hpd' hfree' (attach_ramVal pt hval) hram' e
        have him' : i + 1 + m = i + (m + 1) := by omega
        rwa [him'] at hnext

/-- The tree before the first page table: PML4, PDPT and page directory, one link each. -/
def trunk (pml4 pdpt pd : BitVec 64) : Shape (BitVec 64) (BitVec 64) :=
  ((⟨fun π => if π = [] then some pml4 else none, fun _ => none⟩ :
    Shape (BitVec 64) (BitVec 64)).attach [0] pdpt (fun _ => none)).attach [0, 0] pd (fun _ => none)

theorem trunk_loc (pml4 pdpt pd : BitVec 64) (π : List ℕ) :
    (trunk pml4 pdpt pd).loc π =
      if π = [0, 0] then some pd else if π = [0] then some pdpt
      else if π = [] then some pml4 else none := rfl

theorem trunk_val (pml4 pdpt pd : BitVec 64) (π : List ℕ) : (trunk pml4 pdpt pd).val π = none := by
  simp [trunk, Shape.attach]

/-- Linking a zeroed table that is not yet part of the tree. -/
theorem link_holds {heap : Heap} {S : Shape (BitVec 64) (BitVec 64)} {π : List ℕ} {i : ℕ}
    {p t a : BitVec 64} (h : Holds (encoding k host) 4 heap.cells S) (hp : S.loc π = some p)
    (hπ : π.length + 1 < 4) (hfree : S.loc (i :: π) = none) (hfresh : ∀ π', S.loc π' ≠ some t)
    (hv2p : host.virtualToPhysical t = some a) (hzero : heap.cells t = fun _ => 0) :
    Holds (encoding k host) 4 (heap.write p i (a ||| k.table)).cells
      (S.attach (i :: π) t (fun _ => none)) := by
  have htp : t ≠ p := fun e => hfresh π (e ▸ hp)
  apply h.attach hp hπ hfree hfresh
  · rw [Heap.write_self, encoding_link hv2p]
  · exact fun j hj => Heap.write_entry_ne _ _ _ hj
  · exact fun u j hu _ => Heap.write_table_ne _ _ _ _ hu
  · refine fun _ => ⟨fun _ => rfl, fun j _ => ?_⟩
    rw [Heap.write_table_ne _ _ _ _ htp, hzero]
    rfl
  · intro _ j _
    rw [Heap.write_table_ne _ _ _ _ htp, hzero]
    rfl

theorem trunk_holds {heap₀ heap₁ heap₂ heap₃ : Heap} {pml4 pdpt pd pdptHpa pdHpa : BitVec 64}
    (h₁ : Fresh host [] heap₀ heap₁ pml4) (h₂ : Fresh host [pml4] heap₁ heap₂ pdpt)
    (h₃ : Fresh host [pml4, pdpt] heap₂ heap₃ pd)
    (e₁ : host.virtualToPhysical pdpt = some pdptHpa) (e₂ : host.virtualToPhysical pd = some pdHpa) :
    Holds (encoding k host) 4
      ((heap₃.write pml4 0 (pdptHpa ||| k.table)).write pdpt 0 (pdHpa ||| k.table)).cells
      (trunk pml4 pdpt pd) := by
  have hne₁ : pdpt ≠ pml4 := fun e => h₂.notLive (by simp [e])
  have hne₂ : pd ≠ pml4 := fun e => h₃.notLive (by simp [e])
  have hne₃ : pd ≠ pdpt := fun e => h₃.notLive (by simp [e])
  have hz₁ : heap₃.cells pml4 = fun _ => 0 := by
    rw [h₃.others hne₂.symm, h₂.others hne₁.symm, h₁.zeroed]
  have hz₂ : heap₃.cells pdpt = fun _ => 0 := by rw [h₃.others hne₃.symm, h₂.zeroed]
  have hroot : Holds (encoding k host) 4 heap₃.cells
      (⟨fun π => if π = [] then some pml4 else none, fun _ => none⟩ :
        Shape (BitVec 64) (BitVec 64)) := by
    refine ⟨?_, ?_, ?_, fun _ => by simp, fun _ => rfl⟩
    · intro π π' t h h'
      by_cases e : π = [] <;> by_cases e' : π' = [] <;> simp_all
    · intro π t i h _ _
      by_cases e : π = []
      · simp only [e, if_true, Option.some.injEq] at h
        subst h
        simp [hz₁, encoding]
      · simp [e] at h
    · intro π t i h hl _
      by_cases e : π = []
      · simp [e] at hl
      · simp [e] at h
  have hloc : (⟨fun π => if π = [] then some pml4 else none, fun _ => none⟩ :
      Shape (BitVec 64) (BitVec 64)).loc [] = some pml4 := rfl
  have hpdpt := link_holds (i := 0) hroot hloc (by simp) (by simp)
    (fun π' => by by_cases e : π' = [] <;> simp [e, hne₁.symm]) e₁ hz₂
  have hzero : (heap₃.write pml4 0 (pdptHpa ||| k.table)).cells pd = fun _ => 0 := by
    funext j
    rw [Heap.write_table_ne _ _ _ _ hne₂, h₃.zeroed]
  refine link_holds hpdpt (Shape.attach_loc_self _ _ _ _) (by simp) ?_ ?_ e₂ hzero
  · simp [Shape.attach]
  · intro π'
    by_cases e : π' = [0]
    · simp [Shape.attach, e, hne₃.symm]
    · by_cases e' : π' = [] <;> simp [Shape.attach, e, e', hne₂.symm]

theorem trunk_wired {heap₀ heap₁ heap₂ heap₃ : Heap} {pml4 pdpt pd pdptHpa pdHpa : BitVec 64}
    (h₁ : Fresh host [] heap₀ heap₁ pml4) (h₂ : Fresh host [pml4] heap₁ heap₂ pdpt)
    (h₃ : Fresh host [pml4, pdpt] heap₂ heap₃ pd)
    (e₁ : host.virtualToPhysical pdpt = some pdptHpa) (e₂ : host.virtualToPhysical pd = some pdHpa) :
    Wired k host
      { heap := (heap₃.write pml4 0 (pdptHpa ||| k.table)).write pdpt 0 (pdHpa ||| k.table)
        pml4 := pml4, pdpt := pdpt, pd := pd, pts := [], extra := [] }
      (trunk pml4 pdpt pd) := by
  have hcase : ∀ {π t}, (trunk pml4 pdpt pd).loc π = some t →
      (π = [0, 0] ∧ t = pd) ∨ (π = [0] ∧ t = pdpt) ∨ (π = [] ∧ t = pml4) := by
    intro π t h
    rw [trunk_loc] at h
    split_ifs at h with hp hq hr
    · exact Or.inl ⟨hp, (Option.some.inj h).symm⟩
    · exact Or.inr (Or.inl ⟨hq, (Option.some.inj h).symm⟩)
    · exact Or.inr (Or.inr ⟨hr, (Option.some.inj h).symm⟩)
  refine ⟨trunk_holds h₁ h₂ h₃ e₁ e₂, rfl, rfl, ?_, ?_, ?_, ?_, ?_, ?_⟩
  · intro π t h
    rcases hcase h with ⟨-, rfl⟩ | ⟨-, rfl⟩ | ⟨-, rfl⟩ <;> simp [Nested.owned]
  · intro i π t h
    rcases hcase h with ⟨-, rfl⟩ | ⟨-, rfl⟩ | ⟨hπ, -⟩
    · exact ⟨pdHpa, e₂, Host.aligned e₂ h₃.allocated.aligned⟩
    · exact ⟨pdptHpa, e₁, Host.aligned e₁ h₂.allocated.aligned⟩
    · cases hπ
  · intro t u p ht hu hp hp'
    simp only [Nested.owned, List.map_nil, List.append_nil, List.mem_cons, List.not_mem_nil,
      or_false] at ht hu
    rcases ht with rfl | rfl | rfl <;> rcases hu with rfl | rfl | rfl
    · rfl
    · exact absurd hp (h₂.distinct (by simp) hp')
    · exact absurd hp (h₃.distinct (by simp) hp')
    · exact absurd hp' (h₂.distinct (by simp) hp)
    · rfl
    · exact absurd hp (h₃.distinct (by simp) hp')
    · exact absurd hp' (h₃.distinct (by simp) hp)
    · exact absurd hp' (h₃.distinct (by simp) hp)
    · rfl
  · rintro π t h ⟨i3, h3, hπ | ⟨i2, hπ⟩⟩
    · rcases hcase h with ⟨rfl, -⟩ | ⟨rfl, -⟩ | ⟨rfl, -⟩
      · exact absurd (List.cons.inj hπ).1.symm h3
      · simp at hπ
      · cases hπ
    · rcases hcase h with ⟨rfl, -⟩ | ⟨rfl, -⟩ | ⟨rfl, -⟩ <;> simp at hπ
  · intro p t h
    cases h
  · intro t ht
    simp only [Nested.owned, List.map_nil, List.append_nil, List.mem_cons, List.not_mem_nil,
      or_false] at ht
    rcases ht with rfl | rfl | rfl
    · exact h₁.allocated
    · exact h₂.allocated
    · exact h₃.allocated

/-- `new` succeeds only on guest memory that one page directory can map, and with every page of it
resolved by the host. -/
theorem new_built {heap : Heap} {size : BitVec 64} {n : Nested}
    (e : new k host heap guestBase size = .ok n) :
    guestBase.toNat % pageSize = 0 ∧ size.toNat % pageSize = 0 ∧ size.toNat ≤ 2 ^ 30 ∧
      (∀ page, page < size.toNat / pageSize →
        (ramPage host guestBase (size.toNat / pageSize) page).isSome) ∧
      ∃ S, Built k host n S ∧
        S.val = ramVal host guestBase (size.toNat / pageSize)
          ((size.toNat / pageSize + (entryCount - 1)) / entryCount) := by
  unfold new at e
  by_cases hbase : guestBase.toNat % pageSize = 0
  swap
  · simp [hbase] at e
  by_cases hsize : size.toNat % pageSize = 0
  swap
  · simp [hbase, hsize] at e
  by_cases hpts : (size.toNat / pageSize + (entryCount - 1)) / entryCount ≤ entryCount
  swap
  · simp [hbase, hsize, hpts] at e
  simp only [hbase, hsize, hpts, ne_eq, not_true_eq_false, if_false] at e
  cases a₁ : allocTable host [] heap with
  | mk r₁ heap₁ =>
    cases r₁ with
    | none => simp [a₁] at e
    | some pml4 =>
      simp only [a₁] at e
      cases a₂ : allocTable host [pml4] heap₁ with
      | mk r₂ heap₂ =>
        cases r₂ with
        | none => simp [a₂] at e
        | some pdpt =>
          simp only [a₂] at e
          cases a₃ : allocTable host [pml4, pdpt] heap₂ with
          | mk r₃ heap₃ =>
            cases r₃ with
            | none => simp [a₃] at e
            | some pd =>
              simp only [a₃] at e
              obtain ⟨pdptHpa, p₁, e⟩ := bind_ok e
              obtain ⟨pdHpa, p₂, e⟩ := bind_ok e
              rw [List.range_eq_range'] at e
              have htrunk := trunk_wired (k := k) (allocTable_fresh a₁) (allocTable_fresh a₂)
                (allocTable_fresh a₃) (hostPhysical_ok p₁) (hostPhysical_ok p₂)
              obtain ⟨S, hS, hval, hram⟩ := buildPts_wired (by omega) htrunk rfl
                (fun y _ => by simp [trunk_loc])
                (by funext π; rw [trunk_val]; unfold ramVal; split <;> simp)
                (fun page hp => absurd hp (by omega)) e
              rw [Nat.zero_add] at hval hram
              refine ⟨hbase, hsize, ?_, fun page hp => hram page ?_ hp, S, ⟨hS, fun hv => ?_⟩, hval⟩
              · unfold pageSize entryCount at *
                omega
              · unfold pageSize entryCount at *
                omega
              · rw [hval] at hv
                exact ramVal_aligned hbase hv

end New

/-! ## Address spaces -/

/-- The host page behind each guest page. -/
abbrev Space := ℕ → Option (BitVec 64)

def ramSpace (host : Host) (guestBase size : BitVec 64) : Space :=
  ramPage host guestBase (size.toNat / pageSize)

def Space.map (sp : Space) (gpa hpa : BitVec 64) : Space :=
  Function.update sp (gpa.toNat / pageSize) (some hpa)

/-- The tables stand for the address space. -/
def Represents (k : Flags) (host : Host) (n : Nested) (sp : Space) : Prop :=
  ∃ S, Built k host n S ∧ ∀ a, a < 2 ^ 48 → S.val (leafPath 3 a []) = sp (a / pageSize)

theorem leafPath_eq (a : ℕ) :
    leafPath 3 a [] =
      [a / 2 ^ 12 % 512, a / 2 ^ 21 % 512, a / 2 ^ 30 % 512, a / 2 ^ 39 % 512] := rfl

theorem leafPath_inj {a b : ℕ} (ha : a < 2 ^ 48) (hb : b < 2 ^ 48) :
    leafPath 3 a [] = leafPath 3 b [] ↔ a / pageSize = b / pageSize := by
  unfold pageSize
  rw [leafPath_eq, leafPath_eq]
  simp only [List.cons.injEq, and_true]
  constructor
  · rintro ⟨h0, h1, h2, h3⟩
    omega
  · intro h
    omega

theorem ramVal_leafPath {host : Host} {guestBase : BitVec 64} {numPages a : ℕ} (ha : a < 2 ^ 48)
    (hn : numPages ≤ 2 ^ 18) :
    ramVal host guestBase numPages ((numPages + (entryCount - 1)) / entryCount) (leafPath 3 a []) =
      ramPage host guestBase numPages (a / pageSize) := by
  rw [leafPath_eq]
  by_cases hlow : a < 2 ^ 30
  · have h2 : a / 2 ^ 30 % 512 = 0 := by omega
    have h3 : a / 2 ^ 39 % 512 = 0 := by omega
    have hpage : a / 2 ^ 21 % 512 * entryCount + a / 2 ^ 12 % 512 = a / pageSize := by
      unfold entryCount pageSize
      omega
    rw [h2, h3, ramVal, hpage]
    by_cases hin : a / 2 ^ 21 % 512 < (numPages + (entryCount - 1)) / entryCount
    · rw [if_pos hin]
    · rw [if_neg hin, ramPage, if_neg]
      unfold entryCount pageSize at *
      omega
  · have hout : ¬ a / pageSize < numPages := by
      unfold pageSize
      omega
    rw [ramPage, if_neg hout]
    unfold ramVal
    split
    · rename_i x y heq
      simp only [List.cons.injEq] at heq
      omega
    · rfl

theorem new_represents {k : Flags} {host : Host} {heap : Heap} {guestBase size : BitVec 64}
    {n : Nested} (e : new k host heap guestBase size = .ok n) :
    Represents k host n (ramSpace host guestBase size) := by
  obtain ⟨-, -, hsize, -, S, hS, hval⟩ := new_built e
  refine ⟨S, hS, fun a ha => ?_⟩
  rw [hval]
  exact ramVal_leafPath ha (by unfold pageSize; omega)

theorem mapPage_represents {k : Flags} {host : Host} {n n' : Nested} {sp : Space} (hk : k.Ok)
    (h : Represents k host n sp) {gpa hpa : BitVec 64} (hlo : 2 ^ 30 ≤ gpa.toNat)
    (hhi : gpa.toNat < 2 ^ 39) (hal : Aligned hpa) {r : Except Abort Unit}
    (e : mapPage k host n gpa hpa = (r, n')) :
    (r = .ok () ∧ Represents k host n' (sp.map gpa hpa)) ∨
      (r = .error (.error .allocationFailed) ∧ Represents k host n' sp) := by
  obtain ⟨S, hS, hval⟩ := h
  obtain ⟨S', hS', -, hcase⟩ := mapPage_wired hS.toWired (.refl host) hk hlo hhi e
  rcases hcase with ⟨hr, -, hv⟩ | ⟨hr, -, hv⟩
  · refine Or.inl ⟨hr, S', ⟨hS', ?_⟩, fun a ha => ?_⟩
    · intro π w hw
      rw [hv] at hw
      by_cases hpath : π = leafPath 3 gpa.toNat []
      · obtain rfl : hpa = w := by simpa [Shape.setLeaf, hpath] using hw
        exact hal
      · exact hS.values (by simpa [Shape.setLeaf, hpath] using hw)
    · have hpath := leafPath_inj ha (by omega : gpa.toNat < 2 ^ 48)
      rw [hv]
      unfold Shape.setLeaf Space.map
      by_cases hp : a / pageSize = gpa.toNat / pageSize
      · simp only [hpath.mpr hp, if_true]
        rw [hp, Function.update_self]
      · simp only [mt hpath.mp hp, if_false]
        rw [Function.update_of_ne hp, hval a ha]
  · refine Or.inr ⟨hr, S', ⟨hS', ?_⟩, fun a ha => by rw [hv]; exact hval a ha⟩
    intro π w hw
    rw [hv] at hw
    exact hS.values hw

end Rhyve.Paging
