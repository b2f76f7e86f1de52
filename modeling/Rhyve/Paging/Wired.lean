import Rhyve.Paging.Tables

/-! # The tables of `Ept` and `Npt` as a radix tree

`Wired` is the invariant that ties the table heap, the `extra` list and the physical entries together: the heap spells
out a radix tree, every linked table has a physical address of its own, and every table below the first GiB's entry of
the PDPT is listed in `extra`. `Built` says of the mapped pages too that they are host pages.

* `Host.Restricts`: a host that answers fewer requests. The steps keep the invariant also if such a host is asked.
* `childRequests`, `mapRequests`: what one call asks the host for.
* `ChildStep`: the branches of `child_or_alloc`.
* `childOrAlloc_wired`, `mapPage_wired`: what a call does to the tree, and why it fails.
-/

namespace Rhyve.Paging
open Words PageWalk RadixTree
set_option autoImplicit false

/-! ## Heap accesses -/

@[simp] theorem Heap.write_self (h : Heap) (t : BitVec 64) (i : ℕ) (e : BitVec 64) :
    (h.write t i e).cells t i = e := by
  simp [Heap.write]

theorem Heap.write_entry_ne (h : Heap) (t : BitVec 64) {i j : ℕ} (e : BitVec 64) (hj : j ≠ i) :
    (h.write t i e).cells t j = h.cells t j := by
  simp [Heap.write, hj]

theorem Heap.write_table_ne (h : Heap) {t u : BitVec 64} (i j : ℕ) (e : BitVec 64) (hu : u ≠ t) :
    (h.write t i e).cells u j = h.cells u j := by
  simp [Heap.write, hu]

@[simp] theorem Heap.fill_self (h : Heap) (t : BitVec 64) (es : ℕ → BitVec 64) :
    (h.fill t es).cells t = es := by
  simp [Heap.fill]

theorem Heap.fill_ne (h : Heap) {t u : BitVec 64} (es : ℕ → BitVec 64) (hu : u ≠ t) :
    (h.fill t es).cells u = h.cells u := by
  simp [Heap.fill, hu]

def Allocated (host : Host) (t : BitVec 64) : Prop := ∃ k live, host.allocZeroed k live = some t

theorem Allocated.aligned {host : Host} {t : BitVec 64} (h : Allocated host t) :
    t.toNat % 4096 = 0 := by
  obtain ⟨k, live, ht⟩ := h
  exact host.alloc_aligned ht

/-- The host gives no other answers than `host`, but may fail where `host` does not. -/
structure Host.Restricts (host' host : Host) : Prop where
  v2p : ∀ {v p}, host'.virtualToPhysical v = some p → host.virtualToPhysical v = some p
  alloc : ∀ {k live t}, host'.allocZeroed k live = some t → host.allocZeroed k live = some t

theorem Host.Restricts.refl (host : Host) : host.Restricts host := ⟨id, id⟩

/-- A successful allocation: a zeroed table, apart from every live one. -/
structure Fresh (host : Host) (live : List (BitVec 64)) (h h' : Heap) (t : BitVec 64) : Prop where
  notLive : t ∉ live
  distinct : ∀ {u p}, u ∈ live → host.virtualToPhysical t = some p → host.virtualToPhysical u ≠ some p
  allocated : Allocated host t
  zeroed : h'.cells t = fun _ => 0
  others : ∀ {u}, u ≠ t → h'.cells u = h.cells u

theorem allocTable_some {host host' : Host} (hsub : host'.Restricts host) {live : List (BitVec 64)} {h h' : Heap}
    {t : BitVec 64} (e : allocTable host' live h = (some t, h')) :
    Fresh host live h h' t ∧ host'.allocZeroed h.allocs live = some t := by
  unfold allocTable at e
  cases ha : host'.allocZeroed h.allocs live with
  | none => simp [ha] at e
  | some u =>
    simp only [ha, Prod.mk.injEq, Option.some.injEq] at e
    obtain ⟨rfl, rfl⟩ := e
    have ha' := hsub.alloc ha
    exact ⟨⟨host.alloc_fresh ha', host.alloc_distinct ha', ⟨_, _, ha'⟩, Heap.fill_self h u _,
      fun hu => Heap.fill_ne h _ hu⟩, rfl⟩

theorem allocTable_fresh {host : Host} {live : List (BitVec 64)} {h h' : Heap} {t : BitVec 64}
    (e : allocTable host live h = (some t, h')) : Fresh host live h h' t :=
  (allocTable_some (.refl host) e).1

theorem allocTable_none {host : Host} {live : List (BitVec 64)} {h h' : Heap}
    (e : allocTable host live h = (none, h')) :
    h'.cells = h.cells ∧ host.allocZeroed h.allocs live = none := by
  unfold allocTable at e
  cases ha : host.allocZeroed h.allocs live with
  | none =>
    simp only [ha, Prod.mk.injEq, true_and] at e
    rw [← e]
    exact ⟨rfl, rfl⟩
  | some u => simp [ha] at e

theorem hostPhysical_ok {host : Host} {p pa : BitVec 64} (e : hostPhysical host p = .ok pa) :
    host.virtualToPhysical p = some pa := by
  unfold hostPhysical at e
  cases h : host.virtualToPhysical p with
  | none => simp [h] at e
  | some q => simpa [h] using e

theorem hostPhysical_error {host : Host} {p : BitVec 64} {a : Abort}
    (e : hostPhysical host p = .error a) :
    a = .error .allocationFailed ∧ host.virtualToPhysical p = none := by
  unfold hostPhysical at e
  cases h : host.virtualToPhysical p with
  | none => exact ⟨by simpa [h, eq_comm] using e, rfl⟩
  | some q => simp [h] at e

theorem Host.aligned {host : Host} {v p : BitVec 64} (h : host.virtualToPhysical v = some p)
    (hv : v.toNat % 4096 = 0) : Aligned p :=
  ⟨(host.v2p_offset h).trans hv, host.v2p_bound h⟩

/-! ## The invariant -/

/-- The entries a scheme writes: zero, the physical address of a table, a host page. -/
def encoding (k : Flags) (host : Host) : Encoding (BitVec 64) (BitVec 64) where
  blank := 0
  link := fun t => (host.virtualToPhysical t).getD 0 ||| k.table
  leaf := fun v => v ||| k.leaf

/-- Flags that `child_or_alloc` can test: they stay in the low bits and mark an entry present. -/
structure Flags.Ok (k : Flags) : Prop where
  present_lt : k.present.toNat < 4096
  table_lt : k.table.toNat < 4096
  leaf_lt : k.leaf.toNat < 4096
  table_present : k.table &&& k.present ≠ 0

theorem Scheme.flags_ok (s : Scheme) : s.flags.Ok := by
  cases s <;> exact ⟨by decide, by decide, by decide, by decide⟩

/-- Paths of the tables that `map_page` hangs below the PDPT. -/
def Mmio (π : List ℕ) : Prop := ∃ i3, i3 ≠ 0 ∧ (π = [i3, 0] ∨ ∃ i2, π = [i2, i3, 0])

/-- The tables apart from the host pages they map. -/
structure Wired (k : Flags) (host : Host) (n : Nested) (S : Shape (BitVec 64) (BitVec 64)) : Prop where
  holds : Holds (encoding k host) 4 n.heap.cells S
  root : S.loc [] = some n.pml4
  pdpt : S.loc [0] = some n.pdpt
  owned : ∀ {π t}, S.loc π = some t → t ∈ n.owned
  linked : ∀ {i π t}, S.loc (i :: π) = some t → ∃ p, host.virtualToPhysical t = some p ∧ Aligned p
  distinct : ∀ {t u p}, t ∈ n.owned → u ∈ n.owned → host.virtualToPhysical t = some p →
    host.virtualToPhysical u = some p → t = u
  listed : ∀ {π t}, S.loc π = some t → Mmio π → ∃ p, (p, t) ∈ n.extra
  extra : ∀ {p t}, (p, t) ∈ n.extra → host.virtualToPhysical t = some p
  allocated : ∀ {t}, t ∈ n.owned → Allocated host t

/-- The mapped pages are host pages, too. -/
structure Built (k : Flags) (host : Host) (n : Nested) (S : Shape (BitVec 64) (BitVec 64)) : Prop
    extends Wired k host n S where
  values : ∀ {π v}, S.val π = some v → Aligned v

section Step
variable {k : Flags} {host host' : Host} {n : Nested} {S : Shape (BitVec 64) (BitVec 64)}

theorem encoding_link {t p : BitVec 64} (h : host.virtualToPhysical t = some p) :
    (encoding k host).link t = p ||| k.table := by
  simp [encoding, h]

/-- The heap may change outside the tree: on a table that was allocated and dropped again. -/
theorem Wired.reheap (h : Wired k host n S) {heap : Heap}
    (he : ∀ t, t ∈ n.owned → heap.cells t = n.heap.cells t) : Wired k host { n with heap := heap } S where
  holds :=
    { inj := h.holds.inj
      node := fun {_ t i} ht hl hi =>
        (congrFun (he t (h.owned ht)) i).trans (h.holds.node ht hl hi)
      value := fun {_ t i} ht hl hi =>
        (congrFun (he t (h.owned ht)) i).trans (h.holds.value ht hl hi)
      loc_closed := h.holds.loc_closed
      val_closed := h.holds.val_closed }
  root := h.root
  pdpt := h.pdpt
  owned := h.owned
  linked := h.linked
  distinct := h.distinct
  listed := h.listed
  extra := h.extra
  allocated := h.allocated

theorem Nested.extra_owned {q : BitVec 64 × BitVec 64} (h : q ∈ n.extra) : q.2 ∈ n.owned := by
  simp only [Nested.owned, List.mem_cons, List.mem_append, List.mem_map]
  exact Or.inr (Or.inr (Or.inr (Or.inr ⟨q, h, rfl⟩)))

/-- The search of `extra` by physical address finds the table an entry links to. -/
theorem Wired.find_extra (h : Wired k host n S) (hk : k.Ok) {i : ℕ} {π : List ℕ} {t : BitVec 64}
    (ht : S.loc (i :: π) = some t) (hm : Mmio (i :: π)) :
    ∃ p, n.extra.find? (fun p => p.1 == (encoding k host).link t &&& addrMask) = some (p, t) := by
  obtain ⟨p, hp, hal⟩ := h.linked ht
  have haddr : (encoding k host).link t &&& addrMask = p := by
    apply BitVec.eq_of_toNat_eq
    rw [encoding_link hp]
    exact frame_or hal hk.table_lt
  obtain ⟨p', hmem⟩ := h.listed ht hm
  have hp' : p' = p := by
    have := h.extra hmem
    rw [hp, Option.some.injEq] at this
    exact this.symm
  subst hp'
  rw [haddr]
  -- whatever the search stops at has the same physical address, hence is the same table
  cases hf : n.extra.find? (fun q => q.1 == p') with
  | none =>
    have := List.find?_eq_none.mp hf (p', t) hmem
    simp at this
  | some q =>
    have hq : q.1 = p' := by simpa using List.find?_some hf
    have hmq := List.mem_of_find?_eq_some hf
    have hv := h.extra (p := q.1) (t := q.2) hmq
    rw [hq] at hv
    have heq := h.distinct (Nested.extra_owned hmq) (h.owned ht) hv hp
    exact ⟨p', by rw [← hq, ← heq]⟩

/-- Hanging a freshly allocated table below a table of the tree. `entries` are what the new table
holds by then, `vals` the host pages among them. -/
theorem Wired.hang (h : Wired k host n S) {π : List ℕ} {idx : ℕ} {parent t p : BitVec 64}
    {heap : Heap} {entries : ℕ → BitVec 64} {vals : ℕ → Option (BitVec 64)} {n' : Nested}
    (hp : S.loc π = some parent) (hπ : π.length + 1 < 4) (hfree : S.loc (idx :: π) = none)
    (hfresh : Fresh host n.owned n.heap heap t) (hv2p : host.virtualToPhysical t = some p)
    (hnode : π.length + 2 < 4 → (∀ j, vals j = none) ∧ ∀ j, j < 512 → entries j = 0)
    (hleaf : π.length + 2 = 4 → ∀ j, j < 512 → entries j = (vals j).elim 0 (fun v => v ||| k.leaf))
    (hcells : n'.heap.cells = ((heap.fill t entries).write parent idx (p ||| k.table)).cells)
    (hpml4 : n'.pml4 = n.pml4) (hpdpt : n'.pdpt = n.pdpt)
    (howned : ∀ u, u ∈ n'.owned ↔ u ∈ n.owned ∨ u = t)
    (hold : ∀ q, q ∈ n.extra → q ∈ n'.extra) (hnew : ∀ q, q ∈ n'.extra → q ∈ n.extra ∨ q = (p, t))
    (hlisted : Mmio (idx :: π) → (p, t) ∈ n'.extra) :
    Wired k host n' (S.attach (idx :: π) t vals) := by
  have htp : t ≠ parent := fun e => hfresh.notLive (e ▸ h.owned hp)
  have hmem : ∀ {π' u}, S.loc π' = some u → u ≠ t := fun hu e => hfresh.notLive (e ▸ h.owned hu)
  have hcase : ∀ {π' u}, (S.attach (idx :: π) t vals).loc π' = some u →
      (π' = idx :: π ∧ u = t) ∨ S.loc π' = some u := by
    intro π' u hu
    by_cases e : π' = idx :: π
    · subst e
      rw [Shape.attach_loc_self, Option.some.injEq] at hu
      exact Or.inl ⟨rfl, hu.symm⟩
    · rw [Shape.attach_loc_ne S t vals e] at hu
      exact Or.inr hu
  refine ⟨?_, ?_, ?_, ?_, ?_, ?_, ?_, ?_, ?_⟩
  · apply h.holds.attach hp hπ hfree (fun π' hu => hmem hu rfl)
    · rw [hcells, Heap.write_self, encoding_link hv2p]
    · intro j hj
      rw [hcells, Heap.write_entry_ne _ _ _ hj, Heap.fill_ne _ _ htp.symm, hfresh.others htp.symm]
    · intro u j hu hut
      rw [hcells, Heap.write_table_ne _ _ _ _ hu, Heap.fill_ne _ _ hut, hfresh.others hut]
    · intro hlen
      refine ⟨(hnode hlen).1, fun j hj => ?_⟩
      rw [hcells, Heap.write_table_ne _ _ _ _ htp, Heap.fill_self]
      exact (hnode hlen).2 j hj
    · intro hlen j hj
      rw [hcells, Heap.write_table_ne _ _ _ _ htp, Heap.fill_self]
      exact hleaf hlen j hj
  · rw [Shape.attach_loc_ne S t vals (by simp), h.root, hpml4]
  · have hne : [0] ≠ idx :: π := fun e => by
      rw [← e, h.pdpt] at hfree
      cases hfree
    rw [Shape.attach_loc_ne S t vals hne, h.pdpt, hpdpt]
  · intro π' u hu
    rw [howned]
    rcases hcase hu with ⟨-, rfl⟩ | hu
    · exact Or.inr rfl
    · exact Or.inl (h.owned hu)
  · intro i π' u hu
    rcases hcase hu with ⟨-, rfl⟩ | hu
    · exact ⟨p, hv2p, Host.aligned hv2p hfresh.allocated.aligned⟩
    · exact h.linked hu
  · intro u w q hu hw hqu hqw
    rw [howned] at hu hw
    rcases hu with hu | rfl <;> rcases hw with hw | rfl
    · exact h.distinct hu hw hqu hqw
    · exact absurd hqu (hfresh.distinct hu hqw)
    · exact absurd hqw (hfresh.distinct hw hqu)
    · rfl
  · intro π' u hu hm
    rcases hcase hu with ⟨rfl, rfl⟩ | hu
    · exact ⟨p, hlisted hm⟩
    · obtain ⟨q, hq⟩ := h.listed hu hm
      exact ⟨q, hold _ hq⟩
  · intro q u hq
    rcases hnew _ hq with hq | hq
    · exact h.extra hq
    · obtain ⟨rfl, rfl⟩ := Prod.mk.inj hq
      exact hv2p
  · intro u hu
    rcases (howned u).mp hu with hu | rfl
    · exact h.allocated hu
    · exact hfresh.allocated

theorem Wired.attach_blank_val (h : Wired k host n S) {π : List ℕ} (hfree : S.loc π = none)
    (t : BitVec 64) : (S.attach π t (fun _ => none)).val = S.val := by
  funext π'
  cases π' with
  | nil => simp [Shape.attach]
  | cons j ρ =>
    by_cases e : ρ = π
    · subst e
      rw [Shape.attach_val_cons, h.holds.val_closed hfree]
    · rw [Shape.attach_val_ne S t _ j e]

theorem Wired.write (h : Wired k host n S) {π : List ℕ} {i : ℕ} {t : BitVec 64} (v : BitVec 64)
    (ht : S.loc π = some t) (hπ : π.length + 1 = 4) :
    Wired k host { n with heap := n.heap.write t i (v ||| k.leaf) } (S.setLeaf (i :: π) v) where
  holds := h.holds.setLeaf ht hπ (Heap.write_self _ _ _ _)
    (fun _ hj => Heap.write_entry_ne _ _ _ hj) (fun _ _ hu => Heap.write_table_ne _ _ _ _ hu)
  root := h.root
  pdpt := h.pdpt
  owned := h.owned
  linked := h.linked
  distinct := h.distinct
  listed := h.listed
  extra := h.extra
  allocated := h.allocated

/-- What `child_or_alloc` and `map_page` ask the host for. -/
inductive Request where
  | alloc (k : ℕ) (live : List (BitVec 64))
  | lookup (table : BitVec 64)

def Host.Grants (host : Host) : Request → Prop
  | .alloc k live => (host.allocZeroed k live).isSome
  | .lookup table => (host.virtualToPhysical table).isSome

instance Host.decidableGrants (host : Host) : (q : Request) → Decidable (host.Grants q)
  | .alloc k live => inferInstanceAs (Decidable ((host.allocZeroed k live).isSome = true))
  | .lookup table => inferInstanceAs (Decidable ((host.virtualToPhysical table).isSome = true))

/-- What `child_or_alloc` asks of the host. -/
def childRequests (k : Flags) (host : Host) (n : Nested) (parent : BitVec 64) (idx : ℕ) : List Request :=
  if n.heap.cells parent idx &&& k.present ≠ 0 then []
  else
    match host.allocZeroed n.heap.allocs n.owned with
    | none => [.alloc n.heap.allocs n.owned]
    | some table => [.alloc n.heap.allocs n.owned, .lookup table]

/-- The requests of one call to `map_page`. The second step is only taken after the first one. -/
def mapRequests (k : Flags) (host : Host) (n : Nested) (gpa : BitVec 64) : List Request :=
  let i3 := ((gpa >>> 30) &&& 0x1ff#64).toNat
  let i2 := ((gpa >>> 21) &&& 0x1ff#64).toNat
  childRequests k host n n.pdpt i3 ++
    match childOrAlloc k host n n.pdpt i3 with
    | (.error _, _) => []
    | (.ok pd, n) => childRequests k host n pd i2

/-- The ways through `child_or_alloc`: the entry is there and known, or there and unknown; or it is not, and the
host refuses a table, does not translate it, or the new table is hung there. -/
inductive ChildStep (k : Flags) (host : Host) (n : Nested) (parent : BitVec 64) (idx : ℕ) :
    Except Abort (BitVec 64) → Nested → Prop
  | found {p : BitVec 64 × BitVec 64} (hpresent : n.heap.cells parent idx &&& k.present ≠ 0)
      (hfind : n.extra.find? (fun p => p.1 == n.heap.cells parent idx &&& addrMask) = some p) :
      ChildStep k host n parent idx (.ok p.2) n
  | unlisted (hpresent : n.heap.cells parent idx &&& k.present ≠ 0)
      (hfind : n.extra.find? (fun p => p.1 == n.heap.cells parent idx &&& addrMask) = none) :
      ChildStep k host n parent idx (.error (.error .allocationFailed)) n
  | refused {heap : Heap} (hblank : ¬ n.heap.cells parent idx &&& k.present ≠ 0)
      (halloc : allocTable host n.owned n.heap = (none, heap)) :
      ChildStep k host n parent idx (.error (.error .allocationFailed)) { n with heap := heap }
  | untranslated {table : BitVec 64} {heap : Heap} (hblank : ¬ n.heap.cells parent idx &&& k.present ≠ 0)
      (halloc : allocTable host n.owned n.heap = (some table, heap)) (hv2p : host.virtualToPhysical table = none) :
      ChildStep k host n parent idx (.error (.error .allocationFailed)) { n with heap := heap }
  | hung {table hpa : BitVec 64} {heap : Heap} (hblank : ¬ n.heap.cells parent idx &&& k.present ≠ 0)
      (halloc : allocTable host n.owned n.heap = (some table, heap)) (hv2p : host.virtualToPhysical table = some hpa) :
      ChildStep k host n parent idx (.ok table) { n with
        heap := heap.write parent idx (hpa ||| k.table)
        extra := n.extra ++ [(hpa, table)] }

theorem childOrAlloc_step {parent : BitVec 64} {idx : ℕ} {r : Except Abort (BitVec 64)} {n' : Nested}
    (e : childOrAlloc k host n parent idx = (r, n')) : ChildStep k host n parent idx r n' := by
  unfold childOrAlloc at e
  by_cases hpresent : n.heap.cells parent idx &&& k.present ≠ 0
  · simp only [if_pos hpresent] at e
    cases hfind : n.extra.find? (fun p => p.1 == n.heap.cells parent idx &&& addrMask) with
    | none =>
      simp only [hfind, Prod.mk.injEq] at e
      obtain ⟨rfl, rfl⟩ := e
      exact .unlisted hpresent hfind
    | some p =>
      simp only [hfind, Prod.mk.injEq] at e
      obtain ⟨rfl, rfl⟩ := e
      exact .found hpresent hfind
  · simp only [if_neg hpresent] at e
    cases halloc : allocTable host n.owned n.heap with
    | mk res heap =>
      cases res with
      | none =>
        simp only [halloc, Prod.mk.injEq] at e
        obtain ⟨rfl, rfl⟩ := e
        exact .refused hpresent halloc
      | some table =>
        cases hph : hostPhysical host table with
        | error a =>
          simp only [halloc, hph, Prod.mk.injEq] at e
          obtain ⟨rfl, rfl⟩ := e
          obtain ⟨rfl, hv2p⟩ := hostPhysical_error hph
          exact .untranslated hpresent halloc hv2p
        | ok hpa =>
          simp only [halloc, hph, Prod.mk.injEq] at e
          obtain ⟨rfl, rfl⟩ := e
          exact .hung hpresent halloc (hostPhysical_ok hph)

/-- What a call keeps, whether it fails or not. -/
structure Grows (n n' : Nested) : Prop where
  pml4 : n'.pml4 = n.pml4
  addresses : (n.extra.map Prod.fst).Nodup → (n'.extra.map Prod.fst).Nodup

theorem Grows.trans {n n₁ n₂ : Nested} (h₁ : Grows n n₁) (h₂ : Grows n₁ n₂) : Grows n n₂ :=
  ⟨h₂.pml4.trans h₁.pml4, fun h => h₂.addresses (h₁.addresses h)⟩

/-- An entry below which the tree has a table is present, another one is blank. -/
theorem Wired.present_iff (h : Wired k host n S) (hk : k.Ok) {π : List ℕ} {parent : BitVec 64} {idx : ℕ}
    (hp : S.loc π = some parent) (hπ : π.length + 1 < 4) (hidx : idx < 512) :
    n.heap.cells parent idx &&& k.present ≠ 0 ↔
      ∃ t, S.loc (idx :: π) = some t ∧ n.heap.cells parent idx = (encoding k host).link t := by
  rw [h.holds.node hp hπ hidx]
  cases hc : S.loc (idx :: π) with
  | none => simp [encoding]
  | some t =>
    obtain ⟨q, hq, hal⟩ := h.linked hc
    rw [Option.elim_some, encoding_link hq, flags_or hal.page hk.table_lt hk.present_lt]
    exact iff_of_true hk.table_present ⟨t, rfl, (encoding_link hq).symm⟩

/-- A table that is allocated and dropped again leaves no trace in the tree. -/
theorem Wired.dropped (h : Wired k host n S) {heap : Heap} {t : BitVec 64}
    (hfresh : Fresh host n.owned n.heap heap t) : Wired k host { n with heap := heap } S := by
  apply h.reheap
  intro u hu
  exact hfresh.others fun e => hfresh.notLive (e ▸ hu)

theorem Wired.hang_blank (h : Wired k host n S) {π : List ℕ} {idx : ℕ} {parent t p : BitVec 64} {heap : Heap}
    (hp : S.loc π = some parent) (hπ : π.length + 1 < 4) (hfree : S.loc (idx :: π) = none)
    (hfresh : Fresh host n.owned n.heap heap t) (hv2p : host.virtualToPhysical t = some p) :
    Wired k host { n with heap := heap.write parent idx (p ||| k.table), extra := n.extra ++ [(p, t)] }
      (S.attach (idx :: π) t (fun _ => none)) := by
  have hcells : (heap.fill t (fun _ => 0)).cells = heap.cells := by
    funext u
    by_cases hu : u = t
    · rw [hu, Heap.fill_self, hfresh.zeroed]
    · rw [Heap.fill_ne _ _ hu]
  refine h.hang hp hπ hfree hfresh hv2p (fun _ => ⟨fun _ => rfl, fun _ _ => rfl⟩) (fun _ _ _ => rfl) ?_ rfl rfl
    ?_ ?_ ?_ ?_
  · simp only [Heap.write, hcells]
  · intro u
    simp [Nested.owned, or_assoc]
  · exact fun q hq => List.mem_append_left _ hq
  · exact fun q hq => by simpa using hq
  · exact fun _ => by simp

theorem Wired.address_fresh (h : Wired k host n S) {heap : Heap} {t p : BitVec 64}
    (hfresh : Fresh host n.owned n.heap heap t) (hv2p : host.virtualToPhysical t = some p) :
    p ∉ n.extra.map Prod.fst := by
  intro hmem
  obtain ⟨⟨q, u⟩, hq, rfl⟩ := List.mem_map.mp hmem
  exact hfresh.distinct (Nested.extra_owned hq) hv2p (h.extra hq)

/-- What a call to `child_or_alloc` does to the tree: it hands out the table at the child's path,
perhaps after hanging a blank one there, or fails because a request did. No value changes either way. -/
theorem childOrAlloc_wired (h : Wired k host n S) (hsub : host'.Restricts host) (hk : k.Ok) {π : List ℕ}
    {parent : BitVec 64} {idx : ℕ} (hp : S.loc π = some parent) (hπ : π.length + 1 < 4) (hidx : idx < 512)
    (hm : Mmio (idx :: π)) {r : Except Abort (BitVec 64)} {n' : Nested}
    (e : childOrAlloc k host' n parent idx = (r, n')) :
    ∃ S', Wired k host n' S' ∧ S'.val = S.val ∧ Grows n n' ∧
      (∀ t, r = .ok t → S'.loc (idx :: π) = some t ∧ ∀ q ∈ childRequests k host' n parent idx, host'.Grants q) ∧
      (∀ a, r = .error a →
        a = .error .allocationFailed ∧ ∃ q ∈ childRequests k host' n parent idx, ¬ host'.Grants q) := by
  have hentry := h.present_iff hk hp hπ hidx
  have hfree : ¬ n.heap.cells parent idx &&& k.present ≠ 0 → S.loc (idx :: π) = none := by
    intro hblank
    cases hc : S.loc (idx :: π) with
    | none => rfl
    | some t =>
      have hlink := h.holds.node hp hπ hidx
      rw [hc] at hlink
      exact absurd (hentry.mpr ⟨t, hc, hlink⟩) hblank
  unfold childRequests
  cases childOrAlloc_step e with
  | found hpresent hfind =>
    obtain ⟨t, ht, hlink⟩ := hentry.mp hpresent
    obtain ⟨p, hlisted⟩ := h.find_extra hk ht hm
    rw [hlink, hlisted, Option.some.injEq] at hfind
    rw [if_pos hpresent]
    refine ⟨S, h, rfl, ⟨rfl, id⟩, fun u hu => ⟨?_, nofun⟩, nofun⟩
    rw [ht, ← Except.ok.inj hu, ← hfind]
  | unlisted hpresent hfind =>
    obtain ⟨t, ht, hlink⟩ := hentry.mp hpresent
    obtain ⟨p, hlisted⟩ := h.find_extra hk ht hm
    rw [hlink, hlisted] at hfind
    cases hfind
  | refused hblank halloc =>
    obtain ⟨hcells, hnone⟩ := allocTable_none halloc
    rw [if_neg hblank, hnone]
    refine ⟨S, h.reheap (fun t _ => congrFun hcells t), rfl, ⟨rfl, id⟩, nofun, fun a ha => ?_⟩
    refine ⟨(Except.error.inj ha).symm, _, List.mem_singleton_self _, ?_⟩
    simp [Host.Grants, hnone]
  | @untranslated table heap hblank halloc hv2p =>
    obtain ⟨hfresh, hsome⟩ := allocTable_some hsub halloc
    rw [if_neg hblank, hsome]
    refine ⟨S, h.dropped hfresh, rfl, ⟨rfl, id⟩, nofun, fun a ha => ?_⟩
    refine ⟨(Except.error.inj ha).symm, .lookup table, by simp, ?_⟩
    simp [Host.Grants, hv2p]
  | @hung table hpa heap hblank halloc hv2p =>
    obtain ⟨hfresh, hsome⟩ := allocTable_some hsub halloc
    have hnew := h.address_fresh hfresh (hsub.v2p hv2p)
    rw [if_neg hblank, hsome]
    refine ⟨S.attach (idx :: π) table (fun _ => none), h.hang_blank hp hπ (hfree hblank) hfresh (hsub.v2p hv2p),
      h.attach_blank_val (hfree hblank) table, ⟨rfl, ?_⟩, fun t ht => ⟨?_, ?_⟩, nofun⟩
    · intro hnodup
      rw [List.map_append, List.nodup_append]
      refine ⟨hnodup, by simp, fun q hq q' hq' heq => hnew ?_⟩
      rw [List.map_singleton, List.mem_singleton] at hq'
      rw [show hpa = q from (heq.trans hq').symm]
      exact hq
    · rw [← Except.ok.inj ht, Shape.attach_loc_self]
    · simp [Host.Grants, hsome, hv2p]

/-- `map_page` on an address it is meant for: the tree gains one value, or the call fails because a request did, and
no value changes. -/
theorem mapPage_wired (h : Wired k host n S) (hsub : host'.Restricts host) (hk : k.Ok) {gpa hpa : BitVec 64}
    (hlo : 2 ^ 30 ≤ gpa.toNat) (hhi : gpa.toNat < 2 ^ 39) {r : Except Abort Unit} {n' : Nested}
    (e : mapPage k host' n gpa hpa = (r, n')) :
    ∃ S', Wired k host n' S' ∧ Grows n n' ∧
      (r = .ok () ∧ (∀ q ∈ mapRequests k host' n gpa, host'.Grants q) ∧
          S'.val = (S.setLeaf (leafPath 3 gpa.toNat []) hpa).val ∨
        r = .error (.error .allocationFailed) ∧ (∃ q ∈ mapRequests k host' n gpa, ¬ host'.Grants q) ∧
          S'.val = S.val) := by
  have hi3 : gpa.toNat / 2 ^ 39 % 512 = 0 := by omega
  have hi2 : gpa.toNat / 2 ^ 30 % 512 ≠ 0 := by omega
  have habove : ¬ (gpa >>> 39) &&& 0x1ff#64 ≠ 0 := by
    rw [not_not]
    apply BitVec.eq_of_toNat_eq
    rw [slice_toNat, hi3]
    rfl
  have hfirst : ¬ (gpa >>> 30) &&& 0x1ff#64 = 0 := by
    intro hz
    have := congrArg BitVec.toNat hz
    rw [slice_toNat] at this
    exact hi2 this
  have hpath : leafPath 3 gpa.toNat [] =
      [gpa.toNat / 2 ^ 12 % 512, gpa.toNat / 2 ^ 21 % 512, gpa.toNat / 2 ^ 30 % 512, 0] := by
    simp only [leafPath, index, List.cons.injEq, and_true, true_and]
    exact hi3
  unfold mapPage at e
  unfold mapRequests
  simp only [habove, hfirst, if_false, slice_toNat] at e ⊢
  have hm₁ : Mmio [gpa.toNat / 2 ^ 30 % 512, 0] := ⟨_, hi2, Or.inl rfl⟩
  have hm₂ : Mmio [gpa.toNat / 2 ^ 21 % 512, gpa.toNat / 2 ^ 30 % 512, 0] :=
    ⟨_, hi2, Or.inr ⟨_, rfl⟩⟩
  cases e₁ : childOrAlloc k host' n n.pdpt (gpa.toNat / 2 ^ 30 % 512) with
  | mk r₁ n₁ =>
    obtain ⟨S₁, hw₁, hv₁, hg₁, hok₁, herr₁⟩ :=
      childOrAlloc_wired h hsub hk h.pdpt (by simp) (Nat.mod_lt _ (by decide)) hm₁ e₁
    cases r₁ with
    | error a =>
      simp only [e₁, Prod.mk.injEq] at e
      obtain ⟨rfl, rfl⟩ := e
      obtain ⟨rfl, q, hq, hrefused⟩ := herr₁ a rfl
      exact ⟨S₁, hw₁, hg₁, Or.inr ⟨rfl, ⟨q, List.mem_append_left _ hq, hrefused⟩, hv₁⟩⟩
    | ok pd =>
      simp only [e₁] at e
      obtain ⟨hpd, hgranted₁⟩ := hok₁ pd rfl
      cases e₂ : childOrAlloc k host' n₁ pd (gpa.toNat / 2 ^ 21 % 512) with
      | mk r₂ n₂ =>
        obtain ⟨S₂, hw₂, hv₂, hg₂, hok₂, herr₂⟩ :=
          childOrAlloc_wired hw₁ hsub hk hpd (by simp) (Nat.mod_lt _ (by decide)) hm₂ e₂
        cases r₂ with
        | error a =>
          -- a page directory that was hung in by the first step stays
          simp only [e₂, Prod.mk.injEq] at e
          obtain ⟨rfl, rfl⟩ := e
          obtain ⟨rfl, q, hq, hrefused⟩ := herr₂ a rfl
          exact ⟨S₂, hw₂, hg₁.trans hg₂, Or.inr ⟨rfl, ⟨q, List.mem_append_right _ hq, hrefused⟩, hv₂.trans hv₁⟩⟩
        | ok pt =>
          simp only [e₂, Prod.mk.injEq] at e
          obtain ⟨rfl, rfl⟩ := e
          obtain ⟨hpt, hgranted₂⟩ := hok₂ pt rfl
          refine ⟨S₂.setLeaf (leafPath 3 gpa.toNat []) hpa, ?_, ?_, Or.inl ⟨rfl, ?_, ?_⟩⟩
          · rw [hpath]
            exact hw₂.write hpa hpt (by simp)
          · exact ⟨(hg₁.trans hg₂).pml4, (hg₁.trans hg₂).addresses⟩
          · exact fun q hq => (List.mem_append.mp hq).elim (hgranted₁ q) (hgranted₂ q)
          · simp [Shape.setLeaf, hv₂, hv₁]

end Step

end Rhyve.Paging
