import Rhyve.Lib.PageWalk

/-! # Radix trees kept in tables

A radix tree under construction, apart from how its tables are allocated or written.

* `Shape`: which table sits at each index path, and which value each full path holds. A path lists
  its indices innermost first, so that the tables below the table at `π` sit at `i :: π`.
* `Holds`: the tables' entries spell out the shape. Every table has one path only, so that a write to
  one table never changes another branch.
* `Holds.attach`, `Holds.setLeaf`: the two writes that grow a tree, and the shapes they lead to.
* `Holds.walk`: the hardware walk over a memory that backs the tables finds exactly the shape's
  values. `Holds.walk_leaf` is the same for values that the hardware may refuse.
-/

namespace Rhyve.RadixTree
open Words PageWalk
set_option autoImplicit false

/-- The tables and values of a tree, by index path. -/
structure Shape (τ φ : Type) where
  loc : List ℕ → Option τ
  val : List ℕ → Option φ

/-- How entries are written: an unused one, a link to a table, a value. -/
structure Encoding (τ φ : Type) where
  blank : BitVec 64
  link : τ → BitVec 64
  leaf : φ → BitVec 64

section Holds
variable {τ φ : Type} (enc : Encoding τ φ) (depth : ℕ)

/-- The entries of the tables spell out the shape. Tables at paths of length `depth - 1` hold
values, tables above them hold links. -/
structure Holds (read : τ → ℕ → BitVec 64) (S : Shape τ φ) : Prop where
  inj : ∀ {π π' : List ℕ} {t : τ}, S.loc π = some t → S.loc π' = some t → π = π'
  node : ∀ {π : List ℕ} {t : τ} {i : ℕ}, S.loc π = some t → π.length + 1 < depth → i < 512 →
    read t i = (S.loc (i :: π)).elim enc.blank enc.link
  value : ∀ {π : List ℕ} {t : τ} {i : ℕ}, S.loc π = some t → π.length + 1 = depth → i < 512 →
    read t i = (S.val (i :: π)).elim enc.blank enc.leaf
  loc_closed : ∀ {π : List ℕ} {i : ℕ}, S.loc π = none → S.loc (i :: π) = none
  val_closed : ∀ {π : List ℕ} {i : ℕ}, S.loc π = none → S.val (i :: π) = none

variable {enc depth} {read read' : τ → ℕ → BitVec 64} {S : Shape τ φ}

/-- The shape with table `t` hung in at path `π`, its own entries holding `vals`. -/
def Shape.attach (S : Shape τ φ) (π : List ℕ) (t : τ) (vals : ℕ → Option φ) : Shape τ φ where
  loc := fun π' => if π' = π then some t else S.loc π'
  val := fun π' => if π'.tail = π ∧ π' ≠ [] then vals (π'.headD 0) else S.val π'

/-- The shape with value `v` at path `π`. -/
def Shape.setLeaf (S : Shape τ φ) (π : List ℕ) (v : φ) : Shape τ φ where
  loc := S.loc
  val := fun π' => if π' = π then some v else S.val π'

@[simp] theorem Shape.attach_loc_self (S : Shape τ φ) (π : List ℕ) (t : τ) (vals : ℕ → Option φ) :
    (S.attach π t vals).loc π = some t := by
  simp [Shape.attach]

theorem Shape.attach_loc_ne (S : Shape τ φ) {π π' : List ℕ} (t : τ) (vals : ℕ → Option φ)
    (h : π' ≠ π) : (S.attach π t vals).loc π' = S.loc π' := by
  simp [Shape.attach, h]

@[simp] theorem Shape.attach_val_cons (S : Shape τ φ) (π : List ℕ) (t : τ) (vals : ℕ → Option φ)
    (i : ℕ) : (S.attach π t vals).val (i :: π) = vals i := by
  simp [Shape.attach]

theorem Shape.attach_val_ne (S : Shape τ φ) {π π' : List ℕ} (t : τ) (vals : ℕ → Option φ) (i : ℕ)
    (h : π' ≠ π) : (S.attach π t vals).val (i :: π') = S.val (i :: π') := by
  simp [Shape.attach, h]

/-- Hanging a fresh table into an unused entry. `vals` are the values already in the fresh table:
none in a blank one. Nothing sits below an unused entry, so no other path changes. -/
theorem Holds.attach (h : Holds enc depth read S) {π : List ℕ} {i : ℕ} {p t : τ}
    {vals : ℕ → Option φ} (hp : S.loc π = some p) (hπ : π.length + 1 < depth)
    (hfree : S.loc (i :: π) = none) (hfresh : ∀ π', S.loc π' ≠ some t)
    (hlink : read' p i = enc.link t) (hkeep : ∀ j, j ≠ i → read' p j = read p j)
    (hframe : ∀ u j, u ≠ p → u ≠ t → read' u j = read u j)
    (hnode : π.length + 2 < depth → (∀ j, vals j = none) ∧ ∀ j, j < 512 → read' t j = enc.blank)
    (hvals : π.length + 2 = depth →
      ∀ j, j < 512 → read' t j = (vals j).elim enc.blank enc.leaf) :
    Holds enc depth read' (S.attach (i :: π) t vals) := by
  have hpt : p ≠ t := fun e => hfresh π (e ▸ hp)
  have hroot : π ≠ i :: π := fun e => by simpa using congrArg List.length e
  refine ⟨?_, ?_, ?_, ?_, ?_⟩
  · intro π₁ π₂ u h₁ h₂
    by_cases e₁ : π₁ = i :: π <;> by_cases e₂ : π₂ = i :: π
    · rw [e₁, e₂]
    · subst e₁
      rw [Shape.attach_loc_self] at h₁
      rw [Shape.attach_loc_ne S t vals e₂, ← h₁] at h₂
      exact absurd h₂ (hfresh π₂)
    · subst e₂
      rw [Shape.attach_loc_self] at h₂
      rw [Shape.attach_loc_ne S t vals e₁, ← h₂] at h₁
      exact absurd h₁ (hfresh π₁)
    · rw [Shape.attach_loc_ne S t vals e₁] at h₁
      rw [Shape.attach_loc_ne S t vals e₂] at h₂
      exact h.inj h₁ h₂
  · intro π₁ u j h₁ hlen hj
    by_cases e₁ : π₁ = i :: π
    · subst e₁
      rw [Shape.attach_loc_self, Option.some.injEq] at h₁
      subst h₁
      rw [List.length_cons] at hlen
      have hchild : (j :: i :: π) ≠ i :: π := fun e => by simpa using congrArg List.length e
      rw [(hnode hlen).2 j hj, Shape.attach_loc_ne S t vals hchild, h.loc_closed hfree]
      rfl
    · rw [Shape.attach_loc_ne S t vals e₁] at h₁
      have hut : u ≠ t := fun e => hfresh π₁ (e ▸ h₁)
      by_cases hu : u = p
      · subst hu
        obtain rfl := h.inj h₁ hp
        by_cases hji : j = i
        · subst hji
          rw [hlink, Shape.attach_loc_self]
          rfl
        · rw [hkeep j hji, h.node h₁ hlen hj,
            Shape.attach_loc_ne S t vals (fun e => hji (List.cons.inj e).1)]
      · have hne : j :: π₁ ≠ i :: π := fun e => by
          obtain ⟨-, rfl⟩ := List.cons.inj e
          rw [hp, Option.some.injEq] at h₁
          exact hu h₁.symm
        rw [hframe u j hu hut, h.node h₁ hlen hj, Shape.attach_loc_ne S t vals hne]
  · intro π₁ u j h₁ hlen hj
    by_cases e₁ : π₁ = i :: π
    · subst e₁
      rw [Shape.attach_loc_self, Option.some.injEq] at h₁
      subst h₁
      rw [List.length_cons] at hlen
      rw [hvals hlen j hj, Shape.attach_val_cons]
    · rw [Shape.attach_loc_ne S t vals e₁] at h₁
      have hut : u ≠ t := fun e => hfresh π₁ (e ▸ h₁)
      have hu : u ≠ p := fun e => by
        subst e
        obtain rfl := h.inj h₁ hp
        omega
      rw [hframe u j hu hut, h.value h₁ hlen hj, Shape.attach_val_ne S t vals j e₁]
  · intro π₁ j h₁
    by_cases e₁ : π₁ = i :: π
    · subst e₁
      simp at h₁
    · rw [Shape.attach_loc_ne S t vals e₁] at h₁
      have hne : j :: π₁ ≠ i :: π := fun e => by
        obtain ⟨-, rfl⟩ := List.cons.inj e
        simp [hp] at h₁
      rw [Shape.attach_loc_ne S t vals hne, h.loc_closed h₁]
  · intro π₁ j h₁
    by_cases e₁ : π₁ = i :: π
    · subst e₁
      simp at h₁
    · rw [Shape.attach_loc_ne S t vals e₁] at h₁
      rw [Shape.attach_val_ne S t vals j e₁, h.val_closed h₁]

theorem Holds.setLeaf (h : Holds enc depth read S) {π : List ℕ} {i : ℕ} {p : τ} {v : φ}
    (hp : S.loc π = some p) (hπ : π.length + 1 = depth) (hleaf : read' p i = enc.leaf v)
    (hkeep : ∀ j, j ≠ i → read' p j = read p j) (hframe : ∀ u j, u ≠ p → read' u j = read u j) :
    Holds enc depth read' (S.setLeaf (i :: π) v) := by
  refine ⟨fun h₁ h₂ => h.inj h₁ h₂, ?_, ?_, fun h₁ => h.loc_closed h₁, ?_⟩
  · intro π₁ u j h₁ hlen hj
    have hu : u ≠ p := fun e => by
      subst e
      obtain rfl := h.inj h₁ hp
      omega
    rw [hframe u j hu]
    exact h.node h₁ hlen hj
  · intro π₁ u j h₁ hlen hj
    by_cases hu : u = p
    · subst hu
      obtain rfl := h.inj h₁ hp
      by_cases hji : j = i
      · subst hji
        rw [hleaf]
        simp [Shape.setLeaf]
      · rw [hkeep j hji, h.value h₁ hlen hj]
        simp [Shape.setLeaf, hji]
    · have hne : j :: π₁ ≠ i :: π := fun e => by
        obtain ⟨-, rfl⟩ := List.cons.inj e
        have h₂ : S.loc π₁ = some u := h₁
        rw [hp, Option.some.injEq] at h₂
        exact hu h₂.symm
      rw [hframe u j hu, h.value h₁ hlen hj]
      simp [Shape.setLeaf, hne]
  · intro π₁ j h₁
    have hne : j :: π₁ ≠ i :: π := fun e => by
      obtain ⟨-, rfl⟩ := List.cons.inj e
      have h₂ : S.loc π₁ = none := h₁
      simp [hp] at h₂
    have hval : (S.setLeaf (i :: π) v).val (j :: π₁) = S.val (j :: π₁) := by
      simp [Shape.setLeaf, hne]
    rw [hval]
    exact h.val_closed h₁

end Holds

/-! ## What the hardware finds -/

/-- The full path of address `a` below the table at `π`, which is of the given level. -/
def leafPath : ℕ → ℕ → List ℕ → List ℕ
  | 0, a, π => index 0 a :: π
  | level + 1, a, π => leafPath level a (index (level + 1) a :: π)

section Walk
variable {τ φ ψ : Type} {enc : Encoding τ φ} {depth : ℕ} {read : τ → ℕ → BitVec 64} {S : Shape τ φ}

theorem Holds.val_leafPath_none (h : Holds enc depth read S) :
    ∀ (level a : ℕ) (π : List ℕ), S.loc π = none → S.val (leafPath level a π) = none
  | 0, _, _, hπ => h.val_closed hπ
  | level + 1, a, _, hπ => h.val_leafPath_none level a _ (h.loc_closed hπ)

/-- The links mean to the hardware what they mean to the shape. -/
structure DecodesLinks (fmt : Format) (enc : Encoding τ φ) (S : Shape τ φ) (frameOf : τ → ℕ) : Prop where
  blank : fmt.present enc.blank = false
  link : ∀ {π : List ℕ} {i : ℕ} {t : τ}, S.loc (i :: π) = some t →
    fmt.present (enc.link t) = true ∧ (∀ level, fmt.valid (level + 1) (enc.link t) = true) ∧
      (∀ level, fmt.large level (enc.link t) = false) ∧ frame (enc.link t) = frameOf t ∧
      fmt.perm (enc.link t) = Perm.all

/-- The encoding means to the hardware what it means to the shape. -/
structure Decodes (fmt : Format) (enc : Encoding τ φ) (S : Shape τ φ) (frameOf : τ → ℕ)
    (addrOf : φ → ℕ) : Prop extends DecodesLinks fmt enc S frameOf where
  leaf : ∀ {π : List ℕ} {v : φ}, S.val π = some v →
    fmt.present (enc.leaf v) = true ∧ fmt.valid 0 (enc.leaf v) = true ∧
      frame (enc.leaf v) = addrOf v ∧ addrOf v % 4096 = 0 ∧ fmt.perm (enc.leaf v) = Perm.all

/-- The hardware walk from a table of the tree ends at the value at the path of the address, whatever the hardware
makes of that value, or meets a non-present entry. -/
theorem Holds.walk_leaf (h : Holds enc depth read S) {fmt : Format} {frameOf : τ → ℕ}
    (hdec : DecodesLinks fmt enc S frameOf) {fetch : ℕ → Except ψ (BitVec 64)}
    (hfetch : ∀ π t i, S.loc π = some t → i < 512 → fetch (frameOf t + 8 * i) = .ok (read t i)) :
    ∀ (level a : ℕ) (π : List ℕ) (t : τ), S.loc π = some t → π.length + level + 1 = depth →
      (∀ v, S.val (leafPath level a π) = some v →
        PageWalk.walk fmt fetch level (frameOf t) Perm.all a = resolve fmt (enc.leaf v) Perm.all a) ∧
      (S.val (leafPath level a π) = none →
        ∃ l, PageWalk.walk fmt fetch level (frameOf t) Perm.all a = .error (.notPresent l))
  | 0, a, π, t, ht, hlen => by
      have hread := h.value ht (by omega) (index_lt 0 a)
      have hf := hfetch π t (index 0 a) ht (index_lt 0 a)
      refine ⟨fun v hv => ?_, fun hn => ⟨0, ?_⟩⟩
      · rw [leafPath] at hv
        rw [hread, hv] at hf
        exact walk_resolve hf
      · rw [leafPath] at hn
        rw [hread, hn] at hf
        exact walk_absent hf hdec.blank
  | level + 1, a, π, t, ht, hlen => by
      have hread := h.node ht (by omega) (index_lt (level + 1) a)
      have hf := hfetch π t (index (level + 1) a) ht (index_lt (level + 1) a)
      rw [hread] at hf
      -- the entry of the next table: unused, or a link that the hardware follows
      cases hc : S.loc (index (level + 1) a :: π) with
      | none =>
        rw [hc] at hf
        refine ⟨fun v hv => ?_, fun _ => ⟨level + 1, walk_absent hf hdec.blank⟩⟩
        rw [leafPath, h.val_leafPath_none level a _ hc] at hv
        exact absurd hv (by simp)
      | some c =>
        rw [hc] at hf
        obtain ⟨hp, hvalid, hlarge, hframe, hperm⟩ := hdec.link hc
        rw [leafPath, walk_table hf hp (hvalid level) (hlarge (level + 1))]
        simp only [Option.elim_some, hframe, hperm, Perm.meet_all]
        exact Holds.walk_leaf h hdec hfetch level a _ c hc (by simp only [List.length_cons]; omega)

/-- The hardware walk from a table of the tree resolves an address to the value at its path, with
every right, or meets a non-present entry. -/
theorem Holds.walk (h : Holds enc depth read S) {fmt : Format} {frameOf : τ → ℕ} {addrOf : φ → ℕ}
    (hdec : Decodes fmt enc S frameOf addrOf) {fetch : ℕ → Except ψ (BitVec 64)}
    (hfetch : ∀ π t i, S.loc π = some t → i < 512 → fetch (frameOf t + 8 * i) = .ok (read t i))
    (level a : ℕ) (π : List ℕ) (t : τ) (ht : S.loc π = some t) (hlen : π.length + level + 1 = depth) :
    (∀ v, S.val (leafPath level a π) = some v →
      PageWalk.walk fmt fetch level (frameOf t) Perm.all a = .ok ⟨addrOf v + a % 4096, Perm.all⟩) ∧
    (S.val (leafPath level a π) = none →
      ∃ l, PageWalk.walk fmt fetch level (frameOf t) Perm.all a = .error (.notPresent l)) := by
  obtain ⟨hsome, hnone⟩ := h.walk_leaf hdec.toDecodesLinks hfetch level a π t ht hlen
  refine ⟨fun v hv => ?_, hnone⟩
  obtain ⟨hp, hvalid, hframe, halign, hperm⟩ := hdec.leaf hv
  have haddr : addrOf v / 4096 * 4096 = addrOf v := by omega
  rw [hsome v hv, resolve_page hp hvalid]
  simp [pageAt, hframe, hperm, haddr]

end Walk

end Rhyve.RadixTree
