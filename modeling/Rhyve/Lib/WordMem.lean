import Rhyve.Lib.ByteMem

/-! # Words in a memory with 64-bit addresses

A memory gives every 64-bit address a byte, and addresses wrap around. `load` and `store` access the eight
bytes of a word.

* `Apart a b`: the words at `a` and at `b` do not overlap; `Separate a n b k`: nor do the `n` bytes from `a` and
  the `k` bytes from `b`.
* `Holds m a xs`: the words from `a` on are `xs`. `pushWords`: a stack that grows downwards.
* `storeWords`: stores at offsets of one base, in any order.
-/

namespace Rhyve.WordMem
open ByteMem
set_option autoImplicit false

/-- A byte for every address. -/
abbrev Memory := BitVec 64 → BitVec 8

def view (m : Memory) (a : BitVec 64) : Mem := fun k => m (a + BitVec.ofNat 64 k)

def load (m : Memory) (a : BitVec 64) : BitVec 64 := load64 (view m a) 0

def store (m : Memory) (a v : BitVec 64) : Memory := fun x =>
  if (x - a).toNat < 8 then BitVec.ofNat 8 (v.toNat / 256 ^ (x - a).toNat) else m x

theorem load_congr {m m' : Memory} {a : BitVec 64}
    (h : ∀ k < 8, m' (a + BitVec.ofNat 64 k) = m (a + BitVec.ofNat 64 k)) : load m' a = load m a := by
  apply load64_congr
  intro k _ hk
  exact h k (by omega)

def Apart (a b : BitVec 64) : Prop := 8 ≤ (b - a).toNat ∧ 8 ≤ (a - b).toNat

theorem Apart.symm {a b : BitVec 64} (h : Apart a b) : Apart b a := ⟨h.2, h.1⟩

theorem load_store_same (m : Memory) (a v : BitVec 64) : load (store m a v) a = v := by
  have hview : ∀ k, 0 ≤ k → k < 0 + 8 → view (store m a v) a k = store64 (view m a) 0 v k := by
    intro k _ hk
    have hoff : (a + BitVec.ofNat 64 k - a).toNat = k := by bv_omega
    show (if (a + BitVec.ofNat 64 k - a).toNat < 8 then _ else _) = _
    rw [hoff, if_pos (by omega), store64, storeLE_inside _ _ _ _ _ (by omega), Nat.sub_zero]
  rw [load, load64_congr hview, load64_store64_same]

theorem load_store_apart {m : Memory} {a b v : BitVec 64} (h : Apart a b) :
    load (store m a v) b = load m b := by
  obtain ⟨hlow, hhigh⟩ := h
  apply load64_congr
  intro k _ hk
  have hoff : ¬ (b + BitVec.ofNat 64 k - a).toNat < 8 := by bv_omega
  exact if_neg hoff

/-- The `n` bytes from `a` on and the `k` bytes from `b` on have none in common, on a space that wraps around.
-/
structure Separate (a : BitVec 64) (n : ℕ) (b : BitVec 64) (k : ℕ) : Prop where
  low : n ≤ (b - a).toNat
  high : k ≤ (a - b).toNat

theorem Separate.apart {a b : BitVec 64} {n k i j : ℕ} (h : Separate a n b k) (hi : i + 8 ≤ n)
    (hj : j + 8 ≤ k) : Apart (a + BitVec.ofNat 64 i) (b + BitVec.ofNat 64 j) := by
  obtain ⟨hlow, hhigh⟩ := h
  have hd := (b - a).isLt
  refine ⟨?_, ?_⟩
  · bv_omega
  · bv_omega

theorem Separate.ne {a b : BitVec 64} {n k i j : ℕ} (h : Separate a n b k) (hi : i < n) (hj : j < k) :
    a + BitVec.ofNat 64 i ≠ b + BitVec.ofNat 64 j := by
  obtain ⟨hlow, hhigh⟩ := h
  have hd := (b - a).isLt
  bv_omega

/-! ## Consecutive words -/

/-- The words lie one after the other from an address on. -/
def Holds (m : Memory) : BitVec 64 → List (BitVec 64) → Prop
  | _, [] => True
  | a, x :: xs => load m a = x ∧ Holds m (a + 8#64) xs

theorem holds_of_load {m m' : Memory} {a : BitVec 64} {xs : List (BitVec 64)} (h : Holds m a xs)
    (hsame : ∀ k < xs.length, load m' (a + BitVec.ofNat 64 (8 * k)) = load m (a + BitVec.ofNat 64 (8 * k))) :
    Holds m' a xs := by
  induction xs generalizing a with
  | nil => trivial
  | cons x xs ih =>
    refine ⟨?_, ih h.2 ?_⟩
    · have hhead := hsame 0 (Nat.succ_pos _)
      rw [Nat.mul_zero, BitVec.add_zero] at hhead
      exact hhead.trans h.1
    · intro k hk
      have htail := hsame (k + 1) (Nat.succ_lt_succ hk)
      have haddr : a + BitVec.ofNat 64 (8 * (k + 1)) = a + 8#64 + BitVec.ofNat 64 (8 * k) := by
        rw [Nat.mul_add, Nat.add_comm, BitVec.ofNat_add, BitVec.add_assoc]
      rw [haddr] at htail
      exact htail

theorem exists_holds (m : Memory) (a : BitVec 64) (n : ℕ) :
    ∃ (vs : List (BitVec 64)) (x : BitVec 64), vs.length = n ∧ Holds m a (vs ++ [x]) := by
  induction n generalizing a with
  | zero => exact ⟨[], load m a, rfl, rfl, trivial⟩
  | succ n ih =>
    obtain ⟨vs, x, hlen, hholds⟩ := ih (a + 8#64)
    exact ⟨load m a :: vs, x, congrArg Nat.succ hlen, rfl, hholds⟩

theorem Holds.append {m : Memory} {a : BitVec 64} {xs ys : List (BitVec 64)} (h : Holds m a (xs ++ ys)) :
    Holds m (a + BitVec.ofNat 64 (8 * xs.length)) ys := by
  induction xs generalizing a with
  | nil =>
    rw [List.length_nil, Nat.mul_zero, BitVec.add_zero]
    exact h
  | cons x xs ih =>
    have hrest := ih h.2
    rw [List.length_cons, Nat.mul_add, Nat.add_comm, BitVec.ofNat_add, ← BitVec.add_assoc]
    exact hrest

/-! ## A stack -/

/-- Pushes the words in order; the last one is then on top. -/
def pushWords (m : Memory) (sp : BitVec 64) : List (BitVec 64) → Memory
  | [] => m
  | v :: vs => pushWords (store m (sp - 8#64) v) (sp - 8#64) vs

theorem load_pushWords {m : Memory} {sp b : BitVec 64} {vs : List (BitVec 64)}
    (h : ∀ k < vs.length, Apart (sp - BitVec.ofNat 64 (8 * (k + 1))) b) :
    load (pushWords m sp vs) b = load m b := by
  induction vs generalizing m sp with
  | nil => rfl
  | cons v vs ih =>
    have hrest : load (pushWords (store m (sp - 8#64) v) (sp - 8#64) vs) b = load (store m (sp - 8#64) v) b := by
      apply ih
      intro k hk
      have hnext := h (k + 1) (Nat.succ_lt_succ hk)
      have haddr : sp - BitVec.ofNat 64 (8 * (k + 1 + 1)) = sp - 8#64 - BitVec.ofNat 64 (8 * (k + 1)) := by
        bv_omega
      rw [haddr] at hnext
      exact hnext
    have hhead := h 0 (Nat.succ_pos _)
    exact hrest.trans (load_store_apart hhead)

/-- The stack after a push. The bound says that it does not run into itself. -/
theorem Holds.push {m : Memory} {sp : BitVec 64} {xs : List (BitVec 64)} (h : Holds m sp xs)
    (hlen : 8 * (xs.length + 1) < 2 ^ 64) (v : BitVec 64) :
    Holds (store m (sp - 8#64) v) (sp - 8#64) (v :: xs) := by
  refine ⟨load_store_same m (sp - 8#64) v, ?_⟩
  rw [BitVec.sub_add_cancel]
  apply holds_of_load h
  intro k hk
  apply load_store_apart
  refine ⟨?_, ?_⟩
  · bv_omega
  · bv_omega

theorem Holds.pushWords {m : Memory} {sp : BitVec 64} {vs xs : List (BitVec 64)} (h : Holds m sp xs)
    (hlen : 8 * (vs.length + xs.length) < 2 ^ 64) :
    Holds (pushWords m sp vs) (sp - BitVec.ofNat 64 (8 * vs.length)) (vs.reverse ++ xs) := by
  induction vs generalizing m sp xs with
  | nil =>
    rw [List.length_nil, Nat.mul_zero, BitVec.sub_zero]
    exact h
  | cons v vs ih =>
    rw [List.length_cons] at hlen
    have hpush := h.push (by omega) v
    have hrest := ih hpush (by rw [List.length_cons]; omega)
    have haddr : sp - BitVec.ofNat 64 (8 * (v :: vs).length) = sp - 8#64 - BitVec.ofNat 64 (8 * vs.length) := by
      rw [List.length_cons]
      bv_omega
    rw [haddr, List.reverse_cons, List.append_assoc]
    exact hrest

/-! ## Words at offsets -/

def storeWords (m : Memory) (base : BitVec 64) : List (ℕ × BitVec 64) → Memory
  | [] => m
  | w :: ws => storeWords (store m (base + BitVec.ofNat 64 w.1) w.2) base ws

theorem load_storeWords {m : Memory} {base b : BitVec 64} {ws : List (ℕ × BitVec 64)}
    (h : ∀ w ∈ ws, Apart (base + BitVec.ofNat 64 w.1) b) : load (storeWords m base ws) b = load m b := by
  induction ws generalizing m with
  | nil => rfl
  | cons w ws ih =>
    have hrest := ih (m := store m (base + BitVec.ofNat 64 w.1) w.2)
      fun u hu => h u (List.mem_cons_of_mem w hu)
    exact hrest.trans (load_store_apart (h w List.mem_cons_self))

theorem load_storeWords_mem {m : Memory} {base : BitVec 64} {ws : List (ℕ × BitVec 64)}
    (h : ws.Pairwise fun u w => Apart (base + BitVec.ofNat 64 w.1) (base + BitVec.ofNat 64 u.1))
    {off : ℕ} {v : BitVec 64} (hmem : (off, v) ∈ ws) :
    load (storeWords m base ws) (base + BitVec.ofNat 64 off) = v := by
  induction ws generalizing m with
  | nil => cases hmem
  | cons w ws ih =>
    obtain ⟨hhead, hrest⟩ := List.pairwise_cons.mp h
    rcases List.mem_cons.mp hmem with heq | hmem
    · -- What is stored later is elsewhere.
      subst heq
      have hlater : load (storeWords (store m (base + BitVec.ofNat 64 off) v) base ws)
          (base + BitVec.ofNat 64 off) =
          load (store m (base + BitVec.ofNat 64 off) v) (base + BitVec.ofNat 64 off) :=
        load_storeWords fun u hu => hhead u hu
      exact hlater.trans (load_store_same _ _ _)
    · exact ih hrest hmem

/-- What lies in none of the words is kept. -/
theorem storeWords_other {m : Memory} {base x : BitVec 64} {ws : List (ℕ × BitVec 64)}
    (h : ∀ w ∈ ws, ∀ k < 8, x ≠ base + BitVec.ofNat 64 (w.1 + k)) : storeWords m base ws x = m x := by
  induction ws generalizing m with
  | nil => rfl
  | cons w ws ih =>
    have hrest := ih (m := store m (base + BitVec.ofNat 64 w.1) w.2) fun u hu => h u (List.mem_cons_of_mem w hu)
    refine hrest.trans (if_neg ?_)
    intro hlt
    apply h w List.mem_cons_self _ hlt
    bv_omega

theorem apart_offsets (a : BitVec 64) {i j : ℕ} (h : i + 8 ≤ j ∨ j + 8 ≤ i) (hi : i + 8 < 2 ^ 64)
    (hj : j + 8 < 2 ^ 64) : Apart (a + BitVec.ofNat 64 i) (a + BitVec.ofNat 64 j) := by
  refine ⟨?_, ?_⟩
  · bv_omega
  · bv_omega

end Rhyve.WordMem
