import Mathlib.Data.Nat.Notation
import Mathlib.Tactic.Ring

/-! # Byte-addressed memory with little-endian multi-byte accesses

A memory gives every address a byte. `loadLE m a n` is the number held by the `n` bytes from `a`,
`storeLE m a n v` overwrites these bytes with the low `n` bytes of `v`. Everything a caller needs:

* `storeLE_outside`: a store leaves every byte outside its range alone;
* `loadLE_storeLE_same`, `loadLE_storeLE_disjoint`: a load sees exactly the stores to its bytes;
* `loadLE_congr`: a load depends on the bytes it covers and on nothing else;
* the fixed-width accesses `load64`, `load32`, `store64`;
* `ofWords`: the memory that shows a given word at every eighth address;
* `bitAt`: bit maps, eight bits to a byte.
-/

namespace Rhyve.ByteMem
set_option autoImplicit false

/-- A byte for every address. -/
abbrev Mem := ℕ → BitVec 8

/-- The number held by the `n` bytes from address `a`, least significant byte first. -/
def loadLE (m : Mem) : ℕ → ℕ → ℕ
  | _, 0 => 0
  | a, n + 1 => (m a).toNat + 256 * loadLE m (a + 1) n

/-- Overwrites the `n` bytes from address `a` with the low bytes of `v`. -/
def storeLE (m : Mem) (a n v : ℕ) : Mem := fun x =>
  if a ≤ x ∧ x < a + n then BitVec.ofNat 8 (v / 256 ^ (x - a)) else m x

theorem storeLE_inside (m : Mem) (a n v x : ℕ) (h : a ≤ x ∧ x < a + n) :
    storeLE m a n v x = BitVec.ofNat 8 (v / 256 ^ (x - a)) := by
  rw [storeLE, if_pos h]

theorem storeLE_outside (m : Mem) (a n v x : ℕ) (h : x < a ∨ a + n ≤ x) :
    storeLE m a n v x = m x := by
  rw [storeLE, if_neg (by omega)]

/-- Two memories that show the same bytes, perhaps at different addresses. -/
theorem loadLE_shift {m m' : Mem} {a b n : ℕ} (h : ∀ j, j < n → m (a + j) = m' (b + j)) :
    loadLE m a n = loadLE m' b n := by
  induction n generalizing a b with
  | zero => rfl
  | succ n ih =>
    have hhead : m a = m' b := h 0 (Nat.succ_pos n)
    have htail : loadLE m (a + 1) n = loadLE m' (b + 1) n := by
      apply ih
      intro j hj
      have hj' := h (j + 1) (by omega)
      have ha : a + (j + 1) = a + 1 + j := by omega
      have hb : b + (j + 1) = b + 1 + j := by omega
      rw [ha, hb] at hj'
      exact hj'
    rw [loadLE, loadLE, hhead, htail]

theorem loadLE_congr {m m' : Mem} {a n : ℕ} (h : ∀ x, a ≤ x → x < a + n → m x = m' x) :
    loadLE m a n = loadLE m' a n :=
  loadLE_shift fun j hj => h (a + j) (by omega) (by omega)

theorem loadLE_storeLE_disjoint (m : Mem) (a n b k v : ℕ) (h : a + n ≤ b ∨ b + k ≤ a) :
    loadLE (storeLE m b k v) a n = loadLE m a n :=
  loadLE_congr fun x h1 h2 => storeLE_outside m b k v x (by omega)

/-- A load of the bytes just stored: `n` bytes of `v`, from byte `j` on. -/
theorem loadLE_storeLE_suffix (m : Mem) (a v : ℕ) : ∀ n j : ℕ,
    loadLE (storeLE m a (j + n) v) (a + j) n = v / 256 ^ j % 256 ^ n
  | 0, j => by simp [loadLE, Nat.mod_one]
  | n + 1, j => by
      have ih := loadLE_storeLE_suffix m a v n (j + 1)
      have hlen : j + 1 + n = j + (n + 1) := by omega
      rw [hlen] at ih
      have hbyte := storeLE_inside m a (j + (n + 1)) v (a + j) (by omega)
      have hoff : a + j - a = j := by omega
      rw [hoff] at hbyte
      have haddr : a + j + 1 = a + (j + 1) := by omega
      rw [loadLE, hbyte, haddr, ih, BitVec.toNat_ofNat]
      change v / 256 ^ j % 256 + 256 * (v / 256 ^ (j + 1) % 256 ^ n) = v / 256 ^ j % 256 ^ (n + 1)
      rw [Nat.pow_succ 256 n, Nat.mul_comm (256 ^ n) 256, Nat.mod_mul, Nat.pow_succ 256 j,
        Nat.div_div_eq_div_mul]

theorem loadLE_storeLE_same (m : Mem) (a n v : ℕ) :
    loadLE (storeLE m a n v) a n = v % 256 ^ n := by
  have h := loadLE_storeLE_suffix m a v n 0
  simpa using h

/-! ## Fixed-width accesses -/

def load64 (m : Mem) (a : ℕ) : BitVec 64 := BitVec.ofNat 64 (loadLE m a 8)

def load32 (m : Mem) (a : ℕ) : BitVec 32 := BitVec.ofNat 32 (loadLE m a 4)

def store64 (m : Mem) (a : ℕ) (v : BitVec 64) : Mem := storeLE m a 8 v.toNat

theorem load64_shift {m m' : Mem} {a b : ℕ} (h : ∀ j, j < 8 → m (a + j) = m' (b + j)) :
    load64 m a = load64 m' b := by
  rw [load64, load64, loadLE_shift h]

theorem load64_congr {m m' : Mem} {a : ℕ} (h : ∀ x, a ≤ x → x < a + 8 → m x = m' x) :
    load64 m a = load64 m' a := by
  rw [load64, load64, loadLE_congr h]

theorem load32_congr {m m' : Mem} {a : ℕ} (h : ∀ x, a ≤ x → x < a + 4 → m x = m' x) :
    load32 m a = load32 m' a := by
  rw [load32, load32, loadLE_congr h]

@[simp] theorem load64_store64_same (m : Mem) (a : ℕ) (v : BitVec 64) :
    load64 (store64 m a v) a = v := by
  have hlt : v.toNat < 256 ^ 8 := v.isLt
  rw [load64, store64, loadLE_storeLE_same, Nat.mod_eq_of_lt hlt, BitVec.ofNat_toNat,
    BitVec.setWidth_eq]

theorem load64_store64_disjoint (m : Mem) (a b : ℕ) (v : BitVec 64) (h : a + 8 ≤ b ∨ b + 8 ≤ a) :
    load64 (store64 m b v) a = load64 m a := by
  rw [load64, store64, loadLE_storeLE_disjoint m a 8 b 8 v.toNat h, load64]

/-! ## Memory given word by word -/

def ofWords (w : ℕ → BitVec 64) : Mem := fun x => BitVec.ofNat 8 ((w (x / 8)).toNat / 256 ^ (x % 8))

theorem load64_ofWords (w : ℕ → BitVec 64) (i : ℕ) : load64 (ofWords w) (8 * i) = w i := by
  have hbytes : ∀ x, 8 * i ≤ x → x < 8 * i + 8 →
      ofWords w x = store64 (fun _ => 0) (8 * i) (w i) x := by
    intro x h1 h2
    have hdiv : x / 8 = i := by omega
    have hmod : x % 8 = x - 8 * i := by omega
    rw [ofWords, store64, storeLE_inside _ _ _ _ _ ⟨h1, h2⟩, hdiv, hmod]
  rw [load64_congr hbytes, load64_store64_same]

/-! ## Bit maps -/

/-- Bit `n` of the map that starts at `base`. -/
def bitAt (m : Mem) (base n : ℕ) : Bool := (m (base + n / 8)).getLsbD (n % 8)

theorem bitAt_shift (m : Mem) (base k n : ℕ) : bitAt m base (8 * k + n) = bitAt m (base + k) n := by
  rw [bitAt, bitAt, Nat.mul_add_div (by decide), Nat.mul_add_mod, Nat.add_assoc]

theorem bitAt_ones {m : Mem} {base len n : ℕ} (h : ∀ i, i < len → m (base + i) = 0xFF#8)
    (hn : n < 8 * len) : bitAt m base n = true := by
  have hbyte := h (n / 8) (Nat.div_lt_of_lt_mul hn)
  have hlt : n % 8 < 8 := Nat.mod_lt n (by decide)
  rw [bitAt, hbyte]
  revert hlt
  generalize n % 8 = i
  revert i
  decide

end Rhyve.ByteMem
