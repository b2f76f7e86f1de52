import Mathlib.Data.Nat.Notation
import Mathlib.Tactic.Ring
import Mathlib.Tactic.NormNum

/-! # Page-aligned addresses and flag bits packed into one 64-bit word

A paging entry is a page-aligned address below `2 ^ 52` joined by `|||` with flags that live in the
low twelve bits. The two halves do not disturb each other: `frame_or` and `flags_or` take them apart.
`frame` is the hardware's own view of bits 51:12.
-/

namespace Rhyve.Words
set_option autoImplicit false

/-- Bits 51:12 of a paging entry: the address of the table or page it refers to. -/
def addrMask : BitVec 64 := 0x000FFFFFFFFFF000#64

def frame (e : BitVec 64) : ℕ := (e &&& addrMask).toNat

/-- A page-aligned physical address below `2 ^ 52`. -/
structure Aligned (p : BitVec 64) : Prop where
  page : p.toNat % 4096 = 0
  bound : p.toNat < 2 ^ 52

theorem addrMask_toNat : addrMask.toNat = (2 ^ 40 - 1) * 2 ^ 12 := by decide

theorem and_addrMask_toNat (e : BitVec 64) :
    (e &&& addrMask).toNat = e.toNat / 4096 % 2 ^ 40 * 4096 := by
  rw [BitVec.toNat_and, addrMask_toNat, ← Nat.shiftLeft_eq]
  have hsplit : e.toNat / 4096 % 2 ^ 40 * 4096 = ((e.toNat >>> 12) &&& (2 ^ 40 - 1)) <<< 12 := by
    rw [Nat.and_two_pow_sub_one_eq_mod, Nat.shiftRight_eq_div_pow, Nat.shiftLeft_eq]
  rw [hsplit]
  apply Nat.eq_of_testBit_eq
  intro i
  simp only [Nat.testBit_and, Nat.testBit_shiftLeft, Nat.testBit_shiftRight,
    Nat.testBit_two_pow_sub_one]
  by_cases hi : 12 ≤ i
  · have hadd : 12 + (i - 12) = i := by omega
    simp [hi, hadd]
  · simp [hi]

theorem or_toNat {p f : BitVec 64} (hp : p.toNat % 4096 = 0) (hf : f.toNat < 4096) :
    (p ||| f).toNat = p.toNat + f.toNat := by
  have hdiv : p.toNat = 2 ^ 12 * (p.toNat / 4096) := by omega
  rw [BitVec.toNat_or, hdiv, ← Nat.two_pow_add_eq_or_of_lt (by omega : f.toNat < 2 ^ 12)]

theorem frame_or {p f : BitVec 64} (hp : Aligned p) (hf : f.toNat < 4096) :
    frame (p ||| f) = p.toNat := by
  have hpage := hp.page
  have hbound := hp.bound
  rw [frame, and_addrMask_toNat, or_toNat hpage hf]
  omega

theorem flags_or {p f g : BitVec 64} (hp : p.toNat % 4096 = 0) (hf : f.toNat < 4096)
    (hg : g.toNat < 4096) : (p ||| f) &&& g = f &&& g := by
  have hmod : (p.toNat + f.toNat) % 2 ^ 12 = f.toNat := by omega
  have hle : (p.toNat + f.toNat) &&& g.toNat < 2 ^ 12 :=
    Nat.lt_of_le_of_lt Nat.and_le_right (by omega)
  apply BitVec.eq_of_toNat_eq
  rw [BitVec.toNat_and, BitVec.toNat_and, or_toNat hp hf]
  calc (p.toNat + f.toNat) &&& g.toNat
      = ((p.toNat + f.toNat) &&& g.toNat) % 2 ^ 12 := (Nat.mod_eq_of_lt hle).symm
    _ = ((p.toNat + f.toNat) % 2 ^ 12) &&& (g.toNat % 2 ^ 12) := Nat.and_mod_two_pow
    _ = f.toNat &&& g.toNat := by rw [hmod, Nat.mod_eq_of_lt (by omega : g.toNat < 2 ^ 12)]

/-- An index slice of an address, as the code writes it and as the hardware counts it. -/
theorem slice_toNat (a : BitVec 64) (s : ℕ) :
    ((a >>> s) &&& 0x1ff#64).toNat = a.toNat / 2 ^ s % 512 := by
  rw [BitVec.toNat_and, BitVec.toNat_ushiftRight, Nat.shiftRight_eq_div_pow]
  exact Nat.and_two_pow_sub_one_eq_mod (a.toNat / 2 ^ s) 9

/-! ## Masks -/

/-- Every bit of the word is one of the mask. -/
abbrev Within (x m : BitVec 64) : Prop := x &&& ~~~m = 0#64

theorem within_iff {x m : BitVec 64} : Within x m ↔ ∀ i, x.getLsbD i = true → m.getLsbD i = true := by
  constructor
  · intro h i hx
    have hi := BitVec.lt_of_getLsbD hx
    have hbit := congrArg (fun y => y.getLsbD i) h
    simpa [BitVec.getLsbD_and, BitVec.getLsbD_not, hi, hx] using hbit
  · intro h
    refine BitVec.eq_of_getLsbD_eq fun i hi => ?_
    rw [BitVec.getLsbD_and, BitVec.getLsbD_not, BitVec.getLsbD_zero]
    cases hx : x.getLsbD i with
    | false => rfl
    | true => simp [h i hx]

theorem or_within_iff {x y m : BitVec 64} : Within (x ||| y) m ↔ Within x m ∧ Within y m := by
  simp only [within_iff, BitVec.getLsbD_or, Bool.or_eq_true]
  exact ⟨fun h => ⟨fun i hx => h i (.inl hx), fun i hy => h i (.inr hy)⟩,
    fun h i hxy => hxy.elim (h.1 i) (h.2 i)⟩

theorem within_or_right (x y : BitVec 64) : Within y (x ||| y) := by
  rw [within_iff]
  intro i hy
  rw [BitVec.getLsbD_or, hy, Bool.or_true]

/-- Putting bits into the part of a word that a mask covers leaves the rest of the word as it is. -/
theorem masked_or (x m y : BitVec 64) : (x &&& ~~~m) ||| ((x &&& m) ||| y) = x ||| y := by
  refine BitVec.eq_of_getLsbD_eq fun i hi => ?_
  simp only [BitVec.getLsbD_or, BitVec.getLsbD_and, BitVec.getLsbD_not, hi, decide_true, Bool.true_and]
  cases x.getLsbD i <;> cases m.getLsbD i <;> rfl

/-- Two masks, the smaller one inside the larger, agree on a word that has no bit between them. -/
theorem mask_eq_iff {x v small large : BitVec 64} (hsub : small &&& large = small)
    (hv : v &&& small = v) :
    (x &&& ~~~small) ||| v = (x &&& ~~~large) ||| v ↔ x &&& large &&& ~~~small = 0#64 := by
  have bits : ∀ i, (small.getLsbD i && large.getLsbD i) = small.getLsbD i ∧
      (v.getLsbD i && small.getLsbD i) = v.getLsbD i := by
    intro i
    rw [← BitVec.getLsbD_and, ← BitVec.getLsbD_and, hsub, hv]
    exact ⟨rfl, rfl⟩
  constructor
  · intro h
    refine BitVec.eq_of_getLsbD_eq fun i hi => ?_
    have hbit := congrArg (fun y => y.getLsbD i) h
    simp only [BitVec.getLsbD_or, BitVec.getLsbD_and, BitVec.getLsbD_not, hi, decide_true,
      Bool.true_and] at hbit
    simp only [BitVec.getLsbD_and, BitVec.getLsbD_not, hi, decide_true, Bool.true_and,
      BitVec.getLsbD_zero]
    obtain ⟨h1, h2⟩ := bits i
    revert hbit h1 h2
    cases x.getLsbD i <;> cases v.getLsbD i <;> cases small.getLsbD i <;> cases large.getLsbD i <;> simp
  · intro h
    refine BitVec.eq_of_getLsbD_eq fun i hi => ?_
    have hbit := congrArg (fun y => y.getLsbD i) h
    simp only [BitVec.getLsbD_and, BitVec.getLsbD_not, hi, decide_true, Bool.true_and,
      BitVec.getLsbD_zero] at hbit
    simp only [BitVec.getLsbD_or, BitVec.getLsbD_and, BitVec.getLsbD_not, hi, decide_true,
      Bool.true_and]
    obtain ⟨h1, h2⟩ := bits i
    revert hbit h1 h2
    cases x.getLsbD i <;> cases v.getLsbD i <;> cases small.getLsbD i <;> cases large.getLsbD i <;> simp

end Rhyve.Words
