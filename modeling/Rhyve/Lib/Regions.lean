import Rhyve.Lib.ByteMem

/-! # Blocks of bytes in a memory

Blocks are copied into a memory one after the other, and a later block overwrites an earlier one.

* `placeAll_shows`: blocks that do not overlap are all there at the end.
* `placeAll_outside`: what no block covers is left alone.
-/

namespace Rhyve.Regions
open ByteMem
set_option autoImplicit false

/-- Bytes to be written from an address on. -/
structure Block where
  start : ℕ
  bytes : List (BitVec 8)

def Block.stop (b : Block) : ℕ := b.start + b.bytes.length

def Block.Misses (b : Block) (x : ℕ) : Prop := x < b.start ∨ b.stop ≤ x

def Block.Apart (b c : Block) : Prop := b.stop ≤ c.start ∨ c.stop ≤ b.start

def place (m : Mem) (b : Block) : Mem := fun x =>
  if b.start ≤ x ∧ x < b.start + b.bytes.length then b.bytes.getD (x - b.start) 0#8 else m x

def placeAll (m : Mem) (bs : List Block) : Mem := bs.foldl place m

/-- The memory holds the block. -/
def Shows (m : Mem) (b : Block) : Prop := ∀ j, j < b.bytes.length → m (b.start + j) = b.bytes.getD j 0#8

theorem place_outside (m : Mem) {b : Block} {x : ℕ} (h : b.Misses x) : place m b x = m x := by
  unfold Block.Misses Block.stop at h
  rw [place, if_neg (by omega)]

theorem place_shows (m : Mem) (b : Block) : Shows (place m b) b := by
  intro j hj
  rw [place, if_pos (by omega), Nat.add_sub_cancel_left]

theorem Shows.congr {m m' : Mem} {b : Block} (h : Shows m b) (hsame : ∀ x, b.start ≤ x → x < b.stop → m' x = m x) :
    Shows m' b := by
  intro j hj
  rw [hsame (b.start + j) (by omega) (by unfold Block.stop; omega)]
  exact h j hj

theorem placeAll_outside {bs : List Block} (m : Mem) {x : ℕ} (h : ∀ b ∈ bs, b.Misses x) : placeAll m bs x = m x := by
  induction bs generalizing m with
  | nil => rfl
  | cons b bs ih =>
    show placeAll (place m b) bs x = m x
    rw [ih (place m b) fun c hc => h c (List.mem_cons_of_mem b hc), place_outside m (h b List.mem_cons_self)]

theorem placeAll_shows {bs : List Block} (m : Mem) (h : bs.Pairwise Block.Apart) {b : Block} (hb : b ∈ bs) :
    Shows (placeAll m bs) b := by
  induction bs generalizing m with
  | nil => cases hb
  | cons c bs ih =>
    obtain ⟨hc, hrest⟩ := List.pairwise_cons.mp h
    rcases List.mem_cons.mp hb with rfl | hmem
    · -- no later block reaches into this one
      refine (place_shows m b).congr ?_
      intro x hlo hhi
      apply placeAll_outside (place m b)
      intro d hd
      have hapart := hc d hd
      unfold Block.Apart at hapart
      unfold Block.Misses
      omega
    · exact ih (place m c) hrest hmem

end Rhyve.Regions
