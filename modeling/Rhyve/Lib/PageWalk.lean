import Rhyve.Lib.Words

/-! # The four-level page walk of x86-64

One walker for every paging mode that splits an address into 9-bit indices over 4 KiB tables of
512 eight-byte entries. A `Format` says what an entry means in one mode. The entries are read by a
`fetch` that may itself fail, so that the walker also describes guest tables that are read through
nested tables. Levels count down to the page table: 3 is the PML4, 0 the page table.
-/

namespace Rhyve.PageWalk
open Words
set_option autoImplicit false

/-- Access rights granted by one entry, or by all entries of a walk together. -/
structure Perm where
  read : Bool
  write : Bool
  exec : Bool
  deriving DecidableEq, Repr

def Perm.all : Perm := ⟨true, true, true⟩

def Perm.meet (p q : Perm) : Perm :=
  ⟨p.read && q.read, p.write && q.write, p.exec && q.exec⟩

@[simp] theorem Perm.meet_all (p : Perm) : p.meet Perm.all = p := by
  simp [Perm.meet, Perm.all]

/-- The meaning of an entry in one paging mode. -/
structure Format where
  present : BitVec 64 → Bool
  /-- No reserved bit or reserved encoding at this level. -/
  valid : ℕ → BitVec 64 → Bool
  /-- The entry maps a page although it is not at level 0. -/
  large : ℕ → BitVec 64 → Bool
  perm : BitVec 64 → Perm

/-- Why a walk fails, and at which level. -/
inductive Fault (φ : Type) where
  | notPresent (level : ℕ)
  | reserved (level : ℕ)
  | fetch (cause : φ)
  deriving DecidableEq, Repr

/-- Where an address leads, and what is allowed there. -/
structure Translation where
  addr : ℕ
  perm : Perm
  deriving DecidableEq, Repr

/-- The index of address `a` into a table of the given level. -/
def index (level a : ℕ) : ℕ := a / 2 ^ (12 + 9 * level) % 512

theorem index_lt (level a : ℕ) : index level a < 512 := Nat.mod_lt _ (by decide)

/-- The translation made by a page entry `e` found at `level`. -/
def pageAt (fmt : Format) (level : ℕ) (e : BitVec 64) (perm : Perm) (a : ℕ) : Translation where
  addr := frame e / 2 ^ (12 + 9 * level) * 2 ^ (12 + 9 * level) + a % 2 ^ (12 + 9 * level)
  perm := perm.meet (fmt.perm e)

/-- What an entry of a page table resolves the address to. -/
def resolve {φ : Type} (fmt : Format) (e : BitVec 64) (perm : Perm) (a : ℕ) : Except (Fault φ) Translation :=
  if !fmt.present e then .error (.notPresent 0)
  else if !fmt.valid 0 e then .error (.reserved 0)
  else .ok (pageAt fmt 0 e perm a)

/-- Walks from the table at `table`, which is of the given level. -/
def walk {φ : Type} (fmt : Format) (fetch : ℕ → Except φ (BitVec 64)) :
    ℕ → ℕ → Perm → ℕ → Except (Fault φ) Translation
  | 0, table, perm, a =>
    match fetch (table + 8 * index 0 a) with
    | .error f => .error (.fetch f)
    | .ok e => resolve fmt e perm a
  | level + 1, table, perm, a =>
    match fetch (table + 8 * index (level + 1) a) with
    | .error f => .error (.fetch f)
    | .ok e =>
      if !fmt.present e then .error (.notPresent (level + 1))
      else if !fmt.valid (level + 1) e then .error (.reserved (level + 1))
      else if fmt.large (level + 1) e then .ok (pageAt fmt (level + 1) e perm a)
      else walk fmt fetch level (frame e) (perm.meet (fmt.perm e)) a

section Step
variable {φ : Type} {fmt : Format} {fetch : ℕ → Except φ (BitVec 64)} {level table a : ℕ}
  {perm : Perm} {e : BitVec 64}

theorem walk_absent (hf : fetch (table + 8 * index level a) = .ok e) (hp : fmt.present e = false) :
    walk fmt fetch level table perm a = .error (.notPresent level) := by
  cases level with
  | zero => simp [walk, resolve, hf, hp]
  | succ level => simp [walk, hf, hp]

theorem walk_resolve (hf : fetch (table + 8 * index 0 a) = .ok e) :
    walk fmt fetch 0 table perm a = resolve fmt e perm a := by
  simp only [walk, hf]

theorem resolve_page (hp : fmt.present e = true) (hv : fmt.valid 0 e = true) :
    resolve (φ := φ) fmt e perm a = .ok (pageAt fmt 0 e perm a) := by
  simp [resolve, hp, hv]

theorem walk_largePage (hf : fetch (table + 8 * index (level + 1) a) = .ok e)
    (hp : fmt.present e = true) (hv : fmt.valid (level + 1) e = true)
    (hl : fmt.large (level + 1) e = true) :
    walk fmt fetch (level + 1) table perm a = .ok (pageAt fmt (level + 1) e perm a) := by
  simp [walk, hf, hp, hv, hl]

theorem walk_table (hf : fetch (table + 8 * index (level + 1) a) = .ok e)
    (hp : fmt.present e = true) (hv : fmt.valid (level + 1) e = true)
    (hl : fmt.large (level + 1) e = false) :
    walk fmt fetch (level + 1) table perm a =
      walk fmt fetch level (frame e) (perm.meet (fmt.perm e)) a := by
  simp [walk, hf, hp, hv, hl]

end Step

end Rhyve.PageWalk
