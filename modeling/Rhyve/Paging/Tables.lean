import Rhyve.Core
import Rhyve.Lib.RadixTree

/-! # The nested page tables of a VM: `Ept` and `Npt`

`vmx/ept.rs` and `svm/npt.rs` build the same tables with different flag bits. The common code is
written once over `Flags`; `Ept.*` and `Npt.*` are its two instances.

* `Host` is what the code gets from the environment: `virtual_to_physical` and `alloc_zeroed`. Its laws
  are those a host with paging gives: translation works page by page, physical addresses have 52 bits,
  an allocation is page-aligned (the layout asks for it) and overlaps no live table.
* A table is known by its host-virtual address. `Heap` holds the entries of all tables, as the raw
  pointers of `child_or_alloc` and `map_page` see them.
* A call that fails keeps what it wrote before failing, so `map_page` returns a state with its result.
-/

namespace Rhyve.Paging
open Words
set_option autoImplicit false

/-- The host's memory management as the tables use it: the translation of host addresses, which works page by
page, and an allocator that gives out pages not in use. -/
structure Host where
  virtualToPhysical : BitVec 64 → Option (BitVec 64)
  /-- The answer to the `k`-th allocation of a table while the tables `live` are owned. -/
  allocZeroed : (k : ℕ) → (live : List (BitVec 64)) → Option (BitVec 64)
  v2p_offset : ∀ {v p}, virtualToPhysical v = some p → p.toNat % 4096 = v.toNat % 4096
  v2p_page : ∀ {v w p}, v.toNat / 4096 = w.toNat / 4096 → virtualToPhysical v = some p →
    ∃ q, virtualToPhysical w = some q ∧ q.toNat / 4096 = p.toNat / 4096
  v2p_bound : ∀ {v p}, virtualToPhysical v = some p → p.toNat < 2 ^ 52
  alloc_aligned : ∀ {k live t}, allocZeroed k live = some t → t.toNat % 4096 = 0
  alloc_fresh : ∀ {k live t}, allocZeroed k live = some t → t ∉ live
  alloc_distinct : ∀ {k live t u p}, allocZeroed k live = some t → u ∈ live →
    virtualToPhysical t = some p → virtualToPhysical u ≠ some p

def entryCount : ℕ := 512

def pageSize : ℕ := 4096

/-! ## Flag bits -/

/-- The flag bits one paging scheme writes and tests. -/
structure Flags where
  present : BitVec 64
  table : BitVec 64
  leaf : BitVec 64

namespace Ept

def eptRead : BitVec 64 := 1#64 <<< 0
def eptWrite : BitVec 64 := 1#64 <<< 1
def eptExecute : BitVec 64 := 1#64 <<< 2
def eptMemoryTypeWb : BitVec 64 := 6#64 <<< 3
def eptWalkLength4 : BitVec 64 := 3#64 <<< 3
def eptPointerMemoryTypeWb : BitVec 64 := 6#64

/-- The entry bits of `ept`. One of the three permissions makes an entry present; the code tests for read. -/
def flags : Flags where
  present := eptRead
  table := eptRead ||| eptWrite ||| eptExecute
  leaf := eptRead ||| eptWrite ||| eptExecute ||| eptMemoryTypeWb

end Ept

namespace Npt

def nptPresent : BitVec 64 := 1#64 <<< 0
def nptWrite : BitVec 64 := 1#64 <<< 1
def nptUser : BitVec 64 := 1#64 <<< 2
def nptAccessed : BitVec 64 := 1#64 <<< 5
def nptDirty : BitVec 64 := 1#64 <<< 6
def nptTable : BitVec 64 := nptPresent ||| nptWrite ||| nptUser
def nptLeaf : BitVec 64 := nptPresent ||| nptWrite ||| nptUser ||| nptAccessed ||| nptDirty

def flags : Flags where
  present := nptPresent
  table := nptTable
  leaf := nptLeaf

end Npt

/-! ## The table heap -/

/-- The tables in memory, and how many allocations there have been. -/
structure Heap where
  cells : BitVec 64 → ℕ → BitVec 64
  allocs : ℕ

namespace Heap

def write (h : Heap) (t : BitVec 64) (i : ℕ) (e : BitVec 64) : Heap :=
  { h with cells := fun u j => if u = t ∧ j = i then e else h.cells u j }

/-- Replaces all entries of table `t`. -/
def fill (h : Heap) (t : BitVec 64) (entries : ℕ → BitVec 64) : Heap :=
  { h with cells := fun u => if u = t then entries else h.cells u }

end Heap

/-- `alloc_zeroed` for a table. A failed attempt counts as an allocation too. -/
def allocTable (host : Host) (live : List (BitVec 64)) (h : Heap) : Option (BitVec 64) × Heap :=
  match host.allocZeroed h.allocs live with
  | none => (none, { h with allocs := h.allocs + 1 })
  | some t => (some t, { h.fill t (fun _ => 0) with allocs := h.allocs + 1 })

/-- The physical address of a table; `AllocationFailed` without one. -/
def hostPhysical (host : Host) (p : BitVec 64) : Except Abort (BitVec 64) :=
  match host.virtualToPhysical p with
  | some pa => .ok pa
  | none => .error (.error .allocationFailed)

/-! ## Construction -/

/-- The fields of `Ept` and `Npt`, and the heap their tables live in. -/
structure Nested where
  heap : Heap
  pml4 : BitVec 64
  pdpt : BitVec 64
  pd : BitVec 64
  pts : List (BitVec 64)
  extra : List (BitVec 64 × BitVec 64)

def Nested.owned (n : Nested) : List (BitVec 64) :=
  n.pml4 :: n.pdpt :: n.pd :: (n.pts ++ n.extra.map Prod.snd)

/-- The inner loop of `new`: the entries `j` of page table `i`, up to the end of guest memory. -/
def fillPt (k : Flags) (host : Host) (guestBase : BitVec 64) (numPages i : ℕ) :
    List ℕ → (ℕ → BitVec 64) → Except Abort (ℕ → BitVec 64)
  | [], pt => .ok pt
  | j :: js, pt =>
    let pageIdx := i * entryCount + j
    if numPages ≤ pageIdx then .ok pt
    else do
      let gpa := pageIdx * pageSize
      let hpa ← hostPhysical host (guestBase + BitVec.ofNat 64 gpa)
      fillPt k host guestBase numPages i js (Function.update pt j (hpa ||| k.leaf))

/-- The outer loop of `new`: one page table for each 2 MiB of guest memory. -/
def buildPts (k : Flags) (host : Host) (guestBase : BitVec 64) (numPages : ℕ) :
    List ℕ → Nested → Except Abort Nested
  | [], n => .ok n
  | i :: is, n =>
    match allocTable host n.owned n.heap with
    | (none, _) => .error (.error .allocationFailed)
    | (some pt, heap) => do
      let entries ← fillPt k host guestBase numPages i (List.range entryCount) (heap.cells pt)
      let ptHpa ← hostPhysical host pt
      let heap := (heap.fill pt entries).write n.pd i (ptHpa ||| k.table)
      buildPts k host guestBase numPages is { n with heap := heap, pts := n.pts ++ [pt] }

/-- `Ept::new` and `Npt::new`: the first GiB of the guest, in 4 KiB pages. The panics are the assertions at the
start of the function. -/
def new (k : Flags) (host : Host) (heap : Heap) (guestBase size : BitVec 64) :
    Except Abort Nested :=
  if guestBase.toNat % pageSize ≠ 0 then .error (.panic .guestBaseNotPageAligned)
  else if size.toNat % pageSize ≠ 0 then .error (.panic .guestSizeNotPageMultiple)
  else
    let numPages := size.toNat / pageSize
    let numPts := (numPages + (entryCount - 1)) / entryCount
    if ¬ numPts ≤ entryCount then .error (.panic .guestLargerThanOneGiB)
    else
      match allocTable host [] heap with
      | (none, _) => .error (.error .allocationFailed)
      | (some pml4, heap) =>
        match allocTable host [pml4] heap with
        | (none, _) => .error (.error .allocationFailed)
        | (some pdpt, heap) =>
          match allocTable host [pml4, pdpt] heap with
          | (none, _) => .error (.error .allocationFailed)
          | (some pd, heap) => do
            let pdptHpa ← hostPhysical host pdpt
            let heap := heap.write pml4 0 (pdptHpa ||| k.table)
            let pdHpa ← hostPhysical host pd
            let heap := heap.write pdpt 0 (pdHpa ||| k.table)
            buildPts k host guestBase numPages (List.range numPts)
              { heap := heap, pml4 := pml4, pdpt := pdpt, pd := pd, pts := [], extra := [] }

/-! ## Mapping a page -/

/-- `child_or_alloc`: the table below an entry, or a new one that is hung there. A table of `new` is not in
`extra`, and then the call fails. -/
def childOrAlloc (k : Flags) (host : Host) (n : Nested) (parent : BitVec 64) (idx : ℕ) :
    Except Abort (BitVec 64) × Nested :=
  let entry := n.heap.cells parent idx
  if entry &&& k.present ≠ 0 then
    match n.extra.find? (fun p => p.1 == entry &&& addrMask) with
    | some p => (.ok p.2, n)
    | none => (.error (.error .allocationFailed), n)
  else
    match allocTable host n.owned n.heap with
    | (none, heap) => (.error (.error .allocationFailed), { n with heap := heap })
    | (some table, heap) =>
      match hostPhysical host table with
      -- the table is dropped again: nothing refers to it
      | .error a => (.error a, { n with heap := heap })
      | .ok hpa =>
        (.ok table, { n with
          heap := heap.write parent idx (hpa ||| k.table)
          extra := n.extra ++ [(hpa, table)] })

/-- `map_page`: one page outside the first GiB, with the missing tables on the way. A failure may leave a new
table behind. -/
def mapPage (k : Flags) (host : Host) (n : Nested) (gpa hpa : BitVec 64) :
    Except Abort Unit × Nested :=
  if (gpa >>> 39) &&& 0x1ff#64 ≠ 0 then (.error (.panic .mapAbove512GiB), n)
  else if (gpa >>> 30) &&& 0x1ff#64 = 0 then (.error (.panic .mapInFirstGiB), n)
  else
    let i3 := ((gpa >>> 30) &&& 0x1ff#64).toNat
    match childOrAlloc k host n n.pdpt i3 with
    | (.error a, n) => (.error a, n)
    | (.ok pd, n) =>
      let i2 := ((gpa >>> 21) &&& 0x1ff#64).toNat
      match childOrAlloc k host n pd i2 with
      | (.error a, n) => (.error a, n)
      | (.ok pt, n) =>
        let i1 := ((gpa >>> 12) &&& 0x1ff#64).toNat
        (.ok (), { n with heap := n.heap.write pt i1 (hpa ||| k.leaf) })

/-! ## The two schemes -/

namespace Ept

def new (host : Host) (heap : Heap) (guestBase size : BitVec 64) : Except Abort Nested :=
  Paging.new flags host heap guestBase size

def childOrAlloc (host : Host) (n : Nested) (parent : BitVec 64) (idx : ℕ) :
    Except Abort (BitVec 64) × Nested :=
  Paging.childOrAlloc flags host n parent idx

def mapPage (host : Host) (n : Nested) (gpa hpa : BitVec 64) : Except Abort Unit × Nested :=
  Paging.mapPage flags host n gpa hpa

/-- The EPT pointer: four levels, write-back. -/
def eptp (host : Host) (n : Nested) : Except Abort (BitVec 64) := do
  let pml4 ← hostPhysical host n.pml4
  return pml4 ||| eptWalkLength4 ||| eptPointerMemoryTypeWb

end Ept

namespace Npt

def new (host : Host) (heap : Heap) (guestBase size : BitVec 64) : Except Abort Nested :=
  Paging.new flags host heap guestBase size

def childOrAlloc (host : Host) (n : Nested) (parent : BitVec 64) (idx : ℕ) :
    Except Abort (BitVec 64) × Nested :=
  Paging.childOrAlloc flags host n parent idx

def mapPage (host : Host) (n : Nested) (gpa hpa : BitVec 64) : Except Abort Unit × Nested :=
  Paging.mapPage flags host n gpa hpa

def ncr3 (host : Host) (n : Nested) : Except Abort (BitVec 64) :=
  hostPhysical host n.pml4

end Npt

/-- Which implementation of the `NestedPaging` trait a VM owns. -/
inductive Scheme where
  | ept
  | npt
  deriving DecidableEq, Repr

namespace Scheme

def flags : Scheme → Flags
  | .ept => Ept.flags
  | .npt => Npt.flags

def new : Scheme → Host → Heap → BitVec 64 → BitVec 64 → Except Abort Nested
  | .ept => Ept.new
  | .npt => Npt.new

/-- `map_page` of the scheme, as `Vm::new` uses it. -/
def mapMmio : Scheme → Host → Nested → BitVec 64 → BitVec 64 → Except Abort Unit × Nested
  | .ept => Ept.mapPage
  | .npt => Npt.mapPage

/-- What the vCPUs get: the EPT pointer or nCR3. -/
def pointer : Scheme → Host → Nested → Except Abort (BitVec 64)
  | .ept => Ept.eptp
  | .npt => Npt.ncr3

end Scheme

end Rhyve.Paging
