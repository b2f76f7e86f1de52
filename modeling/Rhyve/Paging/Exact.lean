import Rhyve.Lib.ByteMem
import Rhyve.Paging.Refinement

/-! # What the processor finds in the nested tables

* `eptFormat`, `nptFormat`: entries as the processor reads them. Nested entries of AMD-V are long-mode
  entries; every access of the guest counts as a user access there.
* `Scheme.translate`: the walk from the value loaded into the EPTP or nCR3 field, over physical memory.
* `Backs`: physical memory shows the tables at the addresses the host gave them.
* `Represents.translate`: the walk resolves exactly the address space that the tables represent.
* `mapPages`: a sequence of `map_page` calls, some of which may fail.
-/

namespace Rhyve.Paging
open Errors Words PageWalk RadixTree ByteMem
set_option autoImplicit false

/-! ## Entry formats -/

def hasBit (e bit : BitVec 64) : Bool := e &&& bit != 0#64

/-- Large pages exist in page directories and in the PDPT. -/
def largeEntry (level : ℕ) (e : BitVec 64) : Bool :=
  (level == 1 || level == 2) && hasBit e 0x80#64

/-- Address bits below the page size of a large page. -/
def largePad : ℕ → BitVec 64
  | 1 => 0x1FE000#64
  | 2 => 0x3FFFE000#64
  | _ => 0#64

/-- Uncacheable, write-combining, write-through, write-protected, write-back. -/
def eptMemoryTypes : List (BitVec 64) := [0#64 <<< 3, 1#64 <<< 3, 4#64 <<< 3, 5#64 <<< 3, 6#64 <<< 3]

/-- EPT entries as the processor reads them. An entry without read, write and execute is not present; the memory
type and the reserved bits of a leaf depend on the level. -/
def eptFormat : Format where
  present e := hasBit e 7#64
  valid level e :=
    -- writable without readable is a misconfiguration
    (e &&& 3#64 != 2#64) &&
      if level = 0 ∨ largeEntry level e = true then
        eptMemoryTypes.contains (e &&& 0x38#64) && !hasBit e (largePad level)
      else if level = 3 then !hasBit e 0xF8#64
      else !hasBit e 0x78#64
  large := largeEntry
  perm e := ⟨hasBit e 1#64, hasBit e 2#64, hasBit e 4#64⟩

/-- Long-mode entries: present bit 0, page size bit 7, reserved in the PML4. -/
def longMode (perm : BitVec 64 → Perm) : Format where
  present e := hasBit e 1#64
  valid level e :=
    if level = 3 then !hasBit e 0x80#64
    else !(largeEntry level e && hasBit e (largePad level))
  large := largeEntry
  perm := perm

def nptFormat : Format :=
  longMode fun e => ⟨hasBit e 4#64, hasBit e 2#64, !e.msb⟩

namespace Scheme

def format : Scheme → Format
  | .ept => eptFormat
  | .npt => nptFormat

/-- The root table named by the pointer field: EPTP must ask for a walk of four levels and a valid
memory type. -/
def root : Scheme → BitVec 64 → Option ℕ
  | .ept, p =>
    if p &&& 0x38#64 = 0x18#64 ∧ (p &&& 7#64 = 0#64 ∨ p &&& 7#64 = 6#64) ∧ p &&& 0xF80#64 = 0#64 then
      some (frame p)
    else none
  | .npt, p => some (frame p)

end Scheme

/-- The pointer field is malformed: there is no root to fetch from. -/
inductive BadPointer where
  | badPointer
  deriving DecidableEq, Repr

abbrev NestedFault := Fault BadPointer

def physFetch (phys : Mem) (p : ℕ) : Except BadPointer (BitVec 64) := .ok (load64 phys p)

/-- The nested walk of guest-physical address `a`. -/
def Scheme.translate (s : Scheme) (phys : Mem) (ptr : BitVec 64) (a : ℕ) :
    Except NestedFault Translation :=
  match s.root ptr with
  | none => .error (.fetch .badPointer)
  | some root => walk s.format (physFetch phys) 3 root Perm.all a

/-! ## Exactness -/

/-- Physical memory shows every table that the VM owns. -/
def Backs (host : Host) (n : Nested) (phys : Mem) : Prop :=
  ∀ t p, t ∈ n.owned → host.virtualToPhysical t = some p →
    ∀ i, i < entryCount → load64 phys (p.toNat + 8 * i) = n.heap.cells t i

section Entry
variable {p f : BitVec 64}

theorem hasBit_or (hp : Aligned p) (hf : f.toNat < 4096) {g : BitVec 64} (hg : g.toNat < 4096) :
    hasBit (p ||| f) g = hasBit f g := by
  unfold hasBit
  rw [flags_or hp.page hf hg]

theorem msb_or (hp : Aligned p) (hf : f.toNat < 4096) : (p ||| f).msb = false := by
  have hbound := hp.bound
  rw [BitVec.msb_eq_false_iff_two_mul_lt, or_toNat hp.page hf]
  omega

theorem largeEntry_or (hp : Aligned p) (hf : f.toNat < 4096) (h : hasBit f 0x80#64 = false)
    (level : ℕ) : largeEntry level (p ||| f) = false := by
  unfold largeEntry
  rw [hasBit_or hp hf (by decide), h, Bool.and_false]

end Entry

theorem Scheme.blank_decodes (s : Scheme) : s.format.present 0#64 = false := by
  cases s <;> decide

theorem Scheme.link_decodes (s : Scheme) {p : BitVec 64} (hp : Aligned p) :
    s.format.present (p ||| s.flags.table) = true ∧
      (∀ level, s.format.valid (level + 1) (p ||| s.flags.table) = true) ∧
      (∀ level, s.format.large level (p ||| s.flags.table) = false) ∧
      frame (p ||| s.flags.table) = p.toNat ∧
      s.format.perm (p ||| s.flags.table) = Perm.all := by
  have hf := s.flags_ok.table_lt
  have hflag : ∀ g : BitVec 64, g.toNat < 4096 →
      hasBit (p ||| s.flags.table) g = hasBit s.flags.table g := fun g hg => hasBit_or hp hf hg
  have hmsb := msb_or hp hf
  have hlarge : ∀ level, largeEntry level (p ||| s.flags.table) = false :=
    largeEntry_or hp hf (by cases s <;> decide)
  have hrw : (p ||| s.flags.table) &&& 3#64 = s.flags.table &&& 3#64 :=
    flags_or hp.page hf (by decide)
  refine ⟨?_, fun level => ?_, ?_, frame_or hp hf, ?_⟩
  · cases s
    · exact (hflag _ (by decide)).trans (by decide)
    · exact (hflag _ (by decide)).trans (by decide)
  · cases s
    · have htable : ¬ (level + 1 = 0 ∨ largeEntry (level + 1) (p ||| Scheme.ept.flags.table) = true) := by
        simp [hlarge]
      simp only [Scheme.format, eptFormat, hrw, htable, if_false,
        hflag _ (by decide : (0xF8#64).toNat < 4096), hflag _ (by decide : (0x78#64).toNat < 4096)]
      split <;> decide
    · simp only [Scheme.format, nptFormat, longMode, hlarge,
        hflag _ (by decide : (0x80#64).toNat < 4096), Bool.false_and]
      split <;> decide
  · cases s
    · exact hlarge
    · exact hlarge
  · cases s
    · simp only [Scheme.format, eptFormat, hflag _ (by decide : (1#64).toNat < 4096),
        hflag _ (by decide : (2#64).toNat < 4096), hflag _ (by decide : (4#64).toNat < 4096)]
      decide
    · simp only [Scheme.format, nptFormat, longMode, hmsb,
        hflag _ (by decide : (2#64).toNat < 4096), hflag _ (by decide : (4#64).toNat < 4096)]
      decide

theorem Scheme.leaf_decodes (s : Scheme) {p : BitVec 64} (hp : Aligned p) :
    s.format.present (p ||| s.flags.leaf) = true ∧ s.format.valid 0 (p ||| s.flags.leaf) = true ∧
      frame (p ||| s.flags.leaf) = p.toNat ∧ s.format.perm (p ||| s.flags.leaf) = Perm.all := by
  have hf := s.flags_ok.leaf_lt
  have hmask : ∀ g : BitVec 64, g.toNat < 4096 →
      (p ||| s.flags.leaf) &&& g = s.flags.leaf &&& g := fun g hg => flags_or hp.page hf hg
  have hmsb := msb_or hp hf
  refine ⟨?_, ?_, frame_or hp hf, ?_⟩
  · cases s
    · exact (hasBit_or hp hf (by decide)).trans (by decide)
    · exact (hasBit_or hp hf (by decide)).trans (by decide)
  · cases s
    · simp only [Scheme.format, eptFormat, true_or, if_true, largePad, hasBit,
        hmask _ (by decide : (3#64).toNat < 4096), hmask _ (by decide : (0x38#64).toNat < 4096),
        hmask _ (by decide : (0#64).toNat < 4096)]
      decide
    · rfl
  · cases s
    · simp only [Scheme.format, eptFormat, hasBit, hmask _ (by decide : (1#64).toNat < 4096),
        hmask _ (by decide : (2#64).toNat < 4096), hmask _ (by decide : (4#64).toNat < 4096)]
      decide
    · simp only [Scheme.format, nptFormat, longMode, hmsb, hasBit,
        hmask _ (by decide : (2#64).toNat < 4096), hmask _ (by decide : (4#64).toNat < 4096)]
      decide

theorem Scheme.root_pointer (s : Scheme) {host : Host} {n : Nested} {ptr : BitVec 64}
    (h : s.pointer host n = .ok ptr) (hroot : n.pml4.toNat % 4096 = 0) :
    ∃ p, host.virtualToPhysical n.pml4 = some p ∧ s.root ptr = some p.toNat := by
  cases s
  · change (do let pml4 ← hostPhysical host n.pml4; pure _) = _ at h
    obtain ⟨p, hp, h⟩ := bind_ok h
    have hv := hostPhysical_ok hp
    have hal := Host.aligned hv hroot
    rw [← Except.ok.inj h]
    refine ⟨p, hv, ?_⟩
    have hmask : ∀ g : BitVec 64, g.toNat < 4096 → (p ||| 0x1E#64) &&& g = 0x1E#64 &&& g :=
      fun g hg => flags_or hal.page (by decide) hg
    rw [BitVec.or_assoc]
    change Scheme.root .ept (p ||| 0x1E#64) = _
    simp only [Scheme.root]
    rw [if_pos, frame_or hal (by decide)]
    rw [hmask _ (by decide), hmask _ (by decide), hmask _ (by decide)]
    decide
  · have hv := hostPhysical_ok h
    have hframe := frame_or (f := 0#64) (Host.aligned hv hroot) (by decide)
    rw [BitVec.or_zero] at hframe
    exact ⟨ptr, hv, congrArg some hframe⟩

def tableAddr (host : Host) (t : BitVec 64) : ℕ := ((host.virtualToPhysical t).getD 0).toNat

section Walk
variable {s : Scheme} {host : Host} {n : Nested} {S : Shape (BitVec 64) (BitVec 64)}

theorem Wired.links (h : Wired s.flags host n S) :
    DecodesLinks s.format (encoding s.flags host) S (tableAddr host) := by
  refine ⟨s.blank_decodes, fun ht => ?_⟩
  obtain ⟨q, hq, hal⟩ := h.linked ht
  rw [encoding_link hq, tableAddr, hq]
  exact s.link_decodes hal

theorem Wired.fetch (h : Wired s.flags host n S) {p : BitVec 64} (hp : host.virtualToPhysical n.pml4 = some p)
    {phys : Mem} (hphys : Backs host n phys) (π : List ℕ) (t : BitVec 64) (i : ℕ) (ht : S.loc π = some t)
    (hi : i < 512) : physFetch phys (tableAddr host t + 8 * i) = .ok (n.heap.cells t i) := by
  have hq : ∃ q, host.virtualToPhysical t = some q := by
    cases π with
    | nil =>
      obtain rfl := Option.some.inj (ht.symm.trans h.root)
      exact ⟨p, hp⟩
    | cons j π =>
      obtain ⟨q, hq, -⟩ := h.linked ht
      exact ⟨q, hq⟩
  obtain ⟨q, hq⟩ := hq
  rw [tableAddr, hq]
  exact congrArg Except.ok (hphys t q (h.owned ht) hq i hi)

/-- The translation of an address is a function of the value at its path. -/
theorem Wired.translate (h : Wired s.flags host n S) {ptr : BitVec 64} (hptr : s.pointer host n = .ok ptr)
    {phys : Mem} (hphys : Backs host n phys) (a : ℕ) :
    (s.translate phys ptr a).toOption = (S.val (leafPath 3 a [])).bind fun v =>
      (resolve s.format (v ||| s.flags.leaf) Perm.all a : Except NestedFault Translation).toOption := by
  obtain ⟨p, hp, hr⟩ := s.root_pointer hptr (h.allocated (h.owned h.root)).aligned
  obtain ⟨hsome, hnone⟩ := h.holds.walk_leaf h.links (h.fetch hp hphys) 3 a [] n.pml4 h.root rfl
  rw [tableAddr, hp] at hsome hnone
  unfold Scheme.translate
  rw [hr]
  cases hv : S.val (leafPath 3 a []) with
  | none =>
    obtain ⟨l, hl⟩ := hnone hv
    exact congrArg Except.toOption hl
  | some v => exact congrArg Except.toOption (hsome v hv)

end Walk

/-- The nested walk resolves exactly the represented address space, with every right. -/
theorem Represents.translate {s : Scheme} {host : Host} {n : Nested} {sp : Space}
    (h : Represents s.flags host n sp) {ptr : BitVec 64} (hptr : s.pointer host n = .ok ptr)
    {phys : Mem} (hphys : Backs host n phys) {a : ℕ} (ha : a < 2 ^ 48) :
    (∀ v, sp (a / pageSize) = some v →
      s.translate phys ptr a = .ok ⟨v.toNat + a % pageSize, Perm.all⟩) ∧
    (sp (a / pageSize) = none → ∃ l, s.translate phys ptr a = .error (.notPresent l)) := by
  obtain ⟨S, hS, hval⟩ := h
  obtain ⟨p, hp, hr⟩ := s.root_pointer hptr (hS.allocated (hS.owned hS.root)).aligned
  have hdec : Decodes s.format (encoding s.flags host) S (tableAddr host) BitVec.toNat := by
    refine ⟨hS.toWired.links, fun hv => ?_⟩
    obtain ⟨hpresent, hvalid, hframe, hperm⟩ := s.leaf_decodes (hS.values hv)
    exact ⟨hpresent, hvalid, hframe, (hS.values hv).page, hperm⟩
  have hwalk := hS.holds.walk hdec (hS.toWired.fetch hp hphys) 3 a [] n.pml4 hS.root rfl
  rw [tableAddr, hp, hval a ha] at hwalk
  unfold Scheme.translate
  rw [hr]
  exact hwalk

/-! ## Sequences of mappings -/

/-- A call of `map_page`. -/
structure MapCall where
  gpa : BitVec 64
  hpa : BitVec 64

/-- A call that `map_page` accepts: beyond guest memory and within one PML4 entry, to a host page. -/
structure MapCall.InRange (c : MapCall) : Prop where
  low : 2 ^ 30 ≤ c.gpa.toNat
  high : c.gpa.toNat < 2 ^ 39
  page : Aligned c.hpa

/-- The calls made and their results, in order. -/
abbrev MapLog := List (MapCall × Except Abort Unit)

/-- Makes the calls one after the other, whether or not earlier ones failed. -/
def Scheme.mapPages (s : Scheme) (host : Host) : Nested → List MapCall → Nested × MapLog
  | n, [] => (n, [])
  | n, c :: cs =>
    let (r, n₁) := s.mapMmio host n c.gpa c.hpa
    let (n₂, log) := s.mapPages host n₁ cs
    (n₂, (c, r) :: log)

/-- The target of the last successful call for a guest page. -/
def lastMapped : MapLog → ℕ → Option (BitVec 64)
  | [], _ => none
  | (c, r) :: log, page =>
    (lastMapped log page).or
      (if r.isOk = true ∧ c.gpa.toNat / pageSize = page then some c.hpa else none)

theorem Scheme.mapMmio_eq (s : Scheme) : s.mapMmio = mapPage s.flags := by
  cases s <;> rfl

theorem Scheme.new_eq (s : Scheme) : s.new = Paging.new s.flags := by
  cases s <;> rfl

theorem Scheme.new_represents {s : Scheme} {host : Host} {heap : Heap} {guestBase size : BitVec 64}
    {n : Nested} (h : s.new host heap guestBase size = .ok n) :
    Represents s.flags host n (ramSpace host guestBase size) := by
  rw [s.new_eq] at h
  exact Paging.new_represents h

/-- After the calls the tables represent the old address space overlaid with the last mappings. -/
theorem Scheme.mapPages_represents (s : Scheme) (host : Host) {calls : List MapCall} {n : Nested}
    {sp : Space} (h : Represents s.flags host n sp) (hcalls : ∀ c ∈ calls, c.InRange) :
    Represents s.flags host (s.mapPages host n calls).1
      (fun page => (lastMapped (s.mapPages host n calls).2 page).or (sp page)) := by
  induction calls generalizing n sp with
  | nil => exact h
  | cons c cs ih =>
    have hc := hcalls c (by simp)
    have hrest := fun c' h' => hcalls c' (List.mem_cons_of_mem c h')
    cases hm : s.mapMmio host n c.gpa c.hpa with
    | mk r n₁ =>
      have hmap : mapPage s.flags host n c.gpa c.hpa = (r, n₁) := by
        rw [← s.mapMmio_eq]
        exact hm
      simp only [Scheme.mapPages, hm, lastMapped]
      rcases mapPage_represents s.flags_ok h hc.low hc.high hc.page hmap with ⟨rfl, h₁⟩ | ⟨rfl, h₁⟩
      · have hsp := ih h₁ hrest
        convert hsp using 2 with page
        rw [Option.or_assoc]
        congr 1
        unfold Space.map
        by_cases hp : c.gpa.toNat / pageSize = page
        · subst hp
          rw [Function.update_self]
          simp [Except.isOk, Except.toBool]
        · rw [Function.update_of_ne (Ne.symm hp)]
          simp [hp]
      · have hsp := ih h₁ hrest
        simpa [Except.isOk, Except.toBool] using hsp

theorem Scheme.lastMapped_low (s : Scheme) (host : Host) {calls : List MapCall} {n : Nested}
    (hcalls : ∀ c ∈ calls, c.InRange) {page : ℕ} (hpage : page < 2 ^ 18) :
    lastMapped (s.mapPages host n calls).2 page = none := by
  induction calls generalizing n with
  | nil => rfl
  | cons c cs ih =>
    have hlow := (hcalls c (by simp)).low
    have hne : c.gpa.toNat / pageSize ≠ page := by
      unfold pageSize
      omega
    simp only [Scheme.mapPages, lastMapped, hne, and_false, if_false, Option.or_none]
    exact ih (fun c' h' => hcalls c' (List.mem_cons_of_mem c h'))

/-- Guest memory is resolved byte by byte, not only at the start of each page. -/
theorem ramSpace_byte {host : Host} {guestBase size : BitVec 64} {a : ℕ}
    (hbase : guestBase.toNat % pageSize = 0) (hsize : size.toNat % pageSize = 0)
    (hram : ∀ page, page < size.toNat / pageSize →
      (ramPage host guestBase (size.toNat / pageSize) page).isSome) (ha : a < size.toNat) :
    ∃ v pa, ramSpace host guestBase size (a / pageSize) = some v ∧
      host.virtualToPhysical (guestBase + BitVec.ofNat 64 a) = some pa ∧
      pa.toNat = v.toNat + a % pageSize := by
  unfold pageSize at *
  have hpage : a / 4096 < size.toNat / 4096 := by omega
  obtain ⟨v, hv⟩ := Option.isSome_iff_exists.mp (hram (a / 4096) hpage)
  have hal := (ramPage_aligned (by unfold pageSize; exact hbase) hv).page
  have hv' := hv
  rw [ramPage, if_pos hpage] at hv'
  have hsame : (guestBase + BitVec.ofNat 64 (a / 4096 * pageSize)).toNat / 4096 =
      (guestBase + BitVec.ofNat 64 a).toNat / 4096 := by
    rw [BitVec.toNat_add, BitVec.toNat_add, BitVec.toNat_ofNat, BitVec.toNat_ofNat]
    unfold pageSize
    omega
  obtain ⟨pa, hpa, hdiv⟩ := host.v2p_page hsame hv'
  have hoff := host.v2p_offset hpa
  rw [BitVec.toNat_add, BitVec.toNat_ofNat] at hoff
  refine ⟨v, pa, hv, hpa, ?_⟩
  omega

theorem ramSpace_none {host : Host} {guestBase size : BitVec 64} {a : ℕ}
    (hsize : size.toNat % pageSize = 0) (ha : size.toNat ≤ a) :
    ramSpace host guestBase size (a / pageSize) = none := by
  unfold ramSpace ramPage
  rw [if_neg]
  unfold pageSize at *
  omega

/-- Guest memory, the last mapping of each page beyond it, and nothing else. -/
theorem nested_walk_exact (s : Scheme) (host : Host) (heap : Heap) (guestBase size : BitVec 64)
    (n : Nested) (hnew : s.new host heap guestBase size = .ok n) (calls : List MapCall)
    (hcalls : ∀ c ∈ calls, c.InRange) (ptr : BitVec 64)
    (hptr : s.pointer host (s.mapPages host n calls).1 = .ok ptr) (phys : Mem)
    (hphys : Backs host (s.mapPages host n calls).1 phys) (a : ℕ) (ha : a < 2 ^ 48) :
    (a < size.toNat →
      ∃ pa, host.virtualToPhysical (guestBase + BitVec.ofNat 64 a) = some pa ∧
        s.translate phys ptr a = .ok ⟨pa.toNat, Perm.all⟩) ∧
    (size.toNat ≤ a →
      (∀ hpa, lastMapped (s.mapPages host n calls).2 (a / pageSize) = some hpa →
        s.translate phys ptr a = .ok ⟨hpa.toNat + a % pageSize, Perm.all⟩) ∧
      (lastMapped (s.mapPages host n calls).2 (a / pageSize) = none →
        ∃ l, s.translate phys ptr a = .error (.notPresent l))) := by
  have hrep := s.mapPages_represents host (Scheme.new_represents hnew) hcalls
  rw [s.new_eq] at hnew
  obtain ⟨hbase, hsize, hmax, hram, -⟩ := new_built hnew
  obtain ⟨hsome, hnone⟩ := hrep.translate hptr hphys ha
  refine ⟨fun hin => ?_, fun hout => ?_⟩
  · obtain ⟨v, pa, hv, hpa, hsum⟩ := ramSpace_byte hbase hsize hram hin
    have hlow : lastMapped (s.mapPages host n calls).2 (a / pageSize) = none :=
      s.lastMapped_low host hcalls (by unfold pageSize; omega)
    rw [hlow, hv] at hsome
    refine ⟨pa, hpa, ?_⟩
    rw [hsum]
    exact hsome v rfl
  · rw [ramSpace_none hsize hout, Option.or_none] at hsome hnone
    exact ⟨hsome, hnone⟩

/-! ## A host with direct mapping -/

/-- Up to 1024 tables, from 1 TiB on: more than a guest of 1 GiB takes. -/
@[irreducible] def tablePool : List (BitVec 64) :=
  (List.range 1024).map fun i => BitVec.ofNat 64 (2 ^ 40 + i * 4096)

theorem mem_tablePool {t : BitVec 64} : t ∈ tablePool ↔ ∃ i < 1024, BitVec.ofNat 64 (2 ^ 40 + i * 4096) = t := by
  unfold tablePool
  simp only [List.mem_map, List.mem_range]

/-- Physical address = virtual address, in the 52 bits that physical addresses have. -/
def directHost : Host where
  virtualToPhysical v := some (BitVec.ofNat 64 (v.toNat % 2 ^ 52))
  allocZeroed _ live := tablePool.find? fun t =>
    live.all fun u => u.toNat % 2 ^ 52 != t.toNat % 2 ^ 52
  v2p_offset := by
    intro v p h
    obtain rfl := Option.some.inj h
    rw [BitVec.toNat_ofNat]
    omega
  v2p_page := by
    intro v w p hpage h
    obtain rfl := Option.some.inj h
    refine ⟨_, rfl, ?_⟩
    rw [BitVec.toNat_ofNat, BitVec.toNat_ofNat]
    omega
  v2p_bound := by
    intro v p h
    obtain rfl := Option.some.inj h
    rw [BitVec.toNat_ofNat]
    omega
  alloc_aligned := by
    intro k live t h
    obtain ⟨i, -, rfl⟩ := mem_tablePool.mp (List.mem_of_find?_eq_some h)
    rw [BitVec.toNat_ofNat]
    omega
  alloc_fresh := by
    intro k live t h ht
    have hall := List.find?_some h
    rw [List.all_eq_true] at hall
    simpa using hall t ht
  alloc_distinct := by
    intro k live t u p h hu ht he
    have hall := List.find?_some h
    rw [List.all_eq_true] at hall
    have hne := hall u hu
    rw [← ht] at he
    have hnat := congrArg BitVec.toNat (Option.some.inj he)
    rw [BitVec.toNat_ofNat, BitVec.toNat_ofNat] at hnat
    have heq : u.toNat % 2 ^ 52 = t.toNat % 2 ^ 52 := by omega
    rw [heq, bne_self_eq_false] at hne
    cases hne

def emptyHeap : Heap := ⟨fun _ _ => 0, 0⟩

/-- Physical memory of the direct host that shows the tables. -/
def directImage (n : Nested) : Mem :=
  ofWords fun i => n.heap.cells (BitVec.ofNat 64 (i / 512 * 4096)) (i % 512)

theorem directHost_alloc (k : ℕ) (live : List (BitVec 64)) :
    directHost.allocZeroed k live =
      tablePool.find? fun t => live.all fun u => u.toNat % 2 ^ 52 != t.toNat % 2 ^ 52 := by
  dsimp only [directHost]

theorem directHost_allocated {t : BitVec 64} (h : Allocated directHost t) :
    2 ^ 40 ≤ t.toNat ∧ t.toNat < 2 ^ 41 := by
  obtain ⟨k, live, ht⟩ := h
  rw [directHost_alloc] at ht
  obtain ⟨i, hi, rfl⟩ := mem_tablePool.mp (List.mem_of_find?_eq_some ht)
  rw [BitVec.toNat_ofNat]
  omega

theorem directHost_physical (v : BitVec 64) (hv : v.toNat < 2 ^ 52) :
    directHost.virtualToPhysical v = some v := by
  change some (BitVec.ofNat 64 (v.toNat % 2 ^ 52)) = some v
  rw [Nat.mod_eq_of_lt hv, BitVec.ofNat_toNat, BitVec.setWidth_eq]

theorem Wired.directImage_backs {k : Flags} {n : Nested} {S : Shape (BitVec 64) (BitVec 64)}
    (hS : Wired k directHost n S) : Backs directHost n (directImage n) := by
  intro t p ht hp i hi
  have hal := (hS.allocated ht).aligned
  obtain ⟨-, hlt⟩ := directHost_allocated (hS.allocated ht)
  rw [directHost_physical t (by omega), Option.some.injEq] at hp
  subst hp
  unfold entryCount at hi
  have haddr : t.toNat + 8 * i = 8 * (t.toNat / 8 + i) := by omega
  have hpage : (t.toNat / 8 + i) / 512 * 4096 = t.toNat := by omega
  have hindex : (t.toNat / 8 + i) % 512 = i := by omega
  rw [haddr, directImage, load64_ofWords, hpage, hindex, BitVec.ofNat_toNat, BitVec.setWidth_eq]

theorem directImage_backs {k : Flags} {n : Nested} {sp : Space} (h : Represents k directHost n sp) :
    Backs directHost n (directImage n) := by
  obtain ⟨S, hS, -⟩ := h
  exact hS.toWired.directImage_backs

theorem directHost_pointer (s : Scheme) (n : Nested) :
    ∃ ptr, s.pointer directHost n = .ok ptr := by
  cases s
  · exact ⟨_, rfl⟩
  · exact ⟨_, rfl⟩

/-- 76 KiB of guest memory at 2 MiB. -/
theorem directHost_new (s : Scheme) :
    ∃ n, s.new directHost emptyHeap 0x200000#64 0x13000#64 = .ok n := by
  have hok : (s.new directHost emptyHeap 0x200000#64 0x13000#64).isOk = true := by
    cases s <;> decide +kernel
  cases h : s.new directHost emptyHeap 0x200000#64 0x13000#64 with
  | error a =>
    rw [h] at hok
    cases hok
  | ok n => exact ⟨n, rfl⟩

/-- The local APIC page, mapped twice. -/
def sampleCalls : List MapCall := [⟨0xFEE00000#64, 0x5000#64⟩, ⟨0xFEE00000#64, 0x7000#64⟩]

theorem sampleCalls_inRange : ∀ c ∈ sampleCalls, c.InRange := by
  intro c hc
  simp only [sampleCalls, List.mem_cons, List.not_mem_nil, or_false] at hc
  rcases hc with rfl | rfl
  · exact ⟨by decide, by decide, by decide, by decide⟩
  · exact ⟨by decide, by decide, by decide, by decide⟩

theorem nested_walk_exact_sample :
    ∃ n ptr, Scheme.ept.new directHost emptyHeap 0x200000#64 0x13000#64 = .ok n ∧
      Scheme.ept.translate (directImage (Scheme.ept.mapPages directHost n sampleCalls).1) ptr 0x1004 =
        .ok ⟨0x201004, Perm.all⟩ := by
  obtain ⟨n, hnew⟩ := directHost_new .ept
  obtain ⟨ptr, hptr⟩ := directHost_pointer .ept (Scheme.ept.mapPages directHost n sampleCalls).1
  have hrep := Scheme.ept.mapPages_represents directHost (Scheme.new_represents hnew)
    sampleCalls_inRange
  obtain ⟨pa, hpa, hwalk⟩ := (nested_walk_exact .ept directHost emptyHeap 0x200000#64 0x13000#64 n hnew
    sampleCalls sampleCalls_inRange ptr hptr _ (directImage_backs hrep) 0x1004 (by omega)).1 (by decide)
  rw [directHost_physical _ (by decide), Option.some.injEq] at hpa
  subst hpa
  exact ⟨n, ptr, hnew, hwalk⟩

end Rhyve.Paging
