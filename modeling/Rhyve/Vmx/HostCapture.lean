import Rhyve.Lib.ByteMem
import Rhyve.Vmx.Window

/-! # What `setup_host` captures

A VM-exit loads control registers, selectors, bases and descriptor tables from the host-state area of the VMCS.
`setup_host` fills that area from the registers that it finds.

* `tssBase`: `tss_base`, which looks up the base of TR in the GDT; `tssBase_heldAt`: it is the one LTR has loaded.
* `captured`: what `setup_host` makes of the registers.
* `Plain.captured`: what it makes of them is what a VM-exit loads back.
-/

namespace Rhyve.Vmx
open Backend ByteMem Errors VmxCpu
set_option autoImplicit false

/-! ## The base of TR -/

/-- The two words of the descriptor that a selector names. -/
def descriptorAt (gdtBase : BitVec 64) (selector : BitVec 16) : BitVec 64 :=
  gdtBase + (selector >>> 3).setWidth 64 * 8#64

/-- `tss_base`: the base lies in four pieces in the 16 bytes of the descriptor. -/
def tssBase (mem : Mem) (gdtBase : BitVec 64) (trSelector : BitVec 16) : BitVec 64 :=
  let descriptor := descriptorAt gdtBase trSelector
  let low := load64 mem descriptor.toNat
  let high := load64 mem (descriptor + 8#64).toNat
  ((low >>> 16) &&& 0xFFFF#64) ||| (((low >>> 32) &&& 0xFF#64) <<< 16) ||| (((low >>> 56) &&& 0xFF#64) <<< 24) |||
    ((high &&& 0xFFFFFFFF#64) <<< 32)

/-- A 64-bit TSS descriptor. -/
structure TssDescriptor where
  base : BitVec 64
  limit : BitVec 20
  access : BitVec 8
  flags : BitVec 4
  reserved : BitVec 32

namespace TssDescriptor

def low (d : TssDescriptor) : BitVec 64 :=
  d.base.extractLsb' 24 8 ++ d.flags ++ d.limit.extractLsb' 16 4 ++ d.access ++ d.base.extractLsb' 0 24 ++
    d.limit.extractLsb' 0 16

def high (d : TssDescriptor) : BitVec 64 := d.reserved ++ d.base.extractLsb' 32 32

/-- The GDT has this descriptor at the selector. -/
structure HeldAt (d : TssDescriptor) (mem : Mem) (gdtBase : BitVec 64) (selector : BitVec 16) : Prop where
  low : load64 mem (descriptorAt gdtBase selector).toNat = d.low
  high : load64 mem (descriptorAt gdtBase selector + 8#64).toNat = d.high

theorem base_low (d : TssDescriptor) {i : ℕ} (hi : i < 24) : d.low.getLsbD (16 + i) = d.base.getLsbD i := by
  unfold low
  simp only [BitVec.getLsbD_append, BitVec.getLsbD_extractLsb']
  have h16 : ¬ 16 + i < 16 := by omega
  have hsub : 16 + i - 16 = i := by omega
  simp only [h16, if_false, hsub, hi, if_true, decide_true, Bool.true_and, Nat.zero_add]

theorem base_mid (d : TssDescriptor) {i : ℕ} (hi : i < 8) : d.low.getLsbD (56 + i) = d.base.getLsbD (24 + i) := by
  unfold low
  simp only [BitVec.getLsbD_append, BitVec.getLsbD_extractLsb']
  have h16 : ¬ 56 + i < 16 := by omega
  have h24 : ¬ 56 + i - 16 < 24 := by omega
  have h8 : ¬ 56 + i - 16 - 24 < 8 := by omega
  have h4 : ¬ 56 + i - 16 - 24 - 8 < 4 := by omega
  have h4' : ¬ 56 + i - 16 - 24 - 8 - 4 < 4 := by omega
  have hsub : 56 + i - 16 - 24 - 8 - 4 - 4 = i := by omega
  simp only [h16, h24, h8, h4, h4', if_false, hsub, hi, decide_true, Bool.true_and]

theorem base_high (d : TssDescriptor) {i : ℕ} (hi : i < 32) : d.high.getLsbD i = d.base.getLsbD (32 + i) := by
  unfold high
  simp only [BitVec.getLsbD_append, BitVec.getLsbD_extractLsb', hi, if_true, decide_true, Bool.true_and]

end TssDescriptor

/-- A field of a word, moved to another place. -/
theorem field_bit (x : BitVec 64) (start width place : ℕ) {i : ℕ} (hi : i < 64) :
    (((x >>> start) &&& BitVec.ofNat 64 (2 ^ width - 1)) <<< place).getLsbD i =
      (decide (place ≤ i ∧ i < place + width) && x.getLsbD (start + (i - place))) := by
  have hsub : i - place < 64 := by omega
  rw [BitVec.getLsbD_shiftLeft, BitVec.getLsbD_and, BitVec.getLsbD_ushiftRight, BitVec.getLsbD_ofNat,
    Nat.testBit_two_pow_sub_one]
  by_cases hplace : place ≤ i
  · have hwidth : (i - place < width) ↔ i < place + width := by omega
    simp [hi, hsub, hplace, hwidth, Bool.and_comm]
  · have hlt : i < place := by omega
    simp [hplace, hlt]

/-- The base is scattered over the two words in four fields. -/
theorem tssBase_heldAt {d : TssDescriptor} {mem : Mem} {gdtBase : BitVec 64} {selector : BitVec 16}
    (h : d.HeldAt mem gdtBase selector) : tssBase mem gdtBase selector = d.base := by
  refine BitVec.eq_of_getLsbD_eq fun i hi => ?_
  have h0 := field_bit d.low 16 16 0 hi
  have h1 := field_bit d.low 32 8 16 hi
  have h2 := field_bit d.low 56 8 24 hi
  have h3 := field_bit d.high 0 32 32 hi
  rw [BitVec.shiftLeft_zero] at h0
  rw [BitVec.ushiftRight_zero] at h3
  unfold tssBase
  simp only [h.low, h.high, BitVec.getLsbD_or]
  refine (congrArg₂ _ (congrArg₂ _ (congrArg₂ _ h0 h1) h2) h3).trans ?_
  rcases (by omega : i < 16 ∨ 16 ≤ i ∧ i < 24 ∨ 24 ≤ i ∧ i < 32 ∨ 32 ≤ i) with hlt | hlt | hlt | hge
  · have hbase := d.base_low (i := i) (by omega)
    simp [show ¬ 16 ≤ i by omega, show ¬ 24 ≤ i by omega, show ¬ 32 ≤ i by omega, hlt, hbase]
  · have hbase := d.base_low (i := i) (by omega)
    rw [show 16 + i = 32 + (i - 16) by omega] at hbase
    simp [show ¬ i < 16 by omega, show ¬ 24 ≤ i by omega, show ¬ 32 ≤ i by omega, hlt, hbase]
  · have hbase := d.base_mid (i := i - 24) (by omega)
    rw [show 24 + (i - 24) = i by omega] at hbase
    simp [show ¬ i < 16 by omega, show ¬ i < 24 by omega, show ¬ 32 ≤ i by omega, hlt, hbase]
  · have hbase := d.base_high (i := i - 32) (by omega)
    rw [show 32 + (i - 32) = i by omega] at hbase
    simp [show ¬ i < 16 by omega, show ¬ i < 24 by omega, show ¬ i < 32 by omega, hge, hi, hbase]

/-! ## What `setup_host` captures -/

/-- The segments with a selector in the host-state area. -/
inductive Segment where
  | cs
  | ss
  | ds
  | es
  | fs
  | gs
  | tr
  deriving DecidableEq, Repr

/-- GDTR and IDTR. -/
structure DescriptorTable where
  base : BitVec 64
  limit : BitVec 16
  deriving DecidableEq, Repr

/-- The system registers of a core. -/
structure SystemRegs where
  cr0 : BitVec 64
  cr3 : BitVec 64
  cr4 : BitVec 64
  efer : BitVec 64
  selector : Segment → BitVec 16
  ldtr : BitVec 16
  fsBase : BitVec 64
  gsBase : BitVec 64
  trBase : BitVec 64
  kernelGsBase : BitVec 64
  gdtr : DescriptorTable
  idtr : DescriptorTable
  sysenterCs : BitVec 64
  sysenterEsp : BitVec 64
  sysenterEip : BitVec 64
  dr7 : BitVec 64
  debugctl : BitVec 64

/-- The bits of CR0 that neither a VM-entry nor a VM-exit loads: ET, NW, CD and the reserved ones. -/
def cr0Unloaded : BitVec 64 := 0xFFFFFFFF7FFAFFD0#64

/-- The part that a VM-exit takes from the host-state area. -/
structure Loaded where
  cr0 : BitVec 64
  cr3 : BitVec 64
  cr4 : BitVec 64
  selector : Segment → BitVec 16
  fsBase : BitVec 64
  gsBase : BitVec 64
  trBase : BitVec 64
  gdtBase : BitVec 64
  idtBase : BitVec 64
  sysenterCs : BitVec 64
  sysenterEsp : BitVec 64
  sysenterEip : BitVec 64

/-- The registers that a VM-exit can load, as the host has them. -/
def SystemRegs.loaded (r : SystemRegs) : Loaded where
  cr0 := r.cr0 &&& ~~~cr0Unloaded
  cr3 := r.cr3
  cr4 := r.cr4
  selector := r.selector
  fsBase := r.fsBase
  gsBase := r.gsBase
  trBase := r.trBase
  gdtBase := r.gdtr.base
  idtBase := r.idtr.base
  sysenterCs := r.sysenterCs
  sysenterEsp := r.sysenterEsp
  sysenterEip := r.sysenterEip

/-- `Cr3::read` returns the frame of the page table. -/
def cr3Frame : BitVec 64 := 0x000ffffffffff000#64

/-- What `setup_host` reads. -/
def hostArea (mem : Mem) (r : SystemRegs) : HostArea where
  cr0 := r.cr0
  cr3 := r.cr3 &&& cr3Frame
  cr4 := r.cr4
  cs := r.selector .cs
  ss := r.selector .ss
  ds := r.selector .ds
  es := r.selector .es
  fs := r.selector .fs
  gs := r.selector .gs
  tr := r.selector .tr
  trBase := tssBase mem r.gdtr.base (r.selector .tr)
  gdtBase := r.gdtr.base
  idtBase := r.idtr.base

/-- The vCPU is created on a core with this GDT that has these registers once VMX operation is enabled. -/
structure CreatedOn (h : HostCpu) (mem : Mem) (r : SystemRegs) : Prop where
  area : h.areaAfter = hostArea mem r
  fsBase : h.msrs ia32FsBase = r.fsBase
  gsBase : h.msrs ia32GsBase = r.gsBase
  sysenterCs : h.msrs 0x174#32 = r.sysenterCs
  sysenterEsp : h.msrs 0x175#32 = r.sysenterEsp
  sysenterEip : h.msrs 0x176#32 = r.sysenterEip

/-- What is in the host-state area then: CR3 without its low bits, and selectors without RPL and TI. -/
def captured (mem : Mem) (r : SystemRegs) : Loaded :=
  { r.loaded with
    cr3 := r.cr3 &&& cr3Frame
    selector := fun segment => r.selector segment &&& 0xFFF8#16
    trBase := tssBase mem r.gdtr.base (r.selector .tr)
    sysenterCs := r.sysenterCs &&& 0xffffffff#64 }

/-- A kernel whose selectors have ring 0, without PCIDs, that has loaded TR from its GDT. -/
structure Plain (mem : Mem) (r : SystemRegs) : Prop where
  cr3 : r.cr3 &&& cr3Frame = r.cr3
  selector : ∀ segment, r.selector segment &&& 0xFFF8#16 = r.selector segment
  sysenterCs : r.sysenterCs &&& 0xffffffff#64 = r.sysenterCs
  tr : ∃ d : TssDescriptor, d.HeldAt mem r.gdtr.base (r.selector .tr) ∧ d.base = r.trBase

theorem Plain.captured {mem : Mem} {r : SystemRegs} (h : Plain mem r) : captured mem r = r.loaded := by
  obtain ⟨d, hheld, hbase⟩ := h.tr
  unfold Vmx.captured
  rw [h.cr3, h.sysenterCs, tssBase_heldAt hheld, hbase, funext h.selector]
  rfl

end Rhyve.Vmx
