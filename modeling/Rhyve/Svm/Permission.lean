import Rhyve.Svm.Control

/-! # Which port and MSR accesses are intercepted

The processor looks an access up in a map in host memory: 12 KiB for the I/O ports, 8 KiB for the MSRs. The
maps that the backend installs have one page each; the rest of a lookup reads whatever lies behind.

* `ioIntercepted`, `msrIntercepted`: the lookups of the processor.
* `interception_exact`: what is intercepted, given the bytes behind the maps.
* `interception_leaks`: with zeros there, a port and an MSR that do not exit.
-/

namespace Rhyve.Svm
open ByteMem
set_option autoImplicit false

/-! ## The maps -/

structure Bitmap where
  data : Vector (BitVec 8) 4096

def Bitmap.allOnes : Bitmap := ⟨Vector.replicate 4096 0xFF#8⟩

/-- The map lies in host memory at this physical address. -/
def Bitmap.At (b : Bitmap) (mem : Mem) (pa : BitVec 64) : Prop :=
  ∀ (i : ℕ) (h : i < 4096), mem (pa.toNat + i) = b.data[i]

theorem Bitmap.bitAt_first {mem : Mem} {pa : BitVec 64} (h : Bitmap.allOnes.At mem pa) {n : ℕ}
    (hn : n < 8 * 4096) : bitAt mem pa.toNat n = true := by
  refine bitAt_ones ?_ hn
  intro i hi
  rw [h i hi]
  exact Vector.getElem_replicate hi

/-! ## The lookups -/

/-- One bit for every port; an access is intercepted if the bit of a port that it covers is set. -/
def iopmIntercepts (mem : Mem) (base : ℕ) (port : BitVec 16) (width : ℕ) : Bool :=
  (List.range width).any fun k => bitAt mem base (port.toNat + k)

/-- Two bits for every MSR, for reading and for writing, in three blocks of 2 KiB. -/
def msrpmBit (msr : BitVec 32) (isWrite : Bool) : Option ℕ :=
  if msr ≤ 0x1FFF#32 then some (2 * msr.toNat + isWrite.toNat)
  else if 0xC0000000#32 ≤ msr ∧ msr ≤ 0xC0001FFF#32 then
    some (8 * 0x800 + (2 * (msr.toNat - 0xC0000000) + isWrite.toNat))
  else if 0xC0010000#32 ≤ msr ∧ msr ≤ 0xC0011FFF#32 then
    some (8 * 0x1000 + (2 * (msr.toNat - 0xC0010000) + isWrite.toNat))
  else none

/-- MSRs outside the blocks are always intercepted. -/
def msrpmIntercepts (mem : Mem) (base : ℕ) (msr : BitVec 32) (isWrite : Bool) : Bool :=
  (msrpmBit msr isWrite).elim true (bitAt mem base)

/-- IN and OUT exit: the intercept is on, and the map has a bit for one of the ports. -/
def ioIntercepted (mem : Mem) (m : Vmcb) (port : BitVec 16) (width : ℕ) : Bool :=
  load32 m interceptInstr1 &&& interceptIoio != 0#32 &&
    iopmIntercepts mem (m.readU64 iopmBasePa).toNat port width

/-- RDMSR or WRMSR exits: the intercept is on, and the map has the bit. -/
def msrIntercepted (mem : Mem) (m : Vmcb) (msr : BitVec 32) (isWrite : Bool) : Bool :=
  load32 m interceptInstr1 &&& interceptMsr != 0#32 &&
    msrpmIntercepts mem (m.readU64 msrpmBasePa).toNat msr isWrite

section Lookup
variable {mem : Mem} {pa : BitVec 64}

theorem iopmIntercepts_iff (h : Bitmap.allOnes.At mem pa) (port : BitVec 16) {width : ℕ}
    (hwidth : 0 < width) :
    iopmIntercepts mem pa.toNat port width = true ↔
      port.toNat < 0x8000 ∨
        ∃ k, k < width ∧ bitAt mem (pa.toNat + 4096) (port.toNat + k - 0x8000) = true := by
  have hsecond : ∀ k, 0x8000 ≤ port.toNat + k →
      bitAt mem pa.toNat (port.toNat + k) =
        bitAt mem (pa.toNat + 4096) (port.toNat + k - 0x8000) := by
    intro k hk
    have hsplit : 8 * 4096 + (port.toNat + k - 0x8000) = port.toNat + k := by omega
    have hshift := bitAt_shift mem pa.toNat 4096 (port.toNat + k - 0x8000)
    rw [hsplit] at hshift
    exact hshift
  rw [iopmIntercepts, List.any_eq_true]
  constructor
  · rintro ⟨k, hk, hbit⟩
    by_cases hlow : port.toNat < 0x8000
    · exact .inl hlow
    · rw [hsecond k (by omega)] at hbit
      exact .inr ⟨k, List.mem_range.mp hk, hbit⟩
  · intro hor
    by_cases hlow : port.toNat < 0x8000
    · -- The first port that is accessed has its bit in the page of the map.
      exact ⟨0, List.mem_range.mpr hwidth, Bitmap.bitAt_first h (by omega)⟩
    · obtain ⟨k, hk, hbit⟩ := hor.resolve_left hlow
      rw [← hsecond k (by omega)] at hbit
      exact ⟨k, List.mem_range.mpr hk, hbit⟩

/-- The first two blocks lie in the page of the map. -/
theorem msrpmBit_first {msr : BitVec 32} {isWrite : Bool} {n : ℕ} (hn : msrpmBit msr isWrite = some n)
    (hout : ¬ (0xC0010000#32 ≤ msr ∧ msr ≤ 0xC0011FFF#32)) : n < 8 * 4096 := by
  have hwrite := Bool.toNat_le isWrite
  unfold msrpmBit at hn
  split at hn
  · rename_i hlow
    have hmsr : msr.toNat ≤ 0x1FFF := hlow
    have hn := Option.some.inj hn
    omega
  · split at hn
    · rename_i hmid
      have hmsr : msr.toNat ≤ 0xC0001FFF := hmid.2
      have hn := Option.some.inj hn
      omega
    · cases hn

theorem msrpmBit_last {msr : BitVec 32} (isWrite : Bool)
    (hin : 0xC0010000#32 ≤ msr ∧ msr ≤ 0xC0011FFF#32) :
    msrpmBit msr isWrite = some (8 * 0x1000 + (2 * (msr.toNat - 0xC0010000) + isWrite.toNat)) := by
  have hlow : ¬ msr ≤ 0x1FFF#32 := fun h => absurd (BitVec.le_trans hin.1 h) (by decide)
  have hmid : ¬ (0xC0000000#32 ≤ msr ∧ msr ≤ 0xC0001FFF#32) :=
    fun h => absurd (BitVec.le_trans hin.1 h.2) (by decide)
  rw [msrpmBit, if_neg hlow, if_neg hmid, if_pos hin]

theorem msrpmIntercepts_iff (h : Bitmap.allOnes.At mem pa) (msr : BitVec 32) (isWrite : Bool) :
    msrpmIntercepts mem pa.toNat msr isWrite = true ↔
      ¬ (0xC0010000#32 ≤ msr ∧ msr ≤ 0xC0011FFF#32) ∨
        bitAt mem (pa.toNat + 4096) (2 * (msr.toNat - 0xC0010000) + isWrite.toNat) = true := by
  unfold msrpmIntercepts
  by_cases hin : 0xC0010000#32 ≤ msr ∧ msr ≤ 0xC0011FFF#32
  · rw [msrpmBit_last isWrite hin, Option.elim_some, bitAt_shift]
    exact ⟨.inr, fun hor => hor.resolve_left fun hout => hout hin⟩
  · refine ⟨fun _ => .inl hin, fun _ => ?_⟩
    cases hn : msrpmBit msr isWrite with
    | none => rfl
    | some n => exact Bitmap.bitAt_first h (msrpmBit_first hn hin)

end Lookup

/-! ## The accesses of a guest -/

/-- What is intercepted, given the bytes behind the two pages. -/
structure Intercepts (mem : Mem) (iopmPa msrpmPa : BitVec 64) (m : Vmcb) : Prop where
  io : ∀ (port : BitVec 16) (width : ℕ), width ∈ [1, 2, 4] →
    (ioIntercepted mem m port width = true ↔
      port.toNat < 0x8000 ∨
        ∃ k, k < width ∧ bitAt mem (iopmPa.toNat + 4096) (port.toNat + k - 0x8000) = true)
  msr : ∀ (msr : BitVec 32) (isWrite : Bool),
    (msrIntercepted mem m msr isWrite = true ↔
      ¬ (0xC0010000#32 ≤ msr ∧ msr ≤ 0xC0011FFF#32) ∨
        bitAt mem (msrpmPa.toNat + 4096) (2 * (msr.toNat - 0xC0010000) + isWrite.toNat) = true)

theorem Intact.intercepts {mem : Mem} {ncr3 iopmPa msrpmPa : BitVec 64} {m : Vmcb}
    (h : Intact ncr3 iopmPa msrpmPa m) (hio : Bitmap.allOnes.At mem iopmPa)
    (hmsr : Bitmap.allOnes.At mem msrpmPa) : Intercepts mem iopmPa msrpmPa m := by
  refine ⟨?_, ?_⟩
  · intro port width hwidth
    have hpos : 0 < width := by
      revert width
      decide
    have hlookup : ioIntercepted mem m port width = iopmIntercepts mem iopmPa.toNat port width := by
      rw [ioIntercepted, h.instr1, h.iopm]
      rfl
    rw [hlookup]
    exact iopmIntercepts_iff hio port hpos
  · intro msr isWrite
    have hlookup : msrIntercepted mem m msr isWrite = msrpmIntercepts mem msrpmPa.toNat msr isWrite := by
      rw [msrIntercepted, h.instr1, h.msrpm]
      rfl
    rw [hlookup]
    exact msrpmIntercepts_iff hmsr msr isWrite

/-- In every run, with the maps of `SvmCpu::new` in host memory: an access that starts at a port below
`0x8000`, and an access to an MSR outside the third block, is intercepted. The others depend on the bytes
behind the maps. -/
theorem interception_exact (mem : Mem) (ncr3 iopmPa msrpmPa cpuId entryPoint guestRsp : BitVec 64)
    (hio : Bitmap.allOnes.At mem iopmPa) (hmsr : Bitmap.allOnes.At mem msrpmPa) (is : List SvmTurn) :
    ∀ m ∈ visited (SvmCpu.new ncr3 iopmPa msrpmPa cpuId entryPoint guestRsp) is,
      Intercepts mem iopmPa msrpmPa m := by
  intro m hm
  have hnew := new_intact ncr3 iopmPa msrpmPa cpuId entryPoint guestRsp
  exact ((run_intact hnew is).1 m hm).intercepts hio hmsr

/-- Host memory with a map at 0 and one at `0x4000`, and zeros elsewhere. -/
def zerosBehind : Mem := fun a => if a < 0x1000 ∨ 0x4000 ≤ a ∧ a < 0x5000 then 0xFF#8 else 0#8

theorem zerosBehind_iopm : Bitmap.allOnes.At zerosBehind 0#64 := by
  intro i hi
  have hleft : (0#64).toNat + i < 0x1000 ∨ 0x4000 ≤ (0#64).toNat + i ∧ (0#64).toNat + i < 0x5000 := by
    rw [BitVec.toNat_zero]
    omega
  rw [zerosBehind, if_pos hleft]
  exact (Vector.getElem_replicate hi).symm

theorem zerosBehind_msrpm : Bitmap.allOnes.At zerosBehind 0x4000#64 := by
  intro i hi
  have hbase : (0x4000#64).toNat = 0x4000 := by decide
  have hright : (0x4000#64).toNat + i < 0x1000 ∨
      0x4000 ≤ (0x4000#64).toNat + i ∧ (0x4000#64).toNat + i < 0x5000 := by
    rw [hbase]
    omega
  rw [zerosBehind, if_pos hright]
  exact (Vector.getElem_replicate hi).symm

/-- An access that starts in the page of the map and reaches past it. -/
theorem interception_exact_edge :
    ioIntercepted zerosBehind (SvmCpu.new 0 0#64 0x4000#64 0 0 0).vmcb 0x7FFF#16 4 = true := by
  have h := interception_exact zerosBehind 0 0#64 0x4000#64 0 0 0 zerosBehind_iopm zerosBehind_msrpm []
    (SvmCpu.new 0 0#64 0x4000#64 0 0 0).vmcb List.mem_cons_self
  exact (h.io 0x7FFF#16 4 (by decide)).mpr (.inl (by decide))

def vmHsavePa : BitVec 32 := 0xC0010117#32

/-- A port access and a write to VM_HSAVE_PA that do not exit. -/
theorem interception_leaks :
    Bitmap.allOnes.At zerosBehind 0#64 ∧ Bitmap.allOnes.At zerosBehind 0x4000#64 ∧
    ioIntercepted zerosBehind (SvmCpu.new 0 0#64 0x4000#64 0 0 0).vmcb 0x8000#16 4 = false ∧
    msrIntercepted zerosBehind (SvmCpu.new 0 0#64 0x4000#64 0 0 0).vmcb vmHsavePa true = false :=
  ⟨zerosBehind_iopm, zerosBehind_msrpm, by decide +kernel, by decide +kernel⟩

end Rhyve.Svm
