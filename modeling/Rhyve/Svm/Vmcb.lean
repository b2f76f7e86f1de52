import Rhyve.Boot.GuestMemory
import Rhyve.Lib.ByteMem

/-! # The VMCB (`vmcb.rs`)

A page of bytes, accessed by offset. The stores of the code have 1, 2, 4 or 8 bytes and nothing but the
offsets keeps them apart.
-/

namespace Rhyve.Svm
open ByteMem
set_option autoImplicit false

/-! ## Control area -/

def interceptInstr1 : ℕ := 0x00C
def interceptInstr2 : ℕ := 0x010
def iopmBasePa : ℕ := 0x040
def msrpmBasePa : ℕ := 0x048
def guestAsid : ℕ := 0x058
def intState : ℕ := 0x068
def exitcodeField : ℕ := 0x070
def exitinfo1 : ℕ := 0x078
def exitinfo2 : ℕ := 0x080
def npEnable : ℕ := 0x090
def eventinj : ℕ := 0x0A8
def nCr3 : ℕ := 0x0B0

def interceptIntr : BitVec 32 := 1#32 <<< 0
def interceptCpuid : BitVec 32 := 1#32 <<< 18
def interceptHlt : BitVec 32 := 1#32 <<< 24
def interceptPause : BitVec 32 := 1#32 <<< 23
def interceptIoio : BitVec 32 := 1#32 <<< 27
def interceptMsr : BitVec 32 := 1#32 <<< 28
def interceptShutdown : BitVec 32 := 1#32 <<< 31
def interceptVmrun : BitVec 32 := 1#32 <<< 0
def interceptXsetbv : BitVec 32 := 1#32 <<< 13

/-! ## State-save area -/

def saveEs : ℕ := 0x400
def saveCs : ℕ := 0x410
def saveSs : ℕ := 0x420
def saveDs : ℕ := 0x430
def saveFs : ℕ := 0x440
def saveGs : ℕ := 0x450
def saveGdtr : ℕ := 0x460
def saveLdtr : ℕ := 0x470
def saveIdtr : ℕ := 0x480
def saveTr : ℕ := 0x490
def saveCpl : ℕ := 0x4CB
def saveEfer : ℕ := 0x4D0
def saveCr4 : ℕ := 0x548
def saveCr3 : ℕ := 0x550
def saveCr0 : ℕ := 0x558
def saveDr7 : ℕ := 0x560
def saveDr6 : ℕ := 0x568
def saveRflags : ℕ := 0x570
def saveRip : ℕ := 0x578
def saveRsp : ℕ := 0x5D8
def saveRax : ℕ := 0x5F8
def saveCr2 : ℕ := 0x640
def saveGPat : ℕ := 0x648

def segBase : ℕ := 8
def fsBase : ℕ := saveFs + segBase
def gsBase : ℕ := saveGs + segBase

def eferSvme : BitVec 64 := 1#64 <<< 12

/-! ## Stores -/

abbrev Vmcb := Mem

/-- One store: offset, number of bytes, value. -/
structure Store where
  offset : ℕ
  width : ℕ
  value : ℕ

def Store.apply (m : Vmcb) (s : Store) : Vmcb := storeLE m s.offset s.width s.value

def writeU64 (offset : ℕ) (value : BitVec 64) : Store := ⟨offset, 8, value.toNat⟩
def writeU32 (offset : ℕ) (value : BitVec 32) : Store := ⟨offset, 4, value.toNat⟩
def writeU16 (offset : ℕ) (value : BitVec 16) : Store := ⟨offset, 2, value.toNat⟩
def writeU8 (offset : ℕ) (value : BitVec 8) : Store := ⟨offset, 1, value.toNat⟩

namespace Vmcb

def readU64 (m : Vmcb) (offset : ℕ) : BitVec 64 := load64 m offset

def stores (m : Vmcb) (ss : List Store) : Vmcb := ss.foldl Store.apply m

end Vmcb

def writeSegment (slot : ℕ) (selector attrib : BitVec 16) (limit : BitVec 32) (base : BitVec 64) :
    List Store :=
  [writeU16 slot selector, writeU16 (slot + 2) attrib, writeU32 (slot + 4) limit,
    writeU64 (slot + 8) base]

def instr1Word : BitVec 32 :=
  interceptIntr ||| interceptCpuid ||| interceptHlt ||| interceptPause ||| interceptIoio |||
    interceptMsr ||| interceptShutdown

def instr2Word : BitVec 32 := interceptVmrun ||| interceptXsetbv

/-- ASID 1, and a TLB flush on entry. -/
def asidWord : BitVec 64 := 1#64 ||| (1#64 <<< 32)

def setupControl (ncr3 iopmPa msrpmPa : BitVec 64) : List Store :=
  [writeU32 interceptInstr1 instr1Word, writeU32 interceptInstr2 instr2Word,
    writeU64 iopmBasePa iopmPa, writeU64 msrpmBasePa msrpmPa, writeU64 guestAsid asidWord,
    writeU64 npEnable 1#64, writeU64 nCr3 ncr3]

def kernelCode : BitVec 16 := 1#16 <<< 3
def kernelData : BitVec 16 := 2#16 <<< 3

/-- `setup_guest`: 64-bit mode on the boot page tables, with flat segments. -/
def setupGuest (entryPoint rsp : BitVec 64) : List Store :=
  writeSegment saveCs kernelCode 0xA9B#16 0xFFFFF#32 0#64 ++
  writeSegment saveSs kernelData 0xC93#16 0xFFFFF#32 0#64 ++
  writeSegment saveDs kernelData 0xC93#16 0xFFFFF#32 0#64 ++
  writeSegment saveEs kernelData 0xC93#16 0xFFFFF#32 0#64 ++
  writeSegment saveFs kernelData 0xC93#16 0xFFFFF#32 0#64 ++
  writeSegment saveGs kernelData 0xC93#16 0xFFFFF#32 0#64 ++
  writeSegment saveTr 0#16 0x08B#16 0xFFFF#32 0#64 ++
  writeSegment saveLdtr 0#16 0#16 0xFFFF#32 0#64 ++
  writeSegment saveGdtr 0#16 0#16 23#32 (BitVec.ofNat 64 Boot.gdtOffset) ++
  writeSegment saveIdtr 0#16 0#16 0xFFFF#32 0#64 ++
  [writeU8 saveCpl 0#8,
    writeU64 saveCr0 ((1#64 <<< 0) ||| (1#64 <<< 4) ||| (1#64 <<< 5) ||| (1#64 <<< 31)),
    writeU64 saveCr3 (BitVec.ofNat 64 Boot.bootPml4),
    writeU64 saveCr4 (1#64 <<< 5),
    writeU64 saveCr2 0#64,
    writeU64 saveEfer ((1#64 <<< 8) ||| (1#64 <<< 10) ||| eferSvme),
    writeU64 saveDr7 0x400#64,
    writeU64 saveDr6 0xFFFF0FF0#64,
    writeU64 saveRflags 0x2#64,
    writeU64 saveRip entryPoint,
    writeU64 saveRsp rsp,
    writeU64 saveRax 0#64,
    writeU64 saveGPat 0x0007040600070406#64]

/-! ## What the processor does to a VMCB -/

/-- The fields that the processor only reads, with their widths. It writes EFER back at a #VMEXIT, but the
guest cannot change it: WRMSR is intercepted. -/
def keptFields : List (ℕ × ℕ) :=
  [(interceptInstr1, 4), (interceptInstr2, 4), (iopmBasePa, 8), (msrpmBasePa, 8), (guestAsid, 8),
    (npEnable, 8), (nCr3, 8), (saveEfer, 8)]

def keptAtExit (o : ℕ) : Bool := keptFields.any fun f => decide (f.1 ≤ o ∧ o < f.1 + f.2)

/-- All bytes outside the kept fields may have been written. -/
def Vmcb.afterExit (m saved : Vmcb) : Vmcb := fun o => if keptAtExit o then m o else saved o

/-! ## Frame rules -/

/-- The store lies outside the `w` bytes from `o` on. -/
def Store.Misses (s : Store) (o w : ℕ) : Prop := s.offset + s.width ≤ o ∨ o + w ≤ s.offset

instance (s : Store) (o w : ℕ) : Decidable (s.Misses o w) := inferInstanceAs (Decidable (_ ∨ _))

namespace Vmcb
variable {m m' : Vmcb} {o w : ℕ}

/-- Two VMCBs show the same `w` bytes from `o` on. -/
def Agree (m m' : Vmcb) (o w : ℕ) : Prop := ∀ x, o ≤ x → x < o + w → m x = m' x

theorem Agree.trans {m'' : Vmcb} (h : Agree m m' o w) (h' : Agree m' m'' o w) : Agree m m'' o w := by
  intro x hlo hhi
  rw [h x hlo hhi, h' x hlo hhi]

theorem apply_agree {s : Store} (h : s.Misses o w) : Agree (s.apply m) m o w := by
  intro x hlo hhi
  apply storeLE_outside
  rcases h with h | h <;> omega

theorem stores_agree {ss : List Store} (h : ∀ s ∈ ss, s.Misses o w) : Agree (m.stores ss) m o w := by
  induction ss generalizing m with
  | nil => exact fun _ _ _ => rfl
  | cons s ss ih =>
    have hhead := apply_agree (m := m) (h s List.mem_cons_self)
    have htail := ih (m := s.apply m) (fun t ht => h t (List.mem_cons_of_mem s ht))
    exact htail.trans hhead

theorem afterExit_kept {saved : Vmcb} (h : (o, w) ∈ keptFields) : Agree (m.afterExit saved) m o w := by
  intro x hlo hhi
  have hkept : keptAtExit x = true := by
    rw [keptAtExit, List.any_eq_true]
    exact ⟨(o, w), h, by simp [hlo, hhi]⟩
  rw [afterExit, if_pos hkept]

theorem afterExit_saved {saved : Vmcb} (h : ∀ f ∈ keptFields, f.1 + f.2 ≤ o ∨ o + w ≤ f.1) :
    Agree (m.afterExit saved) saved o w := by
  intro x hlo hhi
  have hkept : keptAtExit x = false := by
    rw [keptAtExit, List.any_eq_false]
    intro f hf
    have hmiss := h f hf
    simp only [decide_eq_true_eq]
    omega
  rw [afterExit, hkept]
  rfl

theorem Agree.readU64 (h : Agree m m' o 8) : m.readU64 o = m'.readU64 o := load64_congr h

theorem readU64_saved (m saved : Vmcb) (o : ℕ) (h : ∀ f ∈ keptFields, f.1 + f.2 ≤ o ∨ o + 8 ≤ f.1) :
    (m.afterExit saved).readU64 o = saved.readU64 o :=
  (afterExit_saved h).readU64

theorem readU64_kept (m saved : Vmcb) (o : ℕ) (h : (o, 8) ∈ keptFields) :
    (m.afterExit saved).readU64 o = m.readU64 o :=
  (afterExit_kept h).readU64

theorem Agree.load32 (h : Agree m m' o 4) : load32 m o = load32 m' o := load32_congr h

/-- The value of the last store that touches the field, if that store covers exactly the field. -/
def lastStore (o w : ℕ) : List Store → Option ℕ
  | [] => none
  | s :: ss =>
    if ss.all fun t => decide (t.Misses o w) then
      if s.offset = o ∧ s.width = w then some s.value else none
    else lastStore o w ss

theorem loadLE_stores {ss : List Store} {n : ℕ} (h : lastStore o w ss = some n) :
    loadLE (m.stores ss) o w = n % 256 ^ w := by
  induction ss generalizing m with
  | nil => cases h
  | cons s ss ih =>
    unfold lastStore at h
    split at h
    · rename_i hrest
      have hmiss : ∀ t ∈ ss, t.Misses o w := by
        intro t ht
        exact of_decide_eq_true (List.all_eq_true.mp hrest t ht)
      split at h
      · rename_i hs
        injection h with h
        obtain ⟨ho, hw⟩ := hs
        subst ho hw h
        have hframe := loadLE_congr (stores_agree (m := s.apply m) hmiss)
        exact hframe.trans (loadLE_storeLE_same m s.offset s.width s.value)
      · cases h
    · exact ih h

theorem readU64_stores {ss : List Store} {v : BitVec 64} (h : lastStore o 8 ss = some v.toNat) :
    (m.stores ss).readU64 o = v := by
  have hlt : v.toNat < 256 ^ 8 := v.isLt
  rw [readU64, load64, loadLE_stores h, Nat.mod_eq_of_lt hlt, BitVec.ofNat_toNat, BitVec.setWidth_eq]

theorem load32_stores {ss : List Store} {v : BitVec 32} (h : lastStore o 4 ss = some v.toNat) :
    load32 (m.stores ss) o = v := by
  have hlt : v.toNat < 256 ^ 4 := v.isLt
  rw [load32, loadLE_stores h, Nat.mod_eq_of_lt hlt, BitVec.ofNat_toNat, BitVec.setWidth_eq]

theorem readU64_writeU64 (o : ℕ) (v : BitVec 64) : ((writeU64 o v).apply m).readU64 o = v :=
  load64_store64_same m o v

theorem readU64_writeU64_other {o' : ℕ} (v : BitVec 64) (h : o' + 8 ≤ o ∨ o + 8 ≤ o') :
    ((writeU64 o' v).apply m).readU64 o = m.readU64 o :=
  (apply_agree (s := writeU64 o' v) h).readU64

end Vmcb

end Rhyve.Svm
