import Rhyve.Vcpu.Exit

/-! # Do hypercalls stay inside guest memory?

`guest_ptr` adds the guest-physical address to the start of guest memory and checks nothing. An exit
therefore stays inside guest memory exactly when the guest names nothing outside of it.

* `named`: the guest memory that an exit names, by its operands.
* `Confined`: every byte touched lies in guest memory, and an exit that names other memory touches
  nothing.
-/

namespace Rhyve.Vcpu
open ByteMem Device
set_option autoImplicit false

/-- The host address of byte `j` of an access. -/
def Access.byte (L : VmMemoryLayout) (x : Access) (j : ℕ) : BitVec 64 :=
  guestPtr L x.gpa + BitVec.ofNat 64 (x.first + j)

/-- Every byte lies in guest memory, and the pointer was made without wrapping around. -/
def Access.Inside (L : VmMemoryLayout) (x : Access) : Prop :=
  ∀ j, j < x.count → L.startAddr.toNat + x.gpa.toNat < 2 ^ 64 ∧
    L.startAddr.toNat ≤ (x.byte L j).toNat ∧ (x.byte L j).toNat < L.startAddr.toNat + L.len

theorem Access.inside_of_le {L : VmMemoryLayout} {x : Access}
    (h : x.gpa.toNat + x.first + x.count ≤ L.len) : x.Inside L := by
  intro j hj
  have hfits := L.fits
  have hbyte : (x.byte L j).toNat = L.startAddr.toNat + x.gpa.toNat + (x.first + j) := by
    unfold Access.byte guestPtr
    rw [BitVec.toNat_add, BitVec.toNat_add, BitVec.toNat_ofNat]
    omega
  rw [hbyte]
  omega

/-- Guest-physical memory that an exit touches. -/
structure Region where
  gpa : BitVec 64
  size : ℕ
  deriving DecidableEq, Repr

def Region.Inside (L : VmMemoryLayout) (r : Region) : Prop :=
  r.size = 0 ∨ r.gpa.toNat + r.size ≤ L.len

instance (L : VmMemoryLayout) (r : Region) : Decidable (r.Inside L) := inferInstanceAs (Decidable (_ ∨ _))

section Region
variable {L : VmMemoryLayout} {gpa : BitVec 64} {size : ℕ}

theorem Region.Inside.field (h : Region.Inside L ⟨gpa, size⟩) (f : Field size) (w : Bool) :
    Access.Inside L ⟨gpa, f.offset, f.width, w⟩ := by
  apply Access.inside_of_le
  have hpos := f.pos
  have hin := f.inside
  rcases h with h | h
  · change size = 0 at h
    omega
  · change gpa.toNat + size ≤ L.len at h
    change gpa.toNat + f.offset + f.width ≤ L.len
    omega

theorem Region.Inside.slice (h : Region.Inside L ⟨gpa, size⟩) :
    Access.Inside L ⟨gpa, 0, size, false⟩ := by
  rcases h with h | h
  · intro j hj
    change size = 0 at h
    change j < size at hj
    omega
  · exact Access.inside_of_le h

end Region

/-! ## The memory an exit names -/

/-- A field's value in guest memory. -/
def fieldValue (L : VmMemoryLayout) (mem : HostMem) (data : BitVec 64) {size : ℕ} (f : Field size) : ℕ :=
  loadLE (view mem (guestPtr L data)) f.offset f.width

/-- The parameter struct, and the buffer that it describes where the hypercall has one. -/
def namedBy (I : Interface) (L : VmMemoryLayout) (mem : HostMem) (data : BitVec 64) :
    HypercallAddress → List Region
  | .exit | .serialWriteByte | .other => []
  | .serialWriteBuffer =>
    [⟨data, I.serialWriteBuffer.size⟩,
      ⟨BitVec.ofNat 64 (fieldValue L mem data I.serialWriteBuffer.buf),
        fieldValue L mem data I.serialWriteBuffer.len⟩]
  | .fileWrite =>
    if fieldValue L mem data I.write.fd = 1 ∨ fieldValue L mem data I.write.fd = 2 then
      [⟨data, I.write.size⟩,
        ⟨BitVec.ofNat 64 (fieldValue L mem data I.write.buf), fieldValue L mem data I.write.len⟩]
    else [⟨data, I.write.size⟩]
  | .fileRead => [⟨data, I.read.size⟩]
  | .fileOpen => [⟨data, I.openParams.size⟩]
  | .fileClose => [⟨data, I.close.size⟩]
  | .fileLseek => [⟨data, I.lseek.size⟩]
  | .fileUnlink => [⟨data, I.unlink.size⟩]

/-- What an `OUT` names: nothing unless its port is a hypercall port. -/
def named (I : Interface) (L : VmMemoryLayout) (q : BitVec 64) (regs : GuestRegisters)
    (mem : HostMem) : List Region :=
  if isIn q = false ∧ exitPorts.contains (portOf q) then []
  else (hypercallOf I q).elim [] (namedBy I L mem regs.rdi)

/-- The exit is served inside guest memory, and not at all if it names other memory. -/
def Confined (I : Interface) (L : VmMemoryLayout) (q : BitVec 64) (uart : Uart)
    (regs : GuestRegisters) (mem : HostMem) : Prop :=
  let footprint := (serve I L (.ioInstruction q) ⟨uart, regs, ⟨mem, []⟩⟩).2.host.log
  (∀ x ∈ footprint, x.Inside L) ∧
    ((∃ r ∈ named I L q regs mem, ¬ r.Inside L) → ∀ x ∈ footprint, x.count = 0)

/-! ## The footprint of a hypercall -/

section Hypercall
variable {I : Interface} {L : VmMemoryLayout} {hypercall : HypercallAddress} {data : BitVec 64}
  {uart : Uart} {mem : HostMem}

/-- The accesses to the parameter struct, then to the buffer, then of the result. -/
structure Footprint (L : VmMemoryLayout) (data : BitVec 64) (size : ℕ) (regions : List Region)
    (log : List Access) : Prop where
  struct : regions.head? = some ⟨data, size⟩
  touches : ∃ x ∈ log, x.count ≠ 0
  covered : ∀ x ∈ log, (∃ (f : Field size) (w : Bool), x = ⟨data, f.offset, f.width, w⟩) ∨
    (∃ r ∈ regions, x = ⟨r.gpa, 0, r.size, false⟩)

theorem Footprint.inside {size : ℕ} {regions : List Region} {log : List Access}
    (h : Footprint L data size regions log) (hin : ∀ r ∈ regions, r.Inside L) :
    ∀ x ∈ log, x.Inside L := by
  intro x hx
  rcases h.covered x hx with ⟨f, w, rfl⟩ | ⟨r, hr, rfl⟩
  · exact (hin _ (List.mem_of_head? h.struct)).field f w
  · exact (hin r hr).slice

theorem refuse_footprint (p : ResultParams) :
    Footprint L data p.size [⟨data, p.size⟩] (refuse L p data uart ⟨mem, []⟩).host.log := by
  refine ⟨rfl, ⟨_, List.mem_cons_self, p.result.pos.ne'⟩, fun x hx => ?_⟩
  exact Or.inl ⟨p.result, true, List.mem_singleton.mp hx⟩

theorem serialWriteBuffer_footprint :
    Footprint L data I.serialWriteBuffer.size (namedBy I L mem data .serialWriteBuffer)
      (serveHypercall I L .serialWriteBuffer data uart ⟨mem, []⟩).host.log := by
  by_cases hlen : 2 ^ 63 ≤ fieldValue L mem data I.serialWriteBuffer.len
  · have hlog : (serveHypercall I L .serialWriteBuffer data uart ⟨mem, []⟩).host.log =
        [⟨data, I.serialWriteBuffer.buf.offset, I.serialWriteBuffer.buf.width, false⟩,
          ⟨data, I.serialWriteBuffer.len.offset, I.serialWriteBuffer.len.width, false⟩] := by
      unfold fieldValue at hlen
      simp only [serveHypercall, HostState.readField, hlen, if_true]
      rfl
    rw [hlog]
    refine ⟨rfl, ⟨_, List.mem_cons_self, I.serialWriteBuffer.buf.pos.ne'⟩, fun x hx => ?_⟩
    simp only [List.mem_cons, List.not_mem_nil, or_false] at hx
    rcases hx with rfl | rfl
    · exact Or.inl ⟨_, _, rfl⟩
    · exact Or.inl ⟨_, _, rfl⟩
  · have hlog : (serveHypercall I L .serialWriteBuffer data uart ⟨mem, []⟩).host.log =
        [⟨data, I.serialWriteBuffer.buf.offset, I.serialWriteBuffer.buf.width, false⟩,
          ⟨data, I.serialWriteBuffer.len.offset, I.serialWriteBuffer.len.width, false⟩,
          ⟨BitVec.ofNat 64 (fieldValue L mem data I.serialWriteBuffer.buf), 0,
            fieldValue L mem data I.serialWriteBuffer.len, false⟩] := by
      unfold fieldValue at hlen
      simp only [serveHypercall, HostState.readField, hlen, if_false]
      rfl
    rw [hlog]
    refine ⟨rfl, ⟨_, List.mem_cons_self, I.serialWriteBuffer.buf.pos.ne'⟩, fun x hx => ?_⟩
    simp only [List.mem_cons, List.not_mem_nil, or_false] at hx
    rcases hx with rfl | rfl | rfl
    · exact Or.inl ⟨_, _, rfl⟩
    · exact Or.inl ⟨_, _, rfl⟩
    · exact Or.inr ⟨_, List.mem_cons_of_mem _ List.mem_cons_self, rfl⟩

theorem fileWrite_footprint :
    Footprint L data I.write.size (namedBy I L mem data .fileWrite)
      (serveHypercall I L .fileWrite data uart ⟨mem, []⟩).host.log := by
  by_cases hfd : fieldValue L mem data I.write.fd = 1 ∨ fieldValue L mem data I.write.fd = 2
  swap
  · have hlog : (serveHypercall I L .fileWrite data uart ⟨mem, []⟩).host.log =
        [⟨data, I.write.fd.offset, I.write.fd.width, false⟩,
          ⟨data, I.write.ret.offset, I.write.ret.width, true⟩] := by
      unfold fieldValue at hfd
      simp only [serveHypercall, HostState.readField, hfd, if_false]
      rfl
    rw [hlog, namedBy, if_neg hfd]
    refine ⟨rfl, ⟨_, List.mem_cons_self, I.write.fd.pos.ne'⟩, fun x hx => ?_⟩
    simp only [List.mem_cons, List.not_mem_nil, or_false] at hx
    rcases hx with rfl | rfl
    · exact Or.inl ⟨_, _, rfl⟩
    · exact Or.inl ⟨_, _, rfl⟩
  rw [namedBy, if_pos hfd]
  unfold fieldValue at hfd
  by_cases hlen : 2 ^ 63 ≤ fieldValue L mem data I.write.len
  · have hlog : (serveHypercall I L .fileWrite data uart ⟨mem, []⟩).host.log =
        [⟨data, I.write.fd.offset, I.write.fd.width, false⟩,
          ⟨data, I.write.buf.offset, I.write.buf.width, false⟩,
          ⟨data, I.write.len.offset, I.write.len.width, false⟩] := by
      unfold fieldValue at hlen
      simp only [serveHypercall, HostState.readField, hfd, hlen, if_true]
      rfl
    rw [hlog]
    refine ⟨rfl, ⟨_, List.mem_cons_self, I.write.fd.pos.ne'⟩, fun x hx => ?_⟩
    simp only [List.mem_cons, List.not_mem_nil, or_false] at hx
    rcases hx with rfl | rfl | rfl
    · exact Or.inl ⟨_, _, rfl⟩
    · exact Or.inl ⟨_, _, rfl⟩
    · exact Or.inl ⟨_, _, rfl⟩
  · have hlog : (serveHypercall I L .fileWrite data uart ⟨mem, []⟩).host.log =
        [⟨data, I.write.fd.offset, I.write.fd.width, false⟩,
          ⟨data, I.write.buf.offset, I.write.buf.width, false⟩,
          ⟨data, I.write.len.offset, I.write.len.width, false⟩,
          ⟨BitVec.ofNat 64 (fieldValue L mem data I.write.buf), 0,
            fieldValue L mem data I.write.len, false⟩,
          ⟨data, I.write.ret.offset, I.write.ret.width, true⟩] := by
      unfold fieldValue at hlen
      simp only [serveHypercall, HostState.readField, hfd, hlen, if_true, if_false]
      rfl
    rw [hlog]
    refine ⟨rfl, ⟨_, List.mem_cons_self, I.write.fd.pos.ne'⟩, fun x hx => ?_⟩
    simp only [List.mem_cons, List.not_mem_nil, or_false] at hx
    rcases hx with rfl | rfl | rfl | rfl | rfl
    · exact Or.inl ⟨_, _, rfl⟩
    · exact Or.inl ⟨_, _, rfl⟩
    · exact Or.inl ⟨_, _, rfl⟩
    · exact Or.inr ⟨_, List.mem_cons_of_mem _ List.mem_cons_self, rfl⟩
    · exact Or.inl ⟨_, _, rfl⟩

/-- A hypercall touches nothing, or what its operands name. -/
theorem serveHypercall_footprint :
    ((serveHypercall I L hypercall data uart ⟨mem, []⟩).host.log = [] ∧
        namedBy I L mem data hypercall = []) ∨
      ∃ size, Footprint L data size (namedBy I L mem data hypercall)
        (serveHypercall I L hypercall data uart ⟨mem, []⟩).host.log := by
  cases hypercall with
  | exit | serialWriteByte | other => exact Or.inl ⟨rfl, rfl⟩
  | serialWriteBuffer => exact Or.inr ⟨_, serialWriteBuffer_footprint⟩
  | fileWrite => exact Or.inr ⟨_, fileWrite_footprint⟩
  | fileRead => exact Or.inr ⟨_, refuse_footprint I.read⟩
  | fileOpen => exact Or.inr ⟨_, refuse_footprint I.openParams⟩
  | fileClose => exact Or.inr ⟨_, refuse_footprint I.close⟩
  | fileLseek => exact Or.inr ⟨_, refuse_footprint I.lseek⟩
  | fileUnlink => exact Or.inr ⟨_, refuse_footprint I.unlink⟩

end Hypercall

/-- Ports that are no hypercall touch no host memory. -/
theorem serveIo_log (I : Interface) (L : VmMemoryLayout) (q : BitVec 64) (uart : Uart)
    (regs : GuestRegisters) (mem : HostMem) :
    ((serve I L (.ioInstruction q) ⟨uart, regs, ⟨mem, []⟩⟩).2.host.log = [] ∧
        named I L q regs mem = []) ∨
      ∃ size, Footprint L regs.rdi size (named I L q regs mem)
        (serve I L (.ioInstruction q) ⟨uart, regs, ⟨mem, []⟩⟩).2.host.log := by
  unfold serve serveIo named
  by_cases hexit : isIn q = false ∧ exitPorts.contains (portOf q)
  · simp only [hexit]
    exact Or.inl ⟨rfl, rfl⟩
  · simp only [hexit, if_false]
    cases hypercallOf I q with
    | some hypercall => exact serveHypercall_footprint
    | none =>
      refine Or.inl ⟨?_, rfl⟩
      simp only
      split
      · rfl
      · split
        · rfl
        · rfl

/-- Nothing keeps a hypercall inside guest memory but its operands. -/
theorem hypercall_confined_iff (I : Interface) (L : VmMemoryLayout) (q : BitVec 64) (uart : Uart)
    (regs : GuestRegisters) (mem : HostMem) :
    Confined I L q uart regs mem ↔ ∀ r ∈ named I L q regs mem, r.Inside L := by
  unfold Confined
  rcases serveIo_log I L q uart regs mem with ⟨hlog, hnamed⟩ | ⟨size, hfoot⟩
  · rw [hlog, hnamed]
    simp
  · constructor
    · rintro ⟨-, hempty⟩ r hr
      by_contra hout
      obtain ⟨x, hx, hcount⟩ := hfoot.touches
      exact hcount (hempty ⟨r, hr, hout⟩ x hx)
    · intro hin
      refine ⟨hfoot.inside hin, ?_⟩
      rintro ⟨r, hr, hout⟩
      exact absurd (hin r hr) hout

/-! ## A hypercall outside guest memory -/

/-- One page of guest memory at 2 MiB. -/
def onePage : VmMemoryLayout := ⟨0x200000#64, 0x1000, by decide, by decide⟩

/-- `OUT` to port 0x1120, `FileClose`, with RDI just behind guest memory: `ret` is written there. -/
theorem hypercall_escapes :
    ¬ Confined uhyveInterface onePage 0x11200000#64 Uart.new
      { GuestRegisters.zero with rdi := 0x1000#64 } (fun _ => 0) := by
  intro h
  have hbyte := h.1 ⟨0x1000#64, 4, 4, true⟩ (by decide) 0 (by decide)
  exact absurd hbyte.2.2 (by decide)

end Rhyve.Vcpu
