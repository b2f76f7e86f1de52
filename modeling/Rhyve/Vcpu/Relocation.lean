import Rhyve.Vcpu.Confinement

/-! # Serving an exit at another address

`Cpu::run` works on the host's mapping of guest memory. Where the host has that mapping makes no difference as long as
the guest names nothing outside of it, and what an exit changes is what it has logged.

* `Alike`: the same guest memory in two host memories, and the same accesses so far.
* `serve_alike`: the exit is served in the same way in both.
* `Logged`: memory has changed only where a write was logged. `serve_logged`: an exit keeps it.
* `serve_written`: what is written lies in guest memory.
-/

namespace Rhyve.Vcpu
open ByteMem Device
set_option autoImplicit false

/-- Two host memories show the same guest memory. -/
def SameRam (L L' : VmMemoryLayout) (mem mem' : HostMem) : Prop :=
  ∀ a, a < L.len → mem (L.startAddr + BitVec.ofNat 64 a) = mem' (L'.startAddr + BitVec.ofNat 64 a)

/-- Two hosts that a guest cannot tell apart. -/
structure Alike (L L' : VmMemoryLayout) (h h' : HostState) : Prop where
  ram : SameRam L L' h.mem h'.mem
  log : h.log = h'.log

/-! ## Accesses -/

section Access
variable {L L' : VmMemoryLayout} {h h' : HostState} {gpa : BitVec 64} {size : ℕ}

theorem guestPtr_add (L : VmMemoryLayout) (gpa : BitVec 64) (i : ℕ) :
    guestPtr L gpa + BitVec.ofNat 64 i = L.startAddr + BitVec.ofNat 64 (gpa.toNat + i) := by
  unfold guestPtr
  rw [BitVec.ofNat_add, BitVec.ofNat_toNat, BitVec.setWidth_eq, BitVec.add_assoc]

/-- The offset of an address of guest memory from a pointer does not depend on where guest memory is. -/
theorem sub_guestPtr (L : VmMemoryLayout) (gpa : BitVec 64) (a : ℕ) :
    L.startAddr + BitVec.ofNat 64 a - guestPtr L gpa = BitVec.ofNat 64 a - gpa := by
  unfold guestPtr
  bv_omega

/-- An address from its offset to a pointer. -/
theorem ptr_add_sub (p v : BitVec 64) : p + BitVec.ofNat 64 (v - p).toNat = v := by
  rw [BitVec.ofNat_toNat, BitVec.setWidth_eq, BitVec.add_comm, BitVec.sub_add_cancel]

theorem SameRam.view {mem mem' : HostMem} (hram : SameRam L L' mem mem') {i : ℕ} (hi : gpa.toNat + i < L.len) :
    view mem (guestPtr L gpa) i = view mem' (guestPtr L' gpa) i := by
  unfold Vcpu.view
  rw [guestPtr_add, guestPtr_add]
  exact hram _ hi

theorem Region.Inside.bound (hin : Region.Inside L ⟨gpa, size⟩) {i : ℕ} (hi : i < size) : gpa.toNat + i < L.len := by
  rcases hin with hin | hin
  · change size = 0 at hin
    omega
  · change gpa.toNat + size ≤ L.len at hin
    omega

theorem Alike.readField (hal : Alike L L' h h') (hin : Region.Inside L ⟨gpa, size⟩) (f : Field size) :
    (h.readField L gpa f).1 = (h'.readField L' gpa f).1 ∧
      Alike L L' (h.readField L gpa f).2 (h'.readField L' gpa f).2 := by
  have hfield := f.inside
  refine ⟨?_, hal.ram, ?_⟩
  · apply loadLE_congr
    intro x hlo hhi
    exact hal.ram.view (hin.bound (by omega))
  · show h.log ++ _ = h'.log ++ _
    rw [hal.log]

theorem Alike.readSlice (hal : Alike L L' h h') {len : ℕ} (hin : Region.Inside L ⟨gpa, len⟩) :
    (h.readSlice L gpa len).1 = (h'.readSlice L' gpa len).1 ∧
      Alike L L' (h.readSlice L gpa len).2 (h'.readSlice L' gpa len).2 := by
  refine ⟨?_, hal.ram, ?_⟩
  · apply List.map_congr_left
    intro i hi
    exact hal.ram.view (hin.bound (List.mem_range.mp hi))
  · show h.log ++ _ = h'.log ++ _
    rw [hal.log]

theorem Alike.writeField (hal : Alike L L' h h') (f : Field size) (v : ℕ) :
    Alike L L' (h.writeField L gpa f v) (h'.writeField L' gpa f v) := by
  refine ⟨?_, ?_⟩
  · intro a ha
    show storeLE _ _ _ _ _ = storeLE _ _ _ _ _
    rw [sub_guestPtr, sub_guestPtr]
    by_cases hin : f.offset ≤ (BitVec.ofNat 64 a - gpa).toNat ∧ (BitVec.ofNat 64 a - gpa).toNat < f.offset + f.width
    · rw [storeLE_inside _ _ _ _ _ hin, storeLE_inside _ _ _ _ _ hin]
    · rw [storeLE_outside _ _ _ _ _ (by omega), storeLE_outside _ _ _ _ _ (by omega)]
      -- both are the byte at the address itself
      have hback : ∀ L : VmMemoryLayout, guestPtr L gpa + BitVec.ofNat 64 (BitVec.ofNat 64 a - gpa).toNat =
          L.startAddr + BitVec.ofNat 64 a := by
        intro L
        rw [← sub_guestPtr L, ptr_add_sub]
      unfold Vcpu.view
      rw [hback L, hback L']
      exact hal.ram a ha
  · show h.log ++ _ = h'.log ++ _
    rw [hal.log]

end Access

/-! ## One exit in two memories -/

section Serve
variable {I : Interface} {L L' : VmMemoryLayout} {h h' : HostState} {data : BitVec 64} {uart : Uart}

/-- The same for the guest, wherever its memory lies. -/
structure SameServed (L L' : VmMemoryLayout) (s s' : Served) : Prop where
  flow : s.flow = s'.flow
  uart : s.uart = s'.uart
  host : Alike L L' s.host s'.host

theorem refuse_alike (hal : Alike L L' h h') (p : ResultParams) :
    SameServed L L' (refuse L p data uart h) (refuse L' p data uart h') :=
  ⟨rfl, rfl, hal.writeField p.result minusOne⟩

theorem serialWriteBuffer_alike (hal : Alike L L' h h')
    (hin : ∀ r ∈ namedBy I L h.mem data .serialWriteBuffer, r.Inside L) :
    SameServed L L' (serveHypercall I L .serialWriteBuffer data uart h)
      (serveHypercall I L' .serialWriteBuffer data uart h') := by
  have hstruct := hin _ List.mem_cons_self
  have hbuffer := hin _ (List.mem_cons_of_mem _ List.mem_cons_self)
  obtain ⟨hbuf, hal₁⟩ := hal.readField hstruct I.serialWriteBuffer.buf
  obtain ⟨hlen, hal₂⟩ := hal₁.readField hstruct I.serialWriteBuffer.len
  obtain ⟨hbytes, hal₃⟩ := hal₂.readSlice hbuffer
  unfold serveHypercall
  dsimp only
  rw [← hbuf, ← hlen]
  split
  · exact ⟨rfl, rfl, hal₂⟩
  · exact ⟨rfl, congrArg uart.writeBuffer hbytes, hal₃⟩

theorem fileWrite_alike (hal : Alike L L' h h')
    (hin : ∀ r ∈ namedBy I L h.mem data .fileWrite, r.Inside L) :
    SameServed L L' (serveHypercall I L .fileWrite data uart h) (serveHypercall I L' .fileWrite data uart h') := by
  have hstruct : Region.Inside L ⟨data, I.write.size⟩ := by
    refine hin _ ?_
    rw [namedBy]
    split
    · exact List.mem_cons_self
    · exact List.mem_cons_self
  obtain ⟨hfd, hal₁⟩ := hal.readField hstruct I.write.fd
  obtain ⟨hbuf, hal₂⟩ := hal₁.readField hstruct I.write.buf
  obtain ⟨hlen, hal₃⟩ := hal₂.readField hstruct I.write.len
  unfold serveHypercall
  dsimp only
  rw [← hfd, ← hbuf, ← hlen]
  split
  · rename_i hout
    have hfile : fieldValue L h.mem data I.write.fd = 1 ∨ fieldValue L h.mem data I.write.fd = 2 := hout
    rw [namedBy, if_pos hfile] at hin
    have hbuffer := hin _ (List.mem_cons_of_mem _ List.mem_cons_self)
    obtain ⟨hbytes, hal₄⟩ := hal₃.readSlice hbuffer
    split
    · exact ⟨rfl, rfl, hal₃⟩
    · exact ⟨rfl, congrArg uart.writeBuffer hbytes, hal₄.writeField I.write.ret _⟩
  · exact ⟨rfl, rfl, hal₁.writeField I.write.ret minusOne⟩

theorem serveHypercall_alike (hal : Alike L L' h h') {hypercall : HypercallAddress}
    (hin : ∀ r ∈ namedBy I L h.mem data hypercall, r.Inside L) :
    SameServed L L' (serveHypercall I L hypercall data uart h) (serveHypercall I L' hypercall data uart h') := by
  cases hypercall with
  | exit | serialWriteByte | other => exact ⟨rfl, rfl, hal⟩
  | serialWriteBuffer => exact serialWriteBuffer_alike hal hin
  | fileWrite => exact fileWrite_alike hal hin
  | fileRead => exact refuse_alike hal I.read
  | fileOpen => exact refuse_alike hal I.openParams
  | fileClose => exact refuse_alike hal I.close
  | fileLseek => exact refuse_alike hal I.lseek
  | fileUnlink => exact refuse_alike hal I.unlink

end Serve

/-- The memory that an exit names, if it is an I/O instruction. -/
def namedAt (I : Interface) (L : VmMemoryLayout) (reason : ExitReason) (regs : GuestRegisters) (mem : HostMem) :
    List Region :=
  match reason with
  | .ioInstruction q => named I L q regs mem
  | _ => []

theorem serve_alike {I : Interface} {L L' : VmMemoryLayout} {h h' : HostState} (uart : Uart) (hal : Alike L L' h h')
    {reason : ExitReason} {regs : GuestRegisters} (hin : ∀ r ∈ namedAt I L reason regs h.mem, r.Inside L) :
    (serve I L reason ⟨uart, regs, h⟩).1 = (serve I L' reason ⟨uart, regs, h'⟩).1 ∧
      (serve I L reason ⟨uart, regs, h⟩).2.uart = (serve I L' reason ⟨uart, regs, h'⟩).2.uart ∧
      (serve I L reason ⟨uart, regs, h⟩).2.regs = (serve I L' reason ⟨uart, regs, h'⟩).2.regs ∧
      Alike L L' (serve I L reason ⟨uart, regs, h⟩).2.host (serve I L' reason ⟨uart, regs, h'⟩).2.host := by
  cases reason with
  | shutdown | success => exact ⟨rfl, rfl, rfl, hal⟩
  | ioInstruction q =>
    unfold namedAt named at hin
    unfold serve serveIo
    dsimp only at hin ⊢
    split
    · exact ⟨rfl, rfl, rfl, hal⟩
    · rename_i hexit
      rw [if_neg hexit] at hin
      cases hcall : hypercallOf I q with
      | some hypercall =>
        rw [hcall] at hin
        obtain ⟨hflow, huart, hhost⟩ := serveHypercall_alike hal hin
        exact ⟨hflow, huart, rfl, hhost⟩
      | none =>
        dsimp only
        split
        · exact ⟨rfl, rfl, rfl, hal⟩
        · split
          · exact ⟨rfl, rfl, rfl, hal⟩
          · exact ⟨rfl, rfl, rfl, hal⟩

/-! ## What an exit writes -/

/-- The addresses that were written. -/
def written (L : VmMemoryLayout) (log : List Access) : List (BitVec 64) :=
  log.flatMap fun x => if x.write then (List.range x.count).map (x.byte L) else []

/-- Memory is as it was, except where a write was logged. -/
def Logged (L : VmMemoryLayout) (mem : HostMem) (h : HostState) : Prop :=
  ∀ v, v ∉ written L h.log → h.mem v = mem v

section Logged
variable {I : Interface} {L : VmMemoryLayout} {mem : HostMem} {h : HostState} {data : BitVec 64} {size : ℕ}
  {uart : Uart}

theorem written_append (L : VmMemoryLayout) (log log' : List Access) :
    written L (log ++ log') = written L log ++ written L log' := List.flatMap_append

/-- Further accesses without a change of memory. -/
theorem Logged.extend (hlog : Logged L mem h) (log : List Access) : Logged L mem ⟨h.mem, h.log ++ log⟩ := by
  intro v hv
  rw [written_append, List.mem_append, not_or] at hv
  exact hlog v hv.1

theorem Logged.readField (hlog : Logged L mem h) (gpa : BitVec 64) (f : Field size) :
    Logged L mem (h.readField L gpa f).2 := hlog.extend _

theorem Logged.readSlice (hlog : Logged L mem h) (gpa : BitVec 64) (len : ℕ) :
    Logged L mem (h.readSlice L gpa len).2 := hlog.extend _

theorem Logged.writeField (hlog : Logged L mem h) (gpa : BitVec 64) (f : Field size) (value : ℕ) :
    Logged L mem (h.writeField L gpa f value) := by
  intro v hv
  have hsplit : v ∉ written L h.log ++ written L [⟨gpa, f.offset, f.width, true⟩] := by
    rw [← written_append]
    exact hv
  rw [List.mem_append, not_or] at hsplit
  have hback := ptr_add_sub (guestPtr L gpa) v
  -- an address in the field would be one of the bytes that the log has
  have hmiss : (v - guestPtr L gpa).toNat < f.offset ∨ f.offset + f.width ≤ (v - guestPtr L gpa).toNat := by
    by_contra hin
    refine hsplit.2 (List.mem_flatMap.mpr ⟨_, List.mem_singleton_self _, ?_⟩)
    refine List.mem_map.mpr ⟨(v - guestPtr L gpa).toNat - f.offset, List.mem_range.mpr ?_, ?_⟩
    · dsimp only
      omega
    · have hsum : f.offset + ((v - guestPtr L gpa).toNat - f.offset) = (v - guestPtr L gpa).toNat := by omega
      unfold Access.byte
      dsimp only
      rw [hsum, hback]
  show storeLE _ _ _ _ _ = _
  rw [storeLE_outside _ _ _ _ _ hmiss]
  unfold view
  rw [hback]
  exact hlog v hsplit.1

theorem serveHypercall_logged (hlog : Logged L mem h) (hypercall : HypercallAddress) :
    Logged L mem (serveHypercall I L hypercall data uart h).host := by
  cases hypercall with
  | exit | serialWriteByte | other => exact hlog
  | serialWriteBuffer =>
    have hparams := (hlog.readField data I.serialWriteBuffer.buf).readField data I.serialWriteBuffer.len
    unfold serveHypercall
    dsimp only
    split
    · exact hparams
    · exact hparams.readSlice _ _
  | fileWrite =>
    have hfd := hlog.readField data I.write.fd
    have hparams := (hfd.readField data I.write.buf).readField data I.write.len
    unfold serveHypercall
    dsimp only
    split
    · split
      · exact hparams
      · exact (hparams.readSlice _ _).writeField data I.write.ret _
    · exact hfd.writeField data I.write.ret minusOne
  | fileRead => exact hlog.writeField data I.read.result minusOne
  | fileOpen => exact hlog.writeField data I.openParams.result minusOne
  | fileClose => exact hlog.writeField data I.close.result minusOne
  | fileLseek => exact hlog.writeField data I.lseek.result minusOne
  | fileUnlink => exact hlog.writeField data I.unlink.result minusOne

theorem serve_logged (hlog : Logged L mem h) (reason : ExitReason) (regs : GuestRegisters) :
    Logged L mem (serve I L reason ⟨uart, regs, h⟩).2.host := by
  cases reason with
  | shutdown | success => exact hlog
  | ioInstruction q =>
    unfold serve serveIo
    dsimp only
    split
    · exact hlog
    · split
      · exact serveHypercall_logged hlog _
      · split
        · exact hlog
        · split
          · exact hlog
          · exact hlog

end Logged

/-- Nothing but guest memory is written if the guest names nothing else. -/
theorem serve_written {I : Interface} {L : VmMemoryLayout} {mem : HostMem} {reason : ExitReason} {uart : Uart}
    {regs : GuestRegisters} (hin : ∀ r ∈ namedAt I L reason regs mem, r.Inside L) {v : BitVec 64}
    (hv : v ∈ written L (serve I L reason ⟨uart, regs, ⟨mem, []⟩⟩).2.host.log) :
    ∃ a, a < L.len ∧ v = L.startAddr + BitVec.ofNat 64 a := by
  have hinside : ∀ x ∈ (serve I L reason ⟨uart, regs, ⟨mem, []⟩⟩).2.host.log, x.Inside L := by
    cases reason with
    | shutdown | success => exact nofun
    | ioInstruction q =>
      rcases serveIo_log I L q uart regs mem with ⟨hlog, -⟩ | ⟨size, hfoot⟩
      · rw [hlog]
        exact nofun
      · exact hfoot.inside hin
  obtain ⟨x, hx, hmem⟩ := List.mem_flatMap.mp hv
  split at hmem
  · obtain ⟨j, hj, rfl⟩ := List.mem_map.mp hmem
    obtain ⟨-, hlo, hhi⟩ := hinside x hx j (List.mem_range.mp hj)
    refine ⟨(x.byte L j).toNat - L.startAddr.toNat, by omega, ?_⟩
    bv_omega
  · cases hmem

end Rhyve.Vcpu
