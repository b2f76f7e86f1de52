import Rhyve.Core
import Rhyve.Device.Uart
import Rhyve.Lib.ByteMem

/-! # Serving an exit: the body of the loop of `Cpu::run` (`vcpu.rs`)

The hypercall arms follow guest-chosen pointers through `guest_ptr`. Host memory is addressed by 64-bit
addresses, arithmetic on them wraps, and every access is logged with the guest-physical address it was
made for, so that `HostState.log` is the footprint of a hypercall.

* `Interface`: what the code takes from `uhyve_interface`: the port map, and the layout of the parameter
  structs. `uhyveInterface` is that of one version of the crate.
* `serveHypercall`: one arm per hypercall.
* `serve`: everything `Cpu::run` does between two calls of the backend.
-/

namespace Rhyve.Vcpu
open ByteMem Device
set_option autoImplicit false

abbrev HostMem := BitVec 64 → BitVec 8

/-- The host's mapping of guest memory: an allocation, so it does not wrap and has at most
`isize::MAX` bytes. -/
structure VmMemoryLayout where
  startAddr : BitVec 64
  len : ℕ
  fits : startAddr.toNat + len ≤ 2 ^ 64
  alloc : len < 2 ^ 63

/-! ## The interface crate -/

/-- The hypercalls that `Cpu::run` tells apart. -/
inductive HypercallAddress where
  | exit
  | serialWriteByte
  | serialWriteBuffer
  | fileWrite
  | fileRead
  | fileOpen
  | fileClose
  | fileLseek
  | fileUnlink
  | other
  deriving DecidableEq, Repr

/-- A field of a parameter struct of `size` bytes. -/
structure Field (size : ℕ) where
  offset : ℕ
  width : ℕ
  pos : 0 < width
  inside : offset + width ≤ size

/-- `SerialWriteBufferParams`. -/
structure SerialWriteBufferParams where
  size : ℕ
  buf : Field size
  len : Field size

/-- `WriteParams`. -/
structure WriteParams where
  size : ℕ
  fd : Field size
  buf : Field size
  len : Field size
  ret : Field size

/-- A struct of which only the result field is used: `ret`, or `offset` of `LseekParams`. -/
structure ResultParams where
  size : ℕ
  result : Field size

def serialBase : BitVec 16 := 0x800#16

/-- The crate `uhyve-interface`: which ports are hypercalls, and the layout of their parameters. -/
structure Interface where
  tryFrom : BitVec 64 → Option HypercallAddress
  serialWriteBuffer : SerialWriteBufferParams
  write : WriteParams
  read : ResultParams
  openParams : ResultParams
  close : ResultParams
  lseek : ResultParams
  unlink : ResultParams
  /-- The transmit register is no hypercall port. -/
  serial_free : tryFrom (serialBase.setWidth 64) = none

/-- The port map of `uhyve_interface` 0.3.0. What `Cpu::run` does not tell apart is console input and shared
memory. -/
def uhyvePort (port : BitVec 64) : Option HypercallAddress :=
  match port.toNat with
  | 0x1010 => some .exit
  | 0x1020 => some .serialWriteByte
  | 0x1030 => some .serialWriteBuffer
  | 0x1040 | 0x1050 => some .other
  | 0x1100 => some .fileWrite
  | 0x1110 => some .fileOpen
  | 0x1120 => some .fileClose
  | 0x1130 => some .fileRead
  | 0x1140 => some .fileLseek
  | 0x1150 => some .fileUnlink
  | 0x1200 | 0x1210 => some .other
  | _ => none

/-- Its port map, and its structs without padding. -/
def uhyveInterface : Interface where
  tryFrom := uhyvePort
  serialWriteBuffer := ⟨16, ⟨0, 8, by decide, by decide⟩, ⟨8, 8, by decide, by decide⟩⟩
  write := ⟨28, ⟨0, 4, by decide, by decide⟩, ⟨4, 8, by decide, by decide⟩, ⟨12, 8, by decide, by decide⟩,
    ⟨20, 8, by decide, by decide⟩⟩
  read := ⟨28, ⟨20, 8, by decide, by decide⟩⟩
  openParams := ⟨20, ⟨16, 4, by decide, by decide⟩⟩
  close := ⟨8, ⟨4, 4, by decide, by decide⟩⟩
  lseek := ⟨16, ⟨4, 8, by decide, by decide⟩⟩
  unlink := ⟨12, ⟨8, 4, by decide, by decide⟩⟩
  serial_free := rfl

/-! ## Host memory accesses -/

/-- `count` bytes from `first` on, relative to the pointer made from `gpa`. -/
structure Access where
  gpa : BitVec 64
  first : ℕ
  count : ℕ
  write : Bool
  deriving DecidableEq, Repr

/-- Host memory, and the accesses of the guest's parameters and buffers so far. -/
structure HostState where
  mem : HostMem
  log : List Access

def guestPtr (L : VmMemoryLayout) (gpa : BitVec 64) : BitVec 64 := L.startAddr + gpa

/-- Host memory as seen from a pointer. -/
def view (mem : HostMem) (p : BitVec 64) : Mem := fun i => mem (p + BitVec.ofNat 64 i)

namespace HostState

def readField (h : HostState) (L : VmMemoryLayout) (gpa : BitVec 64) {size : ℕ} (f : Field size) :
    ℕ × HostState :=
  (loadLE (view h.mem (guestPtr L gpa)) f.offset f.width,
    { h with log := h.log ++ [⟨gpa, f.offset, f.width, false⟩] })

def writeField (h : HostState) (L : VmMemoryLayout) (gpa : BitVec 64) {size : ℕ} (f : Field size)
    (v : ℕ) : HostState where
  mem := fun x => storeLE (view h.mem (guestPtr L gpa)) f.offset f.width v (x - guestPtr L gpa).toNat
  log := h.log ++ [⟨gpa, f.offset, f.width, true⟩]

/-- `from_raw_parts(..).to_vec()` of a slice that a `Vec` can hold. -/
def readSlice (h : HostState) (L : VmMemoryLayout) (gpa : BitVec 64) (len : ℕ) :
    List (BitVec 8) × HostState :=
  ((List.range len).map (view h.mem (guestPtr L gpa)),
    { h with log := h.log ++ [⟨gpa, 0, len, false⟩] })

end HostState

/-! ## Serving a hypercall -/

/-- What `Cpu::run` does after an exit has been served. -/
inductive Flow where
  | next
  | done
  | panicked (p : Panic)
  deriving DecidableEq, Repr

/-- What a hypercall leaves behind. -/
structure Served where
  flow : Flow
  uart : Uart
  host : HostState

/-- `p.ret = -1`. -/
def minusOne : ℕ := 2 ^ 64 - 1

/-- The arms that only report that host file I/O is not supported. -/
def refuse (L : VmMemoryLayout) (p : ResultParams) (data : BitVec 64) (uart : Uart)
    (host : HostState) : Served :=
  ⟨.next, uart, host.writeField L data p.result minusOne⟩

/-- The arms of the inner `match`. `data` is the guest's RDI: a byte, or the guest-physical address of the
parameter struct, which is followed without a check. -/
def serveHypercall (I : Interface) (L : VmMemoryLayout) (hypercall : HypercallAddress)
    (data : BitVec 64) (uart : Uart) (host : HostState) : Served :=
  match hypercall with
  | .exit => ⟨.done, uart, host⟩
  | .serialWriteByte => ⟨.next, uart.writeBuffer [data.setWidth 8], host⟩
  | .serialWriteBuffer =>
    let (buf, host) := host.readField L data I.serialWriteBuffer.buf
    let (len, host) := host.readField L data I.serialWriteBuffer.len
    if 2 ^ 63 ≤ len then ⟨.panicked .capacityOverflow, uart, host⟩
    else
      let (bytes, host) := host.readSlice L (BitVec.ofNat 64 buf) len
      ⟨.next, uart.writeBuffer bytes, host⟩
  | .fileWrite =>
    let (fd, host) := host.readField L data I.write.fd
    if fd = 1 ∨ fd = 2 then
      let (buf, host) := host.readField L data I.write.buf
      let (len, host) := host.readField L data I.write.len
      if 2 ^ 63 ≤ len then ⟨.panicked .capacityOverflow, uart, host⟩
      else
        let (bytes, host) := host.readSlice L (BitVec.ofNat 64 buf) len
        ⟨.next, uart.writeBuffer bytes, host.writeField L data I.write.ret len⟩
    else ⟨.next, uart, host.writeField L data I.write.ret minusOne⟩
  | .fileRead => refuse L I.read data uart host
  | .fileOpen => refuse L I.openParams data uart host
  | .fileClose => refuse L I.close data uart host
  | .fileLseek => refuse L I.lseek data uart host
  | .fileUnlink => refuse L I.unlink data uart host
  | .other => ⟨.next, uart, host⟩

/-! ## Serving an exit -/

/-- The parts of a `Cpu` that serving an exit reads and writes. -/
structure Cpu where
  uart : Uart
  regs : GuestRegisters
  host : HostState

def exitPorts : List (BitVec 16) := [0xf4#16, 0x540#16]

/-- Bit 3 of the qualification: 0 = `OUT`, 1 = `IN`. -/
def isIn (q : BitVec 64) : Bool := (q >>> 3) &&& 1#64 != 0#64

/-- Bits 16–31 of the qualification. -/
def portOf (q : BitVec 64) : BitVec 16 := (q >>> 16).setWidth 16

/-- Only an `OUT` can be a hypercall. -/
def hypercallOf (I : Interface) (q : BitVec 64) : Option HypercallAddress :=
  if isIn q then none else I.tryFrom ((portOf q).setWidth 64)

def isSerial (port : BitVec 16) : Bool := decide (serialBase ≤ port ∧ port < serialBase + 8#16)

/-- An I/O instruction: an exit port, a hypercall, or a register of the UART. Other ports read as zero and swallow
what is written. -/
def serveIo (I : Interface) (L : VmMemoryLayout) (q : BitVec 64) (c : Cpu) : Flow × Cpu :=
  if isIn q = false ∧ exitPorts.contains (portOf q) then (.done, c)
  else
    match hypercallOf I q with
    | some hypercall =>
      let s := serveHypercall I L hypercall c.regs.rdi c.uart c.host
      (s.flow, { c with uart := s.uart, host := s.host })
    | none =>
      let offset := portOf q - serialBase
      if isIn q then
        let value := if isSerial (portOf q) then c.uart.read offset else 0
        (.next, { c with regs := { c.regs with
          rax := (c.regs.rax &&& ~~~0xff#64) ||| value.setWidth 64 } })
      else if isSerial (portOf q) then
        (.next, { c with uart := (c.uart.write offset (c.regs.rax.setWidth 8)).2 })
      else (.next, c)

/-- What is done about each reason that the backend returns. -/
def serve (I : Interface) (L : VmMemoryLayout) (reason : ExitReason) (c : Cpu) : Flow × Cpu :=
  match reason with
  | .ioInstruction q => serveIo I L q c
  | .shutdown => (.done, c)
  | .success => (.next, c)

end Rhyve.Vcpu
