import Rhyve.Boot.GuestMemory
import Rhyve.Paging.Tables

/-! # A run request (`main.rs`, `vm.rs`, `fdt.rs`)

`runGuest` is the handler of `POST /run/{name}` together with the blocking task that it starts, up to the
VM with its nested page tables. The vCPU is created and run by the backends.

* `Libraries` is the third-party code on the way: the ELF loader, the device-tree writer, the calendar and
  the layout of the boot info.
* `RunHost` is what the host answers: allocations, the clock, the processor frequency.
* `ImageFile` is what the file system answers about the image.

Sizes are `usize` values of a release build: sums wrap, and a shift drops the high bits.
-/

namespace Rhyve.Service
open ByteMem Paging
set_option autoImplicit false

def fdtOffset : ℕ := 0x5000
def serialBase : BitVec 16 := 0x800#16
def kernelOffset : ℕ := 128 * 4096
def lapicBase : BitVec 64 := 0xFEE00000#64
def ioapicBase : BitVec 64 := 0xFEC00000#64
def minGuestMib : BitVec 64 := 128#64
def defaultGuestMib : BitVec 64 := 512#64
def largePageSize : BitVec 64 := 0x200000#64

/-! ## The device tree -/

/-- The calls that `fdt.rs` makes to the writer. -/
inductive FdtCall where
  | beginNode (name : String)
  | endNode
  | propertyString (name value : String)
  | propertyU32 (name : String) (value : BitVec 32)
  | propertyArrayU64 (name : String) (values : List (BitVec 64))
  deriving DecidableEq, Repr

namespace Fdt

/-- `Fdt::new`: the root node, with cells of 64 bits for addresses and sizes. -/
def new (platform : String) : List FdtCall :=
  [.beginNode "", .propertyString "compatible" ("hermit," ++ platform),
    .propertyU32 "#address-cells" 2#32, .propertyU32 "#size-cells" 2#32]

/-- `Fdt::memory`: a node with the range from `first` to `last`. -/
def memory (first last : BitVec 64) : List FdtCall :=
  [.beginNode ("memory@" ++ String.ofList (Nat.toDigits 16 first.toNat)),
    .propertyString "device_type" "memory", .propertyArrayU64 "reg" [first, last - first], .endNode]

def finish : List FdtCall := [.beginNode "chosen", .endNode, .endNode]

end Fdt

/-- The tree of a guest with this much memory. -/
def guestFdt (guestSize : BitVec 64) : List FdtCall :=
  Fdt.new "uhyve" ++ Fdt.memory 0#64 guestSize ++ Fdt.finish

/-! ## What the handler uses -/

/-- `LoadedKernel` of the loader. -/
structure LoadedKernel (ι : Type) where
  loadInfo : ι
  entryPoint : BitVec 64

/-- The boot info, less its constants. -/
structure BootInfo (ι τ : Type) where
  physAddrEnd : BitVec 64
  serialPortBase : BitVec 16
  deviceTree : ℕ
  loadInfo : ι
  cpuFreq : BitVec 32
  bootTime : τ

/-- The functions of other crates: the ELF loader, the device-tree writer, the time and the raw boot
information. -/
structure Libraries (κ ι τ : Type) where
  parse : List (BitVec 8) → Option κ
  memSize : κ → BitVec 64
  /-- The loaded kernel, and what is written to the slice. -/
  loadKernel : κ → (startAddr : ℕ) → LoadedKernel ι × List (BitVec 8)
  writeFdt : List FdtCall → Option (List (BitVec 8))
  fromUnixTimestampNanos : ℕ → Option τ
  rawBootInfo : BootInfo ι τ → List (BitVec 8)

/-- What the host provides for a VM. -/
structure RunHost where
  scheme : Scheme
  tables : Host
  heap : Heap
  /-- The guest buffer of a given size. -/
  allocate : BitVec 64 → BitVec 64
  allocate_aligned : ∀ size, (allocate size).toNat % pageSize = 0
  apicAccessPage : Option (BitVec 64)
  ioapicPage : Option (BitVec 64)
  /-- Nanoseconds since the epoch, unless the clock stands before it. -/
  sinceEpoch : Option ℕ
  processorFrequency : BitVec 16

/-- What the file system says of an image. -/
structure ImageFile where
  metadata : Option (BitVec 64)
  opens : Bool
  /-- The bytes of the one `read`. -/
  read : Option (List (BitVec 8))

/-! ## Panics -/

/-- The range check of `s[first..last]`. -/
def sliceRange (len first last : ℕ) : Except Abort Unit :=
  if first ≤ last ∧ last ≤ len then .ok () else .error (.panic .sliceOutOfRange)

/-- The check of `vec![0; len]`. -/
def vecCapacity (len : ℕ) : Except Abort Unit :=
  if len < 2 ^ 63 then .ok () else .error (.panic .capacityOverflow)

def storeBytes (m : Mem) (a : ℕ) (bytes : List (BitVec 8)) : Mem := fun x =>
  if a ≤ x ∧ x < a + bytes.length then bytes.getD (x - a) 0#8 else m x

section Run
variable {κ ι τ : Type} (lib : Libraries κ ι τ) (host : RunHost)

/-! ## The virtual machine -/

/-- `Vm`. -/
structure Vm where
  paging : Nested
  apicAccessHpa : BitVec 64
  guestBase : BitVec 64
  guestSize : BitVec 64

/-- `Vm::new`: the nested tables, and the pages of the local APIC and the I/O APIC in them. -/
def Vm.new (guestBase guestSize : BitVec 64) : Except Abort Vm := do
  let paging ← host.scheme.new host.tables host.heap guestBase guestSize
  let apicAccessPage ← orError .allocationFailed host.apicAccessPage
  let ioapicPage ← orError .allocationFailed host.ioapicPage
  let apicAccessHpa ← hostPhysical host.tables apicAccessPage
  let (lapic, paging) := host.scheme.mapMmio host.tables paging lapicBase apicAccessHpa
  lapic
  let ioapicHpa ← hostPhysical host.tables ioapicPage
  let (ioapic, paging) := host.scheme.mapMmio host.tables paging ioapicBase ioapicHpa
  ioapic
  return ⟨paging, apicAccessHpa, guestBase, guestSize⟩

/-! ## Loading the image -/

/-- The buffer that is parsed: a zeroed vector, and what was read into it. -/
def imageBuffer (len : ℕ) (data : List (BitVec 8)) : List (BitVec 8) :=
  data.take len ++ List.replicate (len - data.length) 0#8

/-- `load_guest_image`. The slice is taken at the size that the kernel announces, so a kernel that does not fit
panics. -/
def loadGuestImage (image : ImageFile) (guestSize : BitVec 64) (ram : Mem) :
    Except Abort (LoadedKernel ι × Mem) := do
  let len ← orError .ioError image.metadata
  orError .ioError (if image.opens then some () else none)
  vecCapacity len.toNat
  let data ← orError .ioError image.read
  let kernel ← orError .parseError (lib.parse (imageBuffer len.toNat data))
  let last := BitVec.ofNat 64 kernelOffset + lib.memSize kernel
  sliceRange guestSize.toNat kernelOffset last.toNat
  let (loaded, bytes) := lib.loadKernel kernel kernelOffset
  return (loaded, storeBytes ram kernelOffset (bytes.take (lib.memSize kernel).toNat))

/-- The guest as it stands when its vCPU is created. -/
structure Guest where
  vm : Vm
  ram : Mem
  entryPoint : BitVec 64

/-- `init_hypervisor` after the image is loaded. -/
def buildGuest (guestBase guestSize : BitVec 64) (loaded : LoadedKernel ι) (ram : Mem) :
    Except Abort Guest := do
  let nanos ← unwrap host.sinceEpoch
  let freq := host.processorFrequency.setWidth 32 * 1000#32
  let cpuFreq ← unwrap (if freq = 0#32 then none else some freq)
  let bootTime ← unwrap (lib.fromUnixTimestampNanos nanos)
  let fdt ← unwrap (lib.writeFdt (guestFdt guestSize))
  sliceRange guestSize.toNat fdtOffset (fdtOffset + fdt.length)
  let ram := storeBytes ram fdtOffset fdt
  -- an index is in range when the slice of its one byte is
  sliceRange guestSize.toNat Boot.bootInfoOffset (Boot.bootInfoOffset + 1)
  let bootInfo : BootInfo ι τ := ⟨guestSize, serialBase, fdtOffset, loaded.loadInfo, cpuFreq, bootTime⟩
  let ram := storeBytes ram Boot.bootInfoOffset (lib.rawBootInfo bootInfo)
  let ram := Boot.initGuestMemory ram
  let vm ← Vm.new host guestBase guestSize
  return ⟨vm, ram, loaded.entryPoint⟩

/-- `init_hypervisor` up to the creation of the vCPU. -/
def initHypervisor (image : ImageFile) (guestSize : BitVec 64) : Except Abort Guest := do
  let guestBase := host.allocate guestSize
  let (loaded, ram) ← loadGuestImage lib image guestSize (fun _ => 0#8)
  buildGuest lib host guestBase guestSize loaded ram

/-! ## The handler -/

def nextMultipleOf (a b : BitVec 64) : BitVec 64 :=
  if a % b = 0#64 then a else a + (b - a % b)

/-- The size of the guest buffer: at least the minimum, in large pages. The shift is one on 64 bits. -/
def guestSize (memMib : Option (BitVec 64)) : BitVec 64 :=
  let asked := memMib.getD defaultGuestMib
  let mib := if asked ≤ minGuestMib then minGuestMib else asked
  nextMultipleOf (mib <<< 20) largePageSize

/-- The name contains two dots in a row. -/
def hasDotDot : List Char → Bool
  | '.' :: '.' :: _ => true
  | _ :: cs => hasDotDot cs
  | [] => false

def invalidName (name : String) : Bool :=
  name.isEmpty || name.toList.contains '/' || hasDotDot name.toList

/-- The name of an error, as `{:?}` prints it. -/
def debug : HypervisorError → String
  | .ioError => "IoError"
  | .parseError => "ParseError"
  | .cpuUnsupported => "CPUUnsupported"
  | .vmxUnsupported => "VMXUnsupported"
  | .vmclearFailed => "VMCLEARFailed"
  | .vmreadFailed => "VMREADFailed"
  | .vmwriteFailed => "VMWRITEFailed"
  | .vmEntryFailed code => "VMEntryFailed(" ++ toString code.toNat ++ ")"
  | .allocationFailed => "AllocationFailed"
  | .vmUnsupported => "VmUnsupported"
  | .unknownVmExitReason => "UnknownVMExitReason"

/-- How a request ends: refused, with a text that ends the stream, or with a guest to run. -/
inductive Outcome where
  | badRequest (body : String)
  | failed (text : String)
  | guest (g : Guest)

/-- `run_guest`. A panic of the task is not caught here. -/
def runGuest (files : String → ImageFile) (name : String) (memMib : Option (BitVec 64)) :
    Except Panic Outcome :=
  if invalidName name then .ok (.badRequest "invalid file name\n")
  else
    match initHypervisor lib host (files ("/image/" ++ name)) (guestSize memMib) with
    | .ok guest => .ok (.guest guest)
    | .error (.error e) => .ok (.failed ("\n[run failed: " ++ debug e ++ "]\n"))
    | .error (.panic p) => .error p

end Run

end Rhyve.Service
