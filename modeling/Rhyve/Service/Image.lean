import Rhyve.Lib.Regions
import Rhyve.Service.NoPanic

/-! # The memory a guest boots with (`main.rs`)

`init_hypervisor` copies the kernel, the device tree and the boot info into zeroed memory and then writes a GDT and
page tables into it. Nothing but the offsets keeps these apart.

* `bootBlocks`: the three copies. `BootImage`: all of them are there, with the GDT and the tables, and the rest is
  zero.
* `initHypervisor_ram`: the memory of a guest that has been built.
-/

namespace Rhyve.Service
open ByteMem Errors Paging Regions
set_option autoImplicit false

def bootBlocks (kernel fdt bootInfo : List (BitVec 8)) : List Block :=
  [⟨kernelOffset, kernel⟩, ⟨fdtOffset, fdt⟩, ⟨Boot.bootInfoOffset, bootInfo⟩]

/-- What is in guest memory: the three blocks, the GDT, tables for the first GiB, and zeros. -/
structure BootImage (kernel fdt bootInfo : List (BitVec 8)) (ram : Mem) : Prop where
  blocks : ∀ b ∈ bootBlocks kernel fdt bootInfo, Shows ram b
  gdt : ∀ i, (hi : i < Boot.gdtEntries.length) → load64 ram (Boot.gdtOffset + 8 * i) = Boot.gdtEntries.get ⟨i, hi⟩
  pml4 : ∀ i, i < 512 → load64 ram (Boot.bootPml4 + 8 * i) = if i = 0 then 0x11003#64 else 0#64
  pdpt : ∀ i, i < 512 → load64 ram (Boot.bootPdpte + 8 * i) = if i = 0 then 0x12003#64 else 0#64
  pd : ∀ i, i < 512 → load64 ram (Boot.bootPde + 8 * i) = Boot.pdEntry i
  zero : ∀ x, (∀ b ∈ bootBlocks kernel fdt bootInfo, b.Misses x) →
    (x < Boot.gdtOffset ∨ Boot.gdtOffset + 24 ≤ x) → (x < Boot.bootPml4 ∨ Boot.bootPml4 + 0x3000 ≤ x) → ram x = 0#8

/-- The device tree ends before the boot info, and the boot info before the tables. -/
structure FitsBoot (fdt bootInfo : List (BitVec 8)) : Prop where
  fdt : fdt.length ≤ 0x4000
  bootInfo : bootInfo.length ≤ 0x7000

section Layout
variable {kernel fdt bootInfo : List (BitVec 8)}

theorem bootBlocks_apart (h : FitsBoot fdt bootInfo) : (bootBlocks kernel fdt bootInfo).Pairwise Block.Apart := by
  have hfdt := h.fdt
  have hinfo := h.bootInfo
  refine List.pairwise_cons.mpr ⟨?_, List.pairwise_cons.mpr ⟨?_, List.pairwise_singleton _ _⟩⟩
  · intro b hb
    simp only [List.mem_cons, List.not_mem_nil, or_false] at hb
    rcases hb with rfl | rfl
    · refine .inr ?_
      unfold Block.stop kernelOffset fdtOffset
      dsimp only
      omega
    · refine .inr ?_
      unfold Block.stop kernelOffset Boot.bootInfoOffset
      dsimp only
      omega
  · intro b hb
    obtain rfl := List.mem_singleton.mp hb
    refine .inl ?_
    unfold Block.stop fdtOffset Boot.bootInfoOffset
    dsimp only
    omega

/-- The GDT and the tables are outside the blocks. -/
theorem bootBlocks_outside (h : FitsBoot fdt bootInfo) {b : Block} (hb : b ∈ bootBlocks kernel fdt bootInfo) {x : ℕ}
    (hlo : b.start ≤ x) (hhi : x < b.stop) :
    (x < Boot.gdtOffset ∨ Boot.gdtOffset + 8 * Boot.gdtEntries.length ≤ x) ∧
      (x < Boot.bootPml4 ∨ Boot.bootPml4 + 0x3000 ≤ x) := by
  have hfdt := h.fdt
  have hinfo := h.bootInfo
  have hlen : Boot.gdtEntries.length = 3 := rfl
  rw [hlen]
  simp only [bootBlocks, List.mem_cons, List.not_mem_nil, or_false] at hb
  unfold Block.stop at hhi
  unfold Boot.gdtOffset Boot.bootPml4
  rcases hb with rfl | rfl | rfl
  · unfold kernelOffset at hlo
    dsimp only at hlo hhi
    omega
  · unfold fdtOffset at hlo hhi
    dsimp only at hlo hhi
    omega
  · unfold Boot.bootInfoOffset at hlo hhi
    dsimp only at hlo hhi
    omega

theorem bootImage_of_fits (h : FitsBoot fdt bootInfo) :
    BootImage kernel fdt bootInfo (Boot.initGuestMemory (placeAll (fun _ => 0#8) (bootBlocks kernel fdt bootInfo))) := by
  refine ⟨?_, fun i hi => Boot.initGuestMemory_gdt _ hi, Boot.initGuestMemory_pml4 _, Boot.initGuestMemory_pdpt _,
    Boot.initGuestMemory_pd _, ?_⟩
  · intro b hb
    refine (placeAll_shows (fun _ => 0#8) (bootBlocks_apart h) hb).congr ?_
    intro x hlo hhi
    obtain ⟨hgdt, htables⟩ := bootBlocks_outside h hb hlo hhi
    exact Boot.initGuestMemory_outside _ hgdt htables
  · intro x hblocks hgdt htables
    rw [Boot.initGuestMemory_outside _ hgdt htables]
    exact placeAll_outside _ hblocks

end Layout

/-! ## The guest of a request -/

section Guest
variable {κ ι τ : Type} {lib : Libraries κ ι τ} {host : RunHost} {image : ImageFile} {size : BitVec 64} {guest : Guest}

/-- What the guest is told about its machine. -/
structure Describes (host : RunHost) (lib : Libraries κ ι τ) (size : BitVec 64) (kernel : κ) (info : BootInfo ι τ) :
    Prop where
  physAddrEnd : info.physAddrEnd = size
  serialPortBase : info.serialPortBase = serialBase
  deviceTree : info.deviceTree = fdtOffset
  loadInfo : info.loadInfo = (lib.loadKernel kernel kernelOffset).1.loadInfo
  cpuFreq : info.cpuFreq.toNat = host.processorFrequency.toNat * 1000
  bootTime : host.sinceEpoch.bind lib.fromUnixTimestampNanos = some info.bootTime

theorem cpuFreq_toNat (freq : BitVec 16) : (freq.setWidth 32 * 1000#32).toNat = freq.toNat * 1000 := by
  have hlt := freq.isLt
  have hthousand : (1000#32).toNat = 1000 := by decide
  have hwide : freq.toNat % 2 ^ 32 = freq.toNat := Nat.mod_eq_of_lt (by omega)
  rw [BitVec.toNat_mul, BitVec.toNat_setWidth, hthousand, hwide, Nat.mod_eq_of_lt (by omega)]

theorem storeBytes_eq (m : Mem) (a : ℕ) (bytes : List (BitVec 8)) : storeBytes m a bytes = place m ⟨a, bytes⟩ := rfl

theorem buildGuest_ok {base : BitVec 64} {loaded : LoadedKernel ι} {ram : Mem} (kernel : κ)
    (hloaded : loaded = (lib.loadKernel kernel kernelOffset).1)
    (h : buildGuest lib host base size loaded ram = .ok guest) :
    ∃ fdt info, lib.writeFdt (guestFdt size) = some fdt ∧ Describes host lib size kernel info ∧
      guest.entryPoint = loaded.entryPoint ∧
      guest.ram = Boot.initGuestMemory (placeAll ram
        [⟨fdtOffset, fdt⟩, ⟨Boot.bootInfoOffset, lib.rawBootInfo info⟩]) ∧
      Vm.new host base size = .ok guest.vm := by
  obtain ⟨nanos, hnanos, h⟩ := bind_ok h
  obtain ⟨cpuFreq, hfreq, h⟩ := bind_ok h
  obtain ⟨bootTime, htime, h⟩ := bind_ok h
  obtain ⟨fdt, hfdt, h⟩ := bind_ok h
  obtain ⟨-, -, h⟩ := bind_ok h
  obtain ⟨-, -, h⟩ := bind_ok h
  obtain ⟨vm, hvm, h⟩ := bind_ok h
  have hcpuFreq : cpuFreq = host.processorFrequency.setWidth 32 * 1000#32 := by
    have hsome := unwrap_ok.mp hfreq
    split at hsome
    · cases hsome
    · exact (Option.some.inj hsome).symm
  obtain rfl := Except.ok.inj h
  refine ⟨fdt, ⟨size, serialBase, fdtOffset, loaded.loadInfo, cpuFreq, bootTime⟩, unwrap_ok.mp hfdt,
    ⟨rfl, rfl, rfl, congrArg LoadedKernel.loadInfo hloaded, ?_, ?_⟩, rfl, ?_, hvm⟩
  · show cpuFreq.toNat = _
    rw [hcpuFreq, cpuFreq_toNat]
  · rw [unwrap_ok.mp hnanos, Option.bind_some, unwrap_ok.mp htime]
  · dsimp only
    rw [storeBytes_eq, storeBytes_eq]
    rfl

/-- The guest of a request that got as far as its VM. -/
theorem initHypervisor_ok (h : initHypervisor lib host image size = .ok guest) :
    ∃ kernel fdt info, Parses lib image kernel ∧ kernelOffset + (lib.memSize kernel).toNat ≤ size.toNat ∧
      lib.writeFdt (guestFdt size) = some fdt ∧ Describes host lib size kernel info ∧
      guest.entryPoint = (lib.loadKernel kernel kernelOffset).1.entryPoint ∧
      guest.ram = Boot.initGuestMemory (placeAll (fun _ => 0#8)
        (bootBlocks ((lib.loadKernel kernel kernelOffset).2.take (lib.memSize kernel).toNat) fdt
          (lib.rawBootInfo info))) ∧
      Vm.new host (host.allocate size) size = .ok guest.vm := by
  obtain ⟨⟨loaded, ram⟩, hload, hbuild⟩ := bind_ok h
  obtain ⟨kernel, hparses, hfits⟩ := loadGuestImage_ok lib hload
  have hresult := (loadGuestImage_parses lib hparses hfits _).symm.trans hload
  injection hresult with hresult
  injection hresult with hloaded hram
  obtain ⟨fdt, info, hfdt, hinfo, hentry, hguest, hvm⟩ := buildGuest_ok kernel hloaded.symm hbuild
  refine ⟨kernel, fdt, info, hparses, hfits, hfdt, hinfo, hentry.trans (by rw [hloaded]), ?_, hvm⟩
  rw [hguest, ← hram]
  rfl

end Guest

/-- The kernel of the image, the device tree for this much memory, boot info that describes the machine, a GDT and page
tables, each at its place and whole, and zeros everywhere else. -/
theorem boot_image_exact {κ ι τ : Type} (lib : Libraries κ ι τ) (host : RunHost) (image : ImageFile) (size : BitVec 64)
    (hfdt : ∀ fdt, lib.writeFdt (guestFdt size) = some fdt → fdt.length ≤ 0x4000)
    (hinfo : ∀ info, (lib.rawBootInfo info).length ≤ 0x7000) (guest : Guest)
    (h : initHypervisor lib host image size = .ok guest) :
    ∃ kernel fdt info, Parses lib image kernel ∧ lib.writeFdt (guestFdt size) = some fdt ∧
      Describes host lib size kernel info ∧
      guest.entryPoint = (lib.loadKernel kernel kernelOffset).1.entryPoint ∧
      BootImage ((lib.loadKernel kernel kernelOffset).2.take (lib.memSize kernel).toNat) fdt (lib.rawBootInfo info)
        guest.ram := by
  obtain ⟨kernel, fdt, info, hparses, -, hwritten, hdescribes, hentry, hram, -⟩ := initHypervisor_ok h
  refine ⟨kernel, fdt, info, hparses, hwritten, hdescribes, hentry, ?_⟩
  rw [hram]
  exact bootImage_of_fits ⟨hfdt fdt hwritten, hinfo info⟩

/-! ## A kernel of two instructions -/

/-- A kernel of two bytes. -/
def haltKernel : Libraries Unit Unit Unit :=
  { kernelOf 2#64 with loadKernel := fun _ _ => (⟨(), 0x80000#64⟩, [0x90#8, 0xF4#8]) }

theorem sampleFdt_length : sampleFdt.length = 270 := by decide +kernel

theorem sampleBootInfo_length (info : BootInfo Unit Unit) : (sampleBootInfo info).length = 128 := by
  simp [sampleBootInfo, littleEndian]

theorem haltKernel_boots :
    ∃ guest, initHypervisor haltKernel readyHost (storedImage "/image/halt") 0x81000#64 = .ok guest := by
  have hok : (initHypervisor haltKernel readyHost (storedImage "/image/halt") 0x81000#64).isOk = true := by
    decide +kernel
  cases h : initHypervisor haltKernel readyHost (storedImage "/image/halt") 0x81000#64 with
  | error e =>
    rw [h] at hok
    cases hok
  | ok guest => exact ⟨guest, rfl⟩

theorem haltKernel_fits : (∀ fdt, haltKernel.writeFdt (guestFdt 0x81000#64) = some fdt → fdt.length ≤ 0x4000) ∧
    ∀ info, (haltKernel.rawBootInfo info).length ≤ 0x7000 := by
  refine ⟨?_, ?_⟩
  · rintro fdt ⟨⟩
    rw [sampleFdt_length]
    decide
  · intro info
    show (sampleBootInfo info).length ≤ 0x7000
    rw [sampleBootInfo_length]
    decide

/-- Its second instruction, the first byte of the device tree, and a byte of the stack. -/
theorem boot_image_exact_halt :
    ∃ guest, initHypervisor haltKernel readyHost (storedImage "/image/halt") 0x81000#64 = .ok guest ∧
      guest.ram 0x80001 = 0xF4#8 ∧ guest.ram 0x5000 = 0xD0#8 ∧ guest.ram 0x6FFFF = 0#8 := by
  obtain ⟨guest, hguest⟩ := haltKernel_boots
  obtain ⟨kernel, fdt, info, -, hfdt, -, -, himage⟩ := boot_image_exact haltKernel readyHost (storedImage "/image/halt")
    0x81000#64 haltKernel_fits.1 haltKernel_fits.2 guest hguest
  have hfdt : fdt = sampleFdt := (Option.some.inj hfdt).symm
  have hinfo : (haltKernel.rawBootInfo info).length = 128 := sampleBootInfo_length info
  refine ⟨guest, hguest, ?_, ?_, ?_⟩
  · exact himage.blocks ⟨kernelOffset, [0x90#8, 0xF4#8]⟩ List.mem_cons_self 1 (by decide)
  · have htree := himage.blocks ⟨fdtOffset, fdt⟩ (List.mem_cons_of_mem _ List.mem_cons_self)
    rw [hfdt] at htree
    exact htree 0 (by decide +kernel)
  · refine himage.zero 0x6FFFF ?_ (by decide) (by decide)
    intro b hb
    simp only [bootBlocks, List.mem_cons, List.not_mem_nil, or_false] at hb
    rcases hb with rfl | rfl | rfl
    · exact .inl (show 0x6FFFF < kernelOffset by decide)
    · refine .inr ?_
      rw [Block.stop, hfdt, sampleFdt_length]
      decide
    · refine .inr ?_
      rw [Block.stop, hinfo]
      exact (by decide : Boot.bootInfoOffset + 128 ≤ 0x6FFFF)

end Rhyve.Service
