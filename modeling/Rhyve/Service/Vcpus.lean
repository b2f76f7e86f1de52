import Rhyve.Boot.TwoStage
import Rhyve.Service.Image
import Rhyve.Service.Space
import Rhyve.Svm.Control
import Rhyve.Vmx.Capabilities

/-! # The vCPUs of a VM (`vm.rs`, `vcpu.rs`)

`Vm::create_cpu` hands the VM's nested-paging pointer to a new vCPU of the backend that fits the paging scheme, and
numbers the vCPUs in the order of their creation.

* `newCpu`, `createCpu`, `createCpus`: `Cpu::new`, one call of `create_cpu`, any number of them.
* `Backend.cr3`, `Backend.pointer`: what the processor loads from the control structure at the first entry.
* `created_cpus_boot`: every vCPU starts with its number and its entry point, in the image that was prepared.
-/

namespace Rhyve.Service
open Backend Boot ByteMem Errors PageWalk Paging Svm Vmx Words
set_option autoImplicit false

/-- What the host answers while a vCPU is created. On AMD-V these are the physical addresses of the two permission
maps, unless an allocation fails. -/
structure CpuHost where
  vmx : VmxCpu.HostCpu
  svm : Option (BitVec 64 × BitVec 64)

/-- A vCPU, with its backend. -/
inductive VcpuBackend where
  | vmx (c : VmxCpu)
  | svm (c : SvmCpu)

/-- `Cpu::new`; the backend is unwrapped. -/
def newCpu (scheme : Scheme) (h : CpuHost) (pointer apicAccessHpa vcpuId entryPoint stackPointer : BitVec 64) :
    Except Abort VcpuBackend :=
  match scheme with
  | .npt =>
    match h.svm with
    | some (iopmPa, msrpmPa) => .ok (.svm (SvmCpu.new pointer iopmPa msrpmPa vcpuId entryPoint stackPointer))
    | none => .error (.panic .unwrapNone)
  | .ept =>
    match VmxCpu.new h.vmx pointer apicAccessHpa vcpuId entryPoint stackPointer with
    | .ok c => .ok (.vmx c)
    | .error _ => .error (.panic .unwrapNone)

/-- The arguments of a call of `create_cpu`. -/
structure CpuCall where
  host : CpuHost
  entryPoint : BitVec 64
  stackPointer : BitVec 64

/-- `Vm::create_cpu`: the vCPUs are numbered in the order of their creation. -/
def Vm.createCpu (host : RunHost) (vm : Vm) (cpus : List VcpuBackend) (c : CpuCall) :
    Except Abort (List VcpuBackend) := do
  let pointer ← host.scheme.pointer host.tables vm.paging
  let cpu ← newCpu host.scheme c.host pointer vm.apicAccessHpa (BitVec.ofNat 64 cpus.length) c.entryPoint
    c.stackPointer
  return cpus ++ [cpu]

def Vm.createCpus (host : RunHost) (vm : Vm) : List VcpuBackend → List CpuCall → Except Abort (List VcpuBackend)
  | cpus, [] => .ok cpus
  | cpus, c :: cs => do
    let cpus ← vm.createCpu host cpus c
    vm.createCpus host cpus cs

/-! ## What the first entry loads -/

namespace VcpuBackend

def regs : VcpuBackend → GuestRegisters
  | .vmx c => c.regs
  | .svm c => c.regs

def cr3 : VcpuBackend → BitVec 64
  | .vmx c => c.vmcs.value Guest.cr3
  | .svm c => c.vmcb.readU64 saveCr3

/-- EPTP or nCR3. -/
def pointer : VcpuBackend → BitVec 64
  | .vmx c => c.vmcs.value Control.eptpFull
  | .svm c => c.vmcb.readU64 nCr3

def rip : VcpuBackend → BitVec 64
  | .vmx c => c.vmcs.value Guest.rip
  | .svm c => c.vmcb.readU64 saveRip

def rsp : VcpuBackend → BitVec 64
  | .vmx c => c.vmcs.value Guest.rsp
  | .svm c => c.vmcb.readU64 saveRsp

/-- The vCPU with this number, as its control structure and its registers have it. -/
structure Starts (cpu : VcpuBackend) (pointer : BitVec 64) (id : ℕ) (c : CpuCall) : Prop where
  regs : cpu.regs = bootRegisters (BitVec.ofNat 64 id) c.entryPoint c.stackPointer
  rip : cpu.rip = c.entryPoint
  rsp : cpu.rsp = c.stackPointer
  cr3 : cpu.cr3 = BitVec.ofNat 64 bootPml4
  pointer : cpu.pointer = pointer

end VcpuBackend

theorem newCpu_starts {scheme : Scheme} {c : CpuCall} {pointer apicAccessHpa : BitVec 64} {id : ℕ} {cpu : VcpuBackend}
    (h : newCpu scheme c.host pointer apicAccessHpa (BitVec.ofNat 64 id) c.entryPoint c.stackPointer = .ok cpu) :
    cpu.Starts pointer id c := by
  cases scheme with
  | npt =>
    unfold newCpu at h
    dsimp only at h
    split at h
    · obtain rfl := Except.ok.inj h
      exact ⟨rfl, Vmcb.readU64_stores rfl, Vmcb.readU64_stores rfl, Vmcb.readU64_stores rfl,
        (new_intact pointer _ _ _ _ _).root⟩
    · cases h
  | ept =>
    unfold newCpu at h
    dsimp only at h
    split at h
    · rename_i c' hnew
      obtain rfl := Except.ok.inj h
      obtain ⟨virtualApicHpa, vmcs, hvmcs, rfl⟩ := VmxCpu.new_ok hnew
      exact ⟨rfl, Vmcs.writeAll_value hvmcs Guest.rip, Vmcs.writeAll_value hvmcs Guest.rsp,
        Vmcs.writeAll_value hvmcs Guest.cr3, Vmcs.writeAll_value hvmcs Control.eptpFull⟩
    · cases h

/-- The vCPUs created so far belong to the calls so far. -/
structure Numbered (pointer : BitVec 64) (calls : List CpuCall) (cpus : List VcpuBackend) : Prop where
  length : cpus.length = calls.length
  starts : ∀ (k : ℕ) (cpu : VcpuBackend), cpus[k]? = some cpu → ∃ c, calls[k]? = some c ∧ cpu.Starts pointer k c

theorem numbered_nil (pointer : BitVec 64) : Numbered pointer [] [] := by
  refine ⟨rfl, ?_⟩
  intro k cpu hk
  rw [List.getElem?_nil] at hk
  cases hk

theorem createCpu_numbered {host : RunHost} {vm : Vm} {pointer : BitVec 64}
    (hpointer : host.scheme.pointer host.tables vm.paging = .ok pointer) {calls : List CpuCall}
    {cpus cpus' : List VcpuBackend} (h : Numbered pointer calls cpus) {c : CpuCall}
    (hcpu : vm.createCpu host cpus c = .ok cpus') : Numbered pointer (calls ++ [c]) cpus' := by
  obtain ⟨pointer', hpointer', hcpu⟩ := bind_ok hcpu
  obtain rfl := Except.ok.inj (hpointer'.symm.trans hpointer)
  obtain ⟨cpu, hnew, hcpus⟩ := bind_ok hcpu
  obtain rfl := Except.ok.inj hcpus
  refine ⟨?_, ?_⟩
  · rw [List.length_append, List.length_append, h.length]
    rfl
  · intro k cpu' hk
    by_cases hlt : k < cpus.length
    · rw [List.getElem?_append_left hlt] at hk
      obtain ⟨c', hc', hstarts⟩ := h.starts k cpu' hk
      refine ⟨c', ?_, hstarts⟩
      rw [List.getElem?_append_left (by rw [← h.length]; exact hlt)]
      exact hc'
    · -- the new vCPU is the last one
      have hlen := (List.getElem?_eq_some_iff.mp hk).1
      rw [List.length_append, List.length_singleton] at hlen
      have hlast : k = cpus.length := by omega
      rw [hlast, List.getElem?_concat_length, Option.some.injEq] at hk
      rw [← hk, hlast, h.length, List.getElem?_concat_length]
      rw [h.length] at hnew
      exact ⟨c, rfl, newCpu_starts hnew⟩

theorem createCpus_numbered {host : RunHost} {vm : Vm} {pointer : BitVec 64}
    (hpointer : host.scheme.pointer host.tables vm.paging = .ok pointer) {calls done : List CpuCall}
    {cpus cpus' : List VcpuBackend} (h : Numbered pointer done cpus) (hcpus : vm.createCpus host cpus calls = .ok cpus') :
    Numbered pointer (done ++ calls) cpus' := by
  induction calls generalizing done cpus with
  | nil =>
    obtain rfl := Except.ok.inj hcpus
    rw [List.append_nil]
    exact h
  | cons c cs ih =>
    obtain ⟨cpus₁, hcpu, hrest⟩ := bind_ok hcpus
    rw [List.append_cons]
    exact ih (createCpu_numbered hpointer h hcpu) hrest

/-! ## The first instructions -/

/-- The processor's translation of an address in guest memory, through the boot tables and the nested tables. -/
theorem Resident.boot_fetch {r : Resident} {m phys : Mem} (hphys : r.Shown phys)
    (hram : RamBacks r.host.tables r.vm.guestBase r.vm.guestSize (initGuestMemory m) phys)
    (hroom : 0x13000 ≤ r.vm.guestSize.toNat) {va : BitVec 64} (hva : va.toNat < r.vm.guestSize.toNat) :
    ∃ pa, twoStage r.host.scheme phys r.pointer (BitVec.ofNat 64 bootPml4) va = .ok ⟨pa, Perm.all⟩ ∧
      phys pa = initGuestMemory m va.toNat := by
  have hbound := r.built.bound
  have htranslate : ∀ a, a < r.vm.guestSize.toNat → ∃ pa, r.host.scheme.translate phys r.pointer a = .ok ⟨pa, Perm.all⟩ ∧
      byteOf r.space a = some pa ∧ phys pa = initGuestMemory m a := by
    intro a ha
    obtain ⟨pa, hpa, hbyte⟩ := Resident.ram_byte ha
    obtain ⟨hsome, -⟩ := r.built.represents.translate r.pointed hphys (by omega : a < 2 ^ 48)
    obtain ⟨v, hv, hsum⟩ := Option.map_eq_some_iff.mp hbyte
    refine ⟨pa.toNat, ?_, hbyte, hram a pa ha hpa⟩
    rw [hsome v hv, hsum]
  have hroot : frame (BitVec.ofNat 64 bootPml4) = bootPml4 := by decide
  have hwalk : walk guestFormat (guestFetch r.host.scheme phys r.pointer) 3 bootPml4 Perm.all va.toNat =
      .ok ⟨va.toNat, Perm.all⟩ := by
    refine walk_bootTables (m := m) ?_ (by omega)
    intro gpa halign hin
    obtain ⟨pa, hpa, hbyte, -⟩ := htranslate gpa (by omega)
    unfold guestFetch
    rw [hpa]
    refine congrArg Except.ok (load64_shift fun j hj => ?_)
    -- the eight bytes lie in one page
    obtain ⟨pa', -, hbyte', hshown⟩ := htranslate (gpa + j) (by omega)
    have hpage : (gpa + j) / pageSize = gpa / pageSize := by
      unfold pageSize
      omega
    unfold byteOf at hbyte hbyte'
    rw [hpage] at hbyte'
    obtain ⟨v, hv, rfl⟩ := Option.map_eq_some_iff.mp hbyte
    rw [hv, Option.map_some, Option.some.injEq] at hbyte'
    have haddr : v.toNat + gpa % pageSize + j = v.toNat + (gpa + j) % pageSize := by
      unfold pageSize
      omega
    rw [← hshown, ← hbyte', ← haddr]
  obtain ⟨pa, hpa, -, hshown⟩ := htranslate va.toNat hva
  refine ⟨pa, ?_, hshown⟩
  unfold twoStage
  rw [hroot, hwalk]
  simp only [hpa, Perm.meet_all]

/-- However many vCPUs are created, each starts at its entry point, on its stack, with the boot info and its number as
arguments, and reads every byte of the memory that `init_hypervisor` prepared at its guest-virtual address. -/
theorem created_cpus_boot {κ ι τ : Type} (lib : Libraries κ ι τ) (host : RunHost) (hpages : PagesAligned host)
    (image : ImageFile) (size : BitVec 64) (guest : Guest) (h : initHypervisor lib host image size = .ok guest)
    (calls : List CpuCall) (cpus : List VcpuBackend) (hcpus : guest.vm.createCpus host [] calls = .ok cpus) (phys : Mem)
    (hphys : Backs host.tables guest.vm.paging phys)
    (hram : RamBacks host.tables guest.vm.guestBase guest.vm.guestSize guest.ram phys) :
    cpus.length = calls.length ∧
    ∀ (k : ℕ) (cpu : VcpuBackend), cpus[k]? = some cpu → ∃ c, calls[k]? = some c ∧
      cpu.regs = bootRegisters (BitVec.ofNat 64 k) c.entryPoint c.stackPointer ∧
      cpu.rip = c.entryPoint ∧ cpu.rsp = c.stackPointer ∧
      ∀ va : BitVec 64, va.toNat < size.toNat →
        ∃ pa, twoStage host.scheme phys cpu.pointer cpu.cr3 va = .ok ⟨pa, Perm.all⟩ ∧ phys pa = guest.ram va.toNat := by
  obtain ⟨kernel, fdt, info, -, hfits, -, -, -, hguest, hvm⟩ := initHypervisor_ok h
  obtain ⟨hbase, hsize, -⟩ := vm_new_built hpages hvm
  cases calls with
  | nil =>
    obtain rfl := Except.ok.inj hcpus
    refine ⟨rfl, ?_⟩
    intro k cpu hk
    rw [List.getElem?_nil] at hk
    cases hk
  | cons c cs =>
    -- the first call has formed the pointer that all of them get
    obtain ⟨cpus₁, hfirst, -⟩ := bind_ok hcpus
    obtain ⟨pointer, hpointer, -⟩ := bind_ok hfirst
    have hnumbered := createCpus_numbered hpointer (numbered_nil pointer) hcpus
    rw [List.nil_append] at hnumbered
    refine ⟨hnumbered.length, ?_⟩
    intro k cpu hk
    obtain ⟨c', hc', hstarts⟩ := hnumbered.starts k cpu hk
    refine ⟨c', hc', hstarts.regs, hstarts.rip, hstarts.rsp, ?_⟩
    intro va hva
    have hcreated : Vm.new host guest.vm.guestBase guest.vm.guestSize = .ok guest.vm := by rw [hbase, hsize, hvm]
    rw [hguest] at hram ⊢
    rw [← hsize] at hva hfits
    rw [hstarts.pointer, hstarts.cr3]
    have hroom : 0x13000 ≤ guest.vm.guestSize.toNat := by
      unfold kernelOffset at hfits
      omega
    exact Resident.boot_fetch (r := ⟨host, hpages, guest.vm, hcreated, pointer, hpointer⟩) hphys hram hroom hva

/-! ## Two vCPUs -/

/-- A processor with all VMX controls. -/
def idleCpuHost : CpuHost where
  vmx := hostWith fullMsrs
  svm := none

def haltCall : CpuCall := ⟨idleCpuHost, 0x80000#64, 0x70000#64⟩

theorem haltCall_creates (vm : Vm) (cpus : List VcpuBackend) :
    ∃ cpus', vm.createCpu readyHost cpus haltCall = .ok cpus' := by
  obtain ⟨pointer, hpointer⟩ := directHost_pointer .ept vm.paging
  obtain ⟨c, hc⟩ : ∃ c, VmxCpu.new (hostWith fullMsrs) pointer vm.apicAccessHpa (BitVec.ofNat 64 cpus.length)
      0x80000#64 0x70000#64 = .ok c := VmxCpu.new_isOk_iff.mpr fullHost_creatable
  have hnew : ∃ cpu, newCpu .ept idleCpuHost pointer vm.apicAccessHpa (BitVec.ofNat 64 cpus.length) 0x80000#64
      0x70000#64 = .ok cpu := by
    unfold newCpu
    dsimp only [idleCpuHost]
    rw [hc]
    exact ⟨_, rfl⟩
  obtain ⟨cpu, hnew⟩ := hnew
  refine ⟨cpus ++ [cpu], ?_⟩
  have hpointer' : readyHost.scheme.pointer readyHost.tables vm.paging = .ok pointer := hpointer
  have hnew' : newCpu readyHost.scheme haltCall.host pointer vm.apicAccessHpa (BitVec.ofNat 64 cpus.length)
      haltCall.entryPoint haltCall.stackPointer = .ok cpu := hnew
  rw [Vm.createCpu, hpointer', ok_bind, hnew', ok_bind]
  rfl

/-- Memory that holds `ram` from `start` on. -/
def ramOver (start len : ℕ) (ram rest : Mem) : Mem := fun x =>
  if start ≤ x ∧ x < start + len then ram (x - start) else rest x

/-- The tables are from 1 TiB on. -/
theorem ramOver_backs {k : Flags} {n : Nested} {sp : Space} (h : Represents k directHost n sp) {start len : ℕ}
    (hend : start + len ≤ 2 ^ 40) (ram : Mem) : Backs directHost n (ramOver start len ram (directImage n)) := by
  have htables := directImage_backs h
  obtain ⟨S, hS, -⟩ := h
  intro t p ht hp i hi
  rw [← htables t p ht hp i hi]
  obtain ⟨hlow, hhigh⟩ := directHost_allocated (hS.allocated ht)
  rw [directHost_physical t (by omega), Option.some.injEq] at hp
  rw [← hp]
  apply load64_congr
  intro x hx _
  exact if_neg (by omega)

theorem ramOver_ram {start size : BitVec 64} (hend : start.toNat + size.toNat ≤ 2 ^ 40) (ram rest : Mem) :
    RamBacks directHost start size ram (ramOver start.toNat size.toNat ram rest) := by
  intro off pa hoff hpa
  have hnat : (start + BitVec.ofNat 64 off).toNat = start.toNat + off := by
    rw [BitVec.toNat_add, BitVec.toNat_ofNat]
    omega
  rw [directHost_physical _ (by omega), Option.some.injEq] at hpa
  rw [← hpa, hnat, ramOver, if_pos (by omega), Nat.add_sub_cancel_left]

/-- The second of two vCPUs gets number 1 and reads the second instruction of the kernel. -/
theorem created_cpus_boot_second : ∃ guest cpus cpu phys pa,
    initHypervisor haltKernel readyHost (storedImage "/image/halt") 0x81000#64 = .ok guest ∧
      guest.vm.createCpus readyHost [] [haltCall, haltCall] = .ok cpus ∧ cpus[1]? = some cpu ∧ cpu.regs.rsi = 1#64 ∧
      twoStage .ept phys cpu.pointer cpu.cr3 0x80001#64 = .ok ⟨pa, Perm.all⟩ ∧ phys pa = guest.ram 0x80001 := by
  obtain ⟨guest, hguest⟩ := haltKernel_boots
  obtain ⟨cpus₁, hcpus₁⟩ := haltCall_creates guest.vm []
  obtain ⟨cpus, hcpus⟩ := haltCall_creates guest.vm cpus₁
  have hboth : guest.vm.createCpus readyHost [] [haltCall, haltCall] = .ok cpus := by
    rw [Vm.createCpus, hcpus₁, ok_bind, Vm.createCpus, hcpus, ok_bind, Vm.createCpus]
  obtain ⟨-, -, -, -, -, -, -, -, -, hvm⟩ := initHypervisor_ok hguest
  obtain ⟨hbase, hsize, hbuilt⟩ := vm_new_built readyHost_pages hvm
  have hstart : readyHost.allocate 0x81000#64 = 0x200000#64 := rfl
  have hend : (0x200000#64).toNat + (0x81000#64).toNat ≤ 2 ^ 40 := by decide
  have hphys := ramOver_backs hbuilt.represents hend guest.ram
  have hram := ramOver_ram hend guest.ram (directImage guest.vm.paging)
  rw [← hstart, ← hbase, ← hsize] at hphys hram
  obtain ⟨hlength, hall⟩ := created_cpus_boot haltKernel readyHost readyHost_pages (storedImage "/image/halt")
    0x81000#64 guest hguest [haltCall, haltCall] cpus hboth _ hphys hram
  have hsecond : 1 < cpus.length := by
    rw [hlength]
    decide
  obtain ⟨c, -, hregs, -, -, hfetch⟩ := hall 1 cpus[1] (List.getElem?_eq_getElem hsecond)
  obtain ⟨pa, hpa, hbyte⟩ := hfetch 0x80001#64 (by decide)
  refine ⟨guest, cpus, cpus[1], _, pa, hguest, hboth, List.getElem?_eq_getElem hsecond, ?_, hpa, hbyte⟩
  rw [hregs]
  rfl

end Rhyve.Service
