import Rhyve.Service.Isolation
import Rhyve.Service.Response
import Rhyve.Vcpu.Relocation

/-! # Guests and what the host does for them (`vcpu.rs`)

The loop of a vCPU serves an exit on the host's mapping of the guest's memory, while the guest reaches the same memory
through its nested page tables. All VMs are in one physical memory.

* `hosted`: the VMs of `shared`, with the exits of their vCPUs. `own`: every guest has a memory and a console of its
  own, and its exits are served on that memory.
* `Named`: the guest names nothing but its memory to the host. The code does not check it.
* `guests_served_apart`: no access and no exit tells the two from each other, nor does the output.

An exit is served in one step: a VM has one vCPU, and the others do not reach its memory.
-/

namespace Rhyve.Service
open ByteMem Device Machine Paging
set_option autoImplicit false

/-! ## The host's mapping -/

/-- Memory at the addresses of the host. -/
def hostView (tables : Host) (phys : Mem) : Vcpu.HostMem := fun v =>
  match tables.virtualToPhysical v with
  | some p => phys p.toNat
  | none => 0#8

/-- The host stores what `mem` has at an address. -/
def hostStore (tables : Host) (mem : Vcpu.HostMem) (phys : Mem) (v : BitVec 64) : Mem :=
  match tables.virtualToPhysical v with
  | some p => Function.update phys p.toNat (mem v)
  | none => phys

def hostStores (tables : Host) (mem : Vcpu.HostMem) (phys : Mem) (vs : List (BitVec 64)) : Mem :=
  vs.foldl (hostStore tables mem) phys

section Stores
variable {tables : Host} {mem : Vcpu.HostMem} {phys : Mem} {vs : List (BitVec 64)} {v : BitVec 64} {x : ℕ}

theorem hostStore_miss (h : ∀ p, tables.virtualToPhysical v = some p → p.toNat ≠ x) :
    hostStore tables mem phys v x = phys x := by
  unfold hostStore
  cases hp : tables.virtualToPhysical v with
  | none => rfl
  | some p => exact Function.update_of_ne (h p hp).symm _ _

theorem hostStores_miss (h : ∀ v ∈ vs, ∀ p, tables.virtualToPhysical v = some p → p.toNat ≠ x) :
    hostStores tables mem phys vs x = phys x := by
  induction vs generalizing phys with
  | nil => rfl
  | cons w vs ih =>
    have hrest : hostStores tables mem (hostStore tables mem phys w) vs x = hostStore tables mem phys w x :=
      ih fun v hv => h v (List.mem_cons_of_mem w hv)
    exact hrest.trans (hostStore_miss (h w List.mem_cons_self))

/-- No two of the addresses have the same byte behind them. -/
theorem hostStores_hit {p : BitVec 64} (hp : tables.virtualToPhysical v = some p) (hv : v ∈ vs)
    (hinj : ∀ w ∈ vs, ∀ q, tables.virtualToPhysical w = some q → q.toNat = p.toNat → w = v) :
    hostStores tables mem phys vs p.toNat = mem v := by
  induction vs generalizing phys with
  | nil => cases hv
  | cons w vs ih =>
    have hrest : ∀ u ∈ vs, ∀ q, tables.virtualToPhysical u = some q → q.toNat = p.toNat → u = v :=
      fun u hu => hinj u (List.mem_cons_of_mem w hu)
    show hostStores tables mem (hostStore tables mem phys w) vs p.toNat = mem v
    by_cases hlater : v ∈ vs
    · exact ih hlater hrest
    · -- the head is the last store to this byte
      have hhead : w = v := by
        rcases List.mem_cons.mp hv with rfl | hin
        · rfl
        · exact absurd hin hlater
      have hmiss : ∀ u ∈ vs, ∀ q, tables.virtualToPhysical u = some q → q.toNat ≠ p.toNat := by
        intro u hu q hq heq
        exact hlater (hrest u hu q hq heq ▸ hu)
      rw [hostStores_miss hmiss, hhead]
      unfold hostStore
      rw [hp]
      exact Function.update_self _ _ _

end Stores

/-! ## A guest's own memory -/

/-- The layout of a guest's memory if the host has it at address 0. -/
def atZero (L : Vcpu.VmMemoryLayout) : Vcpu.VmMemoryLayout where
  startAddr := 0#64
  len := L.len
  fits := by
    have halloc := L.alloc
    rw [BitVec.toNat_ofNat]
    omega
  alloc := L.alloc

def ownView (memory : GuestMemory) : Vcpu.HostMem := fun v => (memory (v.setWidth 48)).getD 0#8

/-- The guest's memory after an exit has been served on it. -/
def ownServed (len : ℕ) (memory : GuestMemory) (mem : Vcpu.HostMem) : GuestMemory := fun a =>
  (memory a).map fun v => if a.toNat < len then mem (a.setWidth 64) else v

section Resident
variable {r : Resident} {phys : Mem} {reason : ExitReason} {regs : GuestRegisters} {uart : Uart} {I : Vcpu.Interface}

theorem layout_len : r.vm.layout.len ≤ r.vm.guestSize.toNat := Nat.min_le_left _ _

theorem layout_byte {a : ℕ} (ha : a < r.vm.layout.len) :
    ∃ pa, r.host.tables.virtualToPhysical (r.vm.layout.startAddr + BitVec.ofNat 64 a) = some pa ∧
      byteOf r.space a = some pa.toNat := Resident.ram_byte (Nat.lt_of_lt_of_le ha layout_len)

theorem layout_small {a : ℕ} (ha : a < r.vm.layout.len) : a < 2 ^ 30 := by
  have hlen := layout_len (r := r)
  have hbound := r.built.bound
  omega

theorem layout_toNat {a : ℕ} (ha : a < r.vm.layout.len) : (BitVec.ofNat 48 a).toNat = a := by
  have hsmall := layout_small ha
  rw [BitVec.toNat_ofNat]
  omega

/-- The host and the guest see the same memory. -/
theorem hostView_alike (h : r.Shown phys) :
    Vcpu.Alike r.vm.layout (atZero r.vm.layout) ⟨hostView r.host.tables phys, []⟩ ⟨ownView (r.view phys), []⟩ := by
  refine ⟨?_, rfl⟩
  intro a ha
  obtain ⟨pa, hpa, hbyte⟩ := layout_byte ha
  have hsmall := layout_small ha
  have haddr : ((0#64 + BitVec.ofNat 64 a).setWidth 48).toNat = a := by
    rw [BitVec.zero_add, BitVec.toNat_setWidth, BitVec.toNat_ofNat]
    omega
  show hostView r.host.tables phys _ = ownView (r.view phys) (0#64 + BitVec.ofNat 64 a)
  unfold hostView ownView
  rw [hpa, Resident.view_eq h, haddr, hbyte]
  rfl

/-- Physical memory after the host has written to guest memory. -/
def Resident.served (r : Resident) (phys : Mem) (h : Vcpu.HostState) : Mem :=
  hostStores r.host.tables h.mem phys (Vcpu.written r.vm.layout h.log)

section Served
variable {h : Vcpu.HostState}
  (hin : ∀ v ∈ Vcpu.written r.vm.layout h.log, ∃ a, a < r.vm.layout.len ∧
    v = r.vm.layout.startAddr + BitVec.ofNat 64 a)
include hin

/-- The host writes only to what the guest reaches in its memory. -/
theorem served_miss {x : ℕ} (hx : ∀ a, a < r.vm.layout.len → byteOf r.space a ≠ some x) :
    r.served phys h x = phys x := by
  apply hostStores_miss
  intro v hv p hp heq
  obtain ⟨a, ha, rfl⟩ := hin v hv
  obtain ⟨pa, hpa, hbyte⟩ := layout_byte ha
  obtain rfl := Option.some.inj (hp.symm.trans hpa)
  exact hx a ha (heq ▸ hbyte)

/-- Behind an address of guest memory is what the loop has left there. -/
theorem served_at (hsep : r.Separate) (hlog : Vcpu.Logged r.vm.layout (hostView r.host.tables phys) h) {a : ℕ}
    (ha : a < r.vm.layout.len) {pa : BitVec 64}
    (hpa : r.host.tables.virtualToPhysical (r.vm.layout.startAddr + BitVec.ofNat 64 a) = some pa) :
    r.served phys h pa.toNat = h.mem (r.vm.layout.startAddr + BitVec.ofNat 64 a) := by
  have hinj : ∀ w ∈ Vcpu.written r.vm.layout h.log, ∀ q, r.host.tables.virtualToPhysical w = some q →
      q.toNat = pa.toNat → w = r.vm.layout.startAddr + BitVec.ofNat 64 a := by
    intro w hw q hq heq
    obtain ⟨b, hb, rfl⟩ := hin w hw
    obtain ⟨pa', hpa', hbyte⟩ := layout_byte ha
    obtain ⟨q', hq', hbyte'⟩ := layout_byte hb
    obtain rfl := Option.some.inj (hpa.symm.trans hpa')
    obtain rfl := Option.some.inj (hq.symm.trans hq')
    have hsame := hsep.injective (BitVec.ofNat 48 b) (BitVec.ofNat 48 a) pa.toNat
      (by rw [layout_toNat hb, hbyte', heq]) (by rw [layout_toNat ha, hbyte])
    have hab : b = a := by rw [← layout_toNat hb, hsame, layout_toNat ha]
    rw [hab]
  by_cases hwritten : r.vm.layout.startAddr + BitVec.ofNat 64 a ∈ Vcpu.written r.vm.layout h.log
  · exact hostStores_hit hpa hwritten hinj
  · have hmiss : ∀ w ∈ Vcpu.written r.vm.layout h.log, ∀ q, r.host.tables.virtualToPhysical w = some q →
        q.toNat ≠ pa.toNat := by
      intro w hw q hq heq
      exact hwritten (hinj w hw q hq heq ▸ hw)
    unfold Resident.served
    rw [hostStores_miss hmiss, hlog _ hwritten]
    unfold hostView
    rw [hpa]

theorem view_served (hsep : r.Separate) (hlog : Vcpu.Logged r.vm.layout (hostView r.host.tables phys) h)
    (hshown : r.Shown phys) (hshown' : r.Shown (r.served phys h)) {own : Vcpu.HostState}
    (halike : Vcpu.Alike r.vm.layout (atZero r.vm.layout) h own) :
    r.view (r.served phys h) = ownServed r.vm.layout.len (r.view phys) own.mem := by
  funext a
  unfold ownServed
  rw [Resident.view_eq hshown', Resident.view_eq hshown, Option.map_map]
  by_cases ha : a.toNat < r.vm.layout.len
  · obtain ⟨pa, hpa, hbyte⟩ := layout_byte ha
    have hown : (0#64 + BitVec.ofNat 64 a.toNat : BitVec 64) = a.setWidth 64 := by
      rw [BitVec.zero_add]
      exact BitVec.ofNat_toNat 64 a
    have hram := halike.ram a.toNat ha
    rw [show (atZero r.vm.layout).startAddr = 0#64 from rfl, hown] at hram
    rw [hbyte, Option.map_some, Option.map_some, Function.comp_apply, if_pos ha, served_at hin hsep hlog ha hpa, hram]
  · cases hbyte : byteOf r.space a.toNat with
    | none => rfl
    | some x =>
      have hmiss : ∀ b, b < r.vm.layout.len → byteOf r.space b ≠ some x := by
        intro b hb hbx
        have hsame := hsep.injective (BitVec.ofNat 48 b) a x (by rw [layout_toNat hb, hbx]) hbyte
        rw [← hsame, layout_toNat hb] at ha
        exact ha hb
      rw [Option.map_some, Option.map_some, Function.comp_apply, if_neg ha, served_miss hin hmiss]

end Served

end Resident

/-- One VM's exit has been served: its guest finds what it would find in a memory of its own, and the other VMs see
nothing of it. -/
theorem Follows.served {residents : ℕ → Option Resident} {phys : Mem} {m : ℕ → Option GuestMemory}
    (h : Follows residents phys m) {id : ℕ} {r : Resident} (hr : residents id = some r) {host own : Vcpu.HostState}
    (hin : ∀ v ∈ Vcpu.written r.vm.layout host.log, ∃ a, a < r.vm.layout.len ∧
      v = r.vm.layout.startAddr + BitVec.ofNat 64 a)
    (hlog : Vcpu.Logged r.vm.layout (hostView r.host.tables phys) host)
    (halike : Vcpu.Alike r.vm.layout (atZero r.vm.layout) host own) :
    Follows residents (r.served phys host)
      (Function.update m id (some (ownServed r.vm.layout.len (r.view phys) own.mem))) := by
  have hfollows : Follows residents (r.served phys host)
      (Function.update m id (some (r.view (r.served phys host)))) := by
    apply h.rewrite hr
    intro x hx
    apply served_miss hin
    intro a ha hbyte
    exact hx ⟨BitVec.ofNat 48 a, by rw [layout_toNat ha, hbyte]⟩
  rw [view_served hin (h.separate hr) hlog (h.shown hr) (hfollows.shown hr) halike] at hfollows
  exact hfollows

/-! ## The machines -/

/-- What happens to the VMs of a host, with the exits of their vCPUs. -/
inductive HostedEvent where
  | memory (e : MemoryEvent)
  /-- The backend of a vCPU has returned. -/
  | exit (id : ℕ) (reason : ExitReason) (regs : GuestRegisters)

/-- What can be seen of it. -/
inductive HostedOutput where
  | access (answer : Answer)
  /-- How the loop goes on and with which registers, and the console with all it has sent. -/
  | served (id : ℕ) (flow : Vcpu.Flow) (regs : GuestRegisters) (uart : Uart)

/-- The shared memory, and the console of every VM. -/
structure Hosted where
  memory : SharedMemory
  uart : ℕ → Uart

/-- A VM starts with a console of its own. -/
def consoles (uart : ℕ → Uart) : MemoryEvent → ℕ → Uart
  | .boot id _ _ => Function.update uart id Uart.new.setSink
  | _ => uart

/-- Exits are served by `Cpu::run` on host memory, which is also what the tables resolve to. -/
def hosted (I : Vcpu.Interface) (s : Hosted) : HostedEvent → Option Hosted × List HostedOutput
  | .memory e =>
    ((shared s.memory e).1.map fun memory => ⟨memory, consoles s.uart e⟩, (shared s.memory e).2.map .access)
  | .exit id reason regs =>
    match s.memory.residents id with
    | none => (some s, [])
    | some r =>
      let out := Vcpu.serve I r.vm.layout reason ⟨s.uart id, regs, ⟨hostView r.host.tables s.memory.phys, []⟩⟩
      (some ⟨{ s.memory with phys := r.served s.memory.phys out.2.host }, Function.update s.uart id out.2.uart⟩,
        [.served id out.1 out.2.regs out.2.uart])

/-- A machine of its own for every guest. -/
structure Own where
  memory : ℕ → Option GuestMemory
  layout : ℕ → Vcpu.VmMemoryLayout
  uart : ℕ → Uart

/-- A new VM has its layout; its memory starts at zero here. -/
def layouts (layout : ℕ → Vcpu.VmMemoryLayout) : MemoryEvent → ℕ → Vcpu.VmMemoryLayout
  | .boot id r _ => Function.update layout id (atZero r.vm.layout)
  | _ => layout

/-- The same events. An exit is served on the memory of that guest alone. -/
def own (I : Vcpu.Interface) (s : Own) : HostedEvent → Option Own × List HostedOutput
  | .memory e =>
    ((apart s.memory e).1.map fun memory => ⟨memory, layouts s.layout e, consoles s.uart e⟩,
      (apart s.memory e).2.map .access)
  | .exit id reason regs =>
    match s.memory id with
    | none => (some s, [])
    | some memory =>
      let out := Vcpu.serve I (s.layout id) reason ⟨s.uart id, regs, ⟨ownView memory, []⟩⟩
      (some ⟨Function.update s.memory id (some (ownServed (s.layout id).len memory out.2.host.mem)), s.layout,
        Function.update s.uart id out.2.uart⟩, [.served id out.1 out.2.regs out.2.uart])

/-- Memory events are sound, and the memory that an exit names to the host is the guest's. -/
def Named (I : Vcpu.Interface) (s : Hosted) : HostedEvent → Prop
  | .memory e => Sound s.memory e
  | .exit id reason regs => ∀ r, s.memory.residents id = some r →
    ∀ x ∈ Vcpu.namedAt I r.vm.layout reason regs (hostView r.host.tables s.memory.phys), x.Inside r.vm.layout

/-! ## One step -/

/-- The two machines agree. -/
structure Serves (s : Hosted) (t : Own) : Prop where
  follows : Follows s.memory.residents s.memory.phys t.memory
  uart : s.uart = t.uart
  layout : ∀ id r, s.memory.residents id = some r → t.layout id = atZero r.vm.layout

section Step
variable {I : Vcpu.Interface} {s : Hosted} {t : Own}

theorem shared_layout (h : ∀ id r, s.memory.residents id = some r → t.layout id = atZero r.vm.layout) {e : MemoryEvent}
    {memory : SharedMemory} (hs : (shared s.memory e).1 = some memory) {id : ℕ} {r : Resident}
    (hr : memory.residents id = some r) : layouts t.layout e id = atZero r.vm.layout := by
  cases e with
  | boot k r' image =>
    obtain rfl := Option.some.inj hs
    show Function.update t.layout k (atZero r'.vm.layout) id = _
    dsimp only at hr
    by_cases hid : id = k
    · rw [hid, Function.update_self] at hr ⊢
      rw [Option.some.inj hr]
    · rw [Function.update_of_ne hid] at hr ⊢
      exact h id r hr
  | drop k =>
    obtain rfl := Option.some.inj hs
    dsimp only at hr
    by_cases hid : id = k
    · rw [hid, Function.update_self] at hr
      cases hr
    · rw [Function.update_of_ne hid] at hr
      exact h id r hr
  | host phys | read k a =>
    obtain rfl := Option.some.inj hs
    exact h id r hr
  | serve k a v | write k a v =>
    unfold shared at hs
    dsimp only at hs
    split at hs
    · obtain rfl := Option.some.inj hs
      exact h id r hr
    · obtain rfl := Option.some.inj hs
      exact h id r hr

theorem Serves.memory (h : Serves s t) {e : MemoryEvent} (hsound : Sound s.memory e) :
    (hosted I s (.memory e)).2 = (own I t (.memory e)).2 ∧
      Option.Rel Serves (hosted I s (.memory e)).1 (own I t (.memory e)).1 := by
  obtain ⟨hout, hrel⟩ := shared_step h.follows e hsound
  unfold hosted own
  dsimp only
  refine ⟨by rw [hout], ?_⟩
  cases hs : (shared s.memory e).1 with
  | none =>
    rw [hs] at hrel
    cases ht : (apart t.memory e).1 with
    | none => exact .none
    | some m =>
      rw [ht] at hrel
      cases hrel
  | some memory =>
    rw [hs] at hrel
    cases ht : (apart t.memory e).1 with
    | none =>
      rw [ht] at hrel
      cases hrel
    | some m =>
      rw [ht] at hrel
      cases hrel with
      | some hfollows =>
        refine .some ⟨hfollows, ?_, fun id r hr => shared_layout h.layout hs hr⟩
        show consoles s.uart e = consoles t.uart e
        rw [h.uart]

theorem Serves.exit (h : Serves s t) {id : ℕ} {reason : ExitReason} {regs : GuestRegisters}
    (hnamed : Named I s (.exit id reason regs)) :
    (hosted I s (.exit id reason regs)).2 = (own I t (.exit id reason regs)).2 ∧
      Option.Rel Serves (hosted I s (.exit id reason regs)).1 (own I t (.exit id reason regs)).1 := by
  have hview := h.follows.views id
  unfold hosted own
  dsimp only
  cases hr : s.memory.residents id with
  | none =>
    rw [hr, Option.map_none] at hview
    rw [hview]
    exact ⟨rfl, .some h⟩
  | some r =>
    rw [hr, Option.map_some] at hview
    rw [hview, h.layout id r hr, h.uart]
    have hin := hnamed r hr
    have hshown := h.follows.shown hr
    obtain ⟨hflow, huart, hregs, halike⟩ := Vcpu.serve_alike (t.uart id) (hostView_alike hshown) hin
    have hstart : Vcpu.Logged r.vm.layout (hostView r.host.tables s.memory.phys)
        ⟨hostView r.host.tables s.memory.phys, []⟩ := fun _ _ => rfl
    have hfollows := h.follows.served hr (fun _ => Vcpu.serve_written hin) (Vcpu.serve_logged hstart reason regs) halike
    dsimp only
    refine ⟨by rw [hflow, huart, hregs], .some ⟨hfollows, ?_, h.layout⟩⟩
    show Function.update t.uart id _ = Function.update t.uart id _
    rw [huart]

end Step

/-! ## Runs -/

def noMemory : Vcpu.VmMemoryLayout := ⟨0#64, 0, by decide, by decide⟩

/-- From a host without VMs on, every guest has its accesses answered and its exits served, and sends what it sends, as
if it had a memory and a console of its own. -/
theorem guests_served_apart (I : Vcpu.Interface) (phys : Mem) (events : List HostedEvent)
    (h : Along (hosted I) (Named I) ⟨⟨fun _ => none, phys⟩, fun _ => Uart.new⟩ events) :
    (run (hosted I) ⟨⟨fun _ => none, phys⟩, fun _ => Uart.new⟩ events).2 =
      (run (own I) ⟨fun _ => none, fun _ => noMemory, fun _ => Uart.new⟩ events).2 := by
  have hstart : Serves ⟨⟨fun _ => none, phys⟩, fun _ => Uart.new⟩
      ⟨fun _ => none, fun _ => noMemory, fun _ => Uart.new⟩ :=
    ⟨⟨nofun, nofun, fun _ => nofun, fun _ => rfl⟩, rfl, nofun⟩
  refine (run_simulates Serves ?_ hstart h).1
  intro s t e hserves hnamed
  cases e with
  | memory e => exact hserves.memory hnamed
  | exit id reason regs => exact hserves.exit hnamed

/-- The registers of a guest that calls `FileClose`, with its parameters at 0x1000. -/
def closeRegs : GuestRegisters := { GuestRegisters.zero with rdi := 0x1000#64 }

/-- One guest writes to the address where the other one has the result of its call; then both read it. -/
def closeEvents (a b : Resident) (phys : Mem) : List HostedEvent :=
  [.memory (.boot 0 a (a.view phys)), .memory (.boot 1 b (b.view phys)), .memory (.write 1 0x1004#48 7#8),
    .exit 0 (.ioInstruction 0x11200000#64) closeRegs, .memory (.read 0 0x1004#48), .memory (.read 1 0x1004#48)]

theorem Pair.layout_len {a b : Resident} (h : Pair .ept a b) : a.vm.layout.len = 0x13000 := by
  show min a.vm.guestSize.toNat (min (2 ^ 64 - a.vm.guestBase.toNat) (2 ^ 63 - 1)) = 0x13000
  rw [h.first.guestBase, h.first.guestSize]
  decide

/-- The call names the eight bytes of `CloseParams`, which are guest memory. -/
theorem Pair.closeEvents_named {a b : Resident} (h : Pair .ept a b) :
    Along (hosted Vcpu.uhyveInterface) (Named Vcpu.uhyveInterface)
      ⟨⟨fun _ => none, pairImage a b⟩, fun _ => Uart.new⟩ (closeEvents a b (pairImage a b)) := by
  refine ⟨h.bootFirst, ?_⟩
  rintro s ⟨⟩
  refine ⟨h.bootSecond, ?_⟩
  rintro s ⟨⟩
  refine ⟨trivial, ?_⟩
  intro s hs
  have hres : s.memory.residents 0 = some a := by
    obtain ⟨memory, hmemory, rfl⟩ := Option.map_eq_some_iff.mp hs
    exact congrFun (shared_write_residents hmemory) 0
  refine ⟨?_, fun _ _ => ⟨trivial, fun _ _ => ⟨trivial, fun _ _ => trivial⟩⟩⟩
  intro r hr x hx
  obtain rfl := Option.some.inj (hres.symm.trans hr)
  obtain rfl : x = ⟨0x1000#64, 8⟩ := List.mem_singleton.mp hx
  refine .inr ?_
  rw [h.layout_len]
  decide

/-- The result of the call, as the guest reads it. -/
theorem close_result {L : Vcpu.VmMemoryLayout} (hin : 0x1004 < L.len) {f : GuestMemory} {v : BitVec 8}
    (hv : f 0x1004#48 = some v) :
    ownServed (atZero L).len f (Vcpu.HostState.writeField ⟨ownView f, []⟩ (atZero L) 0x1000#64
      Vcpu.uhyveInterface.close.result Vcpu.minusOne).mem 0x1004#48 = some 0xff#8 := by
  have hoffset : ((0x1004#48).setWidth 64 - Vcpu.guestPtr (atZero L) 0x1000#64).toNat = 4 := by
    show ((0x1004#48).setWidth 64 - (0#64 + 0x1000#64)).toNat = 4
    decide
  unfold ownServed
  rw [hv, Option.map_some, if_pos (show (0x1004#48).toNat < (atZero L).len from hin)]
  unfold Vcpu.HostState.writeField
  dsimp only
  rw [hoffset, storeLE_inside _ _ _ _ _ (by decide)]
  decide

/-- The caller reads the result, and the other guest what it wrote. -/
theorem guests_served_apart_close : ∃ (a b : Resident) (phys : Mem),
    Along (hosted Vcpu.uhyveInterface) (Named Vcpu.uhyveInterface) ⟨⟨fun _ => none, phys⟩, fun _ => Uart.new⟩
      (closeEvents a b phys) ∧
    (run (hosted Vcpu.uhyveInterface) ⟨⟨fun _ => none, phys⟩, fun _ => Uart.new⟩ (closeEvents a b phys)).2 =
      [.access (some 7#8), .served 0 .next closeRegs Uart.new.setSink, .access (some 0xff#8), .access (some 7#8)] := by
  obtain ⟨a, b, hpair⟩ := pair_exists .ept
  have hnamed := hpair.closeEvents_named
  refine ⟨a, b, pairImage a b, hnamed, ?_⟩
  obtain ⟨⟨v, hv⟩, w, hw⟩ := hpair.mapped (by decide : (0x1004#48).toNat / 4096 < 0x13)
  have hresult := close_result (L := a.vm.layout) (by rw [hpair.layout_len]; decide) hv
  rw [guests_served_apart Vcpu.uhyveInterface (pairImage a b) _ hnamed]
  unfold closeEvents
  generalize a.view (pairImage a b) = f at hresult ⊢
  generalize b.view (pairImage a b) = g at hw ⊢
  have hserve : ∀ uart mem, Vcpu.serve Vcpu.uhyveInterface (atZero a.vm.layout) (.ioInstruction 0x11200000#64)
      ⟨uart, closeRegs, ⟨mem, []⟩⟩ = (.next, ⟨uart, closeRegs, Vcpu.HostState.writeField ⟨mem, []⟩ (atZero a.vm.layout)
        0x1000#64 Vcpu.uhyveInterface.close.result Vcpu.minusOne⟩) := fun _ _ => rfl
  simp [run, own, apart, storeApart, layouts, consoles, Function.update, hserve, hresult, hw]

end Rhyve.Service
