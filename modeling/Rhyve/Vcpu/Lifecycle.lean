import Mathlib.Data.List.Nodup
import Rhyve.Lib.Machine

/-! # What the core references across VM lifetimes

Creating a vCPU hands regions of host memory to the core: on VT-x the VMXON region and the VMCS, on AMD-V the
host-save area. They are owned by the vCPU and freed with it, and nothing is executed at that time: the
backends implement no `Drop`.

* `VmxCore`: the instructions of `setup_vmxon`, `setup_vmcs` and `activate`.
* `VmxHost.live`, `SvmHost.live`: a core, the vCPUs that have not been dropped, and one operation on them.
  A vCPU that cannot be created ends the process (`expect` in `Cpu::new`).
* `core_references_owned_iff`: which sequences of operations leave nothing dangling.
* `dropped_regions_referenced`: one VM on either core.
-/

namespace Rhyve.Vcpu
open Machine
set_option autoImplicit false

abbrev Hpa := BitVec 64

/-! ## VT-x -/

/-- How a VMX instruction ends. -/
inductive VmxStatus where
  | succeed
  | failInvalid
  | failValid (error : ℕ)
  deriving DecidableEq, Repr

/-- The VMX state of a core. -/
structure VmxCore where
  /-- The region that VMX operation was entered with. -/
  vmxon : Option Hpa
  current : Option Hpa
  active : List Hpa
  deriving DecidableEq, Repr

namespace VmxCore

/-- VM-instruction error 15 needs a current VMCS to be reported in. -/
def vmxonInstruction (core : VmxCore) (region : Hpa) : VmxCore × VmxStatus :=
  match core.vmxon with
  | none => ({ core with vmxon := some region, current := none }, .succeed)
  | some _ => (core, if core.current.isSome then .failValid 15 else .failInvalid)

/-- VMCLEAR. A VMCS that was current is not any more. -/
def vmclear (core : VmxCore) (vmcs : Hpa) : VmxCore :=
  { core with
    active := core.active.filter (· ≠ vmcs)
    current := if core.current = some vmcs then none else core.current }

def vmptrld (core : VmxCore) (vmcs : Hpa) : VmxCore :=
  { core with current := some vmcs, active := vmcs :: core.active.filter (· ≠ vmcs) }

/-- `setup_vmxon`: error 15, VMXON in VMX operation, is taken for success. -/
def setupVmxon (core : VmxCore) (region : Hpa) : Option VmxCore :=
  match core.vmxonInstruction region with
  | (core, .succeed) => some core
  | (core, .failValid 15) => some core
  | _ => none

def setupVmcs (core : VmxCore) (vmcs : Hpa) : VmxCore := (core.vmclear vmcs).vmptrld vmcs

def activate (core : VmxCore) (vmcs : Hpa) : VmxCore := core.vmptrld vmcs

end VmxCore

/-- A vCPU, its VM and the regions it owns. -/
structure VmxOwner where
  vm : ℕ
  vmxonRegion : Hpa
  vmcsRegion : Hpa
  deriving DecidableEq, Repr

/-- The operations on one core; `κ` is what a vCPU owns. `Vm::new` touches no core. -/
inductive Operation (κ : Type) where
  /-- `create_cpu`; the flag says whether everything else in it succeeds. -/
  | createCpu (v : κ) (ok : Bool)
  /-- A run of the `k`-th vCPU that is alive. -/
  | run (k : ℕ)
  /-- The VM and its vCPUs. -/
  | drop (vm : ℕ)

/-- The core, and the vCPUs that are alive. -/
structure VmxHost where
  core : VmxCore
  alive : List VmxOwner

namespace VmxHost

def new : VmxHost := ⟨⟨none, none, []⟩, []⟩

/-- `Cpu::new`. It unwraps, so that a failure is the end; `ok` is the rest of the construction. -/
def createCpu (h : VmxHost) (v : VmxOwner) (ok : Bool) : Option VmxHost :=
  match h.core.setupVmxon v.vmxonRegion with
  | some core => if ok then some ⟨core.setupVmcs v.vmcsRegion, v :: h.alive⟩ else none
  | none => none

/-- `run` of the `k`-th vCPU, as far as the core keeps something of it. -/
def run (h : VmxHost) (k : ℕ) : VmxHost :=
  match h.alive[k]? with
  | some v => { h with core := h.core.activate v.vmcsRegion }
  | none => h

def drop (h : VmxHost) (vm : ℕ) : VmxHost := { h with alive := h.alive.filter (·.vm ≠ vm) }

def live (h : VmxHost) : Operation VmxOwner → Option VmxHost
  | .createCpu v ok => h.createCpu v ok
  | .run k => some (h.run k)
  | .drop vm => some (h.drop vm)

/-- Every region that the core references is owned by a vCPU that has not been dropped. -/
structure Owned (h : VmxHost) : Prop where
  vmxon : ∀ a, h.core.vmxon = some a → ∃ v ∈ h.alive, v.vmxonRegion = a
  current : ∀ a, h.core.current = some a → ∃ v ∈ h.alive, v.vmcsRegion = a
  active : ∀ a ∈ h.core.active, ∃ v ∈ h.alive, v.vmcsRegion = a

/-- A new region is none that is owned. -/
def Fresh (h : VmxHost) : Operation VmxOwner → Prop
  | .createCpu v _ => ∀ w ∈ h.alive, w.vmcsRegion ≠ v.vmcsRegion
  | _ => True

/-- A VM is dropped only if it has no vCPU. -/
def KeepsVcpus (h : VmxHost) : Operation VmxOwner → Prop
  | .drop vm => ∀ v ∈ h.alive, v.vm ≠ vm
  | _ => True

end VmxHost

/-! ## AMD-V -/

/-- The vCPU that owns a host-save area. -/
structure SvmOwner where
  vm : ℕ
  hostSaveArea : Hpa
  deriving DecidableEq, Repr

/-- The register VM_HSAVE_PA, and the vCPUs that are alive. -/
structure SvmHost where
  /-- VM_HSAVE_PA. -/
  hsave : Option Hpa
  alive : List SvmOwner
  /-- The VM of the vCPU that called `setup_svm` last. -/
  lastVm : Option ℕ

namespace SvmHost

def new : SvmHost := ⟨none, [], none⟩

def setupSvm (h : SvmHost) (v : SvmOwner) : SvmHost :=
  { h with hsave := some v.hostSaveArea, lastVm := some v.vm }

def createCpu (h : SvmHost) (v : SvmOwner) (ok : Bool) : Option SvmHost :=
  if ok then some { h.setupSvm v with alive := v :: h.alive } else none

/-- `run` of the `k`-th vCPU, which sets VM_HSAVE_PA first. -/
def run (h : SvmHost) (k : ℕ) : SvmHost :=
  match h.alive[k]? with
  | some v => h.setupSvm v
  | none => h

def drop (h : SvmHost) (vm : ℕ) : SvmHost := { h with alive := h.alive.filter (·.vm ≠ vm) }

def live (h : SvmHost) : Operation SvmOwner → Option SvmHost
  | .createCpu v ok => h.createCpu v ok
  | .run k => some (h.run k)
  | .drop vm => some (h.drop vm)

def Owned (h : SvmHost) : Prop := ∀ a, h.hsave = some a → ∃ v ∈ h.alive, v.hostSaveArea = a

/-- The allocator gives out no area that is in use. -/
def Fresh (h : SvmHost) : Operation SvmOwner → Prop
  | .createCpu v _ => ∀ w ∈ h.alive, w.hostSaveArea ≠ v.hostSaveArea
  | _ => True

/-- A VM is dropped only if a vCPU of another one has been created or run since. -/
def HandsOver (h : SvmHost) : Operation SvmOwner → Prop
  | .drop vm => h.lastVm ≠ some vm
  | _ => True

end SvmHost

/-- A machine that reports every state it reaches. -/
def reporting {σ ι : Type} (next : σ → ι → Option σ) (s : σ) (i : ι) : Option σ × List σ :=
  (next s i, (next s i).toList)

theorem reporting_good {σ ι : Type} {next : σ → ι → Option σ} {s : σ} {i : ι} {Good : σ → Prop} :
    (∀ o ∈ (reporting next s i).2, Good o) ↔ ∀ s', next s i = some s' → Good s' := by
  show (∀ o ∈ (next s i).toList, Good o) ↔ _
  simp only [Option.mem_toList]

theorem mem_drop {κ : Type} {vmOf : κ → ℕ} {vs : List κ} {vm : ℕ} {v : κ} :
    v ∈ vs.filter (fun v => vmOf v ≠ vm) ↔ v ∈ vs ∧ vmOf v ≠ vm := by
  rw [List.mem_filter, decide_eq_true_iff]

/-! ## VT-x: nothing is ever released -/

namespace VmxHost

/-- The VMCS of every vCPU is active, and no two vCPUs share one. -/
structure Inv (h : VmxHost) : Prop where
  owned : h.Owned
  loaded : ∀ v ∈ h.alive, v.vmcsRegion ∈ h.core.active
  distinct : (h.alive.map VmxOwner.vmcsRegion).Nodup

theorem inv_new : Inv new := by
  refine ⟨⟨nofun, nofun, nofun⟩, nofun, List.nodup_nil⟩

theorem eq_or_mem_filter {vmcs a : Hpa} {active : List Hpa} :
    a = vmcs ∨ a ∈ active.filter (· ≠ vmcs) ↔ a = vmcs ∨ a ∈ active := by
  rw [List.mem_filter, decide_eq_true_iff]
  by_cases h : a = vmcs
  · simp only [h, true_or]
  · simp only [h, false_or, not_false_eq_true, and_true, ne_eq]

theorem mem_vmptrld {core : VmxCore} {vmcs a : Hpa} :
    a ∈ (core.vmptrld vmcs).active ↔ a = vmcs ∨ a ∈ core.active := by
  show a ∈ vmcs :: core.active.filter (· ≠ vmcs) ↔ _
  rw [List.mem_cons, eq_or_mem_filter]

/-- VMCLEAR removes at most the region itself, and VMPTRLD adds it. -/
theorem mem_setupVmcs {core : VmxCore} {vmcs a : Hpa} :
    a ∈ (core.setupVmcs vmcs).active ↔ a = vmcs ∨ a ∈ core.active := by
  show a ∈ ((core.vmclear vmcs).vmptrld vmcs).active ↔ _
  rw [mem_vmptrld]
  exact eq_or_mem_filter

/-- Entering VMX operation: with this region, or it was entered before. -/
theorem setupVmxon_ok {core core' : VmxCore} {region : Hpa} (h : core.setupVmxon region = some core') :
    core'.active = core.active ∧ (core'.vmxon = some region ∨ core'.vmxon = core.vmxon) := by
  unfold VmxCore.setupVmxon VmxCore.vmxonInstruction at h
  cases hon : core.vmxon with
  | none =>
    rw [hon] at h
    injection h with h
    rw [← h]
    exact ⟨rfl, .inl rfl⟩
  | some r =>
    rw [hon] at h
    cases hcur : core.current.isSome with
    | false =>
      rw [hcur] at h
      cases h
    | true =>
      rw [hcur] at h
      injection h with h
      rw [← h]
      exact ⟨rfl, .inr hon⟩

theorem Inv.activate {h : VmxHost} (hi : Inv h) {v : VmxOwner} (hv : v ∈ h.alive) :
    Inv { h with core := h.core.activate v.vmcsRegion } := by
  refine ⟨⟨hi.owned.vmxon, ?_, ?_⟩, ?_, hi.distinct⟩
  · intro a ha
    exact ⟨v, hv, Option.some.inj ha⟩
  · intro a ha
    rcases mem_vmptrld.mp ha with rfl | ha
    · exact ⟨v, hv, rfl⟩
    · exact hi.owned.active a ha
  · intro w hw
    exact mem_vmptrld.mpr (.inr (hi.loaded w hw))

theorem Inv.create {h h' : VmxHost} (hi : Inv h) {v : VmxOwner} {ok : Bool} (hc : h.createCpu v ok = some h')
    (hfresh : ∀ w ∈ h.alive, w.vmcsRegion ≠ v.vmcsRegion) : Inv h' := by
  unfold createCpu at hc
  split at hc
  · rename_i core hon
    cases ok with
    | false => cases hc
    | true =>
      obtain ⟨hactive, hvmxon⟩ := setupVmxon_ok hon
      obtain rfl := Option.some.inj hc
      have hmem : ∀ a, a ∈ (core.setupVmcs v.vmcsRegion).active ↔ a = v.vmcsRegion ∨ a ∈ h.core.active := by
        intro a
        rw [← hactive]
        exact mem_setupVmcs
      refine ⟨⟨?_, ?_, ?_⟩, ?_, ?_⟩
      · intro a ha
        rcases hvmxon with hnew | hold
        · exact ⟨v, List.mem_cons_self, Option.some.inj (hnew.symm.trans ha)⟩
        · obtain ⟨w, hw, hwa⟩ := hi.owned.vmxon a (hold.symm.trans ha)
          exact ⟨w, List.mem_cons_of_mem v hw, hwa⟩
      · intro a ha
        exact ⟨v, List.mem_cons_self, Option.some.inj ha⟩
      · intro a ha
        rcases (hmem a).mp ha with rfl | ha
        · exact ⟨v, List.mem_cons_self, rfl⟩
        · obtain ⟨w, hw, hwa⟩ := hi.owned.active a ha
          exact ⟨w, List.mem_cons_of_mem v hw, hwa⟩
      · intro w hw
        rcases List.mem_cons.mp hw with rfl | hw
        · exact (hmem _).mpr (.inl rfl)
        · exact (hmem _).mpr (.inr (hi.loaded w hw))
      · rw [List.map_cons, List.nodup_cons]
        refine ⟨?_, hi.distinct⟩
        rw [List.mem_map]
        rintro ⟨w, hw, hsame⟩
        exact hfresh w hw hsame
  · cases hc

theorem drop_none {h : VmxHost} {vm : ℕ} (hkeep : ∀ v ∈ h.alive, v.vm ≠ vm) : h.drop vm = h := by
  have hall : h.alive.filter (fun v => v.vm ≠ vm) = h.alive := by
    rw [List.filter_eq_self]
    intro v hv
    exact decide_eq_true (hkeep v hv)
  unfold drop
  rw [hall]

/-- The VMCS of a dropped vCPU stays active. -/
theorem Inv.drop_owned {h : VmxHost} (hi : Inv h) (vm : ℕ) :
    (h.drop vm).Owned ↔ ∀ v ∈ h.alive, v.vm ≠ vm := by
  refine ⟨?_, ?_⟩
  · intro ho v hv hvm
    obtain ⟨w, hw, hsame⟩ := ho.active v.vmcsRegion (hi.loaded v hv)
    obtain ⟨hwa, hwvm⟩ := mem_drop.mp hw
    have hwv : w = v := List.inj_on_of_nodup_map hi.distinct hwa hv hsame
    rw [hwv] at hwvm
    exact hwvm hvm
  · intro hkeep
    rw [drop_none hkeep]
    exact hi.owned

/-- One operation: it leaves nothing dangling exactly if it is not the drop of a VM with a vCPU. -/
theorem live_step {h : VmxHost} (hi : Inv h) (op : Operation VmxOwner) (hfresh : h.Fresh op) :
    ((∀ o ∈ (reporting live h op).2, Owned o) ↔ h.KeepsVcpus op) ∧
      (h.KeepsVcpus op → ∀ h', (reporting live h op).1 = some h' → Inv h') := by
  rw [reporting_good]
  -- Creating and running keep the invariant.
  have hkeep : h.KeepsVcpus op → ∀ h', live h op = some h' → Inv h' := by
    intro hop h' hlive
    cases op with
    | createCpu v ok => exact hi.create hlive hfresh
    | run k =>
      obtain rfl := Option.some.inj hlive
      unfold run
      split
      · rename_i v hv
        exact hi.activate (List.mem_of_getElem? hv)
      · exact hi
    | drop vm =>
      obtain rfl := Option.some.inj hlive
      rw [drop_none hop]
      exact hi
  refine ⟨⟨?_, fun hop h' hlive => (hkeep hop h' hlive).owned⟩, hkeep⟩
  intro howned
  cases op with
  | createCpu v ok => trivial
  | run k => trivial
  | drop vm => exact (hi.drop_owned vm).mp (howned _ rfl)

end VmxHost

/-! ## AMD-V: the area changes hands -/

namespace SvmHost

/-- The area belongs to a vCPU of the VM that set it last. -/
structure Inv (h : SvmHost) : Prop where
  owner : ∀ a, h.hsave = some a → ∃ v ∈ h.alive, v.hostSaveArea = a ∧ h.lastVm = some v.vm
  set : ∀ vm, h.lastVm = some vm → ∃ a, h.hsave = some a
  distinct : (h.alive.map SvmOwner.hostSaveArea).Nodup

theorem inv_new : Inv new := ⟨nofun, nofun, List.nodup_nil⟩

theorem Inv.owned {h : SvmHost} (hi : Inv h) : h.Owned := by
  intro a ha
  obtain ⟨v, hv, hva, -⟩ := hi.owner a ha
  exact ⟨v, hv, hva⟩

theorem Inv.setup {h : SvmHost} (hi : Inv h) {v : SvmOwner} (hv : v ∈ h.alive) : Inv (h.setupSvm v) := by
  refine ⟨?_, fun _ _ => ⟨_, rfl⟩, hi.distinct⟩
  intro a ha
  exact ⟨v, hv, Option.some.inj ha, rfl⟩

theorem Inv.create {h h' : SvmHost} (hi : Inv h) {v : SvmOwner} {ok : Bool} (hc : h.createCpu v ok = some h')
    (hfresh : ∀ w ∈ h.alive, w.hostSaveArea ≠ v.hostSaveArea) : Inv h' := by
  cases ok with
  | false => cases hc
  | true =>
    obtain rfl := Option.some.inj hc
    refine ⟨?_, fun _ _ => ⟨_, rfl⟩, ?_⟩
    · intro a ha
      exact ⟨v, List.mem_cons_self, Option.some.inj ha, rfl⟩
    · show ((v :: h.alive).map SvmOwner.hostSaveArea).Nodup
      rw [List.map_cons, List.nodup_cons]
      refine ⟨?_, hi.distinct⟩
      rw [List.mem_map]
      rintro ⟨w, hw, hsame⟩
      exact hfresh w hw hsame

theorem Inv.drop {h : SvmHost} (hi : Inv h) {vm : ℕ} (hlast : h.lastVm ≠ some vm) : Inv (h.drop vm) := by
  refine ⟨?_, hi.set, ?_⟩
  · intro a ha
    obtain ⟨v, hv, hva, hvm⟩ := hi.owner a ha
    refine ⟨v, mem_drop.mpr ⟨hv, ?_⟩, hva, hvm⟩
    rintro rfl
    exact hlast hvm
  · exact hi.distinct.sublist (List.filter_sublist.map _)

theorem Inv.drop_owned {h : SvmHost} (hi : Inv h) (vm : ℕ) : (h.drop vm).Owned ↔ h.lastVm ≠ some vm := by
  refine ⟨?_, fun hlast => (hi.drop hlast).owned⟩
  intro ho hlast
  obtain ⟨a, ha⟩ := hi.set vm hlast
  obtain ⟨v, hv, hva, hvm⟩ := hi.owner a ha
  obtain ⟨w, hw, hwa⟩ := ho a ha
  obtain ⟨hwalive, hwvm⟩ := mem_drop.mp hw
  have hwv : w = v := List.inj_on_of_nodup_map hi.distinct hwalive hv (hwa.trans hva.symm)
  rw [hwv] at hwvm
  exact hwvm (Option.some.inj (hvm.symm.trans hlast))

theorem live_step {h : SvmHost} (hi : Inv h) (op : Operation SvmOwner) (hfresh : h.Fresh op) :
    ((∀ o ∈ (reporting live h op).2, Owned o) ↔ h.HandsOver op) ∧
      (h.HandsOver op → ∀ h', (reporting live h op).1 = some h' → Inv h') := by
  rw [reporting_good]
  have hkeep : h.HandsOver op → ∀ h', live h op = some h' → Inv h' := by
    intro hop h' hlive
    cases op with
    | createCpu v ok => exact hi.create hlive hfresh
    | run k =>
      obtain rfl := Option.some.inj hlive
      unfold run
      split
      · rename_i v hv
        exact hi.setup (List.mem_of_getElem? hv)
      · exact hi
    | drop vm =>
      obtain rfl := Option.some.inj hlive
      exact hi.drop hop
  refine ⟨⟨?_, fun hop h' hlive => (hkeep hop h' hlive).owned⟩, hkeep⟩
  intro howned
  cases op with
  | createCpu v ok => trivial
  | run k => trivial
  | drop vm => exact (hi.drop_owned vm).mp (howned _ rfl)

end SvmHost

/-! ## Sequences of lifecycles -/

/-- On VT-x the core references freed memory as soon as a VM with a vCPU is dropped. On AMD-V it does not if a
vCPU of another VM has taken the core over before. -/
theorem core_references_owned_iff (vmxOps : List (Operation VmxOwner)) (svmOps : List (Operation SvmOwner)) :
    (Along (reporting VmxHost.live) VmxHost.Fresh VmxHost.new vmxOps →
      ((∀ h ∈ (Machine.run (reporting VmxHost.live) VmxHost.new vmxOps).2, h.Owned) ↔
        Along (reporting VmxHost.live) VmxHost.KeepsVcpus VmxHost.new vmxOps)) ∧
    (Along (reporting SvmHost.live) SvmHost.Fresh SvmHost.new svmOps →
      ((∀ h ∈ (Machine.run (reporting SvmHost.live) SvmHost.new svmOps).2, h.Owned) ↔
        Along (reporting SvmHost.live) SvmHost.HandsOver SvmHost.new svmOps)) := by
  refine ⟨?_, ?_⟩
  · intro hfresh
    exact outputs_iff VmxHost.Inv VmxHost.Owned (fun _ op hi hf => VmxHost.live_step hi op hf)
      VmxHost.inv_new hfresh
  · intro hfresh
    exact outputs_iff SvmHost.Inv SvmHost.Owned (fun _ op hi hf => SvmHost.live_step hi op hf)
      SvmHost.inv_new hfresh

/-- The second VM is dropped before it gets a vCPU. -/
def dropEmpty : List (Operation VmxOwner) := [.createCpu ⟨0, 0x1000#64, 0x2000#64⟩ true, .run 0, .drop 1]

/-- A VM is run and handed over to another one before it is dropped. -/
def handOver : List (Operation SvmOwner) :=
  [.createCpu ⟨0, 0x1000#64⟩ true, .run 0, .createCpu ⟨1, 0x2000#64⟩ true, .drop 0, .run 0]

theorem core_references_owned_handover :
    (∀ h ∈ (Machine.run (reporting VmxHost.live) VmxHost.new dropEmpty).2, h.Owned) ∧
    Along (reporting SvmHost.live) SvmHost.Fresh SvmHost.new handOver ∧
      ∀ h ∈ (Machine.run (reporting SvmHost.live) SvmHost.new handOver).2, h.Owned := by
  have hfresh : Along (reporting SvmHost.live) SvmHost.Fresh SvmHost.new handOver := by
    refine ⟨nofun, ?_⟩
    rintro _ ⟨⟩
    refine ⟨trivial, ?_⟩
    rintro _ ⟨⟩
    refine ⟨?_, ?_⟩
    · show ∀ w ∈ [(⟨0, 0x1000#64⟩ : SvmOwner)], w.hostSaveArea ≠ 0x2000#64
      decide
    · rintro _ ⟨⟩
      refine ⟨trivial, ?_⟩
      rintro _ ⟨⟩
      exact ⟨trivial, fun _ _ => trivial⟩
  obtain ⟨hvmx, hsvm⟩ := core_references_owned_iff dropEmpty handOver
  refine ⟨?_, hfresh, (hsvm hfresh).mpr ?_⟩
  · refine (hvmx ?_).mpr ?_
    · exact ⟨nofun, fun _ _ => ⟨trivial, fun _ _ => ⟨trivial, fun _ _ => trivial⟩⟩⟩
    · refine ⟨trivial, ?_⟩
      rintro _ ⟨⟩
      refine ⟨trivial, ?_⟩
      rintro _ ⟨⟩
      refine ⟨?_, fun _ _ => trivial⟩
      show ∀ v ∈ [(⟨0, 0x1000#64, 0x2000#64⟩ : VmxOwner)], v.vm ≠ 1
      decide
  refine ⟨trivial, ?_⟩
  rintro _ ⟨⟩
  refine ⟨trivial, ?_⟩
  rintro _ ⟨⟩
  refine ⟨trivial, ?_⟩
  rintro _ ⟨⟩
  refine ⟨?_, ?_⟩
  · show some 1 ≠ some 0
    decide
  · rintro _ ⟨⟩
    exact ⟨trivial, fun _ _ => trivial⟩

/-- One VM is created and dropped. The core is left in VMX operation with its VMXON region and its VMCS, and
with its host-save area. -/
theorem dropped_regions_referenced :
    (∃ h, (Machine.run (reporting VmxHost.live) VmxHost.new
        [.createCpu ⟨0, 0x1000#64, 0x2000#64⟩ true, .run 0, .drop 0]).1 = some h ∧
      h.core = ⟨some 0x1000#64, some 0x2000#64, [0x2000#64]⟩ ∧ h.alive = [] ∧ ¬ h.Owned) ∧
    ∃ h, (Machine.run (reporting SvmHost.live) SvmHost.new
        [.createCpu ⟨0, 0x1000#64⟩ true, .run 0, .drop 0]).1 = some h ∧
      h.hsave = some 0x1000#64 ∧ h.alive = [] ∧ ¬ h.Owned := by
  refine ⟨⟨_, rfl, rfl, rfl, ?_⟩, _, rfl, rfl, rfl, ?_⟩
  · intro ho
    obtain ⟨v, hv, -⟩ := ho.vmxon 0x1000#64 rfl
    cases hv
  · intro ho
    obtain ⟨v, hv, -⟩ := ho 0x1000#64 rfl
    cases hv

end Rhyve.Vcpu
