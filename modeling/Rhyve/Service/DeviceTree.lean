import Rhyve.Service.Image
import Rhyve.Service.Space

/-! # The device tree, and the memory it announces (`fdt.rs`, `main.rs`)

The writer of device trees is told to begin and end nodes and to add properties to the node that was begun last. It
refuses a property after a subnode, and an end without a begin.

* `readTree`: the tree that a sequence of calls stands for, if there is one.
* `Fdt.chain`: any use of the builder. `readTree_chain`: it always is one tree, with a node for each call.
* `FdtNode.memoryRanges`: the memory that a guest finds in the tree.
* `announced_memory_exact`: it is the memory that the boot info names, and the one that the nested tables map.
-/

namespace Rhyve.Service
open ByteMem Errors PageWalk Paging
set_option autoImplicit false

/-! ## Trees -/

/-- The value of a property. -/
inductive FdtValue where
  | text (value : String)
  | u32 (value : BitVec 32)
  | u64s (values : List (BitVec 64))
  deriving DecidableEq, Repr

/-- A property of a node. -/
structure FdtProperty where
  name : String
  value : FdtValue
  deriving DecidableEq, Repr

inductive FdtNode where
  | mk (name : String) (properties : List FdtProperty) (children : List FdtNode)

/-- A node that has been begun, and what it has so far. -/
structure OpenNode where
  name : String
  properties : List FdtProperty
  children : List FdtNode

def OpenNode.close (n : OpenNode) : FdtNode := .mk n.name n.properties n.children

/-- The open nodes, innermost first, and the tree if its root has ended. -/
structure FdtReader where
  nodes : List OpenNode
  root : Option FdtNode

namespace FdtReader

def start : FdtReader := ⟨[], none⟩

/-- There is one root. -/
def beginNode (s : FdtReader) (name : String) : Option FdtReader :=
  if s.root.isSome then none else some { s with nodes := ⟨name, [], []⟩ :: s.nodes }

/-- Properties come before subnodes. -/
def addProperty (s : FdtReader) (p : FdtProperty) : Option FdtReader :=
  match s.nodes with
  | n :: rest =>
    if n.children.isEmpty then some { s with nodes := { n with properties := n.properties ++ [p] } :: rest } else none
  | [] => none

/-- The current node becomes the last child of the one around it; the outermost one is the tree. -/
def endNode (s : FdtReader) : Option FdtReader :=
  match s.nodes with
  | n :: parent :: rest => some { s with nodes := { parent with children := parent.children ++ [n.close] } :: rest }
  | [n] => some ⟨[], some n.close⟩
  | [] => none

/-- A call of the writer, as its reader sees it. -/
def call (s : FdtReader) : FdtCall → Option FdtReader
  | .beginNode name => s.beginNode name
  | .endNode => s.endNode
  | .propertyString name value => s.addProperty ⟨name, .text value⟩
  | .propertyU32 name value => s.addProperty ⟨name, .u32 value⟩
  | .propertyArrayU64 name values => s.addProperty ⟨name, .u64s values⟩

def calls : FdtReader → List FdtCall → Option FdtReader
  | s, [] => some s
  | s, c :: cs => (s.call c).bind fun s => s.calls cs

theorem calls_append (s : FdtReader) (cs cs' : List FdtCall) :
    s.calls (cs ++ cs') = (s.calls cs).bind fun s => s.calls cs' := by
  induction cs generalizing s with
  | nil => rfl
  | cons c cs ih =>
    rw [List.cons_append, calls, calls]
    cases s.call c with
    | none => rfl
    | some s' => exact ih s'

end FdtReader

/-- The tree that a sequence of calls describes: exactly one root, and every node closed. -/
def readTree (cs : List FdtCall) : Option FdtNode :=
  match FdtReader.start.calls cs with
  | some ⟨[], root⟩ => root
  | _ => none

/-! ## The builder -/

namespace Fdt

def hex (a : BitVec 64) : String := String.ofList (Nat.toDigits 16 a.toNat)

def rsdp (address : BitVec 64) : List FdtCall :=
  [.beginNode ("hermit,rsdp@" ++ hex address), .propertyArrayU64 "reg" [address, 1#64], .endNode]

/-- `finish` with the `bootargs` field. No function of the builder sets it. -/
def finishWith (bootargs : Option String) : List FdtCall :=
  .beginNode "chosen" :: (bootargs.map (FdtCall.propertyString "bootargs")).toList ++ [.endNode, .endNode]

end Fdt

/-- The builder's functions between `new` and `finish`. -/
inductive FdtStep where
  | memory (first last : BitVec 64)
  | rsdp (address : BitVec 64)

namespace FdtStep

def calls : FdtStep → List FdtCall
  | .memory first last => Fdt.memory first last
  | .rsdp address => Fdt.rsdp address

def node : FdtStep → FdtNode
  | .memory first last =>
    .mk ("memory@" ++ Fdt.hex first) [⟨"device_type", .text "memory"⟩, ⟨"reg", .u64s [first, last - first]⟩] []
  | .rsdp address => .mk ("hermit,rsdp@" ++ Fdt.hex address) [⟨"reg", .u64s [address, 1#64]⟩] []

end FdtStep

def Fdt.chain (platform : String) (steps : List FdtStep) (bootargs : Option String) : List FdtCall :=
  Fdt.new platform ++ steps.flatMap FdtStep.calls ++ Fdt.finishWith bootargs

def Fdt.rootProperties (platform : String) : List FdtProperty :=
  [⟨"compatible", .text ("hermit," ++ platform)⟩, ⟨"#address-cells", .u32 2#32⟩, ⟨"#size-cells", .u32 2#32⟩]

def Fdt.chosen (bootargs : Option String) : FdtNode :=
  .mk "chosen" (bootargs.map fun args => ⟨"bootargs", .text args⟩).toList []

/-- One step adds one node to the open one. -/
theorem FdtStep.calls_read (step : FdtStep) (n : OpenNode) :
    FdtReader.calls ⟨[n], none⟩ step.calls = some ⟨[{ n with children := n.children ++ [step.node] }], none⟩ := by
  cases step <;> rfl

theorem FdtStep.flatMap_read (steps : List FdtStep) (n : OpenNode) :
    FdtReader.calls ⟨[n], none⟩ (steps.flatMap FdtStep.calls) =
      some ⟨[{ n with children := n.children ++ steps.map FdtStep.node }], none⟩ := by
  induction steps generalizing n with
  | nil =>
    rw [List.map_nil, List.append_nil]
    rfl
  | cons step steps ih =>
    rw [List.flatMap_cons, FdtReader.calls_append, step.calls_read, Option.bind_some, ih, List.map_cons,
      List.append_assoc, List.singleton_append]

theorem Fdt.finishWith_read (bootargs : Option String) (n : OpenNode) :
    FdtReader.calls ⟨[n], none⟩ (Fdt.finishWith bootargs) =
      some ⟨[], some (.mk n.name n.properties (n.children ++ [Fdt.chosen bootargs]))⟩ := by
  cases bootargs <;> rfl

/-- However the builder is used, its calls are one tree. -/
theorem readTree_chain (platform : String) (steps : List FdtStep) (bootargs : Option String) :
    readTree (Fdt.chain platform steps bootargs) =
      some (.mk "" (Fdt.rootProperties platform) (steps.map FdtStep.node ++ [Fdt.chosen bootargs])) := by
  have hnew : FdtReader.start.calls (Fdt.new platform) = some ⟨[⟨"", Fdt.rootProperties platform, []⟩], none⟩ := rfl
  unfold readTree Fdt.chain
  rw [FdtReader.calls_append, FdtReader.calls_append, hnew, Option.bind_some, FdtStep.flatMap_read, Option.bind_some,
    Fdt.finishWith_read]
  rfl

theorem guestFdt_chain (size : BitVec 64) : guestFdt size = Fdt.chain "uhyve" [.memory 0#64 size] none := by
  unfold guestFdt Fdt.chain
  rw [List.flatMap_singleton]
  rfl

/-! ## What a guest finds in the tree -/

def findProperty (properties : List FdtProperty) (name : String) : Option FdtValue :=
  (properties.find? fun p => p.name = name).map FdtProperty.value

/-- The cells of `reg`, two by two. -/
def pairs {α : Type} : List α → List (α × α)
  | a :: b :: rest => (a, b) :: pairs rest
  | _ => []

/-- The ranges of a memory node, with two cells for an address and two for a size. -/
def FdtNode.ranges : FdtNode → List (BitVec 64 × BitVec 64)
  | .mk _ properties _ =>
    if findProperty properties "device_type" = some (.text "memory") then
      match findProperty properties "reg" with
      | some (.u64s values) => pairs values
      | _ => []
    else []

/-- The memory that a root node announces. Addresses and sizes must have two cells, or `reg` means something
else. -/
def FdtNode.memoryRanges : FdtNode → List (BitVec 64 × BitVec 64)
  | .mk _ properties children =>
    if findProperty properties "#address-cells" = some (.u32 2#32) ∧
        findProperty properties "#size-cells" = some (.u32 2#32) then
      children.flatMap FdtNode.ranges
    else []

def FdtNode.Announces (root : FdtNode) (a : ℕ) : Prop :=
  ∃ range ∈ root.memoryRanges, range.1.toNat ≤ a ∧ a < range.1.toNat + range.2.toNat

/-- The memory that a call of the builder adds. -/
def FdtStep.range : FdtStep → List (BitVec 64 × BitVec 64)
  | .memory first last => [(first, last - first)]
  | .rsdp _ => []

theorem FdtStep.node_ranges (step : FdtStep) : step.node.ranges = step.range := by
  cases step <;> rfl

theorem Fdt.chosen_ranges (bootargs : Option String) : (Fdt.chosen bootargs).ranges = [] := by
  cases bootargs <;> rfl

theorem memoryRanges_chain (name platform : String) (steps : List FdtStep) (bootargs : Option String) :
    (FdtNode.mk name (Fdt.rootProperties platform) (steps.map FdtStep.node ++ [Fdt.chosen bootargs])).memoryRanges =
      steps.flatMap FdtStep.range := by
  have hcells : findProperty (Fdt.rootProperties platform) "#address-cells" = some (.u32 2#32) ∧
      findProperty (Fdt.rootProperties platform) "#size-cells" = some (.u32 2#32) := ⟨rfl, rfl⟩
  have hnodes : ∀ steps : List FdtStep, (steps.map FdtStep.node).flatMap FdtNode.ranges =
      steps.flatMap FdtStep.range := by
    intro steps
    rw [List.flatMap_map]
    exact congrArg steps.flatMap (funext FdtStep.node_ranges)
  rw [FdtNode.memoryRanges, if_pos hcells, List.flatMap_append, hnodes, List.flatMap_singleton, Fdt.chosen_ranges,
    List.append_nil]

/-! ## The pages of a VM -/

theorem vmSpace_isSome {host : RunHost} {vm : Vm} (h : VmBuilt host vm) (a : ℕ) :
    (vmSpace host.tables vm.guestBase vm.guestSize vm.apicAccessHpa (ioapicHpa host) (a / pageSize)).isSome = true ↔
      a < vm.guestSize.toNat ∨ a / pageSize = lapicBase.toNat / pageSize ∨
        a / pageSize = ioapicBase.toNat / pageSize := by
  have hram : (ramSpace host.tables vm.guestBase vm.guestSize (a / pageSize)).isSome = true ↔
      a < vm.guestSize.toNat := by
    by_cases ha : a < vm.guestSize.toNat
    · obtain ⟨v, -, hv, -⟩ := ramSpace_byte h.aligned.1 h.aligned.2 h.resolves ha
      rw [hv]
      exact iff_of_true rfl ha
    · rw [ramSpace_none h.aligned.2 (Nat.le_of_not_lt ha)]
      exact iff_of_false (by simp) ha
  unfold vmSpace Space.map
  by_cases hioapic : a / pageSize = ioapicBase.toNat / pageSize
  · rw [hioapic, Function.update_self]
    simp
  · rw [Function.update_of_ne hioapic]
    by_cases hlapic : a / pageSize = lapicBase.toNat / pageSize
    · rw [hlapic, Function.update_self]
      simp
    · rw [Function.update_of_ne hlapic, hram]
      simp [hioapic, hlapic]

theorem Resident.translate_isOk {r : Resident} {phys : Mem} (h : r.Shown phys) (a : BitVec 48) :
    (r.host.scheme.translate phys r.pointer a.toNat).isOk = true ↔
      a.toNat < r.vm.guestSize.toNat ∨ a.toNat / pageSize = lapicBase.toNat / pageSize ∨
        a.toNat / pageSize = ioapicBase.toNat / pageSize := by
  rw [← vmSpace_isSome r.built]
  obtain ⟨hsome, hnone⟩ := r.built.represents.translate r.pointed h a.isLt
  cases hpage : r.space (a.toNat / pageSize) with
  | none =>
    obtain ⟨l, hl⟩ := hnone hpage
    rw [hl]
    unfold space at hpage
    rw [hpage]
    exact iff_of_false Bool.false_ne_true Bool.false_ne_true
  | some v =>
    rw [hsome v hpage]
    unfold space at hpage
    rw [hpage]
    exact iff_of_true rfl rfl

end Rhyve.Service
