import Simurgh.Hal.Peripherals
import Simurgh.Lib.Blocks

/-!
# Which slots the walk reports

Every virtio node of a tree names a slot with its own properties.  The walk looks at the virtio
nodes that are below no other one, and takes the properties of all nodes below such a node for
the node's own.
-/

namespace Simurgh

/-! ## Trees -/

/-- The value of the last property of a name that has so many bytes at least. -/
def lastValue (name : List UInt8) (least : Nat) (props : List (List UInt8 × List UInt8)) :
    Option (List UInt8) :=
  (props.filter fun prop => prop.1 = name ∧ least ≤ prop.2.length).getLast?.map Prod.snd

/-- The device of the slot that the properties name, if there is one. -/
def deviceFrom (slots : VirtioSlots) (props : List (List UInt8 × List UInt8)) :
    Option PeripheralDevice :=
  (lastValue regName 16 props).bind fun reg =>
    (slots.kindAt (cellPair reg 0)).map fun kind =>
      .new kind (cellPair reg 0) (cellPair reg 2)
        (((lastValue interruptsName 4 props).map fun value => cell value 0).getD 0)

namespace DtNode

mutual

/-- The properties of a node and of the nodes below it. -/
def allProps : DtNode → List (List UInt8 × List UInt8)
  | mk _ props children => props ++ allPropsOf children

def allPropsOf : List DtNode → List (List UInt8 × List UInt8)
  | [] => []
  | node :: rest => node.allProps ++ allPropsOf rest

end

mutual

/-- A node and the nodes below it, in tree order. -/
def nodes : DtNode → List DtNode
  | mk name props children => mk name props children :: nodesOf children

def nodesOf : List DtNode → List DtNode
  | [] => []
  | node :: rest => node.nodes ++ nodesOf rest

end

mutual

/-- The virtio nodes that are below no other virtio node. -/
def outermost : DtNode → List DtNode
  | mk name props children =>
      if virtioMmioAt.isPrefixOf name then [mk name props children] else outermostOf children

def outermostOf : List DtNode → List DtNode
  | [] => []
  | node :: rest => node.outermost ++ outermostOf rest

end

variable (slots : VirtioSlots) (node : DtNode)

/-- The device of a virtio node, from its own properties. -/
def ownDevice : Option PeripheralDevice :=
  if virtioMmioAt.isPrefixOf node.name then deviceFrom slots node.props else none

/-- The devices of the virtio nodes, in tree order. -/
def virtioDevices : List PeripheralDevice := node.nodes.filterMap (ownDevice slots)

/-- The device that the properties of a node and of the nodes below it give. -/
def subtreeDevice : Option PeripheralDevice := deviceFrom slots node.allProps

/-- The devices that the subtrees of the outermost virtio nodes give are those of the virtio
nodes, as far as there is room. -/
def SubtreesGive : Prop :=
  (node.outermost.filterMap (subtreeDevice slots)).take maxScan =
    (node.virtioDevices slots).take maxScan

/-- For every virtio node that is below no other one, as long as there is room, the properties of
its subtree give the only device of its subtree. -/
def SubtreesAgree : Prop :=
  Blocks.AgreeWithin (subtreeDevice slots) (virtioDevices slots) maxScan node.outermost

/-- A `reg` property of the subtree names the base. -/
def NamesBase (base : Nat) : Prop :=
  ∃ value, (regName, value) ∈ node.allProps ∧ 16 ≤ value.length ∧ cellPair value 0 = base

/-- The subtrees of different virtio nodes name different bases. -/
def SlotsApart : Prop :=
  node.outermost.Pairwise fun first second =>
    ∀ base, first.NamesBase base → ¬ second.NamesBase base

end DtNode

/-- The discovery returns the devices of the virtio nodes, up to its capacity. -/
def DiscoversRight (checks : Bool) (slots : VirtioSlots) (mem : ByteMemory) (root : DtNode) :
    Prop :=
  ∃ devices, DiscoveryReturns checks slots mem devices ∧
    devices = (root.virtioDevices slots).take maxScan

/-! ## What is read of a node -/

theorem lastValue_concat (name : List UInt8) (least : Nat)
    (props : List (List UInt8 × List UInt8)) (prop : List UInt8 × List UInt8) :
    lastValue name least (props ++ [prop]) =
      if prop.1 = name ∧ least ≤ prop.2.length then some prop.2
      else lastValue name least props := by
  rw [lastValue, lastValue, List.filter_append]
  by_cases fits : prop.1 = name ∧ least ≤ prop.2.length
  · rw [List.filter_cons_of_pos (by simpa using fits), List.filter_nil, if_pos fits,
      List.getLast?_concat]
    rfl
  · rw [List.filter_cons_of_neg (by simpa using fits), List.filter_nil, if_neg fits,
      List.append_nil]

namespace CurrentSlot

/-- What was read behind some properties. -/
def noteAll (slot : CurrentSlot) (props : List (List UInt8 × List UInt8)) : CurrentSlot :=
  props.foldl (fun slot prop => slot.note prop.1 prop.2) slot

variable {slot : CurrentSlot}

theorem noteAll_append (first rest : List (List UInt8 × List UInt8)) :
    slot.noteAll (first ++ rest) = (slot.noteAll first).noteAll rest := List.foldl_append

theorem noteAll_unread (props : List (List UInt8 × List UInt8)) :
    unread.noteAll props = {
      curBase := (lastValue regName 16 props).map fun reg => cellPair reg 0
      curSize := (lastValue regName 16 props).map fun reg => cellPair reg 2
      curIrq := (lastValue interruptsName 4 props).map fun value => cell value 0 } := by
  induction props using List.reverseRecOn with
  | nil => rfl
  | append_singleton props prop ih =>
      rw [noteAll_append, ih, lastValue_concat, lastValue_concat]
      change CurrentSlot.note _ prop.1 prop.2 = _
      rw [note]
      by_cases isReg : prop.1 = regName ∧ 16 ≤ prop.2.length
      · have other : ¬ (prop.1 = interruptsName ∧ 4 ≤ prop.2.length) := by
          intro isIrq
          have same := isReg.1.symm.trans isIrq.1
          revert same
          decide
        rw [if_pos isReg, if_pos isReg, if_neg other]
        rfl
      · rw [if_neg isReg, if_neg isReg]
        split <;> rfl

theorem device_noteAll (slots : VirtioSlots) (props : List (List UInt8 × List UInt8)) :
    (unread.noteAll props).device slots = deviceFrom slots props := by
  rw [noteAll_unread, device, deviceFrom]
  cases lastValue regName 16 props with
  | none => rfl
  | some reg => rfl

end CurrentSlot

/-! ## The walk over a tree -/

namespace PeripheralScan

variable {slots : VirtioSlots} {scan : PeripheralScan}

theorem afterAll_props (props : List (List UInt8 × List UInt8)) :
    scan.afterAll slots (props.map fun prop => .prop prop.1 prop.2) =
      if scan.inVirtioNode then { scan with current := scan.current.noteAll props } else scan := by
  induction props generalizing scan with
  | nil => exact (ite_self scan).symm
  | cons prop rest ih =>
      rw [List.map_cons, afterAll, List.foldl_cons, after]
      by_cases current : scan.inVirtioNode = true
      · rw [if_pos current, if_pos current]
        refine ih.trans ?_
        rw [if_pos current]
        rfl
      · rw [if_neg current, if_neg current]
        exact ih.trans (if_neg current)

/-- A node is entered, its properties and the nodes below it are walked, and it is left. -/
theorem afterAll_node (name : List UInt8) (props : List (List UInt8 × List UInt8))
    (children : List DtNode) :
    scan.afterAll slots (DtNode.mk name props children).items =
      (((scan.enter name).afterAll slots (props.map fun prop => .prop prop.1 prop.2)).afterAll slots
        (DtNode.itemsOf children)).close slots := by
  rw [DtNode.items, afterAll_cons, afterAll_append, afterAll_append]
  rfl

/-- The node that is left is not the current one. -/
theorem close_other (other : ¬ (scan.inVirtioNode = true ∧ scan.depth = scan.nodeDepth)) :
    scan.close slots = { scan with depth := scan.depth - 1 } := if_neg other

mutual

/-- Below the current node, all properties are read, and nothing is reported. -/
theorem afterAll_current (node : DtNode) {scan : PeripheralScan}
    (current : scan.inVirtioNode = true) (deeper : scan.nodeDepth ≤ scan.depth) :
    scan.afterAll slots node.items =
      { scan with current := scan.current.noteAll node.allProps } := by
  match node with
  | .mk name props children =>
      have entered : scan.enter name = { scan with depth := scan.depth + 1 } := by
        apply if_neg
        rw [current]
        exact fun both => Bool.noConfusion both.1
      have below := @afterAll_currentOf children
        { scan with depth := scan.depth + 1, current := scan.current.noteAll props } current
        (deeper.trans (Int.le_add_of_nonneg_right (by decide)))
      rw [afterAll_node, entered, afterAll_props, if_pos current, below, close_other,
        DtNode.allProps, CurrentSlot.noteAll_append]
      · simp only [add_sub_cancel_right]
      · simp only
        omega

theorem afterAll_currentOf (nodes : List DtNode) {scan : PeripheralScan}
    (current : scan.inVirtioNode = true) (deeper : scan.nodeDepth ≤ scan.depth) :
    scan.afterAll slots (DtNode.itemsOf nodes) =
      { scan with current := scan.current.noteAll (DtNode.allPropsOf nodes) } := by
  match nodes with
  | [] => rfl
  | node :: rest =>
      rw [DtNode.itemsOf, afterAll_append, afterAll_current node current deeper]
      have later := @afterAll_currentOf rest
        { scan with current := scan.current.noteAll node.allProps } current deeper
      rw [later, DtNode.allPropsOf, CurrentSlot.noteAll_append]

end

/-- Outside of the virtio nodes, with so many devices. -/
structure Idle (scan : PeripheralScan) (depth : Int) (devices : List PeripheralDevice) : Prop where
  outside : scan.inVirtioNode = false
  depth : scan.depth = depth
  devices : scan.devices = devices

/-- A virtio node that is below no other is reported with the properties of its subtree. -/
theorem Idle.virtio {depth : Int} {devices : List PeripheralDevice} (idle : scan.Idle depth devices)
    {name : List UInt8} (isVirtio : virtioMmioAt.isPrefixOf name = true)
    (props : List (List UInt8 × List UInt8)) (children : List DtNode) :
    (scan.afterAll slots (DtNode.mk name props children).items).Idle depth
      (devices ++ ((DtNode.mk name props children).subtreeDevice slots).toList) := by
  let inside : PeripheralScan := { scan with
    inVirtioNode := true
    nodeDepth := scan.depth + 1
    depth := scan.depth + 1
    current := .unread }
  have entered : scan.enter name = inside := if_pos ⟨idle.outside, isVirtio⟩
  have below := @afterAll_currentOf slots children
    { inside with current := inside.current.noteAll props } rfl (le_refl _)
  rw [afterAll_node, entered, afterAll_props, if_pos rfl, below, close, if_pos ⟨rfl, rfl⟩]
  refine ⟨rfl, (add_sub_cancel_right scan.depth 1).trans idle.depth, ?_⟩
  rw [DtNode.subtreeDevice, ← CurrentSlot.device_noteAll, DtNode.allProps,
    CurrentSlot.noteAll_append, ← idle.devices]

mutual

/-- Outside of the virtio nodes the walk reports those that are below no other. -/
theorem Idle.items (node : DtNode) {scan : PeripheralScan} {depth : Int}
    {devices : List PeripheralDevice} (idle : scan.Idle depth devices) :
    (scan.afterAll slots node.items).Idle depth
      (devices ++ node.outermost.filterMap (DtNode.subtreeDevice slots)) := by
  match node with
  | .mk name props children =>
      rw [DtNode.outermost]
      by_cases isVirtio : virtioMmioAt.isPrefixOf name = true
      · have reported := @Idle.virtio slots scan depth devices idle name isVirtio props children
        rw [if_pos isVirtio, List.filterMap_cons, List.filterMap_nil]
        cases found : (DtNode.mk name props children).subtreeDevice slots with
        | none =>
            rw [found] at reported
            exact reported
        | some device =>
            rw [found] at reported
            exact reported
      · have entered : scan.enter name = { scan with depth := scan.depth + 1 } :=
          if_neg fun both => isVirtio both.2
        have inner :
            PeripheralScan.Idle { scan with depth := scan.depth + 1 } (depth + 1) devices :=
          ⟨idle.outside, congrArg (· + 1) idle.depth, idle.devices⟩
        have below := Idle.itemsOf children inner
        rw [if_neg isVirtio, afterAll_node, entered, afterAll_props, if_neg, close_other]
        · exact ⟨below.outside, by rw [below.depth]; exact add_sub_cancel_right depth 1,
            below.devices⟩
        · rw [below.outside]
          exact fun both => Bool.noConfusion both.1
        · rw [idle.outside]
          exact Bool.false_ne_true

theorem Idle.itemsOf (nodes : List DtNode) {scan : PeripheralScan} {depth : Int}
    {devices : List PeripheralDevice} (idle : scan.Idle depth devices) :
    (scan.afterAll slots (DtNode.itemsOf nodes)).Idle depth
      (devices ++ (DtNode.outermostOf nodes).filterMap (DtNode.subtreeDevice slots)) := by
  match nodes with
  | [] =>
      rw [DtNode.outermostOf, List.filterMap_nil, List.append_nil]
      exact idle
  | node :: rest =>
      have later := Idle.itemsOf rest (Idle.items node idle)
      rw [DtNode.itemsOf, afterAll_append, DtNode.outermostOf, List.filterMap_append,
        ← List.append_assoc]
      exact later

end

end PeripheralScan

/-- The discovery reports the virtio nodes that are below no other, each with the properties of
its subtree. -/
theorem discovery_reports {mem : ByteMemory} {root : DtNode} (flat : IsFlattened mem root)
    (checks : Bool) (slots : VirtioSlots) :
    DiscoveryReturns checks slots mem
      ((root.outermost.filterMap (DtNode.subtreeDevice slots)).take maxScan) := by
  have idle : PeripheralScan.start.Idle 0 [] := ⟨rfl, rfl, rfl⟩
  have devices := (@PeripheralScan.Idle.items slots root _ _ _ idle).devices
  have returns := discovery_returns flat checks slots
  rw [devices, List.nil_append] at returns
  exact returns

/-! ## The devices of a subtree -/

theorem lastValue_mem {name value : List UInt8} {least : Nat}
    {props : List (List UInt8 × List UInt8)} (found : lastValue name least props = some value) :
    (name, value) ∈ props ∧ least ≤ value.length := by
  obtain ⟨⟨propName, value⟩, last, rfl⟩ := Option.map_eq_some_iff.1 found
  obtain ⟨member, fits⟩ := List.mem_filter.1 (List.mem_of_getLast? last)
  obtain ⟨rfl, long⟩ := of_decide_eq_true fits
  exact ⟨member, long⟩

namespace DtNode

mutual

theorem props_subset (root : DtNode) {node : DtNode} (member : node ∈ root.nodes) :
    node.props ⊆ root.allProps := by
  match root with
  | mk name props children =>
      rw [nodes] at member
      rw [allProps]
      rcases List.mem_cons.1 member with rfl | below
      · exact List.subset_append_left props _
      · exact List.subset_append_of_subset_right props (props_subsetOf children below)

theorem props_subsetOf (roots : List DtNode) {node : DtNode} (member : node ∈ nodesOf roots) :
    node.props ⊆ allPropsOf roots := by
  match roots with
  | [] => exact absurd member List.not_mem_nil
  | root :: rest =>
      rw [nodesOf] at member
      rw [allPropsOf]
      rcases List.mem_append.1 member with here | later
      · exact List.subset_append_of_subset_left _ (props_subset root here)
      · exact List.subset_append_of_subset_right _ (props_subsetOf rest later)

end

mutual

/-- Every virtio node is below one that is below no other. -/
theorem virtioDevices_eq (slots : VirtioSlots) (root : DtNode) :
    root.virtioDevices slots = root.outermost.flatMap (virtioDevices slots) := by
  match root with
  | mk name props children =>
      rw [outermost]
      by_cases isVirtio : virtioMmioAt.isPrefixOf name = true
      · rw [if_pos isVirtio, List.flatMap_singleton]
      · have own : ownDevice slots (mk name props children) = none := if_neg isVirtio
        rw [if_neg isVirtio, virtioDevices, nodes, List.filterMap_cons_none own]
        exact virtioDevicesOf_eq slots children

theorem virtioDevicesOf_eq (slots : VirtioSlots) (roots : List DtNode) :
    (nodesOf roots).filterMap (ownDevice slots) =
      (outermostOf roots).flatMap (virtioDevices slots) := by
  match roots with
  | [] => rfl
  | root :: rest =>
      rw [nodesOf, outermostOf, List.filterMap_append, List.flatMap_append,
        ← virtioDevices_eq slots root, ← virtioDevicesOf_eq slots rest]
      rfl

end

variable {slots : VirtioSlots} {root : DtNode} {device : PeripheralDevice}

theorem namesBase_of_deviceFrom {props : List (List UInt8 × List UInt8)}
    (part : props ⊆ root.allProps) (found : deviceFrom slots props = some device) :
    root.NamesBase device.mmioBase := by
  obtain ⟨reg, isReg, answered⟩ := Option.bind_eq_some_iff.1 found
  obtain ⟨kind, _, rfl⟩ := Option.map_eq_some_iff.1 answered
  obtain ⟨member, long⟩ := lastValue_mem isReg
  exact ⟨reg, part member, long, rfl⟩

/-- A device that a subtree gives has a base that the subtree names. -/
theorem namesBase_of_mem
    (member : device ∈ (root.subtreeDevice slots).toList ++ root.virtioDevices slots) :
    root.NamesBase device.mmioBase := by
  rcases List.mem_append.1 member with whole | own
  · exact namesBase_of_deviceFrom (List.Subset.refl _) (Option.mem_toList.1 whole)
  · obtain ⟨node, below, found⟩ := List.mem_filterMap.1 own
    rw [ownDevice] at found
    split at found
    · exact namesBase_of_deviceFrom (props_subset root below) found
    · cases found

theorem SlotsApart.apart (slotsApart : root.SlotsApart) :
    Blocks.Apart (subtreeDevice slots) (virtioDevices slots) root.outermost := by
  apply slotsApart.imp
  intro first second differ left inFirst right inSecond same
  rw [← same] at inSecond
  exact differ left.mmioBase (namesBase_of_mem inFirst) (namesBase_of_mem inSecond)

end DtNode

/-! ## What the discovery reports -/

theorem DtNode.SubtreesAgree.give {slots : VirtioSlots} {root : DtNode}
    (agree : root.SubtreesAgree slots) : root.SubtreesGive slots := by
  rw [DtNode.SubtreesGive, root.virtioDevices_eq slots]
  exact Blocks.take_eq_of_agree agree

theorem DtNode.SubtreesGive.agree {slots : VirtioSlots} {root : DtNode}
    (give : root.SubtreesGive slots) (slotsApart : root.SlotsApart) :
    root.SubtreesAgree slots := by
  rw [DtNode.SubtreesGive, root.virtioDevices_eq slots] at give
  exact Blocks.agree_of_take_eq slotsApart.apart give

/-- The discovery is right exactly if the subtrees give the devices of the virtio nodes.  They do
if each gives the only device in it, and, if different subtrees name different bases, only
then. -/
theorem discovers_right_iff {mem : ByteMemory} {root : DtNode} (flat : IsFlattened mem root)
    (checks : Bool) (slots : VirtioSlots) :
    (DiscoversRight checks slots mem root ↔ root.SubtreesGive slots) ∧
      (root.SubtreesAgree slots → root.SubtreesGive slots) ∧
        (root.SlotsApart → root.SubtreesGive slots → root.SubtreesAgree slots) := by
  have returns := discovery_reports flat checks slots
  refine ⟨⟨?_, ?_⟩, DtNode.SubtreesAgree.give, fun slotsApart give => give.agree slotsApart⟩
  · intro right
    obtain ⟨devices, again, expected⟩ := right
    exact (returns.unique again).trans expected
  · intro give
    exact ⟨_, returns, give⟩

/-! ## A disk below a slot -/

def firstSlotName : List UInt8 :=
  virtioMmioAt ++ ascii ['1', '0', '0', '0', '1', '0', '0', '0']

def secondSlotName : List UInt8 :=
  virtioMmioAt ++ ascii ['1', '0', '0', '0', '2', '0', '0', '0']

def slotProps (base irq : Nat) : List (List UInt8 × List UInt8) :=
  [(regName, DtNode.twoCells base ++ DtNode.twoCells 0x1000),
    (interruptsName, (Bytes.encode 4 irq).reverse)]

/-- The first of two slots has a node of its own below it. -/
def diskTree : DtNode :=
  .mk [] [] [
    .mk firstSlotName (slotProps 0x10001000 1) [
      .mk (ascii ['d', 'i', 's', 'k', '@', '0'])
        [(regName, DtNode.twoCells 0x80000000 ++ DtNode.twoCells 0x1000)] []],
    .mk secondSlotName (slotProps 0x10002000 2) []]

def diskBlob : ByteMemory :=
  memoryOf [
    0xd00dfeed, 268, 40, 252, 0, 17, 16, 0, 16, 212,
    1, 0,
    1, 0x76697274, 0x696f5f6d, 0x6d696f40, 0x31303030, 0x31303030, 0,
    3, 16, 0, 0, 0x10001000, 0, 0x1000,
    3, 4, 4, 1,
    1, 0x6469736b, 0x40300000,
    3, 16, 0, 0, 0x80000000, 0, 0x1000,
    2, 2,
    1, 0x76697274, 0x696f5f6d, 0x6d696f40, 0x31303030, 0x32303030, 0,
    3, 16, 0, 0, 0x10002000, 0, 0x1000,
    3, 4, 4, 2,
    2, 2, 9,
    0x72656700, 0x696e7465, 0x72727570, 0x74730000]

theorem diskTree_flattened : IsFlattened diskBlob diskTree := by
  refine ⟨rfl, ⟨0xd00dfeed, 268, 40, 252, 0, 17, 16, 0, 16, 212⟩, diskTree.items, 248, ?_⟩
  constructor
  · decide +kernel
  · decide +kernel
  · decide +kernel
  · decide +kernel
  · decide +kernel
  · decide +kernel

/-- Two slots with these device ids. -/
def twoSlots (first second : Nat) : VirtioSlots where
  read32 addr :=
    if addr = 0x10001000 ∨ addr = 0x10002000 then virtioMmioMagic
    else if addr = 0x10001008 then first
    else if addr = 0x10002008 then second
    else 0
  window := by
    intro base answers
    by_cases far : base < 2 ^ 32
    · omega
    · rw [if_neg (by omega), if_neg (by omega), if_neg (by omega)] at answers
      exact absurd answers (by decide)

/-- A disk in the first slot is missed, as the slot's base is taken from the node below. -/
theorem disk_missed :
    ¬ ∀ (checks : Bool) (slots : VirtioSlots) (mem : ByteMemory) (root : DtNode),
      IsFlattened mem root → DiscoversRight checks slots mem root := by
  intro right
  obtain ⟨devices, again, expected⟩ :=
    right true (twoSlots 2 1) diskBlob diskTree diskTree_flattened
  have same := (discovery_reports diskTree_flattened true (twoSlots 2 1)).unique again
  rw [expected] at same
  revert same
  decide +kernel

/-- The device in the second slot is found, if the first slot is empty. -/
theorem discovers_right_iff_disk :
    IsFlattened diskBlob diskTree ∧ DiscoversRight true (twoSlots 0 1) diskBlob diskTree := by
  refine ⟨diskTree_flattened, (discovers_right_iff diskTree_flattened true _).1.2 ?_⟩
  rw [DtNode.SubtreesGive]
  decide +kernel

end Simurgh
