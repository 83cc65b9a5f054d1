import Simurgh.Hal.DeviceTreeScan

/-!
# Which nodes the walk recognises

A flattened tree lists the nodes with their properties in between, and the root, whose name is
empty, is open from the first node to the last.  The walk takes every node for a part of the
outermost one, and so it finds no memory and no interrupt controller in any tree.
-/

namespace Simurgh

/-! ## Trees -/

/-- A node with its properties, names before values, and the nodes under it. -/
inductive DtNode where
  | mk (name : List UInt8) (props : List (List UInt8 × List UInt8)) (children : List DtNode)

namespace DtNode

def name : DtNode → List UInt8
  | mk name _ _ => name

def props : DtNode → List (List UInt8 × List UInt8)
  | mk _ props _ => props

def children : DtNode → List DtNode
  | mk _ _ children => children

mutual

/-- The items of a node. -/
def items : DtNode → List FdtItem
  | mk name props children =>
      .beginNode name :: (props.map (fun prop => .prop prop.1 prop.2) ++
        itemsOf children ++ [.endNode])

/-- The items of some nodes, one after another. -/
def itemsOf : List DtNode → List FdtItem
  | [] => []
  | node :: rest => node.items ++ itemsOf rest

end

/-- A node of the tree under a root. -/
inductive Contains : DtNode → DtNode → Prop where
  | self (root : DtNode) : Contains root root
  | under {root child node : DtNode} (member : child ∈ root.children)
      (contains : Contains child node) : Contains root node

/-- `device_type`, and its value `memory` with a zero behind it. -/
def deviceTypeName : List UInt8 :=
  ascii ['d', 'e', 'v', 'i', 'c', 'e', '_', 't', 'y', 'p', 'e']

def memoryType : List UInt8 := memoryName ++ [0]

/-- A number of two cells. -/
def twoCells (number : Nat) : List UInt8 := (Bytes.encode 8 number).reverse

/-- A memory node with one range. -/
def IsMemory (node : DtNode) (base size : Nat) : Prop :=
  (memoryAt.isPrefixOf node.name = true ∨ (deviceTypeName, memoryType) ∈ node.props) ∧
    (regName, twoCells base ++ twoCells size) ∈ node.props

/-- A node for the interrupt controller, whose registers start at the base. -/
def IsPlic (node : DtNode) (base : Nat) : Prop :=
  plicAt.isPrefixOf node.name = true ∧
    ∃ rest, (regName, twoCells base ++ rest) ∈ node.props

/-- The result names the memory under the root and the interrupt controller, if there are any. -/
structure Reports (root : DtNode) (result : DtDiscoveryResult) : Prop where
  memory : ∀ node ∈ root.children, ∀ base size, node.IsMemory base size →
    result.memoryBase = some base ∧ result.memorySize = some size
  plic : ∀ node, root.Contains node → ∀ base, node.IsPlic base → result.plicBase = some base

end DtNode

/-! ## Blobs of trees -/

/-- The items stand one after another, from an offset to another. -/
def FdtBlob.Standing (blob : FdtBlob) (strings structEnd : Nat) : Nat → List FdtItem → Nat → Prop
  | offset, [], last => offset = last
  | offset, item :: rest, last =>
      item.At blob strings offset ∧ item.behind (offset + 4) ≤ structEnd ∧
        Standing blob strings structEnd (item.behind (offset + 4)) rest last

def fdtEnd : Nat := 9

/-- The structure block lies in the blob and lists the items of the tree, with any number of
`FDT_NOP` in between, and `FDT_END` behind them. -/
structure FdtHeader.Describes (mem : ByteMemory) (header : FdtHeader) (root : DtNode)
    (items : List FdtItem) (last : Nat) : Prop where
  read : FdtHeader.read mem = some header
  inside : header.offDtStruct + header.sizeDtStruct ≤ header.totalsize
  standing : FdtBlob.Standing ⟨mem, header.totalsize⟩ header.offDtStrings
    (header.offDtStruct + header.sizeDtStruct) header.offDtStruct items last
  listed : items.filter (· ≠ .nop) = root.items
  room : last + 4 ≤ header.offDtStruct + header.sizeDtStruct
  ends : wordAt mem last = fdtEnd

/-- A well-formed flattened tree.  The name of a root is empty. -/
def IsFlattened (mem : ByteMemory) (root : DtNode) : Prop :=
  root.name = [] ∧ ∃ header items last, FdtHeader.Describes mem header root items last

section Decidable

variable (blob : FdtBlob) (strings structEnd : Nat)

instance (offset : Nat) (name : List UInt8) : Decidable (blob.Named offset name) :=
  inferInstanceAs (Decidable (_ ∧ _ ∧ _))

instance (offset : Nat) (item : FdtItem) : Decidable (item.Body blob strings offset) :=
  match item with
  | .beginNode _ => inferInstanceAs (Decidable (_ ∧ _))
  | .endNode => isTrue trivial
  | .prop _ _ => inferInstanceAs (Decidable (_ ∧ _ ∧ _ ∧ _ ∧ _ ∧ _))
  | .nop => isTrue trivial

instance (offset : Nat) (item : FdtItem) : Decidable (item.At blob strings offset) :=
  decidable_of_iff
    (offset + 4 ≤ blob.totalsize ∧ wordAt blob.mem offset = item.token ∧
      item.Body blob strings (offset + 4))
    ⟨fun all => ⟨all.1, all.2.1, all.2.2⟩, fun here => ⟨here.inside, here.token, here.body⟩⟩

instance FdtBlob.decidableStanding : (offset : Nat) → (items : List FdtItem) → (last : Nat) →
    Decidable (blob.Standing strings structEnd offset items last)
  | offset, [], last => inferInstanceAs (Decidable (offset = last))
  | offset, item :: rest, last =>
      have := decidableStanding (item.behind (offset + 4)) rest last
      inferInstanceAs (Decidable (_ ∧ _ ∧ _))

end Decidable

/-! ## Under the root -/

/-- A property is not taken for one of the memory or the interrupt controller. -/
def FdtItem.Ordinary (opened : OpenNodes) : FdtItem → Prop
  | .prop _ _ => opened.kind ≠ .memory ∧ opened.kind ≠ .plic
  | _ => True

def OrdinaryItems : OpenNodes → List FdtItem → Prop
  | _, [] => True
  | opened, item :: rest => item.Ordinary opened ∧ OrdinaryItems (item.opens opened) rest

/-- The nodes that are open behind some items. -/
def opensAll (opened : OpenNodes) (items : List FdtItem) : OpenNodes :=
  items.foldl FdtItem.opens opened

/-- Ordinary items lead from some open nodes to others. -/
structure Passes (opened : OpenNodes) (items : List FdtItem) (later : OpenNodes) : Prop where
  ordinary : OrdinaryItems opened items
  opens : opensAll opened items = later

section Items

variable {opened middle later : OpenNodes} {first rest items : List FdtItem}

theorem ordinaryItems_append :
    OrdinaryItems opened (first ++ rest) ↔
      OrdinaryItems opened first ∧ OrdinaryItems (opensAll opened first) rest := by
  induction first generalizing opened with
  | nil => exact ⟨fun ordinary => ⟨trivial, ordinary⟩, And.right⟩
  | cons item others ih =>
      rw [List.cons_append, OrdinaryItems, OrdinaryItems, ih, and_assoc]
      exact Iff.rfl

theorem Passes.append (passes : Passes opened first middle) (others : Passes middle rest later) :
    Passes opened (first ++ rest) later where
  ordinary := by
    rw [ordinaryItems_append, passes.opens]
    exact ⟨passes.ordinary, others.ordinary⟩
  opens := by
    rw [opensAll, List.foldl_append]
    change opensAll (opensAll opened first) rest = later
    rw [passes.opens, others.opens]

theorem ordinaryItems_filter :
    OrdinaryItems opened (items.filter (· ≠ .nop)) ↔ OrdinaryItems opened items := by
  induction items generalizing opened with
  | nil => exact Iff.rfl
  | cons item others ih =>
      by_cases skips : item = .nop
      · rw [List.filter_cons_of_neg (by simpa using skips), OrdinaryItems, skips,
          ih]
        exact ⟨fun ordinary => ⟨trivial, ordinary⟩, And.right⟩
      · rw [List.filter_cons_of_pos (by simpa using skips), OrdinaryItems, OrdinaryItems,
          ih]

/-- The root is open. -/
def UnderRoot (opened : OpenNodes) : Prop := opened.getLast? = some []

theorem UnderRoot.kind (under : UnderRoot opened) : opened.kind = .possibleIommu := by
  rw [OpenNodes.kind, under]
  rfl

theorem UnderRoot.cons (under : UnderRoot opened) (name : List UInt8) :
    UnderRoot (name :: opened) := by
  cases opened with
  | nil => cases under
  | cons outer others => exact List.getLast?_cons_cons.trans under

theorem UnderRoot.properties (under : UnderRoot opened)
    (props : List (List UInt8 × List UInt8)) :
    Passes opened (props.map fun prop => .prop prop.1 prop.2) opened := by
  induction props with
  | nil => exact ⟨trivial, rfl⟩
  | cons prop others ih =>
      have ordinary : opened.kind ≠ .memory ∧ opened.kind ≠ .plic := by
        rw [under.kind]
        decide
      exact ⟨⟨ordinary, ih.ordinary⟩, ih.opens⟩

theorem passes_end (name : List UInt8) (opened : OpenNodes) :
    Passes (name :: opened) [.endNode] opened := ⟨⟨trivial, trivial⟩, rfl⟩

/-- A node is opened, some items stay in it, and it is closed. -/
theorem Passes.node (name : List UInt8) (passes : Passes (name :: opened) items (name :: opened)) :
    Passes opened (.beginNode name :: (items ++ [.endNode])) opened := by
  have inner := passes.append (passes_end name opened)
  exact ⟨⟨trivial, inner.ordinary⟩, inner.opens⟩

end Items

mutual

/-- All items of a node under the root are ordinary, and it is closed behind them. -/
theorem DtNode.passes_items (node : DtNode) {opened : OpenNodes} (under : UnderRoot opened) :
    Passes opened node.items opened := by
  match node with
  | .mk name props children =>
      have inner := under.cons name
      exact .node name ((inner.properties props).append (DtNode.passes_itemsOf children inner))

theorem DtNode.passes_itemsOf (nodes : List DtNode) {opened : OpenNodes}
    (under : UnderRoot opened) : Passes opened (DtNode.itemsOf nodes) opened := by
  match nodes with
  | [] => exact ⟨trivial, rfl⟩
  | node :: rest =>
      exact (DtNode.passes_items node under).append (DtNode.passes_itemsOf rest under)

end

/-- The properties of the root and all that is under it are ordinary. -/
theorem DtNode.root_ordinary {root : DtNode} (unnamed : root.name = []) :
    OrdinaryItems [] root.items := by
  cases root with
  | mk name props children =>
      obtain rfl : name = [] := unnamed
      have under : UnderRoot [[]] := rfl
      have inner := (under.properties props).append (DtNode.passes_itemsOf children under)
      exact (Passes.node [] inner).ordinary

/-! ## The result of the walk -/

/-- No memory and no interrupt controller was found. -/
structure DtDiscoveryResult.Blank (result : DtDiscoveryResult) : Prop where
  plicBase : result.plicBase = none
  memoryBase : result.memoryBase = none
  memorySize : result.memorySize = none

theorem iommuReach_le (value : List UInt8) : iommuReach value ≤ value.length := by
  induction value with
  | nil => exact Nat.le_refl 0
  | cons byte rest ih =>
      rw [iommuReach, List.length_cons]
      split
      · exact Nat.zero_le _
      · split <;> omega

theorem CurrentNode.looksAt_le (kind : CurrentNode) (name value : List UInt8) :
    kind.looksAt name value ≤ value.length := by
  cases kind with
  | none => exact Nat.zero_le _
  | memory =>
      rw [looksAt]
      split
      · next named => exact named.2
      · exact Nat.zero_le _
  | plic =>
      rw [looksAt]
      split
      · next named => exact named.2
      · exact Nat.zero_le _
  | possibleIommu =>
      rw [looksAt]
      split
      · exact iommuReach_le value
      · exact Nat.zero_le _

theorem DtDiscoveryResult.Blank.note {result : DtDiscoveryResult} (blank : result.Blank)
    {kind : CurrentNode} (ordinary : kind ≠ .memory ∧ kind ≠ .plic) (mem : ByteMemory)
    (valueOffset : Nat) (name : List UInt8) (len : Nat) :
    (result.note mem kind valueOffset name len).Blank := by
  cases kind with
  | none => exact blank
  | memory => exact absurd rfl ordinary.1
  | plic => exact absurd rfl ordinary.2
  | possibleIommu =>
      rw [DtDiscoveryResult.note]
      split
      · exact ⟨blank.plicBase, blank.memoryBase, blank.memorySize⟩
      · exact blank

theorem FdtItem.token_le (item : FdtItem) : item.token ≤ 4 := by
  cases item with
  | beginNode name => exact Nat.le_add_left 1 3
  | endNode => exact Nat.le_add_left 2 2
  | prop name value => exact Nat.le_add_left 3 1
  | nop => exact Nat.le_refl 4

namespace FdtWalk

variable {checks : Bool} {blob : FdtBlob} {walk : FdtWalk} {opened : OpenNodes}
  {item : FdtItem} {items : List FdtItem} {last offset : Nat}

theorem Blank_after (blank : walk.result.Blank) (tracks : walk.Tracks opened)
    (ordinary : item.Ordinary opened) (mem : ByteMemory) (offset : Nat) :
    (walk.after mem offset item).result.Blank := by
  cases item with
  | beginNode name =>
      change ((walk.moveTo _).enter name).result.Blank
      unfold enter
      split <;> exact blank
  | endNode =>
      change (walk.moveTo _).leave.result.Blank
      unfold leave
      split <;> exact blank
  | prop name value =>
      rw [FdtItem.Ordinary, ← tracks.current] at ordinary
      exact blank.note ordinary mem (offset + 8) name value.length
  | nop => exact blank

/-- The value of a property that stands in the structure block is in the blob. -/
theorem valueInside_of_behind {structEnd : Nat} (kind : CurrentNode)
    (behind : item.behind offset ≤ structEnd) (inside : structEnd ≤ blob.totalsize) :
    item.ValueInside blob kind offset := by
  cases item with
  | prop name value =>
      intro _
      have part := kind.looksAt_le name value
      rw [FdtItem.behind] at behind
      rw [FdtItem.looksAt]
      omega
  | beginNode name => exact fun looks => absurd looks (Nat.lt_irrefl 0)
  | endNode => exact fun looks => absurd looks (Nat.lt_irrefl 0)
  | nop => exact fun looks => absurd looks (Nat.lt_irrefl 0)

/-- Ordinary items that stand in the blob are walked without finding anything. -/
theorem completes_of_standing (small : blob.totalsize < 2 ^ 32)
    (inside : walk.walker.structEnd ≤ blob.totalsize)
    (standing : blob.Standing walk.walker.stringsStart walk.walker.structEnd walk.offset items last)
    (room : last + 4 ≤ walk.walker.structEnd) (ends : wordAt blob.mem last = fdtEnd)
    (ordinary : OrdinaryItems opened items) (tracks : walk.Tracks opened)
    (blank : walk.result.Blank) :
    ∃ result, CursorLoop.Completes (iterate checks blob) FdtWalk.offset walk result ∧
      result.Blank := by
  induction items generalizing walk opened with
  | nil =>
      obtain rfl : walk.offset = last := standing
      have other : ∀ item : FdtItem, wordAt blob.mem walk.offset ≠ item.token := by
        intro item same
        have known := item.token_le
        rw [← same, ends] at known
        revert known
        decide
      exact ⟨walk.result, .done (iterate_stop small (by omega) (by omega) other), blank⟩
  | cons item rest ih =>
      obtain ⟨here, behind, others⟩ := standing
      have forward := le_behind (walk.offset + 4) item
      have before : walk.offset < walk.walker.structEnd := by omega
      have value := @valueInside_of_behind blob item _ _ walk.current behind inside
      have bounds := @bounds_after walk item blob.mem (walk.offset + 4)
      obtain ⟨result, completes, isBlank⟩ :=
        @ih (walk.after blob.mem (walk.offset + 4) item) (item.opens opened)
          (by rw [bounds.1]; exact inside) (by rw [bounds.1, bounds.2, offset_after]; exact others)
          (by rw [bounds.1]; exact room) ordinary.2 (tracks.after _ _ _)
          (Blank_after blank tracks ordinary.1 _ _)
      refine ⟨result, .again (iterate_item small before here value) ?_ completes, isBlank⟩
      rw [offset_after]
      omega

end FdtWalk

/-- `walk_device_tree` returns the result. -/
def WalkReturns (checks : Bool) (mem : ByteMemory) (result : DtDiscoveryResult) : Prop :=
  ∃ fuel, walkDeviceTree checks mem fuel = some (.ok result)

theorem WalkReturns.unique {checks : Bool} {mem : ByteMemory} {result other : DtDiscoveryResult}
    (returns : WalkReturns checks mem result) (again : WalkReturns checks mem other) :
    result = other := by
  obtain ⟨fuel, first⟩ := returns
  obtain ⟨more, second⟩ := again
  unfold walkDeviceTree at first second
  cases read : FdtHeader.read mem with
  | none =>
      rw [read] at first second
      exact Except.ok.inj (Option.some.inj (first.symm.trans second))
  | some header =>
      simp only [read] at first second
      cases made : FdtWalker.new checks header with
      | error fault =>
          rw [made] at first
          cases first
      | ok walker =>
          simp only [made] at first second
          exact CursorLoop.run_unique first second

/-- A walk starts at the first item of the structure. -/
def FdtHeader.walker (header : FdtHeader) : FdtWalker where
  structStart := header.offDtStruct
  structEnd := header.offDtStruct + header.sizeDtStruct
  stringsStart := header.offDtStrings
  offset := header.offDtStruct

theorem FdtHeader.new_walker (checks : Bool) {header : FdtHeader}
    (fits : header.offDtStruct + header.sizeDtStruct < 2 ^ 32) :
    FdtWalker.new checks header = .ok header.walker :=
  (Checked.bind_of_ok (Checked.add_of_lt fits) _).trans rfl

/-- In a well-formed tree nothing is found. -/
theorem walk_finds_nothing {mem : ByteMemory} {root : DtNode} (flat : IsFlattened mem root)
    (checks : Bool) : ∃ result, WalkReturns checks mem result ∧ result.Blank := by
  obtain ⟨unnamed, header, items, last, describes⟩ := flat
  have small := FdtHeader.totalsize_lt describes.read
  have inside := describes.inside
  have made := @FdtHeader.new_walker checks header (by omega)
  have ordinary : OrdinaryItems [] items := by
    rw [← ordinaryItems_filter, describes.listed]
    exact DtNode.root_ordinary unnamed
  obtain ⟨result, completes, blank⟩ :=
    @FdtWalk.completes_of_standing checks ⟨mem, header.totalsize⟩ (.start header.walker) [] items last
      small inside describes.standing describes.room describes.ends ordinary
      (FdtWalk.tracks_start header.walker) ⟨rfl, rfl, rfl⟩
  obtain ⟨fuel, returns⟩ := completes.run
  refine ⟨result, ⟨fuel, ?_⟩, blank⟩
  rw [walkDeviceTree, describes.read]
  simp only [made]
  exact returns fuel (Nat.le_refl fuel)

/-! ## A tree with a memory node -/

def ramName : List UInt8 := memoryAt ++ ascii ['8', '0', '0', '0', '0', '0', '0', '0']

/-- 256 MiB of memory from `0x80000000` on. -/
def ramNode : DtNode :=
  .mk ramName [(regName, DtNode.twoCells 0x80000000 ++ DtNode.twoCells 0x10000000)] []

def ramTree : DtNode :=
  .mk [] [] [ramNode]

def ramBlob : ByteMemory :=
  memoryOf [
    0xd00dfeed, 112, 40, 108, 0, 17, 16, 0, 4, 68,
    1, 0,
    1, 0x6d656d6f, 0x72794038, 0x30303030, 0x30303000,
    3, 16, 0, 0, 0x80000000, 0, 0x10000000,
    2, 2, 9,
    0x72656700]

theorem ramTree_flattened : IsFlattened ramBlob ramTree := by
  refine ⟨rfl, ⟨0xd00dfeed, 112, 40, 108, 0, 17, 16, 0, 4, 68⟩, ramTree.items, 104, ?_⟩
  constructor
  · decide +kernel
  · decide +kernel
  · decide +kernel
  · decide +kernel
  · decide +kernel
  · decide +kernel

theorem ramNode_memory : ramNode.IsMemory 0x80000000 0x10000000 :=
  ⟨Or.inl (by decide +kernel), List.mem_cons_self⟩

/-- The memory node is not reported, and the kernel falls back on a default. -/
theorem ram_not_reported :
    IsFlattened ramBlob ramTree ∧
      ∃ result, WalkReturns true ramBlob result ∧ ¬ ramTree.Reports result := by
  obtain ⟨result, returns, blank⟩ := walk_finds_nothing ramTree_flattened true
  refine ⟨ramTree_flattened, result, returns, fun reports => ?_⟩
  have found := (reports.memory ramNode List.mem_cons_self _ _ ramNode_memory).1
  rw [blank.memoryBase] at found
  cases found

/-! ## What the walk reports -/

/-- The walk reports what the tree says exactly if the tree has no memory node and no interrupt
controller. -/
theorem walk_reports_iff {mem : ByteMemory} {root : DtNode} (flat : IsFlattened mem root)
    (checks : Bool) :
    (∃ result, WalkReturns checks mem result ∧ root.Reports result) ↔
      (∀ node ∈ root.children, ∀ base size, ¬ node.IsMemory base size) ∧
        ∀ node, root.Contains node → ∀ base, ¬ node.IsPlic base := by
  obtain ⟨result, returns, blank⟩ := walk_finds_nothing flat checks
  constructor
  · rintro ⟨other, again, reports⟩
    obtain rfl := returns.unique again
    constructor
    · intro node member base size isMemory
      have found := (reports.memory node member base size isMemory).1
      rw [blank.memoryBase] at found
      cases found
    · intro node contained base isPlic
      have found := reports.plic node contained base isPlic
      rw [blank.plicBase] at found
      cases found
  · rintro ⟨noMemory, noPlic⟩
    refine ⟨result, returns, ?_, ?_⟩
    · intro node member base size isMemory
      exact absurd isMemory (noMemory node member base size)
    · intro node contained base isPlic
      exact absurd isPlic (noPlic node contained base)

theorem walk_reports_iff_ram :
    IsFlattened ramBlob ramTree ∧
      ((∃ result, WalkReturns false ramBlob result ∧ ramTree.Reports result) ↔
        (∀ node ∈ ramTree.children, ∀ base size, ¬ node.IsMemory base size) ∧
          ∀ node, ramTree.Contains node → ∀ base, ¬ node.IsPlic base) :=
  ⟨ramTree_flattened, walk_reports_iff ramTree_flattened false⟩

end Simurgh
