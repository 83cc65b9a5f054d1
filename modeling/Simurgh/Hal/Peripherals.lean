import Simurgh.Core.Boot
import Simurgh.Hal.DeviceTreeNodes

/-!
# The walk that looks for peripherals

A second walk over the device tree looks for the nodes of the virtio slots.  It keeps one current
node, and what it has read of that node's registers and interrupt, and it asks the slot for its
device when it leaves the node.
-/

namespace Simurgh

/-! ## The slots -/

/-- `MAX_PERIPHERAL_DEVICES`. -/
def maxScan : Nat := 32

/-- `"virt"`. -/
def virtioMmioMagic : Nat := 0x74726976

def classifyDeviceId : Nat → Option PeripheralKind
  | 0 => none
  | 1 => some .network
  | 2 => some .block
  | 3 => some .console
  | 16 => some .gpu
  | _ => some .unknown

/-- The words of physical memory.  The registers of a slot do not go beyond the last address. -/
structure VirtioSlots where
  read32 : Nat → Nat
  window : ∀ base, read32 base = virtioMmioMagic → base + 8 < 2 ^ 64

namespace VirtioSlots

variable (checks : Bool) (slots : VirtioSlots)

/-- `probe_virtio_slot`. -/
def probe (mmioBase : Nat) : Checked (Option PeripheralKind) := do
  let magicAt ← Checked.add 64 checks mmioBase 0x000
  if slots.read32 magicAt ≠ virtioMmioMagic then return none
  else do
    let deviceIdAt ← Checked.add 64 checks mmioBase 0x008
    return classifyDeviceId (slots.read32 deviceIdAt)

end VirtioSlots

/-- `PeripheralDeviceRaw::new`. -/
def PeripheralDevice.new (kind : PeripheralKind) (mmioBase mmioSize irq : Nat) :
    PeripheralDevice where
  kind
  mmioBase
  mmioSize
  irq
  configSpaceBase := 0

/-! ## The walk -/

def virtioMmioAt : List UInt8 :=
  ascii ['v', 'i', 'r', 't', 'i', 'o', '_', 'm', 'm', 'i', 'o', '@']

def interruptsName : List UInt8 := ascii ['i', 'n', 't', 'e', 'r', 'r', 'u', 'p', 't', 's']

/-- What was read of the current node. -/
structure CurrentSlot where
  curBase : Option Nat
  curSize : Option Nat
  curIrq : Option Nat
  deriving DecidableEq, Repr

namespace CurrentSlot

def unread : CurrentSlot where
  curBase := none
  curSize := none
  curIrq := none

/-- The device of the current node, if its slot has one. -/
def probed (checks : Bool) (slots : VirtioSlots) (slot : CurrentSlot) :
    Checked (Option PeripheralDevice) :=
  match slot.curBase, slot.curSize with
  | some base, some size => do
      let kind ← slots.probe checks base
      return kind.map fun kind => .new kind base size (slot.curIrq.getD 0)
  | _, _ => return none

/-- What a property adds. -/
def readValue (checks : Bool) (blob : FdtBlob) (slot : CurrentSlot) (name : List UInt8)
    (valueOffset len : Nat) : Checked CurrentSlot :=
  if name = regName ∧ 16 ≤ len then do
    let base ← FdtWalk.readPair checks blob valueOffset
    let sizeOffset ← Checked.add 32 checks valueOffset 8
    let size ← FdtWalk.readPair checks blob sizeOffset
    return { slot with curBase := some base, curSize := some size }
  else if name = interruptsName ∧ 4 ≤ len then do
    let irq ← blob.readU32At valueOffset
    return { slot with curIrq := some irq }
  else return slot

end CurrentSlot

/-- The variables of the loop other than the walker.  A depth stays far below `i32::MAX`, as every
token has four bytes. -/
structure PeripheralScan where
  inVirtioNode : Bool
  nodeDepth : Int
  depth : Int
  current : CurrentSlot
  devices : List PeripheralDevice
  deriving DecidableEq, Repr

namespace PeripheralScan

def start : PeripheralScan where
  inVirtioNode := false
  nodeDepth := -1
  depth := 0
  current := .unread
  devices := []

/-- The node of a name is entered. -/
def enter (scan : PeripheralScan) (name : List UInt8) : PeripheralScan :=
  let depth := scan.depth + 1
  if scan.inVirtioNode = false ∧ virtioMmioAt.isPrefixOf name then
    { scan with depth, inVirtioNode := true, nodeDepth := depth, current := .unread }
  else { scan with depth }

def leave (checks : Bool) (slots : VirtioSlots) (scan : PeripheralScan) :
    Checked PeripheralScan :=
  if scan.inVirtioNode = true ∧ scan.depth = scan.nodeDepth then do
    let device ← scan.current.probed checks slots
    return { scan with
      devices := scan.devices ++ device.toList
      inVirtioNode := false
      nodeDepth := -1
      depth := scan.depth - 1 }
  else return { scan with depth := scan.depth - 1 }

end PeripheralScan

structure PeripheralWalk where
  walker : FdtWalker
  scan : PeripheralScan

namespace PeripheralWalk

def offset (walk : PeripheralWalk) : Nat := walk.walker.offset

def moveTo (walk : PeripheralWalk) (offset : Nat) : PeripheralWalk :=
  { walk with walker := { walk.walker with offset } }

/-- `FDT_BEGIN_NODE`, behind the token. -/
def beginNode (checks : Bool) (blob : FdtBlob) (walk : PeripheralWalk) :
    Checked PeripheralWalk := do
  let name ← blob.readCstrAt walk.offset
  let size ← Checked.add 32 checks name.length 1
  let sum ← Checked.add 32 checks walk.offset size
  let offset ← alignOffset checks sum
  return { walk.moveTo offset with scan := walk.scan.enter name }

/-- `FDT_PROP`, behind the token. -/
def property (checks : Bool) (blob : FdtBlob) (walk : PeripheralWalk) :
    Checked PeripheralWalk := do
  let len ← blob.readU32At walk.offset
  let nameoffAt ← Checked.add 32 checks walk.offset 4
  let nameoff ← blob.readU32At nameoffAt
  let valueOffset ← Checked.add 32 checks walk.offset 8
  let sum ← Checked.add 32 checks valueOffset len
  let offset ← alignOffset checks sum
  if walk.scan.inVirtioNode then do
    let nameAt ← Checked.add 32 checks walk.walker.stringsStart nameoff
    let name ← blob.readCstrAt nameAt
    let current ← walk.scan.current.readValue checks blob name valueOffset len
    return { walk.moveTo offset with scan := { walk.scan with current } }
  else return walk.moveTo offset

/-- One iteration of the loop. -/
def iterate (checks : Bool) (slots : VirtioSlots) (blob : FdtBlob) (walk : PeripheralWalk) :
    Checked (Iteration PeripheralWalk (List PeripheralDevice)) :=
  if walk.walker.structEnd ≤ walk.offset ∨ maxScan ≤ walk.scan.devices.length then
    return .done walk.scan.devices
  else do
    let token ← blob.readU32At walk.offset
    let offset ← Checked.add 32 checks walk.offset 4
    let walk := walk.moveTo offset
    if token = fdtBeginNode then do
      let later ← beginNode checks blob walk
      return .again later
    else if token = fdtEndNode then do
      let scan ← walk.scan.leave checks slots
      return .again { walk with scan }
    else if token = fdtProp then do
      let later ← property checks blob walk
      return .again later
    else if token = fdtNop then return .again walk
    -- `FDT_END`, or a token that is not known.
    else return .done walk.scan.devices

end PeripheralWalk

/-- `discover_virtio_mmio_devices`, for so many iterations. -/
def discoverVirtioMmioDevices (checks : Bool) (slots : VirtioSlots) (mem : ByteMemory)
    (fuel : Nat) : Option (Checked (List PeripheralDevice)) :=
  match FdtHeader.read mem with
  | none => some (.ok [])
  | some header =>
      match FdtWalker.new checks header with
      | .error fault => some (.error fault)
      | .ok walker =>
          CursorLoop.run (PeripheralWalk.iterate checks slots ⟨mem, header.totalsize⟩) fuel
            ⟨walker, .start⟩

/-! ## Cells -/

/-- A cell of a value, which has four bytes. -/
def cell (value : List UInt8) (index : Nat) : Nat := bigEndian ((value.drop (4 * index)).take 4)

/-- A number of two cells, the high one first. -/
def cellPair (value : List UInt8) (index : Nat) : Nat :=
  cell value index * 2 ^ 32 + cell value (index + 1)

theorem bigEndian_lt {bytes : List UInt8} (width : Nat) (short : bytes.length ≤ width) :
    bigEndian bytes < 256 ^ width := by
  have bound := Bytes.decode_lt bytes.reverse
  rw [List.length_reverse] at bound
  exact bound.trans_le (Nat.pow_le_pow_right (by decide) short)

theorem cell_lt (value : List UInt8) (index : Nat) : cell value index < 2 ^ 32 :=
  bigEndian_lt 4 (List.length_take_le 4 _)

theorem cellPair_lt (value : List UInt8) (index : Nat) : cellPair value index < 2 ^ 64 := by
  have high := cell_lt value index
  have low := cell_lt value (index + 1)
  rw [cellPair]
  omega

section Reading

variable {mem : ByteMemory} {addr len : Nat} (index : Nat)

theorem wordAt_eq_cell (inside : 4 * index + 4 ≤ len) :
    wordAt mem (addr + 4 * index) = cell (mem.read addr len) index := by
  obtain ⟨rest, rfl⟩ := Nat.exists_eq_add_of_le inside
  rw [cell, Nat.add_assoc, ByteMemory.drop_read, wordAt, ByteMemory.read, ByteMemory.read,
    ← List.map_take, List.take_range, Nat.min_eq_left (Nat.le_add_right 4 rest)]

theorem pairAt_eq_cellPair (inside : 4 * index + 8 ≤ len) :
    pairAt mem (addr + 4 * index) = cellPair (mem.read addr len) index := by
  have high : wordAt mem (addr + 4 * index) = cell (mem.read addr len) index :=
    wordAt_eq_cell index (by omega)
  have low : wordAt mem (addr + 4 * index + 4) = cell (mem.read addr len) (index + 1) :=
    wordAt_eq_cell (index + 1) (by omega)
  rw [pairAt, cellPair, high, low, ← Nat.shiftLeft_add_eq_or_of_lt (cell_lt _ _),
    Nat.shiftLeft_eq]

end Reading

/-! ## One item -/

namespace VirtioSlots

variable {checks : Bool} (slots : VirtioSlots) {base : Nat}

/-- What a slot answers. -/
def kindAt (base : Nat) : Option PeripheralKind :=
  if slots.read32 base = virtioMmioMagic then classifyDeviceId (slots.read32 (base + 8)) else none

theorem probe_eq (small : base < 2 ^ 64) : slots.probe checks base = .ok (slots.kindAt base) := by
  rw [probe, kindAt, Checked.bind_of_ok (Checked.add_of_lt small), Nat.add_zero]
  by_cases answers : slots.read32 base = virtioMmioMagic
  · rw [if_neg (not_not_intro answers), if_pos answers,
      Checked.bind_of_ok (Checked.add_of_lt (slots.window base answers))]
    rfl
  · rw [if_pos answers, if_neg answers]
    rfl

end VirtioSlots

namespace CurrentSlot

variable {checks : Bool} (slots : VirtioSlots) (slot : CurrentSlot)

def device : Option PeripheralDevice :=
  match slot.curBase, slot.curSize with
  | some base, some size =>
      (slots.kindAt base).map fun kind => .new kind base size (slot.curIrq.getD 0)
  | _, _ => none

def note (name value : List UInt8) : CurrentSlot :=
  if name = regName ∧ 16 ≤ value.length then
    { slot with curBase := some (cellPair value 0), curSize := some (cellPair value 2) }
  else if name = interruptsName ∧ 4 ≤ value.length then
    { slot with curIrq := some (cell value 0) }
  else slot

/-- The base is a word. -/
def Bounded : Prop := ∀ base, slot.curBase = some base → base < 2 ^ 64

variable {slots slot}

theorem bounded_unread : unread.Bounded := fun _ absent => nomatch absent

theorem Bounded.note (bounded : slot.Bounded) (name value : List UInt8) :
    (slot.note name value).Bounded := by
  rw [CurrentSlot.note]
  split
  · intro base same
    obtain rfl := Option.some.inj same
    exact cellPair_lt value 0
  · split <;> exact bounded

theorem probed_eq (bounded : slot.Bounded) :
    slot.probed checks slots = .ok (slot.device slots) := by
  rw [probed, device]
  cases isBase : slot.curBase with
  | none => rfl
  | some base =>
      cases slot.curSize with
      | none => rfl
      | some size =>
          dsimp only
          rw [Checked.bind_of_ok (slots.probe_eq (bounded base isBase))]
          rfl

theorem readValue_eq {blob : FdtBlob} {name value : List UInt8} {offset : Nat}
    (stored : blob.mem.read offset value.length = value)
    (inside : offset + value.length ≤ blob.totalsize) (small : blob.totalsize < 2 ^ 32) :
    slot.readValue checks blob name offset value.length = .ok (slot.note name value) := by
  rw [readValue, note]
  by_cases isReg : name = regName ∧ 16 ≤ value.length
  · have long := isReg.2
    have base : pairAt blob.mem offset = cellPair value 0 := by
      rw [← stored]
      exact pairAt_eq_cellPair 0 (by omega)
    have size : pairAt blob.mem (offset + 8) = cellPair value 2 := by
      rw [← stored]
      exact pairAt_eq_cellPair 2 (by omega)
    rw [if_pos isReg, if_pos isReg,
      Checked.bind_of_ok ((FdtWalk.readPair_eq_ok (by omega)).2 ⟨by omega, base⟩),
      Checked.bind_of_ok (Checked.add_of_lt (by omega)),
      Checked.bind_of_ok ((FdtWalk.readPair_eq_ok (by omega)).2 ⟨by omega, size⟩)]
    rfl
  · rw [if_neg isReg, if_neg isReg]
    by_cases isIrq : name = interruptsName ∧ 4 ≤ value.length
    · have long := isIrq.2
      have irq : wordAt blob.mem offset = cell value 0 := by
        rw [← stored]
        exact wordAt_eq_cell 0 (by omega)
      rw [if_pos isIrq, if_pos isIrq,
        Checked.bind_of_ok (FdtBlob.readU32At_eq_ok.2 ⟨by omega, irq⟩)]
      rfl
    · rw [if_neg isIrq, if_neg isIrq]
      rfl

end CurrentSlot

namespace PeripheralScan

variable {checks : Bool} (slots : VirtioSlots) (scan : PeripheralScan)

def close : PeripheralScan :=
  if scan.inVirtioNode = true ∧ scan.depth = scan.nodeDepth then
    { scan with
      devices := scan.devices ++ (scan.current.device slots).toList
      inVirtioNode := false
      nodeDepth := -1
      depth := scan.depth - 1 }
  else { scan with depth := scan.depth - 1 }

/-- The variables behind an item. -/
def after : FdtItem → PeripheralScan
  | .beginNode name => scan.enter name
  | .endNode => scan.close slots
  | .prop name value =>
      if scan.inVirtioNode then { scan with current := scan.current.note name value } else scan
  | .nop => scan

variable {slots scan}

theorem leave_eq (bounded : scan.current.Bounded) :
    scan.leave checks slots = .ok (scan.close slots) := by
  rw [leave, close]
  split
  · rw [Checked.bind_of_ok (CurrentSlot.probed_eq bounded)]
    rfl
  · rfl

theorem bounded_after (bounded : scan.current.Bounded) (item : FdtItem) :
    (scan.after slots item).current.Bounded := by
  cases item with
  | beginNode name =>
      rw [after, enter]
      split
      · exact CurrentSlot.bounded_unread
      · exact bounded
  | endNode =>
      rw [after, close]
      split <;> exact bounded
  | prop name value =>
      rw [after]
      split
      · exact bounded.note name value
      · exact bounded
  | nop => exact bounded

/-- An item adds one device at most. -/
theorem devices_after (item : FdtItem) :
    ∃ found : Option PeripheralDevice,
      (scan.after slots item).devices = scan.devices ++ found.toList := by
  have none : scan.devices = scan.devices ++ (none : Option PeripheralDevice).toList :=
    (List.append_nil _).symm
  cases item with
  | beginNode name =>
      refine ⟨_, Eq.trans ?_ none⟩
      rw [after, enter]
      split <;> rfl
  | endNode =>
      rw [after, close]
      split
      · exact ⟨_, rfl⟩
      · exact ⟨_, none⟩
  | prop name value =>
      refine ⟨_, Eq.trans ?_ none⟩
      rw [after]
      split <;> rfl
  | nop => exact ⟨_, none⟩

end PeripheralScan

namespace PeripheralWalk

variable {checks : Bool} {slots : VirtioSlots} {blob : FdtBlob} {walk : PeripheralWalk}
  {item : FdtItem} {offset : Nat} {name value : List UInt8}

/-- The walk behind an item whose token ends at the offset. -/
def after (slots : VirtioSlots) (walk : PeripheralWalk) (offset : Nat) (item : FdtItem) :
    PeripheralWalk :=
  { walk.moveTo (item.behind offset) with scan := walk.scan.after slots item }

theorem beginNode_of_body
    (body : (FdtItem.beginNode name).Body blob walk.walker.stringsStart offset) :
    beginNode checks blob (walk.moveTo offset) =
      .ok (walk.after slots offset (.beginNode name)) := by
  obtain ⟨named, fits⟩ := body
  have here : (walk.moveTo offset).offset = offset := rfl
  rw [beginNode, here, Checked.bind_of_ok (FdtBlob.readCstrAt_eq_ok.2 named),
    Checked.bind_of_ok (Checked.add_of_lt (by omega)),
    Checked.bind_of_ok (Checked.add_of_lt (by omega)), Checked.bind_of_ok (alignOffset_of_lt fits)]
  rfl

theorem property_of_body
    (body : (FdtItem.prop name value).Body blob walk.walker.stringsStart offset)
    (inside : offset + 8 + value.length ≤ blob.totalsize) (small : blob.totalsize < 2 ^ 32) :
    property checks blob (walk.moveTo offset) =
      .ok (walk.after slots offset (.prop name value)) := by
  obtain ⟨header, len, stored, fits, nameFits, named⟩ := body
  have here : (walk.moveTo offset).offset = offset := rfl
  have strings : (walk.moveTo offset).walker.stringsStart = walk.walker.stringsStart := rfl
  have scan : (walk.moveTo offset).scan = walk.scan := rfl
  rw [property, here, Checked.bind_of_ok (FdtBlob.readU32At_of_inside (by omega)), len,
    Checked.bind_of_ok (Checked.add_of_lt (by omega)),
    Checked.bind_of_ok (FdtBlob.readU32At_of_inside header),
    Checked.bind_of_ok (Checked.add_of_lt (by omega)),
    Checked.bind_of_ok (Checked.add_of_lt (by omega)),
    Checked.bind_of_ok (alignOffset_of_lt fits), strings, scan, after, PeripheralScan.after]
  by_cases current : walk.scan.inVirtioNode = true
  · rw [if_pos current, if_pos current, Checked.bind_of_ok (Checked.add_of_lt nameFits),
      Checked.bind_of_ok (FdtBlob.readCstrAt_eq_ok.2 named),
      Checked.bind_of_ok (CurrentSlot.readValue_eq stored inside small)]
    rfl
  · rw [if_neg current, if_neg current]
    rfl

/-! ## One iteration -/

theorem iterate_full (full : maxScan ≤ walk.scan.devices.length) :
    iterate checks slots blob walk = .ok (.done walk.scan.devices) := by
  rw [iterate, if_pos (Or.inr full)]
  rfl

section Goes

variable (small : blob.totalsize < 2 ^ 32) (before : walk.offset < walk.walker.structEnd)
  (room : walk.scan.devices.length < maxScan)

include small before room

theorem iterate_token (inside : walk.offset + 4 ≤ blob.totalsize) :
    iterate checks slots blob walk =
      if wordAt blob.mem walk.offset = fdtBeginNode then do
        let later ← beginNode checks blob (walk.moveTo (walk.offset + 4))
        return .again later
      else if wordAt blob.mem walk.offset = fdtEndNode then do
        let scan ← walk.scan.leave checks slots
        return .again { walk.moveTo (walk.offset + 4) with scan }
      else if wordAt blob.mem walk.offset = fdtProp then do
        let later ← property checks blob (walk.moveTo (walk.offset + 4))
        return .again later
      else if wordAt blob.mem walk.offset = fdtNop then
        return .again (walk.moveTo (walk.offset + 4))
      else return .done walk.scan.devices := by
  have goes : ¬ (walk.walker.structEnd ≤ walk.offset ∨ maxScan ≤ walk.scan.devices.length) := by
    omega
  rw [iterate, if_neg goes, Checked.bind_of_ok (FdtBlob.readU32At_of_inside inside),
    Checked.bind_of_ok (Checked.add_of_lt (by omega))]
  rfl

theorem iterate_item (bounded : walk.scan.current.Bounded)
    (here : item.At blob walk.walker.stringsStart walk.offset)
    (behind : item.behind (walk.offset + 4) ≤ walk.walker.structEnd)
    (inside : walk.walker.structEnd ≤ blob.totalsize) :
    iterate checks slots blob walk = .ok (.again (walk.after slots (walk.offset + 4) item)) := by
  rw [iterate_token small before room here.inside, here.token]
  cases item with
  | beginNode name =>
      change (beginNode checks blob (walk.moveTo (walk.offset + 4)) >>= _) = _
      rw [Checked.bind_of_ok (beginNode_of_body here.body)]
      rfl
  | endNode =>
      change (walk.scan.leave checks slots >>= _) = _
      rw [Checked.bind_of_ok (PeripheralScan.leave_eq bounded)]
      rfl
  | prop name bytes =>
      rw [FdtItem.behind] at behind
      change (property checks blob (walk.moveTo (walk.offset + 4)) >>= _) = _
      rw [Checked.bind_of_ok (property_of_body here.body (by omega) small)]
      rfl
  | nop => rfl

theorem iterate_end (inside : walk.offset + 4 ≤ blob.totalsize)
    (ends : wordAt blob.mem walk.offset = fdtEnd) :
    iterate checks slots blob walk = .ok (.done walk.scan.devices) := by
  rw [iterate_token small before room inside, ends]
  rfl

end Goes

end PeripheralWalk

/-! ## The whole loop -/

namespace PeripheralScan

variable {slots : VirtioSlots} {scan : PeripheralScan}

/-- The variables behind some items. -/
def afterAll (slots : VirtioSlots) (scan : PeripheralScan) (items : List FdtItem) :
    PeripheralScan :=
  items.foldl (PeripheralScan.after slots) scan

theorem afterAll_cons (item : FdtItem) (rest : List FdtItem) :
    scan.afterAll slots (item :: rest) = (scan.after slots item).afterAll slots rest := rfl

theorem afterAll_append (first rest : List FdtItem) :
    scan.afterAll slots (first ++ rest) = (scan.afterAll slots first).afterAll slots rest :=
  List.foldl_append

theorem afterAll_filter (items : List FdtItem) :
    scan.afterAll slots (items.filter (· ≠ .nop)) = scan.afterAll slots items := by
  induction items generalizing scan with
  | nil => rfl
  | cons item rest ih =>
      by_cases skips : item = .nop
      · rw [List.filter_cons_of_neg (by simpa using skips), skips]
        exact ih
      · rw [List.filter_cons_of_pos (by simpa using skips)]
        exact ih

theorem devices_afterAll (items : List FdtItem) :
    scan.devices <+: (scan.afterAll slots items).devices := by
  induction items generalizing scan with
  | nil => exact List.prefix_refl _
  | cons item rest ih =>
      obtain ⟨found, added⟩ := @devices_after slots scan item
      have later := @ih (scan.after slots item)
      rw [added] at later
      exact (List.prefix_append _ _).trans later

/-- Without room nothing is found any more. -/
theorem take_devices_afterAll (items : List FdtItem) (within : scan.devices.length ≤ maxScan)
    (full : maxScan ≤ scan.devices.length) :
    (scan.afterAll slots items).devices.take maxScan = scan.devices := by
  have all := List.prefix_iff_eq_take.1 (@devices_afterAll slots scan items)
  rw [Nat.le_antisymm within full] at all
  exact all.symm

theorem length_devices_after (item : FdtItem) :
    (scan.after slots item).devices.length ≤ scan.devices.length + 1 := by
  obtain ⟨found, added⟩ := @devices_after slots scan item
  rw [added, List.length_append]
  cases found with
  | none => exact Nat.le_succ _
  | some device => exact Nat.le_refl _

end PeripheralScan

namespace PeripheralWalk

variable {checks : Bool} {slots : VirtioSlots} {blob : FdtBlob} {walk : PeripheralWalk}

/-- The loop goes through the items as long as there is room. -/
theorem completes_of_standing {items : List FdtItem} {last : Nat}
    (small : blob.totalsize < 2 ^ 32) (inside : walk.walker.structEnd ≤ blob.totalsize)
    (standing : blob.Standing walk.walker.stringsStart walk.walker.structEnd walk.offset items last)
    (ending : last + 4 ≤ walk.walker.structEnd) (ends : wordAt blob.mem last = fdtEnd)
    (bounded : walk.scan.current.Bounded) (within : walk.scan.devices.length ≤ maxScan) :
    CursorLoop.Completes (iterate checks slots blob) PeripheralWalk.offset walk
      ((walk.scan.afterAll slots items).devices.take maxScan) := by
  induction items generalizing walk with
  | nil =>
      obtain rfl : walk.offset = last := standing
      rw [PeripheralScan.afterAll, List.foldl_nil, List.take_of_length_le within]
      rcases Nat.lt_or_ge walk.scan.devices.length maxScan with room | full
      · exact .done (iterate_end small (by omega) room (by omega) ends)
      · exact .done (iterate_full full)
  | cons item rest ih =>
      rcases Nat.lt_or_ge walk.scan.devices.length maxScan with room | full
      · obtain ⟨here, behind, others⟩ := standing
        have forward := FdtWalk.le_behind (walk.offset + 4) item
        have before : walk.offset < walk.walker.structEnd := by omega
        have most := @PeripheralScan.length_devices_after slots walk.scan item
        have later := @ih (walk.after slots (walk.offset + 4) item) inside others
          ending (PeripheralScan.bounded_after bounded item) (most.trans room)
        refine .again (iterate_item small before room bounded here behind inside) ?_ later
        exact Nat.lt_of_lt_of_le (Nat.lt_add_of_pos_right (by decide)) forward
      · rw [PeripheralScan.take_devices_afterAll _ within full]
        exact .done (iterate_full full)

end PeripheralWalk

/-- `discover_virtio_mmio_devices` returns the devices. -/
def DiscoveryReturns (checks : Bool) (slots : VirtioSlots) (mem : ByteMemory)
    (devices : List PeripheralDevice) : Prop :=
  ∃ fuel, discoverVirtioMmioDevices checks slots mem fuel = some (.ok devices)

theorem DiscoveryReturns.unique {checks : Bool} {slots : VirtioSlots} {mem : ByteMemory}
    {devices others : List PeripheralDevice} (returns : DiscoveryReturns checks slots mem devices)
    (again : DiscoveryReturns checks slots mem others) : devices = others := by
  obtain ⟨fuel, first⟩ := returns
  obtain ⟨more, second⟩ := again
  unfold discoverVirtioMmioDevices at first second
  cases read : FdtHeader.read mem with
  | none =>
      rw [read] at first second
      exact Except.ok.inj (Option.some.inj (first.symm.trans second))
  | some header =>
      simp only [read] at first second
      cases made : FdtWalker.new checks header with
      | error fault =>
          rw [made] at first
          cases first
      | ok walker =>
          simp only [made] at first second
          exact CursorLoop.run_unique first second

/-- In a well-formed tree the discovery goes through the items of the tree. -/
theorem discovery_returns {mem : ByteMemory} {root : DtNode} (flat : IsFlattened mem root)
    (checks : Bool) (slots : VirtioSlots) :
    DiscoveryReturns checks slots mem
      ((PeripheralScan.start.afterAll slots root.items).devices.take maxScan) := by
  obtain ⟨_, header, items, last, describes⟩ := flat
  have small := FdtHeader.totalsize_lt describes.read
  have inside := describes.inside
  have made := @FdtHeader.new_walker checks header (by omega)
  have completes :=
    @PeripheralWalk.completes_of_standing checks slots ⟨mem, header.totalsize⟩
      ⟨header.walker, .start⟩ items last small inside describes.standing describes.room describes.ends
      CurrentSlot.bounded_unread (Nat.zero_le _)
  rw [← describes.listed, PeripheralScan.afterAll_filter]
  obtain ⟨fuel, returns⟩ := completes.run
  refine ⟨fuel, ?_⟩
  rw [discoverVirtioMmioDevices, describes.read]
  simp only [made]
  exact returns fuel (Nat.le_refl fuel)

end Simurgh
