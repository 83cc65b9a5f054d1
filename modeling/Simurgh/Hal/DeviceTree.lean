import Simurgh.Lib.CheckedRead
import Simurgh.Lib.CursorLoop

/-!
# The walk over the device tree

The firmware leaves a flattened device tree in memory.  Its structure block is a sequence of
tokens, which the walk reads one after another, and it keeps what it finds in the nodes for
memory, interrupts and address translation.  Addresses count from the start of the blob.
-/

namespace Simurgh

/-! ## The blob -/

/-- The first byte of a number is its highest. -/
def bigEndian (bytes : List UInt8) : Nat := Bytes.decode bytes.reverse

def wordAt (mem : ByteMemory) (offset : Nat) : Nat := bigEndian (mem.read offset 4)

def fdtMagic : Nat := 0xd00dfeed

structure FdtHeader where
  magic : Nat
  totalsize : Nat
  offDtStruct : Nat
  offDtStrings : Nat
  offMemRsvmap : Nat
  version : Nat
  lastCompVersion : Nat
  bootCpuidPhys : Nat
  sizeDtStrings : Nat
  sizeDtStruct : Nat
  deriving DecidableEq, Repr

def FdtHeader.read (mem : ByteMemory) : Option FdtHeader :=
  let header : FdtHeader := {
    magic := wordAt mem 0
    totalsize := wordAt mem 4
    offDtStruct := wordAt mem 8
    offDtStrings := wordAt mem 12
    offMemRsvmap := wordAt mem 16
    version := wordAt mem 20
    lastCompVersion := wordAt mem 24
    bootCpuidPhys := wordAt mem 28
    sizeDtStrings := wordAt mem 32
    sizeDtStruct := wordAt mem 36 }
  if header.magic ≠ fdtMagic then none else some header

def fdtBeginNode : Nat := 1
def fdtEndNode : Nat := 2
def fdtProp : Nat := 3
def fdtNop : Nat := 4

structure FdtWalker where
  structStart : Nat
  structEnd : Nat
  stringsStart : Nat
  offset : Nat
  deriving DecidableEq, Repr

def FdtWalker.new (checks : Bool) (header : FdtHeader) : Checked FdtWalker := do
  let structEnd ← Checked.add 32 checks header.offDtStruct header.sizeDtStruct
  return {
    structStart := header.offDtStruct
    structEnd
    stringsStart := header.offDtStrings
    offset := header.offDtStruct }

/-- A memory in which the first bytes are the blob. -/
structure FdtBlob where
  mem : ByteMemory
  totalsize : Nat

namespace FdtBlob

variable (blob : FdtBlob)

def readU32At (offset : Nat) : Checked Nat := do
  let raw ← Checked.readBytes blob.mem 0 blob.totalsize offset 4
  return bigEndian raw

/-- Look for a zero in so many bytes from an offset on. -/
def readCstrFrom : (left offset : Nat) → Checked (List UInt8)
  | 0, _ => .error .outside
  | left + 1, offset =>
      if blob.mem offset = 0 then return []
      else do
        let rest ← readCstrFrom left (offset + 1)
        return blob.mem offset :: rest

/-- The bytes before the next zero, which is in the blob. -/
def readCstrAt (offset : Nat) : Checked (List UInt8) :=
  blob.readCstrFrom (blob.totalsize - offset) offset

end FdtBlob

/-- `(self.offset + 3) & !3`. -/
def alignOffset (checks : Bool) (offset : Nat) : Checked Nat := do
  let sum ← Checked.add 32 checks offset 3
  return sum / 4 * 4

/-! ## The walk -/

structure DtDiscoveryResult where
  plicBase : Option Nat
  iommuPresent : Bool
  memoryBase : Option Nat
  memorySize : Option Nat
  deriving DecidableEq, Repr

def DtDiscoveryResult.default : DtDiscoveryResult where
  plicBase := none
  iommuPresent := false
  memoryBase := none
  memorySize := none

inductive CurrentNode where
  | none
  | memory
  | plic
  | possibleIommu
  deriving DecidableEq, Repr

def ascii (text : List Char) : List UInt8 := text.map fun c => UInt8.ofNat c.toNat

def memoryName : List UInt8 := ascii ['m', 'e', 'm', 'o', 'r', 'y']
def memoryAt : List UInt8 := ascii ['m', 'e', 'm', 'o', 'r', 'y', '@']
def plicAt : List UInt8 := ascii ['p', 'l', 'i', 'c', '@']
def regName : List UInt8 := ascii ['r', 'e', 'g']
def compatibleName : List UInt8 := ascii ['c', 'o', 'm', 'p', 'a', 't', 'i', 'b', 'l', 'e']
def iommuName : List UInt8 := ascii ['i', 'o', 'm', 'm', 'u']

/-- What a node is taken for. -/
def CurrentNode.ofName (name : List UInt8) : CurrentNode :=
  if memoryAt.isPrefixOf name || name == memoryName then .memory
  else if plicAt.isPrefixOf name then .plic
  else .possibleIommu

/-- `compat.windows(5).any(|w| w == b"iommu")` for so many bytes from an offset on, which reads
one window after another until one is found. -/
def FdtBlob.anyIommu (blob : FdtBlob) : (len offset : Nat) → Checked Bool
  | 0, _ => return false
  | len + 1, offset =>
      if len + 1 < 5 then return false
      else do
        let window ← Checked.readBytes blob.mem 0 blob.totalsize offset 5
        if window = iommuName then return true
        else anyIommu blob len (offset + 1)

/-- The variables of the loop.  A depth stays far below `i32::MAX`, as every token has four
bytes. -/
structure FdtWalk where
  walker : FdtWalker
  current : CurrentNode
  currentDepth : Int
  depth : Int
  result : DtDiscoveryResult

namespace FdtWalk

def start (walker : FdtWalker) : FdtWalk where
  walker := walker
  current := .none
  currentDepth := -1
  depth := 0
  result := .default

def offset (walk : FdtWalk) : Nat := walk.walker.offset

def moveTo (walk : FdtWalk) (offset : Nat) : FdtWalk :=
  { walk with walker := { walk.walker with offset } }

/-- The node of a name is entered. -/
def enter (walk : FdtWalk) (name : List UInt8) : FdtWalk :=
  let depth := walk.depth + 1
  if walk.current = .none then
    { walk with depth, current := .ofName name, currentDepth := depth }
  else { walk with depth }

def leave (walk : FdtWalk) : FdtWalk :=
  if walk.depth = walk.currentDepth then
    { walk with current := .none, currentDepth := -1, depth := walk.depth - 1 }
  else { walk with depth := walk.depth - 1 }

/-- Two words, the high one first. -/
def readPair (checks : Bool) (blob : FdtBlob) (offset : Nat) : Checked Nat := do
  let high ← blob.readU32At offset
  let next ← Checked.add 32 checks offset 4
  let low ← blob.readU32At next
  return high <<< 32 ||| low

/-- What a property of the current node adds to the result. -/
def readValue (checks : Bool) (blob : FdtBlob) (walk : FdtWalk) (name : List UInt8)
    (valueOffset len : Nat) : Checked DtDiscoveryResult :=
  match walk.current with
  | .memory =>
      if name = regName ∧ 16 ≤ len then do
        let base ← readPair checks blob valueOffset
        let sizeOffset ← Checked.add 32 checks valueOffset 8
        let size ← readPair checks blob sizeOffset
        return { walk.result with memoryBase := some base, memorySize := some size }
      else return walk.result
  | .plic =>
      if name = regName ∧ 8 ≤ len then do
        let base ← readPair checks blob valueOffset
        return { walk.result with plicBase := some base }
      else return walk.result
  | .possibleIommu =>
      if name = compatibleName then do
        let found ← blob.anyIommu len valueOffset
        return { walk.result with iommuPresent := found || walk.result.iommuPresent }
      else return walk.result
  | .none => return walk.result

/-- `FDT_BEGIN_NODE`, behind the token. -/
def beginNode (checks : Bool) (blob : FdtBlob) (walk : FdtWalk) : Checked FdtWalk := do
  let name ← blob.readCstrAt walk.offset
  let size ← Checked.add 32 checks name.length 1
  let sum ← Checked.add 32 checks walk.offset size
  let offset ← alignOffset checks sum
  return (walk.moveTo offset).enter name

/-- `FDT_PROP`, behind the token. -/
def property (checks : Bool) (blob : FdtBlob) (walk : FdtWalk) : Checked FdtWalk := do
  let len ← blob.readU32At walk.offset
  let nameoffAt ← Checked.add 32 checks walk.offset 4
  let nameoff ← blob.readU32At nameoffAt
  let valueOffset ← Checked.add 32 checks walk.offset 8
  let sum ← Checked.add 32 checks valueOffset len
  let offset ← alignOffset checks sum
  let nameAt ← Checked.add 32 checks walk.walker.stringsStart nameoff
  let name ← blob.readCstrAt nameAt
  let result ← readValue checks blob walk name valueOffset len
  return { walk.moveTo offset with result }

/-- One iteration of the loop. -/
def iterate (checks : Bool) (blob : FdtBlob) (walk : FdtWalk) :
    Checked (Iteration FdtWalk DtDiscoveryResult) :=
  if walk.walker.structEnd ≤ walk.offset then return .done walk.result
  else do
    let token ← blob.readU32At walk.offset
    let offset ← Checked.add 32 checks walk.offset 4
    let walk := walk.moveTo offset
    if token = fdtBeginNode then do
      let later ← beginNode checks blob walk
      return .again later
    else if token = fdtEndNode then return .again walk.leave
    else if token = fdtProp then do
      let later ← property checks blob walk
      return .again later
    else if token = fdtNop then return .again walk
    -- `FDT_END`, or a token that is not known.
    else return .done walk.result

end FdtWalk

/-- `walk_device_tree`, for so many iterations. -/
def walkDeviceTree (checks : Bool) (mem : ByteMemory) (fuel : Nat) :
    Option (Checked DtDiscoveryResult) :=
  match FdtHeader.read mem with
  | none => some (.ok .default)
  | some header =>
      match FdtWalker.new checks header with
      | .error fault => some (.error fault)
      | .ok walker =>
          CursorLoop.run (FdtWalk.iterate checks ⟨mem, header.totalsize⟩) fuel (.start walker)

end Simurgh
