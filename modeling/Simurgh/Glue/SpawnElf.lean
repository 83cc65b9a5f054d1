import Simurgh.Core.Preempt
import Simurgh.Core.Spawn
import Simurgh.Elf.Segments
import Simurgh.Hal.EarlyTables
import Simurgh.Hal.Sv39Pages

/-!
# Processes from executables

`spawn_process_from_elf` copies the segments of an executable into frames that no one else has,
and maps them one after another into new tables.
-/

namespace Simurgh

/-! ## The code -/

/-- What a spawn works on.  Tables and contents are in different frames, and are kept apart. -/
structure Spawning where
  kernel : KernelState
  ram : ByteMemory
  tables : TableMemory
  /-- The frames of the pool that are tables. -/
  used : Nat

abbrev SpawnM (α : Type) : Type := Exec Spawning Unit α

namespace SpawnM

def onKernel {α : Type} (program : Exec KernelState SyscallError α) : SpawnM α :=
  Exec.zoom Spawning.kernel (fun kernel spawning => { spawning with kernel }) (fun _ => ())
    program

/-- `untyped_mut(0).alloc(4096, bytes)`. -/
def carve (bytes : Nat) : SpawnM Nat :=
  onKernel (KernelState.onUntyped 0 (UntypedMemory.alloc pageSize bytes))

/-- `left + right`, with or without overflow checks. -/
@[irreducible]
def add (checks : Bool) (left right : Nat) : SpawnM Nat :=
  Exec.expect (EarlyFormat.addU64 checks left right)

/-- `(n + 0xFFF) & !0xFFF`. -/
def round4k (checks : Bool) (n : Nat) : SpawnM Nat := do
  let sum ← add checks n 0xFFF
  return EarlyFormat.alignDown sum

end SpawnM

def poolPages : Nat := 32

/-- Where the tables of the new process are. -/
structure SpawnTables where
  rootPt : Nat
  pool : Nat
  deriving DecidableEq, Repr

/-- The arguments of a call of `map_range`, with the rest of the pool. -/
def SpawnTables.args (place : SpawnTables) (used vaddr paddr len perm : Nat) : MapArgs where
  rootFrame := place.rootPt
  vaddr := vaddr
  paddr := paddr
  len := len
  permBits := perm
  poolBase := place.pool + used * 4096
  poolLen := poolPages - used

/-- The closure `step`. -/
def SpawnTables.step (place : SpawnTables) (checks : Bool) (vaddr paddr len perm : Nat) :
    SpawnM Unit := do
  let spawning ← Exec.get
  let (n, tables) :=
    Sv39.mapRange (place.args spawning.used vaddr paddr len perm) spawning.tables
  Exec.modify fun spawning => { spawning with tables }
  Exec.guard (n != u32Max) ()
  -- `vaddr + p * 4096`, for the last page
  Exec.ensure (!checks || vaddr + len ≤ 2 ^ 64)
  Exec.modify fun spawning => { spawning with used := spawning.used + n }

def pfX : Nat := 1
def pfW : Nat := 2
def pfR : Nat := 4

/-- From the flags of a segment to `READ=1 | WRITE=2 | EXECUTE=4 | USER=8`. -/
def LoadSegment.perm (segment : LoadSegment) : Nat :=
  8 ||| (if segment.flags &&& pfR ≠ 0 then 1 else 0) |||
    (if segment.flags &&& pfW ≠ 0 then 2 else 0) |||
    (if segment.flags &&& pfX ≠ 0 then 4 else 0)

/-- One iteration of the loop over the segments. -/
def SpawnTables.loadSegment (place : SpawnTables) (checks : Bool) (elfBytes : List UInt8)
    (segment : LoadSegment) : SpawnM Unit := do
  let pageOff := segment.vaddr % 0x1000
  let alignedVaddr := segment.vaddr - pageOff
  let size ← SpawnM.add checks segment.memSize pageOff
  let memSize4k ← SpawnM.round4k checks size
  if memSize4k = 0 then return ()
  else
    let fileEnd ← Exec.okOr () (checkedAdd segment.fileOffset segment.fileSize)
    Exec.guard (decide (segment.fileSize ≤ segment.memSize ∧ fileEnd ≤ elfBytes.length)) ()
    let segPhys ← SpawnM.carve memSize4k
    Exec.modify fun spawning => { spawning with
      ram := (spawning.ram.write segPhys (List.replicate memSize4k 0)).write (segPhys + pageOff)
        (Slice.bytesAt elfBytes segment.fileOffset segment.fileSize) }
    place.step checks alignedVaddr segPhys memSize4k segment.perm

/-- The tables, of which the pool is cleared and the root maps the memory to itself. -/
def SpawnTables.start (place : SpawnTables) (bytesGib : Nat) (tables : TableMemory) :
    TableMemory :=
  Sv39.mapRamIdentity place.rootPt bytesGib false fun addr =>
    if place.pool ≤ addr ∧ addr < place.pool + 4096 * poolPages then 0 else tables addr

/-- What the callers pass, and what they find. -/
structure SpawnCall where
  elfBytes : List UInt8
  expectedMachine : Nat
  stackVma : Word
  stackLen : Word
  /-- `G_BYTES_GIB` -/
  bytesGib : Nat
  /-- The clock when the thread starts. -/
  nowNs : Nat

def SpawnCall.makeThread (call : SpawnCall) (checks : Bool) (rootPt entry : Nat) :
    SpawnM (ThreadId × CapSpaceId) := do
  let addrSpace ← SpawnM.onKernel do
    let created ← KernelState.allocAddrSpace rootPt
    Exec.okOr .objectTableFull created
  let capSpace ← SpawnM.onKernel do
    let created ← KernelState.allocCapSpace
    Exec.okOr .objectTableFull created
  let tid ← SpawnM.onKernel (KernelState.spawnTcb capSpace addrSpace)
  let _ ← SpawnM.add checks call.stackVma.toNat call.stackLen.toNat
  SpawnM.onKernel (KernelState.initUserThread tid entry call.nowNs)
  return (tid, capSpace)

/-- The thread, its capabilities, and where its stack is. -/
def spawnProcessFromElf (checks : Bool) (call : SpawnCall) :
    SpawnM (ThreadId × CapSpaceId × Nat) := do
  let (entry, segments) ←
    ElfReader.within call.elfBytes () (parseAndCollectLoadSegments call.expectedMachine)
  let rootPt ← SpawnM.carve (4096 * 3)
  let pool ← SpawnM.carve (4096 * poolPages)
  let stackSize ← SpawnM.round4k checks call.stackLen.toNat
  let stackPhys ← SpawnM.carve stackSize
  let place : SpawnTables := { rootPt, pool }
  Exec.modify fun spawning =>
    { spawning with tables := place.start call.bytesGib spawning.tables, used := 0 }
  segments.forEach call.elfBytes () (place.loadSegment checks call.elfBytes) segments.phCount 0
  place.step checks call.stackVma.toNat stackPhys stackSize (1 ||| 2 ||| 8)
  let (tid, capSpace) ← call.makeThread checks rootPt entry
  return (tid, capSpace, stackPhys)

end Simurgh
