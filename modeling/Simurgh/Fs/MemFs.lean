import Simurgh.Lib.Exec
import Simurgh.Lib.Extents
import Simurgh.Lib.TransitionSystem
import Mathlib.Algebra.Order.Ring.Nat
import Mathlib.Logic.Function.Basic

/-!
# The in-memory file system

`MemFs` keeps the contents of a file under a number, the number under the path, and an open
handle has the number of its file.  `checks` tells builds that panic when a sum overflows
from builds that wrap it.
-/

namespace Simurgh

/-- Errors from the in-memory store. -/
inductive FsError where
  | notFound
  | badHandle
  | tooLarge
  | denied
  deriving DecidableEq, Repr

/-- Per-file size cap. -/
def maxFileBytes : Nat := 1024 * 1024

structure OpenFile where
  fileId : UInt32
  canWrite : Bool
  deriving DecidableEq, Repr

structure MemFs where
  index : String → Option UInt32
  files : UInt32 → Option (List UInt8)
  opened : UInt32 → Option OpenFile
  nextFileId : UInt32
  nextHandle : UInt32

namespace MemFs

/-- An empty filesystem. -/
def new : MemFs where
  index _ := none
  files _ := none
  opened _ := none
  nextFileId := 0
  nextHandle := 0

def setFile (fs : MemFs) (id : UInt32) (data : List UInt8) : MemFs :=
  { fs with files := Function.update fs.files id (some data) }

/-! ## Sums and slices -/

/-- `a + b` on `usize`. -/
def addUsize (checks : Bool) (a b : Nat) : Exec MemFs FsError Nat :=
  if a + b < 2 ^ 64 then pure (a + b)
  else if checks then Exec.abort
  else pure ((a + b) % 2 ^ 64)

/-- `a + 1` on `u32`. -/
def succU32 (checks : Bool) (a : UInt32) : Exec MemFs FsError UInt32 :=
  if a.toNat + 1 < 2 ^ 32 then pure (a + 1)
  else if checks then Exec.abort
  else pure (a + 1)

/-- `&data[start..stop]`. -/
def slice (data : List UInt8) (start stop : Nat) : Exec MemFs FsError (List UInt8) := do
  Exec.ensure (decide (start ≤ stop))
  Exec.ensure (decide (stop ≤ data.length))
  return (data.take stop).drop start

/-- `data[start..stop].copy_from_slice(src)`. -/
def copyInto (data : List UInt8) (start stop : Nat) (src : List UInt8) :
    Exec MemFs FsError (List UInt8) := do
  let target ← slice data start stop
  Exec.ensure (decide (target.length = src.length))
  return data.take start ++ src ++ data.drop stop

/-! ## The operations -/

/-- Creates (or truncates) a file. -/
def create (checks : Bool) (path : String) : Exec MemFs FsError UInt32 := do
  let fs ← Exec.get
  match fs.index path with
  | some id =>
      Exec.modify fun fs => fs.setFile id []
      return id
  | none =>
      let id := fs.nextFileId
      let next ← succU32 checks id
      Exec.modify fun fs => { fs with nextFileId := next }
      Exec.modify fun fs => { fs with index := Function.update fs.index path (some id) }
      Exec.modify fun fs => fs.setFile id []
      return id

/-- The file that `open` opens; `create` makes it if absent. -/
def fileToOpen (checks : Bool) (path : String) (create : Bool) : Exec MemFs FsError UInt32 := do
  let fs ← Exec.get
  match fs.index path with
  | some id => return id
  | none => if create then MemFs.create checks path else Exec.throw .notFound

/-- `write` requests write access. -/
def openFile (checks : Bool) (path : String) (write create : Bool) :
    Exec MemFs FsError UInt32 := do
  let fileId ← fileToOpen checks path create
  let fs ← Exec.get
  let handle := fs.nextHandle
  let next ← succU32 checks handle
  Exec.modify fun fs => { fs with nextHandle := next }
  Exec.modify fun fs =>
    { fs with opened := Function.update fs.opened handle (some ⟨fileId, write⟩) }
  return handle

/-- Returns the number of bytes read and the buffer. -/
def read (handle : UInt32) (offset : UInt64) (buf : List UInt8) :
    Exec MemFs FsError (Nat × List UInt8) := do
  let fs ← Exec.get
  let file ← Exec.okOr .badHandle (fs.opened handle)
  let data ← Exec.okOr .badHandle (fs.files file.fileId)
  let start := min offset.toNat data.length
  let n := min buf.length (data.length - start)
  let bytes ← slice data start (start + n)
  let buf ← copyInto buf 0 n bytes
  return (n, buf)

/-- Extends the file if needed. -/
def write (checks : Bool) (handle : UInt32) (offset : UInt64) (src : List UInt8) :
    Exec MemFs FsError Nat := do
  let fs ← Exec.get
  let file ← Exec.okOr .badHandle (fs.opened handle)
  Exec.guard file.canWrite .denied
  let data ← Exec.okOr .badHandle (fs.files file.fileId)
  let stop ← addUsize checks offset.toNat src.length
  Exec.guard (decide (stop ≤ maxFileBytes)) .tooLarge
  -- `data.resize(end, 0)` only makes the file longer.
  let data := if data.length < stop then Extent.grow 0 stop data else data
  let data ← copyInto data offset.toNat stop src
  Exec.modify fun fs => fs.setFile file.fileId data
  return src.length

/-- Size of the file behind `handle`. -/
def size (handle : UInt32) : Exec MemFs FsError Nat := do
  let fs ← Exec.get
  let file ← Exec.okOr .badHandle (fs.opened handle)
  return ((fs.files file.fileId).map List.length).getD 0

def close (handle : UInt32) : Exec MemFs FsError Unit := do
  let fs ← Exec.get
  Exec.modify fun fs => { fs with opened := Function.update fs.opened handle none }
  let _ ← Exec.okOr .badHandle (fs.opened handle)
  return ()

/-! ## Calls -/

inductive Call where
  | create (path : String)
  | open (path : String) (write create : Bool)
  | read (handle : UInt32) (offset : UInt64) (buf : List UInt8)
  | write (handle : UInt32) (offset : UInt64) (src : List UInt8)
  | size (handle : UInt32)
  | close (handle : UInt32)
  deriving DecidableEq, Repr

/-- What a call that succeeds returns. -/
inductive Reply where
  | file (id : UInt32)
  | handle (handle : UInt32)
  | bytes (n : Nat) (buf : List UInt8)
  | count (n : Nat)
  | closed
  deriving DecidableEq, Repr

def run (checks : Bool) : Call → Exec MemFs FsError Reply
  | .create path => do return .file (← create checks path)
  | .open path write create => do return .handle (← openFile checks path write create)
  | .read handle offset buf => do
      let (n, buf) ← read handle offset buf
      return .bytes n buf
  | .write handle offset src => do return .count (← write checks handle offset src)
  | .size handle => do return .count (← size handle)
  | .close handle => do
      close handle
      return .closed

end MemFs

end Simurgh
