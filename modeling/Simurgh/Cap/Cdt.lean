import Simurgh.Cap.Rights
import Simurgh.Lib.Exec
import Simurgh.Lib.ParentForest
import Simurgh.Lib.Slab

/-!
# The capability derivation tree

A capability space is a fixed array of slots.  Free slots are threaded on an
intrusive list, and an occupied slot records the capability it was derived
from.  That parent may sit in another space, so revocation works on the whole
family of tables.
-/

namespace Simurgh

inductive CapTableError where
  | full
  | emptySlot
  | rightsEscalation
  | badgeConflict
  deriving DecidableEq, Repr

/-- One slot.  `freeNext` is the free-list link and means nothing while the
slot is occupied. -/
structure CapSlot where
  cap : Option Capability
  parent : Option GlobalCapId
  freeNext : Option CapId
  deriving DecidableEq, Repr

/-- A free slot without links. -/
def CapSlot.empty : CapSlot := { cap := none, parent := none, freeNext := none }

/-- A capability space of `N` slots. -/
structure CapTable (N : Nat) where
  slots : Vector CapSlot N
  freeHead : Option CapId
  occupied : Nat
  spaceId : CapSpaceId
  deriving DecidableEq, Repr

/-- The capability tables of all spaces, indexed by space id. -/
abbrev CapTables (N M : Nat) := Slab (CapTable N) M

namespace CapTable

variable {N : Nat}

/-- An empty table with every slot on the free list. -/
def new (spaceId : CapSpaceId) : CapTable N where
  slots := Vector.ofFn fun i =>
    { CapSlot.empty with
      freeNext := if i.val + 1 < N then some (i.val + 1) else none }
  freeHead := if 0 < N then some 0 else none
  occupied := 0
  spaceId := spaceId

/-- The slot `id`, or an empty one outside the table. -/
def slot (table : CapTable N) (id : CapId) : CapSlot :=
  table.slots[id]?.getD .empty

def lookup (table : CapTable N) (id : CapId) : Option Capability :=
  (table.slot id).cap

def parentOf (table : CapTable N) (id : CapId) : Option GlobalCapId :=
  (table.slot id).parent

/-- Store a slot. -/
def setSlot (table : CapTable N) (id : CapId) (slot : CapSlot) : CapTable N :=
  { table with slots := table.slots.setIfInBounds id slot }

/-- Pop the free list. -/
def allocSlot : Exec (CapTable N) CapTableError CapId := do
  let table ← Exec.get
  let id ← Exec.okOr .full table.freeHead
  let slot ← Exec.expect table.slots[id]?
  Exec.modify fun table =>
    { table.setSlot id .empty with
      freeHead := slot.freeNext
      occupied := table.occupied + 1 }
  return id

/-- Push a slot on the free list.  The slot index and the decrement of
`occupied` are checked at run time. -/
def freeSlot (id : CapId) : Exec (CapTable N) CapTableError Unit := do
  let table ← Exec.get
  let _ ← Exec.expect table.slots[id]?
  Exec.ensure (0 < table.occupied)
  Exec.modify fun table =>
    { table.setSlot id { CapSlot.empty with freeNext := table.freeHead } with
      freeHead := some id
      occupied := table.occupied - 1 }

/-- Insert a capability without a parent. -/
def insertRoot (cap : Capability) : Exec (CapTable N) CapTableError CapId := do
  let id ← allocSlot
  Exec.modify fun table => table.setSlot id { table.slot id with cap := some cap }
  return id

/-- The badge a derived capability gets.  Badges are write-once. -/
def effectiveBadge (parentCap : Capability) (badge : Nat) :
    Except CapTableError Nat :=
  if parentCap.badge ≠ 0 then
    if badge ≠ 0 ∧ badge ≠ parentCap.badge then .error .badgeConflict
    else .ok parentCap.badge
  else .ok badge

/-- Validate a derivation from `parentCap`, then allocate the child and stamp its
parent link. -/
def insertDerived (parentCap : Capability) (parentGlobal : GlobalCapId)
    (rights : CapabilityRights) (badge : Nat) :
    Exec (CapTable N) CapTableError CapId := do
  Exec.guard (rights.isSubsetOf parentCap.rights) .rightsEscalation
  let badge ← Exec.ofExcept (effectiveBadge parentCap badge)
  let child ← allocSlot
  Exec.modify fun table =>
    table.setSlot child
      { table.slot child with
        cap := some { object := parentCap.object, rights, badge }
        parent := some parentGlobal }
  return child

/-- Derive a capability inside one space. -/
def deriveChild (parent : CapId) (rights : CapabilityRights) (badge : Nat) :
    Exec (CapTable N) CapTableError CapId := do
  let table ← Exec.get
  let parentCap ← Exec.okOr .emptySlot (table.lookup parent)
  insertDerived parentCap { space := table.spaceId, cap := parent } rights badge

/-- Derive a capability of `src` into the table this runs on. -/
def deriveChildCrossSpace (src : CapTable N) (srcSpace : CapSpaceId)
    (parent : CapId) (rights : CapabilityRights) (badge : Nat) :
    Exec (CapTable N) CapTableError CapId := do
  let parentCap ← Exec.okOr .emptySlot (src.lookup parent)
  insertDerived parentCap { space := srcSpace, cap := parent } rights badge

/-- The inner loop of the second revocation pass. -/
def freeMarked (marked : CapId → Bool) :
    List CapId → Exec (CapTable N) CapTableError Nat
  | [] => pure 0
  | id :: rest => do
      if marked id then
        freeSlot id
        let freed ← freeMarked marked rest
        return freed + 1
      else
        freeMarked marked rest

end CapTable

namespace CapTables

variable {N M : Nat}

/-- The capability a global id names. -/
def lookup (tables : CapTables N M) (id : GlobalCapId) : Option Capability :=
  (tables.get? id.space).bind fun table => table.lookup id.cap

/-- The parent link stored at a global id. -/
def parentOf (tables : CapTables N M) (id : GlobalCapId) : Option GlobalCapId :=
  (tables.get? id.space).bind fun table => table.parentOf id.cap

/-- Does following the parent links of `cur` ever reach `target`?  The walk is
cut off after `M * N + 1` steps. -/
def isDescendantOf (tables : CapTables N M) (cur target : GlobalCapId) : Bool :=
  walk tables.parentOf target (M * N + 1) cur

/-- What the first revocation pass marks. -/
def marked (tables : CapTables N M) (target cand : GlobalCapId) : Bool :=
  (tables.lookup cand).isSome &&
    (cand == target || tables.isDescendantOf cand target)

/-- Run a program on the table at index `space`, as indexing does. -/
def onTable {ε α : Type} (space : CapSpaceId)
    (program : Exec (CapTable N) ε α) : Exec (CapTables N M) ε α := do
  let tables ← Exec.get
  let table ← Exec.expect (tables.get? space)
  Exec.zoom (fun _ => table) (fun table tables => tables.put space table) id program

/-- The outer loop of the second revocation pass. -/
def freeMarked (marked : GlobalCapId → Bool) :
    List CapSpaceId → Exec (CapTables N M) CapTableError Nat
  | [] => pure 0
  | space :: rest => do
      let tables ← Exec.get
      match tables.get? space with
      | none => freeMarked marked rest
      | some _ =>
          let here ← onTable space
            (CapTable.freeMarked (fun cap => marked { space, cap }) (List.range N))
          let there ← freeMarked marked rest
          return here + there

/-- Free `target` and everything derived from it, in all spaces.  All marks are
made before the first slot is freed. -/
def revokeCrossSpace (target : GlobalCapId) :
    Exec (CapTables N M) CapTableError Nat := do
  let tables ← Exec.get
  let table ← Exec.okOr .emptySlot (tables.get? target.space)
  Exec.guard (table.lookup target.cap).isSome .emptySlot
  freeMarked (tables.marked target) (List.range M)

end CapTables

end Simurgh
