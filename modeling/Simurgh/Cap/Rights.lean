import Mathlib.Tactic.Common

/-!
# Names, rights and capabilities

A capability names a kernel object, says what its holder may do with it, and
carries a badge.  Every id is the index of an entry in a fixed-capacity table.
-/

namespace Simurgh

/-! ## Ids -/

abbrev CapId := Nat
abbrev ObjectId := Nat
abbrev ThreadId := Nat
abbrev EndpointId := Nat
abbrev NotificationId := Nat
abbrev UntypedId := Nat
abbrev PageTableId := Nat
abbrev CapSpaceId := Nat
abbrev SharedRegionId := Nat
abbrev ChainGroupId := Nat
abbrev MmioRegionId := Nat

/-! ## Rights -/

/-- The rights bitset carried by a capability. -/
structure CapabilityRights where
  bits : BitVec 32
  deriving DecidableEq, Repr

namespace CapabilityRights

def read : CapabilityRights := ⟨0b000001⟩
def write : CapabilityRights := ⟨0b000010⟩
def execute : CapabilityRights := ⟨0b000100⟩
def grant : CapabilityRights := ⟨0b001000⟩
def duplicate : CapabilityRights := ⟨0b010000⟩
def revoke : CapabilityRights := ⟨0b100000⟩

/-- Every right. -/
def all : CapabilityRights := ⟨0b111111⟩

/-- The rights in either set. -/
def union (left right : CapabilityRights) : CapabilityRights :=
  ⟨left.bits ||| right.bits⟩

/-- Every right of `needed` is among `rights`. -/
def contains (rights needed : CapabilityRights) : Bool :=
  rights.bits &&& needed.bits == needed.bits

/-- The default rights of a data frame. -/
def readWrite : CapabilityRights := read.union write

/-- True if `rights` is no wider than `parent` in every bit. -/
def isSubsetOf (rights parent : CapabilityRights) : Bool :=
  parent.contains rights

theorem isSubsetOf_iff {rights parent : CapabilityRights} :
    rights.isSubsetOf parent ↔ parent.bits &&& rights.bits = rights.bits := by
  simp [isSubsetOf, contains]

theorem isSubsetOf_trans {lower middle upper : CapabilityRights}
    (lowerSubset : lower.isSubsetOf middle) (upperSubset : middle.isSubsetOf upper) :
    lower.isSubsetOf upper := by
  rw [isSubsetOf_iff] at *
  calc
    upper.bits &&& lower.bits
        = upper.bits &&& (middle.bits &&& lower.bits) := by rw [lowerSubset]
    _ = (upper.bits &&& middle.bits) &&& lower.bits := by rw [BitVec.and_assoc]
    _ = middle.bits &&& lower.bits := by rw [upperSubset]
    _ = lower.bits := lowerSubset

end CapabilityRights

/-! ## Objects and capabilities -/

/-- The kinds of kernel object a capability can name. -/
inductive KernelObjectKind where
  | untypedMemory
  | pageTable
  | threadControlBlock
  | endpoint
  | notification
  | capabilitySpace
  | sharedRegion
  | mmioRegion
  deriving DecidableEq, Repr

/-- One kernel object, named by its kind and its index in that kind's table. -/
structure ObjectRef where
  kind : KernelObjectKind
  id : ObjectId
  deriving DecidableEq, Repr

/-- An object reference with a set of rights and a badge. -/
structure Capability where
  object : ObjectRef
  rights : CapabilityRights
  badge : Nat
  deriving DecidableEq, Repr

namespace Capability

/-- A capability with all rights and no badge. -/
def full (object : ObjectRef) : Capability :=
  { object, rights := .all, badge := 0 }

/-- The capability carries every right in `needed`. -/
def allows (cap : Capability) (needed : CapabilityRights) : Bool :=
  cap.rights.contains needed

/-- What a derivation step guarantees.  The object stays the same, rights are
only narrowed, and a badge is written once. -/
structure DerivedFrom (child parent : Capability) : Prop where
  object : child.object = parent.object
  rights : child.rights.isSubsetOf parent.rights
  badge : parent.badge ≠ 0 → child.badge = parent.badge

theorem DerivedFrom.trans {lower middle upper : Capability}
    (lowerDerived : lower.DerivedFrom middle) (upperDerived : middle.DerivedFrom upper) :
    lower.DerivedFrom upper where
  object := lowerDerived.object.trans upperDerived.object
  rights := CapabilityRights.isSubsetOf_trans lowerDerived.rights upperDerived.rights
  badge := by
    intro badged
    have middleBadge := upperDerived.badge badged
    rw [← middleBadge] at badged ⊢
    exact lowerDerived.badge badged

end Capability

/-- A capability named by its capability space and its slot there. -/
structure GlobalCapId where
  space : CapSpaceId
  cap : CapId
  deriving DecidableEq, Repr

end Simurgh
