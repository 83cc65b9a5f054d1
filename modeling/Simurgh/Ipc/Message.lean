import Simurgh.Cap.Rights

/-!
# What is passed between processes

A small message travels in registers.  Bulk data goes through a shared region.
-/

namespace Simurgh

/-- Payload words of a message. -/
def msgMaxWords : Nat := 6

/-- A label and up to `msgMaxWords` data words, of which the first `len` are
meaningful. -/
structure SmallMessage where
  label : Nat
  words : Vector Nat msgMaxWords
  len : Fin (msgMaxWords + 1)
  deriving DecidableEq, Repr

/-- A message without data words. -/
def SmallMessage.new (label : Nat) : SmallMessage :=
  { label, words := Vector.replicate msgMaxWords 0, len := 0 }

/-- A physical range for bulk transfer and the widest rights of its mappings. -/
structure SharedRegion where
  physBase : Nat
  size : Nat
  maxRights : CapabilityRights
  deriving DecidableEq, Repr

inductive IpcError where
  | queueFull
  | wouldBlock
  | messageTooLong
  | noSuchObject
  deriving DecidableEq, Repr

end Simurgh
