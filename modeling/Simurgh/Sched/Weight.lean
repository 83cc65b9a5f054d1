import Mathlib.Tactic.Common

/-!
# Scheduling weights

The weight formula in fixed point.  Products are taken in 128 bits and cut to 64
bits afterwards.
-/

namespace Simurgh

def weightFracBits : Nat := 10

/-- `1.0` in fixed point. -/
def weightOne : Nat := 1 <<< weightFracBits

def agingFactorFp : Nat := 20
def agingCapMs : Nat := 50
def numaLocalityBonusFp : Nat := 1138
def numaNeutralFp : Nat := weightOne
def maxPriority : Nat := 39

/-- `x as u64`. -/
def asU64 (x : Nat) : Nat := x % 0x10000000000000000

/-- `u64::saturating_add`. -/
def saturatingAdd (left right : Nat) : Nat := min (left + right) 0xffffffffffffffff

/-- The weight of a priority, from `1.0` to `4.0`. -/
def basePriorityWeightFp (priority : Nat) : Nat :=
  weightOne + min priority maxPriority * (3 * weightOne) / maxPriority

/-- The weight after aging and the locality bonus.  It is never zero. -/
def effectiveWeightFp (baseFp waitTimeMs : Nat) (numaLocal : Bool) : Nat :=
  let cappedWait := min waitTimeMs agingCapMs
  let agingMulFp := weightOne + agingFactorFp * cappedWait
  let numaFp := if numaLocal then numaLocalityBonusFp else numaNeutralFp
  let aged := (baseFp * agingMulFp) >>> weightFracBits
  let local' := (aged * numaFp) >>> weightFracBits
  max (asU64 local') 1

/-- `vruntime` after running for `actualRuntimeNs`. -/
def vruntimeNext (vruntimeCurrent actualRuntimeNs effectiveWeight : Nat) : Nat :=
  let increment := asU64 (actualRuntimeNs * weightOne / max effectiveWeight 1)
  saturatingAdd vruntimeCurrent increment

end Simurgh
