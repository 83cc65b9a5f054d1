import Mathlib.Data.Nat.Bitwise
import Mathlib.Tactic.Common

/-!
# The base and the size of a BAR

A memory BAR holds the base of a window.  Its low bits are read-only, and so many of them as the
window is large, so that a probe writes ones and looks which bits stay zero.  A wide BAR goes on
in the next register.  Every probe puts the register back as it was, and the probes differ in what
they make of a wide BAR.
-/

namespace Simurgh

/-! ## Configuration space -/

/-- Registers of the configuration space by their offsets.  A write changes the bits that are
writable. -/
structure PciFunction where
  dwords : Nat → BitVec 32
  writable : Nat → BitVec 32

namespace PciFunction

variable (function : PciFunction)

def read32 (offset : Nat) : BitVec 32 := function.dwords offset

def write32 (offset : Nat) (value : BitVec 32) : PciFunction :=
  let kept := function.dwords offset &&& ~~~function.writable offset
  let written := value &&& function.writable offset
  { function with dwords := Function.update function.dwords offset (kept ||| written) }

/-! ## The probes -/

/-- A write of all ones, a read, and a write of the original value. -/
def sizingMask (offset : Nat) (original : BitVec 32) : BitVec 32 × PciFunction :=
  let sized := function.write32 offset 0xFFFFFFFF#32
  (sized.read32 offset, sized.write32 offset original)

/-- `(!(size_mask & 0xFFFF_FFF0) as u64) + 1`. -/
def sizeOfMask (sizeMask : BitVec 32) : Nat := (~~~(sizeMask &&& 0xFFFFFFF0#32)).toNat + 1

/-- `probe_bar0`, which is the same on two architectures. -/
def probeBar0 : Option (Nat × Nat) × PciFunction :=
  let bar0 := function.read32 0x10
  if bar0 &&& 1#32 ≠ 0 then (none, function)
  else
    let base := bar0 &&& 0xFFFFFFF0#32
    let (sizeMask, function) := function.sizingMask 0x10 bar0
    if sizeMask = 0 then (none, function)
    else (some (base.toNat, sizeOfMask sizeMask), function)

def probeBarSize (barIndex : Nat) : Option Nat × PciFunction :=
  let offset := 0x10 + barIndex * 4
  let original := function.read32 offset
  if original &&& 1#32 ≠ 0 then (none, function)
  else
    let (sizeMask, function) := function.sizingMask offset original
    if sizeMask = 0 then (none, function) else (some (sizeOfMask sizeMask), function)

def pciBarPhys (barIndex : Nat) : Option (Nat × Nat) × PciFunction :=
  let barOff := 0x10 + barIndex * 4
  let barLo := function.read32 barOff
  if barLo &&& 1#32 ≠ 0 then (none, function)
  else
    let is64bit := barLo >>> 1 &&& 3#32 = 2#32
    let (sizeLo, function) := function.sizingMask barOff barLo
    let baseLo := barLo &&& 0xFFFFFFF0#32
    if ¬ is64bit then
      if sizeLo = 0 then (none, function)
      else (some (baseLo.toNat, sizeOfMask sizeLo), function)
    else
      let barHiOff := barOff + 4
      let barHi := function.read32 barHiOff
      let (sizeHi, function) := function.sizingMask barHiOff barHi
      let base := baseLo.setWidth 64 ||| barHi.setWidth 64 <<< 32
      let sizeMask := sizeHi.setWidth 64 <<< 32 ||| (sizeLo &&& 0xFFFFFFF0#32).setWidth 64
      if sizeMask = 0 then (none, function)
      else (some (base.toNat, (~~~sizeMask).toNat + 1), function)

end PciFunction

/-! ## What a BAR says -/

/-- A memory BAR, whose window is aligned to its size. -/
structure MemoryBar where
  index : Nat
  wide : Bool
  prefetchable : Bool
  exponent : Nat
  base : Nat
  least : 4 ≤ exponent
  fits : exponent < if wide then 64 else 32
  aligned : 2 ^ exponent ∣ base
  inRange : base < 2 ^ (if wide then 64 else 32)
  placed : index + (if wide then 1 else 0) < 6

namespace MemoryBar

variable (bar : MemoryBar)

def size : Nat := 2 ^ bar.exponent

def offset : Nat := 0x10 + bar.index * 4

/-- The type of the BAR, which is read-only. -/
def flags : BitVec 32 :=
  (if bar.wide then 4#32 else 0#32) ||| (if bar.prefetchable then 8#32 else 0#32)

end MemoryBar

/-- All bits from one on. -/
def onesFrom (bit : Nat) : BitVec 32 := BitVec.allOnes 32 <<< bit

/-- The registers of the function hold the BAR. -/
structure PciFunction.Has (function : PciFunction) (bar : MemoryBar) : Prop where
  low : function.dwords bar.offset = BitVec.ofNat 32 bar.base ||| bar.flags
  lowWritable : function.writable bar.offset = onesFrom bar.exponent
  high : bar.wide = true → function.dwords (bar.offset + 4) = BitVec.ofNat 32 (bar.base / 2 ^ 32)
  highWritable : bar.wide = true →
    function.writable (bar.offset + 4) = onesFrom (bar.exponent - 32)

/-- What a probe returns is true. -/
structure PciFunction.ProbedRight (function : PciFunction) (bar : MemoryBar) : Prop where
  probeBar0 : bar.index = 0 → ∀ base size, function.probeBar0.1 = some (base, size) →
    base = bar.base ∧ size = bar.size
  probeBarSize : ∀ size, (function.probeBarSize bar.index).1 = some size → size = bar.size
  pciBarPhys : ∀ base size, (function.pciBarPhys bar.index).1 = some (base, size) →
    base = bar.base ∧ size = bar.size

/-- The probes leave the function as it was. -/
structure PciFunction.Restored (function : PciFunction) : Prop where
  probeBar0 : function.probeBar0.2 = function
  probeBarSize : ∀ barIndex, (function.probeBarSize barIndex).2 = function
  pciBarPhys : ∀ barIndex, (function.pciBarPhys barIndex).2 = function

/-! ## Writing ones -/

namespace PciFunction

variable {function : PciFunction}

theorem or_and_not_or_and (old mask : BitVec 32) :
    (old ||| mask) &&& ~~~mask ||| old &&& mask = old := by
  apply BitVec.eq_of_getLsbD_eq
  intro bit inside
  simp only [BitVec.getLsbD_or, BitVec.getLsbD_and, BitVec.getLsbD_not, inside]
  cases mask.getLsbD bit <;> simp

theorem and_not_or_ones (old mask : BitVec 32) :
    old &&& ~~~mask ||| 0xFFFFFFFF#32 &&& mask = old ||| mask := by
  apply BitVec.eq_of_getLsbD_eq
  intro bit inside
  have ones : (0xFFFFFFFF#32).getLsbD bit = true :=
    (BitVec.getLsbD_allOnes (v := 32) (i := bit)).trans (decide_eq_true inside)
  simp only [BitVec.getLsbD_or, BitVec.getLsbD_and, BitVec.getLsbD_not, ones, inside]
  cases mask.getLsbD bit <;> simp

/-- The mask shows the writable bits, and the register is as it was. -/
theorem sizingMask_eq (function : PciFunction) (offset : Nat) :
    function.sizingMask offset (function.read32 offset) =
      (function.dwords offset ||| function.writable offset, function) := by
  cases function with
  | mk dwords writable =>
      simp only [sizingMask, write32, read32, Function.update_self, Function.update_idem,
        and_not_or_ones, or_and_not_or_and, Function.update_eq_self]

/-- Every probe leaves the function as it was. -/
theorem restored (function : PciFunction) : function.Restored where
  probeBar0 := by
    rw [PciFunction.probeBar0, sizingMask_eq]
    split
    · rfl
    · dsimp only
      split <;> rfl
  probeBarSize := by
    intro barIndex
    rw [PciFunction.probeBarSize, sizingMask_eq]
    split
    · rfl
    · dsimp only
      split <;> rfl
  pciBarPhys := by
    intro barIndex
    rw [PciFunction.pciBarPhys, sizingMask_eq]
    split
    · rfl
    · dsimp only
      rw [sizingMask_eq]
      split
      · split <;> rfl
      · split <;> rfl

end PciFunction

/-! ## Reading a BAR -/

theorem getLsbD_onesFrom (first : Nat) {bit : Nat} (inside : bit < 32) :
    (onesFrom first).getLsbD bit = decide (first ≤ bit) := by
  rw [onesFrom, BitVec.getLsbD_shiftLeft, BitVec.getLsbD_allOnes]
  by_cases before : bit < first
  · simp [before, inside]
  · have small : bit - first < 32 := by omega
    simp [before, inside, small, Nat.le_of_not_lt before]

theorem addressBits_eq : 0xFFFFFFF0#32 = onesFrom 4 := rfl

theorem sizeOfMask_onesFrom : ∀ exponent, exponent < 64 →
    (~~~onesFrom exponent).toNat + 1 = 2 ^ min exponent 32 := by
  decide +kernel

/-- The mask of a wide BAR, whose halves are next to each other. -/
theorem sizeOfMask_wide : ∀ exponent, exponent < 64 →
    (onesFrom (exponent - 32)).setWidth 64 <<< 32 ||| (onesFrom exponent).setWidth 64 ≠ 0 ∧
      (~~~((onesFrom (exponent - 32)).setWidth 64 <<< 32 |||
        (onesFrom exponent).setWidth 64)).toNat + 1 = 2 ^ exponent := by
  decide +kernel

namespace MemoryBar

variable (bar : MemoryBar)

theorem exponent_lt : bar.exponent < 64 := by
  have fits := bar.fits
  split at fits
  · exact fits
  · omega

/-- The bits below the size are zero in the base. -/
theorem testBit_base {bit : Nat} (below : bit < bar.exponent) : bar.base.testBit bit = false := by
  obtain ⟨times, same⟩ := bar.aligned
  rw [same, Nat.testBit_two_pow_mul, decide_eq_false (Nat.not_le_of_lt below), Bool.false_and]

theorem getLsbD_flags {bit : Nat} (above : 4 ≤ bit) : bar.flags.getLsbD bit = false := by
  have small : bar.flags.toNat < 2 ^ 4 := by
    unfold flags
    cases bar.wide <;> cases bar.prefetchable <;> decide
  exact Nat.testBit_lt_two_pow (small.trans_le (Nat.pow_le_pow_right (by decide) above))

/-- The first register of the BAR. -/
def low : BitVec 32 := BitVec.ofNat 32 bar.base ||| bar.flags

theorem low_address : bar.low &&& 0xFFFFFFF0#32 = BitVec.ofNat 32 bar.base := by
  have least := bar.least
  apply BitVec.eq_of_getLsbD_eq
  intro bit inside
  rw [addressBits_eq, low, BitVec.getLsbD_and, BitVec.getLsbD_or, getLsbD_onesFrom 4 inside,
    BitVec.getLsbD_ofNat, decide_eq_true inside, Bool.true_and]
  by_cases above : 4 ≤ bit
  · rw [bar.getLsbD_flags above, decide_eq_true above, Bool.or_false, Bool.and_true]
  · rw [bar.testBit_base (by omega), decide_eq_false above, Bool.and_false]

theorem low_size :
    (bar.low ||| onesFrom bar.exponent) &&& 0xFFFFFFF0#32 = onesFrom bar.exponent := by
  have least := bar.least
  apply BitVec.eq_of_getLsbD_eq
  intro bit inside
  rw [addressBits_eq, low, BitVec.getLsbD_and, BitVec.getLsbD_or, BitVec.getLsbD_or,
    getLsbD_onesFrom 4 inside, getLsbD_onesFrom _ inside, BitVec.getLsbD_ofNat,
    decide_eq_true inside, Bool.true_and]
  by_cases above : 4 ≤ bit
  · rw [bar.getLsbD_flags above, decide_eq_true above, Bool.or_false, Bool.and_true]
    by_cases below : bit < bar.exponent
    · rw [bar.testBit_base below, Bool.false_or]
    · rw [decide_eq_true (Nat.le_of_not_lt below), Bool.or_true]
  · rw [decide_eq_false above, Bool.and_false, decide_eq_false (by omega)]

theorem low_type : bar.low &&& 15#32 = bar.flags := by
  have least := bar.least
  apply BitVec.eq_of_getLsbD_eq
  intro bit inside
  have low4 : (15#32).getLsbD bit = decide (bit < 4) := by
    rw [show (15#32) = ~~~onesFrom 4 from rfl, BitVec.getLsbD_not, getLsbD_onesFrom 4 inside,
      decide_eq_true inside, Bool.true_and, ← decide_not]
    exact decide_eq_decide.2 Nat.not_le
  rw [low, BitVec.getLsbD_and, BitVec.getLsbD_or, low4, BitVec.getLsbD_ofNat,
    decide_eq_true inside, Bool.true_and]
  by_cases above : 4 ≤ bit
  · rw [bar.getLsbD_flags above, decide_eq_false (Nat.not_lt_of_le above), Bool.and_false]
  · rw [bar.testBit_base (by omega), decide_eq_true (Nat.lt_of_not_le above), Bool.and_true,
      Bool.false_or]

/-- It is no I/O BAR. -/
theorem low_memory : bar.low &&& 1#32 = 0 := by
  have part : bar.low &&& 1#32 = bar.low &&& 15#32 &&& 1#32 := by
    rw [BitVec.and_assoc]
    rfl
  rw [part, bar.low_type, flags]
  cases bar.wide <;> cases bar.prefetchable <;> decide

theorem low_wide : bar.low >>> 1 &&& 3#32 = 2#32 ↔ bar.wide = true := by
  have part : bar.low >>> 1 &&& 3#32 = (bar.low &&& 15#32) >>> 1 &&& 3#32 := by
    rw [BitVec.ushiftRight_and_distrib, BitVec.and_assoc]
    rfl
  rw [part, bar.low_type, flags]
  cases bar.wide <;> cases bar.prefetchable <;> decide

theorem low_size_ne_zero : bar.low ||| onesFrom bar.exponent ≠ 0 := by
  intro zero
  have none := bar.low_size
  rw [zero] at none
  have type := bar.low_type
  rw [(BitVec.or_eq_zero_iff.1 zero).1] at type
  have fits := bar.fits
  cases wide : bar.wide with
  | true =>
      rw [flags, if_pos wide] at type
      have differs : ∀ prefetchable : Bool,
          0#32 &&& 15#32 ≠ 4#32 ||| (if prefetchable = true then 8#32 else 0#32) := by decide
      exact differs bar.prefetchable type
  | false =>
      rw [wide, if_neg Bool.false_ne_true] at fits
      have bits := sizeOfMask_onesFrom bar.exponent bar.exponent_lt
      rw [← none, Nat.min_eq_left fits.le] at bits
      have most := Nat.pow_lt_pow_right (a := 2) (by decide) fits
      rw [← bits] at most
      revert most
      decide

/-- The second register of a wide BAR. -/
def high : BitVec 32 := BitVec.ofNat 32 (bar.base / 2 ^ 32)

theorem high_size :
    bar.high ||| onesFrom (bar.exponent - 32) = onesFrom (bar.exponent - 32) := by
  apply BitVec.eq_of_getLsbD_eq
  intro bit inside
  rw [high, BitVec.getLsbD_or, getLsbD_onesFrom _ inside, BitVec.getLsbD_ofNat,
    decide_eq_true inside, Bool.true_and, Nat.testBit_div_two_pow]
  by_cases below : bit < bar.exponent - 32
  · rw [bar.testBit_base (by omega), Bool.false_or]
  · rw [decide_eq_true (Nat.le_of_not_lt below), Bool.or_true]

theorem wide_address (small : bar.base < 2 ^ 64) :
    ((BitVec.ofNat 32 bar.base).setWidth 64 ||| bar.high.setWidth 64 <<< 32).toNat = bar.base := by
  have joined : (BitVec.ofNat 32 bar.base).setWidth 64 ||| bar.high.setWidth 64 <<< 32 =
      BitVec.ofNat 64 bar.base := by
    apply BitVec.eq_of_getLsbD_eq
    intro bit inside
    rw [high, BitVec.getLsbD_or, BitVec.getLsbD_setWidth, BitVec.getLsbD_ofNat,
      BitVec.getLsbD_shiftLeft, BitVec.getLsbD_setWidth, BitVec.getLsbD_ofNat,
      BitVec.getLsbD_ofNat, Nat.testBit_div_two_pow]
    by_cases below : bit < 32
    · simp [below, inside]
    · have back : bit - 32 + 32 = bit := by omega
      have part : bit - 32 < 32 := by omega
      have room : bit - 32 < 64 := by omega
      simp [below, inside, back, part, room]
  rw [joined, BitVec.toNat_ofNat, Nat.mod_eq_of_lt small]

end MemoryBar

/-! ## What the probes return -/

namespace PciFunction

variable {function : PciFunction} {bar : MemoryBar}

theorem probeBar0_of_has (has : function.Has bar) (first : bar.index = 0) :
    function.probeBar0.1 = some (bar.base % 2 ^ 32, 2 ^ min bar.exponent 32) := by
  have low : function.dwords 0x10 = bar.low := by
    have register := has.low
    rw [MemoryBar.offset, first] at register
    exact register
  have writable : function.writable 0x10 = onesFrom bar.exponent := by
    have bits := has.lowWritable
    rw [MemoryBar.offset, first] at bits
    exact bits
  rw [probeBar0, sizingMask_eq, read32, low, writable]
  rw [if_neg (not_not_intro bar.low_memory)]
  dsimp only
  rw [if_neg bar.low_size_ne_zero, sizeOfMask, bar.low_size, bar.low_address,
    sizeOfMask_onesFrom _ bar.exponent_lt, BitVec.toNat_ofNat]

theorem probeBarSize_of_has (has : function.Has bar) :
    (function.probeBarSize bar.index).1 = some (2 ^ min bar.exponent 32) := by
  have low : function.dwords (0x10 + bar.index * 4) = bar.low := has.low
  have writable : function.writable (0x10 + bar.index * 4) = onesFrom bar.exponent :=
    has.lowWritable
  rw [probeBarSize, sizingMask_eq, read32, low, writable]
  rw [if_neg (not_not_intro bar.low_memory)]
  dsimp only
  rw [if_neg bar.low_size_ne_zero, sizeOfMask, bar.low_size,
    sizeOfMask_onesFrom _ bar.exponent_lt]

theorem pciBarPhys_of_has (has : function.Has bar) :
    (function.pciBarPhys bar.index).1 = some (bar.base, bar.size) := by
  have low : function.dwords (0x10 + bar.index * 4) = bar.low := has.low
  have writable : function.writable (0x10 + bar.index * 4) = onesFrom bar.exponent :=
    has.lowWritable
  have inRange := bar.inRange
  have fits := bar.fits
  rw [pciBarPhys, sizingMask_eq, read32, low, writable]
  rw [if_neg (not_not_intro bar.low_memory)]
  dsimp only
  cases wide : bar.wide with
  | false =>
      rw [wide, if_neg Bool.false_ne_true] at inRange fits
      have narrow : ¬ bar.low >>> 1 &&& 3#32 = 2#32 := by
        rw [bar.low_wide, wide]
        exact Bool.false_ne_true
      rw [if_pos narrow, if_neg bar.low_size_ne_zero, sizeOfMask, bar.low_size, bar.low_address,
        sizeOfMask_onesFrom _ bar.exponent_lt, BitVec.toNat_ofNat, Nat.mod_eq_of_lt inRange,
        Nat.min_eq_left fits.le, MemoryBar.size]
  | true =>
      rw [wide, if_pos rfl] at inRange
      have high : function.dwords (0x10 + bar.index * 4 + 4) = bar.high := has.high wide
      have highWritable : function.writable (0x10 + bar.index * 4 + 4) =
          onesFrom (bar.exponent - 32) := has.highWritable wide
      obtain ⟨some_, size⟩ := sizeOfMask_wide bar.exponent bar.exponent_lt
      rw [if_neg (not_not_intro (bar.low_wide.2 wide)), sizingMask_eq, high, highWritable]
      dsimp only
      rw [bar.high_size, bar.low_size, bar.low_address, if_neg some_, size, read32, high,
        bar.wide_address inRange, MemoryBar.size]

/-- The probes agree exactly on BARs of at most 4 GiB, and the probe of the first one needs a base
below 4 GiB too. -/
theorem probed_right_iff (has : function.Has bar) :
    function.ProbedRight bar ∧ function.Restored ↔
      bar.exponent ≤ 32 ∧ (bar.index = 0 → bar.base < 2 ^ 32) := by
  rw [and_iff_left function.restored]
  constructor
  · intro right
    constructor
    · have size := right.probeBarSize _ (probeBarSize_of_has has)
      have same : min bar.exponent 32 = bar.exponent := Nat.pow_right_injective (le_refl 2) size
      omega
    · intro first
      have base := (right.probeBar0 first _ _ (probeBar0_of_has has first)).1
      rw [← base]
      exact Nat.mod_lt _ (by decide)
  · rintro ⟨small, low⟩
    have least : min bar.exponent 32 = bar.exponent := Nat.min_eq_left small
    constructor
    · intro first base size returned
      rw [probeBar0_of_has has first, least, Nat.mod_eq_of_lt (low first)] at returned
      cases returned
      exact ⟨rfl, rfl⟩
    · intro size returned
      rw [probeBarSize_of_has has, least] at returned
      cases returned
      rfl
    · intro base size returned
      rw [pciBarPhys_of_has has] at returned
      cases returned
      exact ⟨rfl, rfl⟩

end PciFunction

/-- A function with one BAR. -/
def MemoryBar.alone (bar : MemoryBar) : PciFunction where
  dwords := fun offset =>
    if offset = bar.offset then bar.low
    else if offset = bar.offset + 4 ∧ bar.wide then bar.high
    else 0
  writable := fun offset =>
    if offset = bar.offset then onesFrom bar.exponent
    else if offset = bar.offset + 4 ∧ bar.wide then onesFrom (bar.exponent - 32)
    else 0

theorem MemoryBar.alone_has (bar : MemoryBar) : bar.alone.Has bar where
  low := if_pos rfl
  lowWritable := if_pos rfl
  high := fun wide => (if_neg (by omega)).trans (if_pos ⟨rfl, wide⟩)
  highWritable := fun wide => (if_neg (by omega)).trans (if_pos ⟨rfl, wide⟩)

/-- 16 KiB at 4 GiB, behind the first BAR. -/
def highBar : MemoryBar where
  index := 0
  wide := true
  prefetchable := true
  exponent := 14
  base := 2 ^ 32
  least := by decide
  fits := by decide
  aligned := by decide
  inRange := by decide
  placed := by decide

/-- The probe of the first BAR finds it at address 0. -/
theorem high_bar_probed_low :
    highBar.alone.Has highBar ∧ highBar.alone.probeBar0.1 = some (0, 2 ^ 14) ∧
      (highBar.alone.pciBarPhys 0).1 = some (2 ^ 32, 2 ^ 14) ∧
        ¬ highBar.alone.ProbedRight highBar := by
  have first := PciFunction.probeBar0_of_has highBar.alone_has rfl
  refine ⟨highBar.alone_has, first, PciFunction.pciBarPhys_of_has highBar.alone_has, ?_⟩
  intro right
  have base := (right.probeBar0 rfl _ _ first).1
  revert base
  decide

theorem probed_right_iff_high :
    highBar.alone.ProbedRight highBar ∧ highBar.alone.Restored ↔
      highBar.exponent ≤ 32 ∧ (highBar.index = 0 → highBar.base < 2 ^ 32) :=
  PciFunction.probed_right_iff highBar.alone_has

end Simurgh
