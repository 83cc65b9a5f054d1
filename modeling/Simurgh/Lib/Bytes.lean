import Mathlib.Tactic.Common
import Mathlib.Algebra.Order.Ring.Nat

/-!
# Numbers in byte memory

A memory is a function from addresses to bytes.  Numbers are stored with their lowest
byte first.
-/

namespace Bytes

/-- The bytes of a number, the lowest first. -/
def encode : (width value : Nat) → List UInt8
  | 0, _ => []
  | width + 1, value => UInt8.ofNat value :: encode width (value / 256)

/-- The number that the bytes are the digits of. -/
def decode (bytes : List UInt8) : Nat :=
  bytes.foldr (fun byte rest => byte.toNat + 256 * rest) 0

@[simp]
theorem length_encode (width value : Nat) : (encode width value).length = width := by
  induction width generalizing value with
  | zero => rfl
  | succ width ih =>
      rw [encode, List.length_cons, ih]

@[simp]
theorem decode_encode (width value : Nat) :
    decode (encode width value) = value % 256 ^ width := by
  induction width generalizing value with
  | zero =>
      rw [Nat.pow_zero, Nat.mod_one]
      rfl
  | succ width ih =>
      have first : (UInt8.ofNat value).toNat = value % 256 := rfl
      have rest := ih (value / 256)
      change (UInt8.ofNat value).toNat + 256 * decode (encode width (value / 256)) = _
      rw [first, rest, Nat.pow_succ, Nat.mul_comm (256 ^ width), Nat.mod_mul]

theorem decode_lt (bytes : List UInt8) : decode bytes < 256 ^ bytes.length := by
  induction bytes with
  | nil => exact Nat.zero_lt_one
  | cons byte rest ih =>
      have digit := byte.toNat_lt
      have value : decode (byte :: rest) = byte.toNat + 256 * decode rest := rfl
      rw [List.length_cons, Nat.pow_succ, value]
      omega

end Bytes

/-- The byte at every address. -/
abbrev ByteMemory := Nat → UInt8

namespace ByteMemory

variable (mem : ByteMemory)

def read (addr len : Nat) : List UInt8 := (List.range len).map fun i => mem (addr + i)

def write (addr : Nat) (bytes : List UInt8) : ByteMemory := fun a =>
  if addr ≤ a then (bytes[a - addr]?).getD (mem a) else mem a

def readNat (addr width : Nat) : Nat := Bytes.decode (mem.read addr width)

def writeNat (addr width value : Nat) : ByteMemory := mem.write addr (Bytes.encode width value)

variable {mem}

@[simp]
theorem length_read (addr len : Nat) : (mem.read addr len).length = len := by
  rw [read, List.length_map, List.length_range]

theorem drop_read (addr first rest : Nat) :
    (mem.read addr (first + rest)).drop first = mem.read (addr + first) rest := by
  apply List.ext_getElem
  · rw [List.length_drop, length_read, length_read]
    omega
  · intro i _ _
    simp only [read, List.getElem_drop, List.getElem_map, List.getElem_range]
    congr 1
    omega

theorem read_succ (addr len : Nat) :
    mem.read addr (len + 1) = mem addr :: mem.read (addr + 1) len := by
  rw [read, List.range_succ_eq_map, List.map_cons, List.map_map]
  congr 1
  apply List.map_congr_left
  intro i _
  change mem (addr + (i + 1)) = mem (addr + 1 + i)
  congr 1
  omega

/-- Two memories that agree on a range read the same there. -/
theorem read_congr {other : ByteMemory} {addr len : Nat}
    (same : ∀ a, addr ≤ a → a < addr + len → mem a = other a) :
    mem.read addr len = other.read addr len := by
  refine List.map_congr_left fun i inside => ?_
  rw [List.mem_range] at inside
  exact same (addr + i) (by omega) (by omega)

theorem write_of_lt {addr a : Nat} (bytes : List UInt8) (before : a < addr) :
    mem.write addr bytes a = mem a := if_neg (by omega)

theorem write_of_le {addr a : Nat} {bytes : List UInt8} (behind : addr + bytes.length ≤ a) :
    mem.write addr bytes a = mem a := by
  unfold write
  rw [if_pos (by omega), List.getElem?_eq_none (by omega)]
  rfl

/-- A write does not touch a range beside it. -/
theorem read_write_of_disjoint {addr len other : Nat} {bytes : List UInt8}
    (disjoint : addr + len ≤ other ∨ other + bytes.length ≤ addr) :
    (mem.write other bytes).read addr len = mem.read addr len := by
  refine read_congr fun a lower upper => ?_
  rcases disjoint with before | behind
  · exact write_of_lt bytes (by omega)
  · exact write_of_le (by omega)

/-- A part of what was written. -/
theorem read_write_inside {addr len other : Nat} {bytes : List UInt8} (lower : other ≤ addr)
    (upper : addr + len ≤ other + bytes.length) :
    (mem.write other bytes).read addr len = (bytes.drop (addr - other)).take len := by
  apply List.ext_getElem
  · rw [length_read, List.length_take, List.length_drop]
    omega
  · intro i insideRead insideBytes
    rw [length_read] at insideRead
    have inside : addr + i - other < bytes.length := by omega
    have index : addr - other + i = addr + i - other := by omega
    simp only [read, List.getElem_map, List.getElem_range, List.getElem_take, List.getElem_drop]
    unfold write
    rw [if_pos (by omega), List.getElem?_eq_getElem inside, Option.getD_some]
    simp only [index]

theorem read_write_self (addr : Nat) (bytes : List UInt8) :
    (mem.write addr bytes).read addr bytes.length = bytes := by
  rw [read_write_inside (Nat.le_refl addr) (Nat.le_refl _), Nat.sub_self, List.drop_zero,
    List.take_length]

theorem write_of_mem {addr i : Nat} {bytes : List UInt8} (inside : i < bytes.length) :
    some (mem.write addr bytes (addr + i)) = bytes[i]? := by
  unfold write
  rw [if_pos (Nat.le_add_right _ _), Nat.add_sub_cancel_left, List.getElem?_eq_getElem inside]
  rfl

/-- A write at the same place keeps what it agrees with. -/
theorem read_write_eq_iff {addr : Nat} {old bytes : List UInt8}
    (here : mem.read addr old.length = old) :
    (mem.write addr bytes).read addr old.length = old ↔
      bytes.take old.length = old.take bytes.length := by
  have before : ∀ i < old.length, some (mem (addr + i)) = old[i]? := by
    intro i inside
    conv_rhs => rw [← here]
    simp [read, inside]
  have after : (mem.write addr bytes).read addr old.length = old ↔
      ∀ i < old.length, some (mem.write addr bytes (addr + i)) = old[i]? := by
    constructor
    · intro same i inside
      conv_rhs => rw [← same]
      simp [read, inside]
    · intro same
      refine List.ext_getElem? fun i => ?_
      by_cases inside : i < old.length
      · rw [← same i inside]
        simp [read, inside]
      · rw [List.getElem?_eq_none (by rw [length_read]; omega),
          List.getElem?_eq_none (by omega)]
  rw [after]
  constructor
  · intro same
    refine List.ext_getElem? fun i => ?_
    rw [List.getElem?_take, List.getElem?_take]
    by_cases inside : i < old.length
    · by_cases written : i < bytes.length
      · rw [if_pos inside, if_pos written, ← write_of_mem written]
        exact same i inside
      · rw [if_pos inside, if_neg written, List.getElem?_eq_none (by omega)]
    · rw [if_neg inside, List.getElem?_eq_none (by omega), ite_self]
  · intro agree i inside
    by_cases written : i < bytes.length
    · have here := congrArg (·[i]?) agree
      simp only [List.getElem?_take, inside, written, if_true] at here
      rw [write_of_mem written, here]
    · rw [write_of_le (by omega)]
      exact before i inside

@[simp]
theorem readNat_writeNat (addr width value : Nat) :
    (mem.writeNat addr width value).readNat addr width = value % 256 ^ width := by
  have self := @read_write_self mem addr (Bytes.encode width value)
  rw [Bytes.length_encode] at self
  rw [readNat, writeNat, self, Bytes.decode_encode]

theorem readNat_writeNat_of_disjoint {addr width other width' : Nat} (value : Nat)
    (disjoint : addr + width ≤ other ∨ other + width' ≤ addr) :
    (mem.writeNat other width' value).readNat addr width = mem.readNat addr width := by
  rw [readNat, writeNat, read_write_of_disjoint (by rwa [Bytes.length_encode]), readNat]

theorem readNat_write_of_disjoint {addr width other : Nat} {bytes : List UInt8}
    (disjoint : addr + width ≤ other ∨ other + bytes.length ≤ addr) :
    (mem.write other bytes).readNat addr width = mem.readNat addr width := by
  rw [readNat, read_write_of_disjoint disjoint, readNat]

end ByteMemory
