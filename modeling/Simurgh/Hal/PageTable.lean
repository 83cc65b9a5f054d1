import Mathlib.Algebra.Order.Ring.Nat
import Simurgh.Hal.Context

/-!
# Page tables

Tables of 512 entries in three levels, as the three architectures have them.  A format
says what the bits of an entry mean, to the code that writes the tables and to the
hardware that walks them.
-/

namespace Simurgh

/-- The 64-bit word at every physical address. -/
abbrev TableMemory := Nat → Word

def TableMemory.write (mem : TableMemory) (addr : Nat) (value : Word) : TableMemory :=
  fun a => if a = addr then value else mem a

/-- What an entry that maps a page says. -/
structure PageLeaf where
  frame : Nat
  user : Bool
  writable : Bool
  executable : Bool
  deriving DecidableEq, Repr

/-- The bits of the entries. -/
structure PageFormat where
  present : Word → Bool
  /-- A present entry above the last level that maps a large page. -/
  block : Word → Bool
  /-- The next table, of any other present entry. -/
  table : Word → Nat
  link : (table : Nat) → Word
  leaf : (paddr permBits : Nat) → Word
  /-- The table that the walk starts with, from the root frame. -/
  top : Nat → Nat
  /-- How the hardware reads an entry that maps a page. -/
  page : Word → Option PageLeaf
  /-- Does the hardware walk the tables for this address? -/
  canonical : Nat → Bool

/-- `(va >> (12 + 9 * level)) & 0x1FF`. -/
def tableIndex (level va : Nat) : Nat := va / 2 ^ (12 + 9 * level) % 512

/-- The address of an entry. -/
def entryAddr (table level va : Nat) : Nat := table + 8 * tableIndex level va

namespace PageFormat

variable (format : PageFormat)

/-- The walk of the hardware from a table of the level.  The frame of a large page is
aligned to its size. -/
def walkFrom (mem : TableMemory) (va : Nat) : (level table : Nat) → Option (PageLeaf × Nat)
  | 0, table =>
      let entry := mem (entryAddr table 0 va)
      if format.present entry then (format.page entry).map fun leaf => (leaf, 0) else none
  | level + 1, table =>
      let entry := mem (entryAddr table (level + 1) va)
      if format.present entry then
        if format.block entry then
          match format.page entry with
          | none => none
          | some leaf =>
              if leaf.frame % (4096 * 512 ^ (level + 1)) = 0 then some (leaf, level + 1) else none
        else walkFrom mem va level (format.table entry)
      else none

/-- The page of a virtual address, below a root frame. -/
def walk (mem : TableMemory) (root va : Nat) : Option PageLeaf :=
  if format.canonical va then
    (format.walkFrom mem va 2 (format.top root)).map Prod.fst
  else none

end PageFormat

/-! ## RISC-V -/

namespace Sv39

def pteV : Word := 1
def pteR : Word := 2
def pteW : Word := 4
def pteX : Word := 8
def pteU : Word := 16
def pteA : Word := 64
def pteD : Word := 128

/-- Does the entry have one of the bits? -/
def has (entry bits : Word) : Bool := entry &&& bits != 0

def format : PageFormat where
  present entry := has entry pteV
  block entry := has entry (pteR ||| pteW ||| pteX)
  table entry := (((entry >>> 10) &&& 0xfffffffffff) <<< 12).toNat
  link table := ((BitVec.ofNat 64 table >>> 12) <<< 10) ||| pteV
  leaf paddr permBits :=
    ((BitVec.ofNat 64 paddr >>> 12) <<< 10) |||
      (pteV ||| pteA ||| pteD |||
        (if permBits.testBit 0 then pteR else 0) |||
        (if permBits.testBit 1 then pteW else 0) |||
        (if permBits.testBit 2 then pteX else 0) |||
        (if permBits.testBit 3 then pteU else 0))
  top root := root
  -- Writable pages that are not readable are reserved, and without any of the three
  -- bits an entry maps no page.
  page entry :=
    if (has entry pteW && !has entry pteR) || !has entry (pteR ||| pteX) then none
    else
      some {
        frame := (((entry >>> 10) &&& 0xfffffffffff) <<< 12).toNat
        user := has entry pteU
        writable := has entry pteW
        executable := has entry pteX }
  -- The bits above bit 38 are copies of it.
  canonical va := va / 2 ^ 38 = 0 ∨ va / 2 ^ 38 = 2 ^ 26 - 1

/-- `map_ram_identity`: a large page for each GiB below `bytesGib`. -/
def mapRamIdentity (rootFrame bytesGib : Nat) (userAccessible : Bool) (mem : TableMemory) :
    TableMemory := fun addr =>
  if rootFrame ≤ addr ∧ addr < rootFrame + 4096 then
    let gib := (addr - rootFrame) / 8
    if gib < bytesGib then
      (BitVec.ofNat 64 gib <<< 28) |||
        (pteV ||| pteR ||| pteW ||| pteX ||| pteA ||| pteD |||
          (if userAccessible then pteU else 0))
    else 0
  else mem addr

/-- The large page of a GiB. -/
def gibLeaf (gib : Nat) (userAccessible : Bool) : PageLeaf where
  frame := gib * 2 ^ 30
  user := userAccessible
  writable := true
  executable := true

/-- The low bits of the entry do not depend on the GiB. -/
theorem has_gib (gib : Nat) (flags : Word) {bits : Word} (low : bits.toNat < 2 ^ 28) :
    has ((BitVec.ofNat 64 gib <<< 28) ||| flags) bits = has flags bits := by
  have apart : (BitVec.ofNat 64 gib <<< 28) &&& bits = 0 := by
    apply BitVec.eq_of_getLsbD_eq
    intro bit _
    rw [BitVec.getLsbD_and, BitVec.getLsbD_shiftLeft]
    by_cases below : bit < 28
    · simp [below]
    · have high : bits.getLsbD bit = false :=
        Nat.testBit_lt_two_pow (low.trans_le (Nat.pow_le_pow_right (by decide) (by omega)))
      rw [high, Bool.and_false]
      exact (BitVec.getLsbD_zero).symm
  have part : ((BitVec.ofNat 64 gib <<< 28) ||| flags) &&& bits = flags &&& bits := by
    rw [BitVec.and_comm, BitVec.and_or_distrib_left, BitVec.and_comm, apart, BitVec.and_comm]
    exact BitVec.zero_or
  rw [has, has, part]

/-- The frame of the entry is the GiB. -/
theorem frame_gib {gib : Nat} (small : gib < 512) {flags : Word} (low : flags >>> 10 = 0) :
    (((((BitVec.ofNat 64 gib <<< 28) ||| flags) >>> 10) &&& 0xfffffffffff) <<< 12).toNat =
      gib * 2 ^ 30 := by
  have mask : (0xfffffffffff : Word).toNat = 2 ^ 44 - 1 := rfl
  have high :
      (BitVec.ofNat 64 gib <<< 28) >>> 10 ||| (0 : Word) = (BitVec.ofNat 64 gib <<< 28) >>> 10 :=
    BitVec.or_zero
  rw [BitVec.ushiftRight_or_distrib, low, high, BitVec.toNat_shiftLeft,
    BitVec.toNat_and, BitVec.toNat_ushiftRight, BitVec.toNat_shiftLeft, BitVec.toNat_ofNat, mask,
    Nat.and_two_pow_sub_one_eq_mod, Nat.shiftLeft_eq, Nat.shiftLeft_eq,
    Nat.shiftRight_eq_div_pow]
  omega

theorem format_gib : ∀ gib < 512, ∀ userAccessible,
    let entry := (BitVec.ofNat 64 gib <<< 28) |||
      (pteV ||| pteR ||| pteW ||| pteX ||| pteA ||| pteD |||
        (if userAccessible then pteU else 0))
    format.present entry = true ∧ format.block entry = true ∧
      format.page entry = some (gibLeaf gib userAccessible) := by
  intro gib small userAccessible entry
  have present : has entry pteV = true := by
    rw [has_gib gib _ (by decide)]
    cases userAccessible <;> decide
  have block : has entry (pteR ||| pteW ||| pteX) = true := by
    rw [has_gib gib _ (by decide)]
    cases userAccessible <;> decide
  have readable : has entry pteR = true := by
    rw [has_gib gib _ (by decide)]
    cases userAccessible <;> decide
  have writable : has entry pteW = true := by
    rw [has_gib gib _ (by decide)]
    cases userAccessible <;> decide
  have executable : has entry pteX = true := by
    rw [has_gib gib _ (by decide)]
    cases userAccessible <;> decide
  have either : has entry (pteR ||| pteX) = true := by
    rw [has_gib gib _ (by decide)]
    cases userAccessible <;> decide
  have user : has entry pteU = userAccessible := by
    rw [has_gib gib _ (by decide)]
    cases userAccessible <;> decide
  have frame : (((entry >>> 10) &&& 0xfffffffffff) <<< 12).toNat = gib * 2 ^ 30 :=
    frame_gib small (by cases userAccessible <;> decide)
  refine ⟨present, block, ?_⟩
  change (if _ then _ else some (PageLeaf.mk _ _ _ _)) = _
  rw [readable, writable, executable, either, user, frame]
  rfl

/-- Every address below the given size has the large page of its GiB. -/
theorem walk_mapRamIdentity {rootFrame bytesGib va : Nat} (userAccessible : Bool)
    (mem : TableMemory) (few : bytesGib ≤ 256) (below : va < bytesGib * 2 ^ 30) :
    format.walk (mapRamIdentity rootFrame bytesGib userAccessible mem) rootFrame va =
      some (gibLeaf (va / 2 ^ 30) userAccessible) := by
  have gib : va / 2 ^ 30 < bytesGib := Nat.div_lt_of_lt_mul (by omega)
  have canonical : format.canonical va = true := by
    have low : va / 2 ^ 38 = 0 := Nat.div_eq_of_lt (by omega)
    exact decide_eq_true (Or.inl low)
  have index : tableIndex 2 va = va / 2 ^ 30 := Nat.mod_eq_of_lt (by omega)
  have entry : mapRamIdentity rootFrame bytesGib userAccessible mem
      (entryAddr rootFrame 2 va) = (BitVec.ofNat 64 (va / 2 ^ 30) <<< 28) |||
        (pteV ||| pteR ||| pteW ||| pteX ||| pteA ||| pteD |||
          (if userAccessible then pteU else 0)) := by
    have place : (entryAddr rootFrame 2 va - rootFrame) / 8 = va / 2 ^ 30 := by
      unfold entryAddr
      rw [index]
      omega
    unfold mapRamIdentity
    rw [if_pos (by unfold entryAddr; rw [index]; omega)]
    simp only [place]
    rw [if_pos gib]
  obtain ⟨present, block, page⟩ := format_gib (va / 2 ^ 30) (by omega) userAccessible
  have aligned : (gibLeaf (va / 2 ^ 30) userAccessible).frame % (4096 * 512 ^ (1 + 1)) = 0 := by
    change va / 2 ^ 30 * 2 ^ 30 % (4096 * 512 ^ (1 + 1)) = 0
    omega
  unfold PageFormat.walk
  rw [if_pos canonical]
  change (PageFormat.walkFrom format _ va 2 rootFrame).map Prod.fst = _
  unfold PageFormat.walkFrom
  simp only [entry]
  rw [if_pos present, if_pos block]
  simp only [page]
  rw [if_pos aligned]
  rfl

end Sv39

end Simurgh
