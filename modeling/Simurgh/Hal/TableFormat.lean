import Simurgh.Hal.PageTable
import Simurgh.Lib.RadixTree

/-!
# Table formats

The entries of the three architectures, as `map_range` writes them and as the hardware
reads them.  The walk of the hardware is a walk in a tree of tables.  A link can take
permissions away from all pages below it.
-/

namespace Simurgh

/-- What the hardware allows in user mode, and to the kernel. -/
structure PagePermissions where
  readable : Bool
  writable : Bool
  user : Bool
  userExecutable : Bool
  kernelExecutable : Bool
  deriving DecidableEq, Repr

/-- What an entry that maps a page of the level says. -/
structure PageEntry where
  frame : Nat
  level : Nat
  permissions : PagePermissions
  deriving DecidableEq, Repr

/-- `READ=1 | WRITE=2 | EXECUTE=4 | USER=8`.  A page for users is executable in user mode,
and any other page by the kernel. -/
def requestedPermissions (permBits : Nat) : PagePermissions where
  readable := permBits.testBit 0
  writable := permBits.testBit 1
  user := permBits.testBit 3
  userExecutable := permBits.testBit 2 && permBits.testBit 3
  kernelExecutable := permBits.testBit 2 && !permBits.testBit 3

/-- The entries of an architecture. -/
structure TableFormat where
  /-- The indices from the root to the table that `map_range` starts with. -/
  rootPath : List (Fin 512)
  top : Nat → Nat
  present : Word → Bool
  /-- A present entry above the last level that maps a large page. -/
  block : Word → Bool
  /-- The next table, of any other present entry. -/
  table : Word → Nat
  link : (table : Nat) → Word
  leaf : (paddr permBits : Nat) → Word
  /-- How the hardware reads a present entry that maps a page. -/
  page : (level : Nat) → Word → Option PageEntry
  /-- What a link takes away. -/
  restrict : Word → PagePermissions → PagePermissions
  /-- Does the hardware walk the tables for this address? -/
  canonical : Nat → Bool
  /-- The physical addresses below it fit in an entry. -/
  physLimit : Nat
  /-- The virtual addresses below it are canonical. -/
  virtLimit : Nat
  /-- The permissions that a leaf can express. -/
  grants : (permBits : Nat) → Bool
  granted : (permBits : Nat) → PagePermissions

/-- The index of an address in a table of the level. -/
def slotIndex (level va : Nat) : Fin 512 := ⟨tableIndex level va, Nat.mod_lt _ (by decide)⟩

/-- The indices of an address above the last level. -/
def upperPath : (levels va : Nat) → List (Fin 512)
  | 0, _ => []
  | level + 1, va => slotIndex (level + 1) va :: upperPath level va

theorem upperPath_length (levels va : Nat) : (upperPath levels va).length = levels := by
  induction levels with
  | zero => rfl
  | succ level ih => exact congrArg Nat.succ ih

theorem slotIndex_val (level va : Nat) :
    (slotIndex level va).val = va / 4096 / 512 ^ level % 512 := by
  change va / 2 ^ (12 + 9 * level) % 512 = _
  rw [Nat.pow_add, Nat.pow_mul, ← Nat.div_div_eq_div_mul]

/-- The bits of the path are those of the page number. -/
theorem slotIndex_page (level : Nat) {va other : Nat} (same : va / 4096 = other / 4096) :
    slotIndex level va = slotIndex level other := by
  apply Fin.ext
  rw [slotIndex_val, slotIndex_val, same]

theorem upperPath_page (levels : Nat) {va other : Nat} (same : va / 4096 = other / 4096) :
    upperPath levels va = upperPath levels other := by
  induction levels with
  | zero => rfl
  | succ level ih =>
      rw [upperPath, upperPath, slotIndex_page (level + 1) same, ih]

/-- A path gives the low bits of the page number back. -/
theorem page_of_upperPath {levels va other : Nat}
    (upper : upperPath levels other = upperPath levels va)
    (last : slotIndex 0 other = slotIndex 0 va) :
    other / 4096 % 512 ^ (levels + 1) = va / 4096 % 512 ^ (levels + 1) := by
  induction levels with
  | zero =>
      have lowest := congrArg Fin.val last
      rw [slotIndex_val, slotIndex_val, Nat.pow_zero, Nat.div_one, Nat.div_one] at lowest
      exact lowest
  | succ level ih =>
      obtain ⟨first, rest⟩ := List.cons.inj upper
      have index := congrArg Fin.val first
      rw [slotIndex_val, slotIndex_val] at index
      rw [Nat.pow_succ, Nat.mod_mul, Nat.mod_mul, ih rest, index]

/-- The frames of the memory as tables, by number. -/
def TableMemory.store (mem : TableMemory) (frame : Nat) (i : Fin 512) : Word :=
  mem (4096 * frame + 8 * i.val)

/-- Writing an entry replaces a word of one table. -/
theorem TableMemory.store_write (mem : TableMemory) (frame : Nat) (i : Fin 512) (word : Word) :
    (mem.write (4096 * frame + 8 * i.val) word).store =
      RadixTree.put mem.store frame i word := by
  funext other j
  have inside := i.isLt
  have alsoInside := j.isLt
  unfold TableMemory.store TableMemory.write RadixTree.put
  by_cases here : other = frame ∧ j = i
  · rw [if_pos here, here.1, here.2, if_pos rfl]
  · rw [if_neg here]
    apply if_neg
    intro same
    apply here
    constructor
    · omega
    · apply Fin.ext
      omega

namespace TableFormat

variable (format : TableFormat)

/-- The levels above the last. -/
def depth : Nat := format.rootPath.length + 2

def reading : RadixTree.Reading Nat Word PageEntry where
  next entry :=
    if format.present entry && !format.block entry then some (format.table entry / 4096)
    else none
  through entry page := { page with permissions := format.restrict entry page.permissions }
  stop level entry := if format.present entry then format.page level entry else none

/-- The entry that maps the page of an address. -/
def entryAt (mem : TableMemory) (root va : Nat) : Option PageEntry :=
  if format.canonical va then
    RadixTree.walk format.reading mem.store (upperPath format.depth va) (slotIndex 0 va)
      (root / 4096)
  else none

/-- The physical address of a virtual one, and what the page allows. -/
def translate (mem : TableMemory) (root va : Nat) : Option (Nat × PagePermissions) :=
  (format.entryAt mem root va).map fun entry =>
    (entry.frame + va % (4096 * 512 ^ entry.level), entry.permissions)

/-- A page without the permissions that the links above it take away. -/
def limited (mem : TableMemory) (root va : Nat) (permissions : PagePermissions) :
    PagePermissions :=
  (RadixTree.limits format.reading mem.store (upperPath format.depth va) (root / 4096)
    { frame := 0, level := 0, permissions }).permissions

/-- Does the frame hold a table? -/
def Node (mem : TableMemory) (root frame : Nat) : Prop :=
  RadixTree.Node format.reading mem.store (root / 4096) format.depth frame

/-- The tables below a root are distinct frames of the memory, each linked once. -/
structure Forest (mem : TableMemory) (root : Nat) : Prop where
  aligned : root % 4096 = 0
  tree : RadixTree.IsTree format.reading mem.store (root / 4096) format.depth
  rooted : RadixTree.follow format.reading mem.store format.rootPath (root / 4096) =
    some (format.top root / 4096)
  within : ∀ frame, format.Node mem root frame → 4096 * frame + 4096 ≤ format.physLimit

/-- What is written can be read again, and the addresses below the limit have paths of
their own. -/
structure Lawful : Prop where
  zero : format.present 0 = false
  top_aligned : ∀ root, root % 4096 = 0 → format.top root % 4096 = 0
  table_aligned : ∀ entry, format.table entry % 4096 = 0
  link : ∀ table, table % 4096 = 0 → table + 4096 ≤ format.physLimit →
    format.present (format.link table) = true ∧ format.block (format.link table) = false ∧
      format.table (format.link table) = table ∧ format.restrict (format.link table) = id
  leaf : ∀ paddr permBits, paddr % 4096 = 0 → paddr + 4096 ≤ format.physLimit →
    format.grants permBits = true →
      format.present (format.leaf paddr permBits) = true ∧
        format.page 0 (format.leaf paddr permBits) =
          some { frame := paddr, level := 0, permissions := format.granted permBits }
  virt_le : format.virtLimit ≤ 2 ^ 39
  canonical : ∀ va, va < format.virtLimit → format.canonical va = true
  rootPath : ∀ va, va < format.virtLimit →
    upperPath format.depth va = format.rootPath ++ [slotIndex 2 va, slotIndex 1 va]
  apart : ∀ va other, va < format.virtLimit → format.canonical other = true →
    upperPath format.depth other = upperPath format.depth va →
      slotIndex 0 other = slotIndex 0 va → other / 4096 = va / 4096

end TableFormat

/-! ## Bits of an entry -/

section Bits

open Sv39 (has)

/-- A field that does not meet the flags is not seen by a test of the flags. -/
theorem has_or_of_apart {field bits : Word} (apart : field &&& bits = 0) (flags : Word) :
    has (field ||| flags) bits = has flags bits := by
  unfold Sv39.has
  rw [BitVec.and_comm, BitVec.and_or_distrib_left, BitVec.and_comm bits field, apart]
  change (0#64 ||| bits &&& flags != 0) = _
  rw [BitVec.zero_or, BitVec.and_comm]

theorem and_eq_zero_of_low {field bits : Word} {k : Nat} (high : 2 ^ k ∣ field.toNat)
    (low : bits.toNat < 2 ^ k) : field &&& bits = 0 := by
  apply BitVec.eq_of_toNat_eq
  rw [BitVec.toNat_and]
  obtain ⟨number, same⟩ := high
  apply Nat.eq_of_testBit_eq
  intro i
  change _ = (0 : Nat).testBit i
  rw [Nat.testBit_and, same, Nat.zero_testBit]
  by_cases inside : i < k
  · rw [Nat.testBit_two_pow_mul]
    simp [Nat.not_le.2 inside]
  · have above : bits.toNat < 2 ^ i :=
      Nat.lt_of_lt_of_le low (Nat.pow_le_pow_right (by decide) (Nat.le_of_not_lt inside))
    rw [Nat.testBit_lt_two_pow above, Bool.and_false]

/-- An aligned address below `2 ^ width` is in the mask of these bits. -/
theorem ofNat_and_mask {width addr : Nat} (wide : 12 ≤ width) (narrow : width ≤ 64)
    (aligned : addr % 4096 = 0) (below : addr < 2 ^ width) :
    BitVec.ofNat 64 addr &&& BitVec.ofNat 64 (2 ^ width - 2 ^ 12) = BitVec.ofNat 64 addr := by
  apply BitVec.eq_of_toNat_eq
  have whole : addr < 2 ^ 64 :=
    Nat.lt_of_lt_of_le below (Nat.pow_le_pow_right (by decide) narrow)
  have maskWhole : 2 ^ width - 2 ^ 12 < 2 ^ 64 := by
    have := Nat.pow_le_pow_right (show 0 < 2 by decide) narrow
    have : 0 < 2 ^ 12 := by decide
    omega
  have split : 2 ^ width - 2 ^ 12 = (2 ^ (width - 12) - 1) <<< 12 := by
    rw [Nat.shiftLeft_eq, Nat.sub_mul, ← Nat.pow_add, Nat.sub_add_cancel wide, Nat.one_mul]
  have number : addr = (addr / 4096) <<< 12 := by
    rw [Nat.shiftLeft_eq]
    omega
  have few : addr / 4096 < 2 ^ (width - 12) := by
    rw [Nat.div_lt_iff_lt_mul (by decide), show 4096 = 2 ^ 12 by rfl, ← Nat.pow_add,
      Nat.sub_add_cancel wide]
    exact below
  rw [BitVec.toNat_and, BitVec.toNat_ofNat, BitVec.toNat_ofNat, Nat.mod_eq_of_lt whole,
    Nat.mod_eq_of_lt maskWhole, split]
  conv => lhs; lhs; rw [number]
  rw [← Nat.shiftLeft_and_distrib, Nat.and_two_pow_sub_one_eq_mod, Nat.mod_eq_of_lt few,
    ← number]

theorem masked_apart {mask bits : Word} (apart : mask &&& bits = 0) (field : Word) :
    (field &&& mask) &&& bits = 0 := by
  rw [BitVec.and_assoc, apart]
  exact BitVec.and_zero

theorem or_and_mask {field mask flags : Word} (inside : field &&& mask = field)
    (clear : flags &&& mask = 0) : (field ||| flags) &&& mask = field := by
  rw [BitVec.and_comm, BitVec.and_or_distrib_left, BitVec.and_comm mask field, inside,
    BitVec.and_comm mask flags, clear]
  exact BitVec.or_zero

theorem masked_aligned {mask : Word} (aligned : mask.toNat % 2 ^ 12 = 0) (entry : Word) :
    (entry &&& mask).toNat % 4096 = 0 := by
  change (entry &&& mask).toNat % 2 ^ 12 = 0
  rw [BitVec.toNat_and, Nat.and_mod_two_pow, aligned, Nat.and_zero]

end Bits

/-! ## RISC-V -/

namespace Sv39

def tables : TableFormat where
  rootPath := []
  top := format.top
  present := format.present
  block := format.block
  table := format.table
  link := format.link
  leaf := format.leaf
  page level entry :=
    (format.page entry).bind fun leaf =>
      if leaf.frame % (4096 * 512 ^ level) = 0 then
        some {
          frame := leaf.frame
          level
          permissions := {
            readable := has entry pteR
            writable := leaf.writable
            user := leaf.user
            userExecutable := leaf.executable && leaf.user
            kernelExecutable := leaf.executable && !leaf.user } }
      else none
  restrict _ permissions := permissions
  canonical := format.canonical
  physLimit := 2 ^ 56
  virtLimit := 2 ^ 38
  -- A page has to be readable or executable, and readable if it is writable.
  grants permBits :=
    (permBits.testBit 0 || permBits.testBit 2) && (!permBits.testBit 1 || permBits.testBit 0)
  granted := requestedPermissions

theorem table_eq (entry : Word) :
    format.table entry = entry.toNat / 2 ^ 10 % 2 ^ 44 * 2 ^ 12 := by
  change (((entry >>> 10) &&& 0xfffffffffff) <<< 12).toNat = _
  have mask : (0xfffffffffff : Word).toNat = 2 ^ 44 - 1 := rfl
  rw [BitVec.toNat_shiftLeft, BitVec.toNat_and, BitVec.toNat_ushiftRight, mask,
    Nat.and_two_pow_sub_one_eq_mod, Nat.shiftRight_eq_div_pow, Nat.shiftLeft_eq]
  apply Nat.mod_eq_of_lt
  have := Nat.mod_lt (entry.toNat / 2 ^ 10) (show 0 < 2 ^ 44 by decide)
  omega

/-- The field of a frame number, as it is written. -/
theorem toNat_field {addr : Nat} (below : addr < 2 ^ 56) :
    ((BitVec.ofNat 64 addr >>> 12) <<< 10).toNat = 2 ^ 10 * (addr / 2 ^ 12) := by
  rw [BitVec.toNat_shiftLeft, BitVec.toNat_ushiftRight, BitVec.toNat_ofNat,
    Nat.shiftRight_eq_div_pow, Nat.shiftLeft_eq, Nat.mod_eq_of_lt (by omega : addr < 2 ^ 64),
    Nat.mul_comm]
  apply Nat.mod_eq_of_lt
  omega

theorem field_apart {addr : Nat} (below : addr < 2 ^ 56) {bits : Word}
    (low : bits.toNat < 2 ^ 10) : ((BitVec.ofNat 64 addr >>> 12) <<< 10) &&& bits = 0 := by
  apply and_eq_zero_of_low _ low
  rw [toNat_field below]
  exact Nat.dvd_mul_right ..

theorem table_field {addr : Nat} (aligned : addr % 4096 = 0) (below : addr < 2 ^ 56)
    {flags : Word} (low : flags.toNat < 2 ^ 10) :
    format.table (((BitVec.ofNat 64 addr >>> 12) <<< 10) ||| flags) = addr := by
  rw [table_eq, BitVec.toNat_or, toNat_field below, ← Nat.two_pow_add_eq_or_of_lt low]
  omega

/-- The flags of a leaf. -/
def leafFlags (readable writable executable user : Bool) : Word :=
  pteV ||| pteA ||| pteD ||| (if readable then pteR else 0) ||| (if writable then pteW else 0) |||
    (if executable then pteX else 0) ||| (if user then pteU else 0)

theorem leafFlags_low : ∀ readable writable executable user,
    (leafFlags readable writable executable user).toNat < 2 ^ 10 := by
  decide

theorem has_leafFlags : ∀ readable writable executable user,
    let flags := leafFlags readable writable executable user
    has flags pteV = true ∧ has flags pteR = readable ∧ has flags pteW = writable ∧
      has flags pteX = executable ∧ has flags pteU = user ∧
        has flags (pteR ||| pteX) = (readable || executable) := by
  decide

section Leaf

variable {paddr permBits : Nat}

theorem has_leaf (below : paddr < 2 ^ 56) {bits : Word} (low : bits.toNat < 2 ^ 10) :
    has (format.leaf paddr permBits) bits =
      has (leafFlags (permBits.testBit 0) (permBits.testBit 1) (permBits.testBit 2)
        (permBits.testBit 3)) bits :=
  has_or_of_apart (field_apart below low) _

theorem page_eq (entry : Word) :
    format.page entry =
      if (has entry pteW && !has entry pteR) || !has entry (pteR ||| pteX) then none
      else some {
        frame := format.table entry
        user := has entry pteU
        writable := has entry pteW
        executable := has entry pteX } := rfl

theorem page_leaf (aligned : paddr % 4096 = 0) (below : paddr < 2 ^ 56)
    (grants : ((permBits.testBit 0 || permBits.testBit 2) &&
      (!permBits.testBit 1 || permBits.testBit 0)) = true) :
    format.page (format.leaf paddr permBits) =
      some {
        frame := paddr
        user := permBits.testBit 3
        writable := permBits.testBit 1
        executable := permBits.testBit 2 } := by
  obtain ⟨_, readable, writable, executable, user, either⟩ :=
    has_leafFlags (permBits.testBit 0) (permBits.testBit 1) (permBits.testBit 2)
      (permBits.testBit 3)
  have frame : format.table (format.leaf paddr permBits) = paddr :=
    table_field aligned below (leafFlags_low ..)
  rw [page_eq, has_leaf below (by decide), has_leaf below (by decide),
    has_leaf below (by decide), has_leaf below (by decide), has_leaf below (by decide),
    readable, writable, executable, user, either, frame]
  apply if_neg
  revert grants
  generalize permBits.testBit 0 = readable
  generalize permBits.testBit 1 = writable
  generalize permBits.testBit 2 = executable
  revert readable writable executable
  decide

end Leaf

theorem tables_page {entry : Word} {leaf : PageLeaf} (page : format.page entry = some leaf)
    {level : Nat} (aligned : leaf.frame % (4096 * 512 ^ level) = 0) :
    tables.page level entry =
      some {
        frame := leaf.frame
        level
        permissions := {
          readable := has entry pteR
          writable := leaf.writable
          user := leaf.user
          userExecutable := leaf.executable && leaf.user
          kernelExecutable := leaf.executable && !leaf.user } } := by
  change (format.page entry).bind _ = _
  rw [page]
  exact if_pos aligned

theorem tables_lawful : tables.Lawful where
  zero := rfl
  top_aligned := fun _ aligned => aligned
  table_aligned := by
    intro entry
    change format.table entry % 4096 = 0
    rw [table_eq]
    omega
  link := by
    intro table aligned inside
    have below : table < 2 ^ 56 := by
      change table + 4096 ≤ 2 ^ 56 at inside
      omega
    have seen : ∀ {bits : Word}, bits.toNat < 2 ^ 10 → has (format.link table) bits =
        has pteV bits := fun low => has_or_of_apart (field_apart below low) pteV
    refine ⟨?_, ?_, table_field aligned below (by decide), rfl⟩
    · exact seen (by decide)
    · exact seen (by decide)
  leaf := by
    intro paddr permBits aligned inside grants
    have below : paddr < 2 ^ 56 := by
      change paddr + 4096 ≤ 2 ^ 56 at inside
      omega
    obtain ⟨valid, readable, _⟩ :=
      has_leafFlags (permBits.testBit 0) (permBits.testBit 1) (permBits.testBit 2)
        (permBits.testBit 3)
    constructor
    · exact (has_leaf below (by decide)).trans valid
    · have small : paddr % (4096 * 512 ^ 0) = 0 := aligned
      have page := tables_page (page_leaf aligned below grants) small
      rw [has_leaf below (by decide), readable] at page
      exact page
  virt_le := by decide
  canonical := by
    intro va below
    change va < 2 ^ 38 at below
    exact decide_eq_true (Or.inl (Nat.div_eq_of_lt below))
  rootPath := fun _ _ => rfl
  apart := by
    intro va other below canonical upper last
    change va < 2 ^ 38 at below
    have page : other / 4096 % 512 ^ 3 = va / 4096 % 512 ^ 3 := page_of_upperPath upper last
    rcases of_decide_eq_true canonical with low | high
    · omega
    · omega

/-- The page as the three-level walk sees it, without the level. -/
def pageLeaf (entry : PageEntry) : PageLeaf where
  frame := entry.frame
  user := entry.permissions.user
  writable := entry.permissions.writable
  executable := entry.permissions.userExecutable || entry.permissions.kernelExecutable

theorem stop_pageLeaf (level : Nat) (entry : Word) :
    (tables.reading.stop level entry).map pageLeaf =
      if format.present entry then
        (format.page entry).bind fun leaf =>
          if leaf.frame % (4096 * 512 ^ level) = 0 then some leaf else none
      else none := by
  change (if format.present entry then tables.page level entry else none).map pageLeaf = _
  cases format.present entry with
  | false => rfl
  | true =>
      change ((format.page entry).bind _).map pageLeaf = (format.page entry).bind _
      rw [Option.map_bind]
      congr 1
      funext leaf
      by_cases aligned : leaf.frame % (4096 * 512 ^ level) = 0
      · have whole : (leaf.executable && leaf.user || leaf.executable && !leaf.user) =
            leaf.executable := by
          rw [← Bool.and_or_distrib_left, Bool.or_not_self, Bool.and_true]
        simp [aligned, pageLeaf, whole]
      · simp [aligned]

theorem aligned_of_page {entry : Word} {leaf : PageLeaf} (page : format.page entry = some leaf) :
    leaf.frame % (4096 * 512 ^ 0) = 0 := by
  rw [page_eq] at page
  split at page
  · cases page
  · obtain rfl := Option.some.inj page
    exact tables_lawful.table_aligned entry

theorem store_slot (mem : TableMemory) {table : Nat} (aligned : table % 4096 = 0)
    (level va : Nat) :
    mem.store (table / 4096) (slotIndex level va) = mem (entryAddr table level va) := by
  change mem (4096 * (table / 4096) + 8 * tableIndex level va) = _
  rw [Nat.mul_div_cancel' (Nat.dvd_of_mod_eq_zero aligned)]
  rfl

/-- Both walks go the same way, by induction on the level. -/
theorem walkFrom_eq (mem : TableMemory) (va level : Nat) {table : Nat}
    (aligned : table % 4096 = 0) :
    (format.walkFrom mem va level table).map Prod.fst =
      (RadixTree.walk tables.reading mem.store (upperPath level va) (slotIndex 0 va)
        (table / 4096)).map pageLeaf := by
  induction level generalizing table with
  | zero =>
      rw [PageFormat.walkFrom, upperPath, RadixTree.walk, store_slot mem aligned, stop_pageLeaf]
      split
      · cases page : format.page (mem (entryAddr table 0 va)) with
        | none => rfl
        | some leaf => exact (if_pos (aligned_of_page page)).symm
      · rfl
  | succ level ih =>
      rw [PageFormat.walkFrom, upperPath, RadixTree.walk, store_slot mem aligned,
        upperPath_length]
      generalize mem (entryAddr table (level + 1) va) = entry
      have next : tables.reading.next entry =
          if format.present entry && !format.block entry then some (format.table entry / 4096)
          else none := rfl
      have through : tables.reading.through entry = id := rfl
      cases present : format.present entry with
      | false =>
          rw [next, present, if_neg (by decide), Bool.false_and, if_neg (by decide)]
          change none = (tables.reading.stop (level + 1) entry).map pageLeaf
          rw [stop_pageLeaf, present]
          rfl
      | true =>
          cases block : format.block entry with
          | false =>
              rw [next, present, block, if_pos rfl, if_neg (by decide), if_pos (by decide)]
              change _ = ((RadixTree.walk tables.reading mem.store (upperPath level va)
                (slotIndex 0 va) (format.table entry / 4096)).map
                  (tables.reading.through entry)).map pageLeaf
              rw [through, Option.map_id]
              exact ih (tables_lawful.table_aligned entry)
          | true =>
              rw [next, present, block, if_pos rfl, if_pos rfl, if_neg (by decide)]
              change _ = (tables.reading.stop (level + 1) entry).map pageLeaf
              rw [stop_pageLeaf, present, if_pos rfl]
              cases format.page entry with
              | none => rfl
              | some leaf =>
                  by_cases whole : leaf.frame % (4096 * 512 ^ (level + 1)) = 0
                  · simp [whole]
                  · simp [whole]

/-- The walk of `Hal.PageTable`, in which a trap looks for its stack, ends at the leaf that
`entryAt` finds in the tree of `Lib.RadixTree`, which `map_range` is proved to change. -/
theorem walk_eq (mem : TableMemory) {root : Nat} (aligned : root % 4096 = 0) (va : Nat) :
    format.walk mem root va = (tables.entryAt mem root va).map pageLeaf := by
  rw [PageFormat.walk, TableFormat.entryAt]
  change (if format.canonical va then (format.walkFrom mem va 2 root).map Prod.fst else none) =
    (if format.canonical va then RadixTree.walk tables.reading mem.store (upperPath 2 va)
      (slotIndex 0 va) (root / 4096) else none).map pageLeaf
  split
  · exact walkFrom_eq mem va 2 aligned
  · rfl

end Sv39

/-! ## x86_64 -/

namespace X8664Paging

open Sv39 (has)

def present : Word := 0x1
def writable : Word := 0x2
def user : Word := 0x4
def hugePage : Word := 0x80
def noExecute : Word := 0x8000000000000000

def physMask : Word := 0x000FFFFFFFFFF000

/-- Bit 12 of a large page is no part of its address. -/
def largeMask : Word := 0x000FFFFFFFFFE000

def leafFlags (write execute toUser : Bool) : Word :=
  present ||| (if write then writable else 0) ||| (if toUser then user else 0) |||
    (if execute then 0 else noExecute)

/-- Each level has to allow what the page allows. -/
def tables : TableFormat where
  rootPath := [0]
  top root := root + 4096
  present entry := has entry present
  block entry := has entry hugePage
  table entry := (entry &&& physMask).toNat
  link table := BitVec.ofNat 64 table ||| (present ||| writable ||| user)
  leaf paddr permBits :=
    (BitVec.ofNat 64 paddr &&& physMask) |||
      leafFlags (permBits.testBit 1) (permBits.testBit 2) (permBits.testBit 3)
  page level entry :=
    let frame := (entry &&& (if level = 0 then physMask else largeMask)).toNat
    if level < 3 ∧ frame % (4096 * 512 ^ level) = 0 then
      some {
        frame
        level
        permissions := {
          readable := true
          writable := has entry writable
          user := has entry user
          userExecutable := has entry user && !has entry noExecute
          kernelExecutable := !has entry noExecute } }
    else none
  restrict entry permissions :=
    { permissions with
      writable := permissions.writable && has entry writable
      user := permissions.user && has entry user
      userExecutable := permissions.userExecutable && has entry user && !has entry noExecute
      kernelExecutable := permissions.kernelExecutable && !has entry noExecute }
  -- The bits above bit 47 are copies of it.
  canonical va := va / 2 ^ 47 = 0 ∨ va / 2 ^ 47 = 2 ^ 17 - 1
  physLimit := 2 ^ 52
  virtLimit := 2 ^ 39
  grants _ := true
  -- A present page is readable, and the kernel may execute a page for users.
  granted permBits :=
    { requestedPermissions permBits with
      readable := true
      kernelExecutable := permBits.testBit 2 }

theorem tables_page_zero (entry : Word) :
    tables.page 0 entry =
      if 0 < 3 ∧ (entry &&& physMask).toNat % (4096 * 512 ^ 0) = 0 then
        some {
          frame := (entry &&& physMask).toNat
          level := 0
          permissions := {
            readable := true
            writable := has entry writable
            user := has entry user
            userExecutable := has entry user && !has entry noExecute
            kernelExecutable := !has entry noExecute } }
      else none := rfl

theorem has_leafFlags : ∀ write execute toUser,
    let flags := leafFlags write execute toUser
    has flags present = true ∧ has flags writable = write ∧ has flags user = toUser ∧
      has flags noExecute = !execute ∧ flags &&& physMask = 0 := by
  decide

/-- The address field of a leaf or of a link, beside the flags. -/
theorem field_inside {addr : Nat} (aligned : addr % 4096 = 0) (below : addr < 2 ^ 52) :
    BitVec.ofNat 64 addr &&& physMask = BitVec.ofNat 64 addr :=
  @ofNat_and_mask 52 addr (by decide) (by decide) aligned below

theorem toNat_masked {addr : Nat} (aligned : addr % 4096 = 0) (below : addr < 2 ^ 52)
    {flags : Word} (clear : flags &&& physMask = 0) :
    ((BitVec.ofNat 64 addr ||| flags) &&& physMask).toNat = addr := by
  rw [or_and_mask (field_inside aligned below) clear, BitVec.toNat_ofNat]
  omega

theorem has_or {addr : Nat} (aligned : addr % 4096 = 0) (below : addr < 2 ^ 52)
    {bits : Word} (apart : physMask &&& bits = 0) (flags : Word) :
    has (BitVec.ofNat 64 addr ||| flags) bits = has flags bits := by
  rw [← field_inside aligned below]
  exact has_or_of_apart (masked_apart apart _) flags

theorem tables_lawful : tables.Lawful where
  zero := rfl
  top_aligned := by
    intro root aligned
    change (root + 4096) % 4096 = 0
    omega
  table_aligned := by
    intro entry
    exact masked_aligned (by decide) entry
  link := by
    intro table aligned inside
    have below : table < 2 ^ 52 := by
      change table + 4096 ≤ 2 ^ 52 at inside
      omega
    refine ⟨?_, ?_, ?_, ?_⟩
    · exact has_or aligned below (by decide) _
    · exact has_or aligned below (by decide) _
    · exact toNat_masked aligned below (by decide)
    · funext permissions
      have writes : has (tables.link table) writable = true :=
        has_or aligned below (by decide) _
      have users : has (tables.link table) user = true := has_or aligned below (by decide) _
      have executes : has (tables.link table) noExecute = false :=
        has_or aligned below (by decide) _
      change PagePermissions.mk permissions.readable
        (permissions.writable && has (tables.link table) writable)
        (permissions.user && has (tables.link table) user)
        (permissions.userExecutable && has (tables.link table) user &&
          !has (tables.link table) noExecute)
        (permissions.kernelExecutable && !has (tables.link table) noExecute) = permissions
      rw [writes, users, executes]
      simp
  leaf := by
    intro paddr permBits aligned inside _
    have below : paddr < 2 ^ 52 := by
      change paddr + 4096 ≤ 2 ^ 52 at inside
      omega
    obtain ⟨valid, writes, users, executes, clear⟩ :=
      has_leafFlags (permBits.testBit 1) (permBits.testBit 2) (permBits.testBit 3)
    let flags := leafFlags (permBits.testBit 1) (permBits.testBit 2) (permBits.testBit 3)
    have leaf : tables.leaf paddr permBits = BitVec.ofNat 64 paddr ||| flags := by
      change (BitVec.ofNat 64 paddr &&& physMask) ||| flags = _
      rw [field_inside aligned below]
    have frame : ((BitVec.ofNat 64 paddr ||| flags) &&& physMask).toNat = paddr :=
      toNat_masked aligned below clear
    rw [leaf]
    constructor
    · exact (has_or aligned below (by decide) flags).trans valid
    · have page : 0 < 3 ∧ paddr % (4096 * 512 ^ 0) = 0 := ⟨by decide, aligned⟩
      rw [tables_page_zero, frame, if_pos page, has_or aligned below (by decide),
        has_or aligned below (by decide), has_or aligned below (by decide), writes, users,
        executes]
      change some _ = some (PageEntry.mk paddr 0 (PagePermissions.mk true (permBits.testBit 1)
        (permBits.testBit 3) (permBits.testBit 2 && permBits.testBit 3) (permBits.testBit 2)))
      rw [Bool.not_not, Bool.and_comm]
  virt_le := by decide
  canonical := by
    intro va below
    change va < 2 ^ 39 at below
    exact decide_eq_true (Or.inl (Nat.div_eq_of_lt (by omega)))
  rootPath := by
    intro va below
    change va < 2 ^ 39 at below
    have zero : slotIndex 3 va = 0 := by
      apply Fin.ext
      change va / 2 ^ 39 % 512 = 0
      omega
    change [slotIndex 3 va, slotIndex 2 va, slotIndex 1 va] = _
    rw [zero]
    rfl
  apart := by
    intro va other below canonical upper last
    change va < 2 ^ 39 at below
    have page : other / 4096 % 512 ^ 4 = va / 4096 % 512 ^ 4 := page_of_upperPath upper last
    rcases of_decide_eq_true canonical with low | high
    · omega
    · omega

end X8664Paging

/-! ## arm64 -/

namespace Aarch64Paging

open Sv39 (has)

def valid : Word := 0x1
def tableOrPage : Word := 0x2
def attrNormal : Word := 0x0
def apUser : Word := 0x40
def apRo : Word := 0x80
def shInner : Word := 0x300
def af : Word := 0x400
def pxn : Word := 0x20000000000000
def uxn : Word := 0x40000000000000

def addrMask : Word := 0x0000FFFFFFFFF000

/-- `PXNTable`, `UXNTable` and the two bits of `APTable`. -/
def pxnTable : Word := 0x800000000000000
def uxnTable : Word := 0x1000000000000000
def apTableNoUser : Word := 0x2000000000000000
def apTableRo : Word := 0x4000000000000000

/-- A page that is executable at all is so at one level of privilege. -/
def leafFlags (write execute toUser : Bool) : Word :=
  valid ||| tableOrPage ||| attrNormal ||| shInner ||| af ||| (if toUser then apUser else 0) |||
    (if write then 0 else apRo) |||
      (if !execute then uxn ||| pxn else if toUser then pxn else uxn)

def tables : TableFormat where
  rootPath := []
  top root := root
  present entry := has entry valid
  block entry := !has entry tableOrPage
  table entry := (entry &&& addrMask).toNat
  link table := (BitVec.ofNat 64 table &&& addrMask) ||| (valid ||| tableOrPage)
  leaf paddr permBits :=
    (BitVec.ofNat 64 paddr &&& addrMask) |||
      leafFlags (permBits.testBit 1) (permBits.testBit 2) (permBits.testBit 3)
  -- A page of the last level has the bit that a large page lacks.  The output address is
  -- one of 40 bits.
  page level entry :=
    let frame := (entry &&& addrMask).toNat / (4096 * 512 ^ level) * (4096 * 512 ^ level)
    if (has entry tableOrPage = true ↔ level = 0) ∧ has entry af = true ∧ frame < 2 ^ 40 then
      some {
        frame
        level
        permissions := {
          readable := true
          writable := !has entry apRo
          user := has entry apUser
          userExecutable := !has entry uxn
          kernelExecutable := !has entry pxn } }
    else none
  restrict entry permissions :=
    { permissions with
      writable := permissions.writable && !has entry apTableRo
      user := permissions.user && !has entry apTableNoUser
      userExecutable := permissions.userExecutable && !has entry uxnTable
      kernelExecutable := permissions.kernelExecutable && !has entry pxnTable }
  -- The second half of the address space has no tables.
  canonical va := va / 2 ^ 39 = 0
  physLimit := 2 ^ 40
  virtLimit := 2 ^ 39
  grants _ := true
  -- A valid page is readable.
  granted permBits := { requestedPermissions permBits with readable := true }

theorem has_leafFlags : ∀ write execute toUser,
    let flags := leafFlags write execute toUser
    has flags valid = true ∧ has flags tableOrPage = true ∧ has flags af = true ∧
      has flags apRo = !write ∧ has flags apUser = toUser ∧
        (!has flags uxn) = (execute && toUser) ∧ (!has flags pxn) = (execute && !toUser) ∧
          flags &&& addrMask = 0 := by
  decide

theorem field_inside {addr : Nat} (aligned : addr % 4096 = 0) (below : addr < 2 ^ 40) :
    BitVec.ofNat 64 addr &&& addrMask = BitVec.ofNat 64 addr :=
  @ofNat_and_mask 48 addr (by decide) (by decide) aligned (by omega)

theorem toNat_masked {addr : Nat} (aligned : addr % 4096 = 0) (below : addr < 2 ^ 40)
    {flags : Word} (clear : flags &&& addrMask = 0) :
    (((BitVec.ofNat 64 addr &&& addrMask) ||| flags) &&& addrMask).toNat = addr := by
  have inside := field_inside aligned below
  rw [inside, or_and_mask inside clear, BitVec.toNat_ofNat]
  omega

theorem has_or {bits : Word} (apart : addrMask &&& bits = 0) (field flags : Word) :
    has ((field &&& addrMask) ||| flags) bits = has flags bits :=
  has_or_of_apart (masked_apart apart field) flags

theorem tables_page_zero {entry : Word} (isPage : has entry tableOrPage = true)
    (accessed : has entry af = true) (inside : (entry &&& addrMask).toNat < 2 ^ 40) :
    tables.page 0 entry =
      some {
        frame := (entry &&& addrMask).toNat
        level := 0
        permissions := {
          readable := true
          writable := !has entry apRo
          user := has entry apUser
          userExecutable := !has entry uxn
          kernelExecutable := !has entry pxn } } := by
  have aligned : (entry &&& addrMask).toNat % 4096 = 0 := masked_aligned (by decide) entry
  have whole : (entry &&& addrMask).toNat / (4096 * 512 ^ 0) * (4096 * 512 ^ 0) =
      (entry &&& addrMask).toNat := by
    omega
  change (if _ ∧ _ ∧ (entry &&& addrMask).toNat / (4096 * 512 ^ 0) * (4096 * 512 ^ 0) < 2 ^ 40
    then some (PageEntry.mk
      ((entry &&& addrMask).toNat / (4096 * 512 ^ 0) * (4096 * 512 ^ 0)) 0 _) else none) = _
  rw [whole, if_pos ⟨iff_of_true isPage rfl, accessed, inside⟩]

theorem tables_lawful : tables.Lawful where
  zero := rfl
  top_aligned := fun _ aligned => aligned
  table_aligned := fun entry => masked_aligned (by decide) entry
  link := by
    intro table aligned inside
    have below : table < 2 ^ 40 := by
      change table + 4096 ≤ 2 ^ 40 at inside
      omega
    refine ⟨has_or (by decide) _ _, ?_, toNat_masked aligned below (by decide), ?_⟩
    · have isTable : has (tables.link table) tableOrPage = true := has_or (by decide) _ _
      change (!has (tables.link table) tableOrPage) = false
      rw [isTable]
      rfl
    · funext permissions
      have writes : has (tables.link table) apTableRo = false := has_or (by decide) _ _
      have users : has (tables.link table) apTableNoUser = false := has_or (by decide) _ _
      have userRuns : has (tables.link table) uxnTable = false := has_or (by decide) _ _
      have kernelRuns : has (tables.link table) pxnTable = false := has_or (by decide) _ _
      change PagePermissions.mk permissions.readable
        (permissions.writable && !has (tables.link table) apTableRo)
        (permissions.user && !has (tables.link table) apTableNoUser)
        (permissions.userExecutable && !has (tables.link table) uxnTable)
        (permissions.kernelExecutable && !has (tables.link table) pxnTable) = permissions
      rw [writes, users, userRuns, kernelRuns]
      simp
  leaf := by
    intro paddr permBits aligned inside _
    have below : paddr < 2 ^ 40 := by
      change paddr + 4096 ≤ 2 ^ 40 at inside
      omega
    obtain ⟨isValid, isPage, accessed, writes, users, userRuns, kernelRuns, clear⟩ :=
      has_leafFlags (permBits.testBit 1) (permBits.testBit 2) (permBits.testBit 3)
    have seen : ∀ {bits : Word}, addrMask &&& bits = 0 →
        has (tables.leaf paddr permBits) bits =
          has (leafFlags (permBits.testBit 1) (permBits.testBit 2) (permBits.testBit 3)) bits :=
      fun apart => has_or apart _ _
    have frame : (tables.leaf paddr permBits &&& addrMask).toNat = paddr :=
      toNat_masked aligned below clear
    constructor
    · exact (seen (by decide)).trans isValid
    · have small : (tables.leaf paddr permBits &&& addrMask).toNat < 2 ^ 40 := by
        rw [frame]
        exact below
      rw [tables_page_zero ((seen (by decide)).trans isPage)
        ((seen (by decide)).trans accessed) small, frame, seen (by decide), seen (by decide),
        seen (by decide), seen (by decide), writes, users, userRuns, kernelRuns, Bool.not_not]
      rfl
  virt_le := by decide
  canonical := by
    intro va below
    change va < 2 ^ 39 at below
    exact decide_eq_true (Nat.div_eq_of_lt below)
  rootPath := fun _ _ => rfl
  apart := by
    intro va other below canonical upper last
    change va < 2 ^ 39 at below
    have page : other / 4096 % 512 ^ 3 = va / 4096 % 512 ^ 3 := page_of_upperPath upper last
    have low : other / 2 ^ 39 = 0 := of_decide_eq_true canonical
    omega

end Aarch64Paging

/-! ## The architectures -/

def Architecture.tables : Architecture → TableFormat
  | riscv64 => Sv39.tables
  | x86_64 => X8664Paging.tables
  | arm64 => Aarch64Paging.tables

theorem Architecture.tables_lawful (architecture : Architecture) :
    architecture.tables.Lawful := by
  cases architecture with
  | riscv64 => exact Sv39.tables_lawful
  | x86_64 => exact X8664Paging.tables_lawful
  | arm64 => exact Aarch64Paging.tables_lawful

end Simurgh
