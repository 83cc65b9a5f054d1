import Simurgh.Hal.Direct
import Simurgh.Hal.TableFormat
import Simurgh.Lib.TreeDemand

/-!
# The page tables of the early boot

`setup_identity_mapping` maps a region page by page into four levels of static tables.  A
table that is missing is taken from a pool of sixteen, and nothing is given back.  The two
architectures have the same loops and differ in their entries.  `checks` tells builds that
panic when a sum overflows from builds that wrap it.
-/

namespace Simurgh

/-- The entries, as `map_page` writes them and as the hardware reads them. -/
structure EarlyFormat where
  reading : RadixTree.Reading Nat Word PageEntry
  /-- Does the hardware walk the tables for this address? -/
  canonical : Nat → Bool
  present : Word → Bool
  table : Word → Nat
  link : (table : Nat) → Word
  leaf : (phys : Nat) → (flags : Word) → Word
  permissionsToFlags : HalMapPermissions → Word
  /-- What the hardware makes of the flags. -/
  granted : HalMapPermissions → PagePermissions
  /-- The addresses below it are canonical and fit in an entry. -/
  limit : Nat

/-- Where the linker has put the root table and the pool, by frame numbers. -/
structure StaticTables where
  root : Nat
  pool : Nat
  apart : root < pool ∨ pool + 16 ≤ root
  within : root < 2 ^ 36 ∧ pool + 16 ≤ 2 ^ 36

/-- The memory, and `TABLE_POOL_NEXT`. -/
structure EarlyState where
  mem : TableMemory
  next : Nat

def tablePoolSize : Nat := 16

/-- The static tables as they are loaded, with all of their words zero. -/
def StaticTables.clear (statics : StaticTables) (mem : TableMemory) : TableMemory := fun addr =>
  if addr / 4096 = statics.root ∨
      statics.pool ≤ addr / 4096 ∧ addr / 4096 < statics.pool + tablePoolSize then 0
  else mem addr

namespace EarlyFormat

variable (format : EarlyFormat) (statics : StaticTables)

/-- The physical address of a virtual one, and what the page allows. -/
def translate (mem : TableMemory) (va : Nat) : Option (Nat × PagePermissions) :=
  if format.canonical va then
    (RadixTree.walk format.reading mem.store (upperPath 3 va) (slotIndex 0 va)
      statics.root).map fun entry =>
        (entry.frame + va % (4096 * 512 ^ entry.level), entry.permissions)
  else none

/-! ## The code -/

/-- Allocates the next unused table. -/
def allocTable : Exec EarlyState HalError Nat := do
  let state ← Exec.get
  if tablePoolSize ≤ state.next then Exec.throw .invalidMemoryRegion
  else do
    Exec.modify fun state => { state with next := state.next + 1 }
    return 4096 * (statics.pool + state.next)

/-- Link a new table into an entry that is not present. -/
def ensureTable (slot : Nat) : Exec EarlyState HalError Unit := do
  let state ← Exec.get
  if format.present (state.mem slot) then return ()
  else do
    let newTable ← allocTable statics
    Exec.modify fun state =>
      { state with mem := state.mem.write slot (format.link newTable) }

/-- The loop of `map_page` over the levels, from a table on. -/
def walkDown : List (Fin 512) → Nat → Exec EarlyState HalError Nat
  | [], table => return table
  | i :: rest, table => do
      format.ensureTable statics (table + 8 * i.val)
      let state ← Exec.get
      walkDown rest (format.table (state.mem (table + 8 * i.val)))

def mapPage (virt phys : Nat) (flags : Word) : Exec EarlyState HalError Unit := do
  let table ← format.walkDown statics (upperPath 3 virt) (4096 * statics.root)
  Exec.modify fun state =>
    { state with
      mem := state.mem.write (table + 8 * (slotIndex 0 virt).val) (format.leaf phys flags) }

/-- The loop over the pages, with so many left from an address on. -/
def mapPages (flags : Word) : (addr pages : Nat) → Exec EarlyState HalError Unit
  | _, 0 => return ()
  | addr, pages + 1 => do
      format.mapPage statics addr addr flags
      mapPages flags (addr + 4096) pages

/-- `a + b` on 64 bits. -/
def addU64 (checks : Bool) (a b : Nat) : Option Nat :=
  if a + b < 2 ^ 64 then some (a + b)
  else if checks then none
  else some ((a + b) % 2 ^ 64)

/-- `a - 1` on 64 bits. -/
def predU64 (checks : Bool) (a : Nat) : Option Nat :=
  if 0 < a then some (a - 1)
  else if checks then none
  else some (2 ^ 64 - 1)

/-- `self.0 & !(align - 1)`, for pages. -/
def alignDown (addr : Nat) : Nat := addr / 4096 * 4096

/-- `(self.0 + align - 1) & !(align - 1)`, for pages. -/
def alignUp (checks : Bool) (addr : Nat) : Option Nat := do
  let sum ← addU64 checks addr 4096
  let less ← predU64 checks sum
  return alignDown less

/-- The bounds of the loop over the pages. -/
def pageBounds (checks : Bool) (base length : Word) : Option (Nat × Nat) := do
  let stop ← addU64 checks base.toNat length.toNat
  let stop ← alignUp checks stop
  return (alignDown base.toNat, stop)

/-- The bounds are aligned, so the loop ends after so many pages, and its address does not
overflow. -/
def setupIdentityMapping (checks : Bool) (base length : Word) (perms : HalMapPermissions) :
    Exec EarlyState HalError Nat := do
  Exec.guard (decide (length ≠ 0)) .invalidMemoryRegion
  let (start, stop) ← Exec.expect (pageBounds checks base length)
  format.mapPages statics (format.permissionsToFlags perms) start ((stop - start) / 4096)
  return start

/-! ## What an entry means -/

/-- The words that `map_page` writes are read as they were meant, and addresses below the limit
have paths of their own. -/
structure Lawful : Prop where
  zero : format.present 0 = false
  empty : format.reading.next 0 = none ∧ ∀ level, format.reading.stop level 0 = none
  link : ∀ frame < 2 ^ 36,
    format.present (format.link (4096 * frame)) = true ∧
      format.table (format.link (4096 * frame)) = 4096 * frame ∧
        format.reading.next (format.link (4096 * frame)) = some frame ∧
          format.reading.through (format.link (4096 * frame)) = id
  leaf : ∀ phys perms, phys % 4096 = 0 → phys < format.limit →
    format.reading.stop 0 (format.leaf phys (format.permissionsToFlags perms)) =
      some { frame := phys, level := 0, permissions := format.granted perms }
  aligned : ∀ level word page, format.reading.stop level word = some page →
    page.frame % 4096 = 0
  through : ∀ word page, (format.reading.through word page).frame = page.frame ∧
    (format.reading.through word page).level = page.level
  limit_aligned : format.limit % 4096 = 0
  limit_le : format.limit ≤ 2 ^ 48
  canonical : ∀ va < format.limit, format.canonical va = true
  past : ∀ level word page va, format.reading.stop level word = some page →
    format.limit ≤ va → format.canonical va = true →
      page.frame + va % (4096 * 512 ^ page.level) ≠ va
  apart : ∀ va other, va < format.limit → format.canonical other = true →
    upperPath 3 other = upperPath 3 va → slotIndex 0 other = slotIndex 0 va →
      other / 4096 = va / 4096

end EarlyFormat

/-! ## x86_64 -/

namespace X8664Early

open Sv39 (has)
open X8664Paging (present writable noExecute physMask)

def writeThrough : Word := 0x8
def cacheDisable : Word := 0x10

/-- The flags of `permissions_to_flags`. -/
def flagsOf (write execute uncached : Bool) : Word :=
  (if write then writable else 0) ||| (if execute then 0 else noExecute) |||
    (if uncached then cacheDisable ||| writeThrough else 0)

def format : EarlyFormat where
  reading := X8664Paging.tables.reading
  canonical := X8664Paging.tables.canonical
  present entry := has entry present
  table entry := (entry &&& physMask).toNat
  link table := BitVec.ofNat 64 table ||| (present ||| writable ||| X8664Paging.user)
  leaf phys flags := (BitVec.ofNat 64 phys &&& physMask) ||| (flags ||| present)
  permissionsToFlags perms := flagsOf perms.writable perms.executable perms.deviceUncached
  -- A present page is readable, and none is for users.
  granted perms := {
    readable := true
    writable := perms.writable
    user := false
    userExecutable := false
    kernelExecutable := perms.executable }
  limit := 2 ^ 47

theorem has_flagsOf : ∀ write execute uncached,
    let flags := flagsOf write execute uncached ||| present
    has flags present = true ∧ has flags writable = write ∧ has flags X8664Paging.user = false ∧
      has flags noExecute = !execute ∧ flags &&& physMask = 0 := by
  decide

theorem reading_stop (level : Nat) (entry : Word) :
    format.reading.stop level entry =
      if has entry present then X8664Paging.tables.page level entry else none := rfl

/-- How a page of a large or a small size is read. -/
theorem page_frame {level : Nat} {entry : Word} {page : PageEntry}
    (stops : format.reading.stop level entry = some page) :
    page.level = level ∧ level < 3 ∧ page.frame % (4096 * 512 ^ level) = 0 ∧
      page.frame < 2 ^ 52 := by
  let frame := (entry &&& (if level = 0 then physMask else X8664Paging.largeMask)).toNat
  rw [reading_stop] at stops
  by_cases isPresent : has entry present = true
  · rw [if_pos isPresent] at stops
    change (if level < 3 ∧ frame % (4096 * 512 ^ level) = 0 then some (PageEntry.mk frame level _)
      else none) = _ at stops
    by_cases shape : level < 3 ∧ frame % (4096 * 512 ^ level) = 0
    · rw [if_pos shape] at stops
      obtain rfl := Option.some.inj stops
      refine ⟨rfl, shape.1, shape.2, ?_⟩
      change (entry &&& (if level = 0 then physMask else X8664Paging.largeMask)).toNat < 2 ^ 52
      rw [BitVec.toNat_and]
      apply Nat.lt_of_le_of_lt Nat.and_le_right
      split
      · decide
      · decide
    · rw [if_neg shape] at stops
      cases stops
  · rw [if_neg isPresent] at stops
    cases stops

/-- An entry with a new table leads to it and takes no permission away. -/
theorem link_leads {frame : Nat} (within : frame < 2 ^ 36) :
    format.present (format.link (4096 * frame)) = true ∧
      format.table (format.link (4096 * frame)) = 4096 * frame ∧
        format.reading.next (format.link (4096 * frame)) = some frame ∧
          format.reading.through (format.link (4096 * frame)) = id := by
  have aligned : 4096 * frame % 4096 = 0 := Nat.mul_mod_right 4096 frame
  have inside : 4096 * frame + 4096 ≤ X8664Paging.tables.physLimit := by
    change 4096 * frame + 4096 ≤ 2 ^ 52
    omega
  obtain ⟨isPresent, noBlock, table, open_⟩ :=
    X8664Paging.tables_lawful.link (4096 * frame) aligned inside
  refine ⟨isPresent, table, ?_, ?_⟩
  · change (if X8664Paging.tables.present (X8664Paging.tables.link (4096 * frame)) &&
      !X8664Paging.tables.block (X8664Paging.tables.link (4096 * frame)) then
        some (X8664Paging.tables.table (X8664Paging.tables.link (4096 * frame)) / 4096)
      else none) = some frame
    rw [isPresent, noBlock, table, Nat.mul_div_cancel_left frame (by decide)]
    rfl
  · funext page
    change PageEntry.mk page.frame page.level (X8664Paging.tables.restrict
      (X8664Paging.tables.link (4096 * frame)) page.permissions) = page
    rw [open_]
    rfl

/-- The page is read as it was written. -/
theorem stop_leaf {phys : Nat} (perms : HalMapPermissions) (aligned : phys % 4096 = 0)
    (below : phys < 2 ^ 47) :
    format.reading.stop 0 (format.leaf phys (format.permissionsToFlags perms)) =
      some { frame := phys, level := 0, permissions := format.granted perms } := by
  have inside : phys < 2 ^ 52 := by omega
  obtain ⟨isPresent, writes, users, executes, clear⟩ :=
    has_flagsOf perms.writable perms.executable perms.deviceUncached
  have leaf : format.leaf phys (format.permissionsToFlags perms) = BitVec.ofNat 64 phys |||
      (flagsOf perms.writable perms.executable perms.deviceUncached ||| present) := by
    change (BitVec.ofNat 64 phys &&& physMask) ||| _ = _
    rw [X8664Paging.field_inside aligned inside]
    rfl
  have page : 0 < 3 ∧ phys % (4096 * 512 ^ 0) = 0 := ⟨by decide, aligned⟩
  rw [leaf, reading_stop, X8664Paging.has_or aligned inside (by decide), isPresent, if_pos rfl,
    X8664Paging.tables_page_zero, X8664Paging.toNat_masked aligned inside clear, if_pos page,
    X8664Paging.has_or aligned inside (by decide), X8664Paging.has_or aligned inside (by decide),
    X8664Paging.has_or aligned inside (by decide), writes, users, executes, Bool.not_not]
  rfl

theorem lawful : format.Lawful where
  zero := rfl
  empty := ⟨rfl, fun _ => rfl⟩
  link := fun _ within => link_leads within
  leaf := fun _ perms aligned below => stop_leaf perms aligned below
  aligned := by
    intro level entry page stops
    obtain ⟨rfl, small, whole, _⟩ := page_frame stops
    exact Nat.mod_eq_zero_of_dvd (Nat.dvd_trans (Nat.dvd_mul_right 4096 _)
      (Nat.dvd_of_mod_eq_zero whole))
  through := fun _ _ => ⟨rfl, rfl⟩
  limit_aligned := by decide
  limit_le := by decide
  canonical := by
    intro va below
    change va < 2 ^ 47 at below
    exact decide_eq_true (Or.inl (Nat.div_eq_of_lt below))
  past := by
    intro level entry page va stops above canonical same
    obtain ⟨rfl, small, _, below⟩ := page_frame stops
    change 2 ^ 47 ≤ va at above
    have offset : va % (4096 * 512 ^ page.level) < 4096 * 512 ^ page.level :=
      Nat.mod_lt _ (Nat.mul_pos (by decide) (Nat.pow_pos (by decide)))
    have size : 4096 * 512 ^ page.level ≤ 4096 * 512 ^ 2 :=
      Nat.mul_le_mul_left 4096 (Nat.pow_le_pow_right (by decide) (Nat.le_of_lt_succ small))
    rcases of_decide_eq_true canonical with low | high
    · omega
    · omega
  apart := by
    intro va other below canonical upper last
    change va < 2 ^ 47 at below
    have page : other / 4096 % 512 ^ 4 = va / 4096 % 512 ^ 4 := page_of_upperPath upper last
    rcases of_decide_eq_true canonical with low | high
    · omega
    · omega

end X8664Early

/-! ## ARM64 -/

/-- The width of a physical address that `TCR_EL1.IPS` selects. -/
inductive OutputSize where
  | bits32
  | bits36
  | bits40
  | bits42
  | bits44
  | bits48
  deriving DecidableEq, Repr

def OutputSize.bits : OutputSize → Nat
  | bits32 => 32
  | bits36 => 36
  | bits40 => 40
  | bits42 => 42
  | bits44 => 44
  | bits48 => 48

namespace Aarch64Early

open Sv39 (has)
open Aarch64Paging (valid tableOrPage apUser apRo shInner af pxn uxn addrMask)

def attrDevice : Word := 0x4

/-- `AP_RW_EL1`, which sets no bit. -/
def apRwEl1 : Word := 0x0

/-- The flags of `permissions_to_flags`. -/
def flagsOf (write execute uncached : Bool) : Word :=
  shInner ||| (if uncached then attrDevice else Aarch64Paging.attrNormal) |||
    (if write then apRwEl1 else 0) ||| (if execute then 0 else pxn ||| uxn)

/-- How the hardware reads a page, at a level below the first. -/
def page (size : OutputSize) (level : Nat) (entry : Word) : Option PageEntry :=
  let frame := (entry &&& addrMask).toNat / (4096 * 512 ^ level) * (4096 * 512 ^ level)
  if level < 3 ∧ (has entry tableOrPage = true ↔ level = 0) ∧ has entry af = true ∧
      frame < 2 ^ size.bits then
    some {
      frame
      level
      permissions := {
        readable := true
        writable := !has entry apRo
        user := has entry apUser
        userExecutable := !has entry uxn
        kernelExecutable := !has entry pxn } }
  else none

def format (size : OutputSize) : EarlyFormat where
  reading := {
    next := Aarch64Paging.tables.reading.next
    through := Aarch64Paging.tables.reading.through
    stop := fun level entry => if has entry valid then page size level entry else none }
  -- Addresses of the second half are translated with other tables.
  canonical va := va / 2 ^ 48 = 0
  present entry := has entry valid
  table entry := (entry &&& addrMask).toNat
  link table := BitVec.ofNat 64 table ||| (valid ||| tableOrPage)
  leaf phys flags :=
    (BitVec.ofNat 64 phys &&& addrMask) ||| (flags ||| valid ||| tableOrPage ||| af)
  permissionsToFlags perms := flagsOf perms.writable perms.executable perms.deviceUncached
  -- A valid page is readable and, without `AP[2]`, writable.
  granted perms := {
    readable := true
    writable := true
    user := false
    userExecutable := perms.executable
    kernelExecutable := perms.executable }
  limit := 2 ^ size.bits

theorem has_flagsOf : ∀ write execute uncached,
    let flags := flagsOf write execute uncached ||| valid ||| tableOrPage ||| af
    has flags valid = true ∧ has flags tableOrPage = true ∧ has flags af = true ∧
      has flags apRo = false ∧ has flags apUser = false ∧ (!has flags uxn) = execute ∧
        (!has flags pxn) = execute ∧ flags &&& addrMask = 0 := by
  decide

section Pages

variable {size : OutputSize}

theorem reading_stop (level : Nat) (entry : Word) :
    (format size).reading.stop level entry =
      if has entry valid then page size level entry else none := rfl

theorem page_frame {level : Nat} {entry : Word} {found : PageEntry}
    (stops : (format size).reading.stop level entry = some found) :
    found.level = level ∧ level < 3 ∧ found.frame % (4096 * 512 ^ level) = 0 ∧
      found.frame < 2 ^ size.bits := by
  let frame := (entry &&& addrMask).toNat / (4096 * 512 ^ level) * (4096 * 512 ^ level)
  rw [reading_stop] at stops
  by_cases isValid : has entry valid = true
  · rw [if_pos isValid, page] at stops
    by_cases shape : level < 3 ∧ (has entry tableOrPage = true ↔ level = 0) ∧
        has entry af = true ∧ frame < 2 ^ size.bits
    · rw [if_pos shape] at stops
      obtain rfl := Option.some.inj stops
      exact ⟨rfl, shape.1, Nat.mul_mod_left _ _, shape.2.2.2⟩
    · rw [if_neg shape] at stops
      cases stops
  · rw [if_neg isValid] at stops
    cases stops

theorem bits_le : 32 ≤ size.bits ∧ size.bits ≤ 48 := by
  cases size <;> decide

/-- A page lies below the limit as a whole. -/
theorem page_inside {level frame : Nat} (small : level < 3)
    (whole : frame % (4096 * 512 ^ level) = 0) (below : frame < 2 ^ size.bits) :
    frame + 4096 * 512 ^ level ≤ 2 ^ size.bits := by
  have power : 4096 * 512 ^ level = 2 ^ (12 + 9 * level) := by
    rw [Nat.pow_add, Nat.pow_mul]
  have wide := (@bits_le size).1
  have divides : 4096 * 512 ^ level ∣ 2 ^ size.bits := by
    rw [power]
    exact Nat.pow_dvd_pow 2 (by omega)
  obtain ⟨pages, total⟩ := divides
  obtain ⟨k, place⟩ := Nat.dvd_of_mod_eq_zero whole
  rw [total, place] at below
  have before : k + 1 ≤ pages := Nat.lt_of_mul_lt_mul_left below
  calc
    frame + 4096 * 512 ^ level = 4096 * 512 ^ level * (k + 1) := by rw [place, Nat.mul_succ]
    _ ≤ 4096 * 512 ^ level * pages := Nat.mul_le_mul_left _ before
    _ = 2 ^ size.bits := total.symm

theorem field_inside {addr : Nat} (aligned : addr % 4096 = 0) (below : addr < 2 ^ 48) :
    BitVec.ofNat 64 addr &&& addrMask = BitVec.ofNat 64 addr :=
  @ofNat_and_mask 48 addr (by decide) (by decide) aligned below

theorem toNat_masked {addr : Nat} (aligned : addr % 4096 = 0) (below : addr < 2 ^ 48)
    {flags : Word} (clear : flags &&& addrMask = 0) :
    ((BitVec.ofNat 64 addr ||| flags) &&& addrMask).toNat = addr := by
  rw [or_and_mask (field_inside aligned below) clear, BitVec.toNat_ofNat]
  omega

theorem has_or {addr : Nat} (aligned : addr % 4096 = 0) (below : addr < 2 ^ 48)
    {bits : Word} (apart : addrMask &&& bits = 0) (flags : Word) :
    has (BitVec.ofNat 64 addr ||| flags) bits = has flags bits := by
  rw [← field_inside aligned below]
  exact has_or_of_apart (masked_apart apart _) flags

theorem link_leads {frame : Nat} (within : frame < 2 ^ 36) :
    (format size).present ((format size).link (4096 * frame)) = true ∧
      (format size).table ((format size).link (4096 * frame)) = 4096 * frame ∧
        (format size).reading.next ((format size).link (4096 * frame)) = some frame ∧
          (format size).reading.through ((format size).link (4096 * frame)) = id := by
  have aligned : 4096 * frame % 4096 = 0 := Nat.mul_mod_right 4096 frame
  have below : 4096 * frame < 2 ^ 48 := by omega
  have isValid : has ((format size).link (4096 * frame)) valid = true :=
    has_or aligned below (by decide) _
  have isTable : has ((format size).link (4096 * frame)) tableOrPage = true :=
    has_or aligned below (by decide) _
  have table : (((format size).link (4096 * frame)) &&& addrMask).toNat = 4096 * frame :=
    toNat_masked aligned below (by decide)
  refine ⟨isValid, table, ?_, ?_⟩
  · change (if has ((format size).link (4096 * frame)) valid &&
      !!has ((format size).link (4096 * frame)) tableOrPage then
        some ((((format size).link (4096 * frame)) &&& addrMask).toNat / 4096)
      else none) = some frame
    rw [isValid, isTable, table, Nat.mul_div_cancel_left frame (by decide)]
    rfl
  · funext found
    have clear : ∀ {bits : Word}, addrMask &&& bits = 0 →
        has (valid ||| tableOrPage) bits = false →
          has ((format size).link (4096 * frame)) bits = false :=
      fun apart none => (has_or aligned below apart _).trans none
    change PageEntry.mk found.frame found.level (PagePermissions.mk found.permissions.readable
      (found.permissions.writable &&
        !has ((format size).link (4096 * frame)) Aarch64Paging.apTableRo)
      (found.permissions.user &&
        !has ((format size).link (4096 * frame)) Aarch64Paging.apTableNoUser)
      (found.permissions.userExecutable &&
        !has ((format size).link (4096 * frame)) Aarch64Paging.uxnTable)
      (found.permissions.kernelExecutable &&
        !has ((format size).link (4096 * frame)) Aarch64Paging.pxnTable)) = found
    rw [clear (by decide) (by decide), clear (by decide) (by decide),
      clear (by decide) (by decide), clear (by decide) (by decide)]
    simp

theorem stop_leaf {phys : Nat} (perms : HalMapPermissions) (aligned : phys % 4096 = 0)
    (below : phys < 2 ^ size.bits) :
    (format size).reading.stop 0
        ((format size).leaf phys ((format size).permissionsToFlags perms)) =
      some { frame := phys, level := 0, permissions := (format size).granted perms } := by
  have inside : phys < 2 ^ 48 :=
    Nat.lt_of_lt_of_le below (Nat.pow_le_pow_right (by decide) bits_le.2)
  obtain ⟨isValid, isPage, accessed, writes, users, userRuns, kernelRuns, clear⟩ :=
    has_flagsOf perms.writable perms.executable perms.deviceUncached
  have leaf : (format size).leaf phys ((format size).permissionsToFlags perms) =
      BitVec.ofNat 64 phys |||
        (flagsOf perms.writable perms.executable perms.deviceUncached ||| valid |||
          tableOrPage ||| af) := by
    change (BitVec.ofNat 64 phys &&& addrMask) ||| _ = _
    rw [field_inside aligned inside]
    rfl
  have whole : phys / (4096 * 512 ^ 0) * (4096 * 512 ^ 0) = phys := by omega
  rw [leaf, reading_stop, has_or aligned inside (by decide), isValid, if_pos rfl, page,
    toNat_masked aligned inside clear, whole, has_or aligned inside (by decide),
    has_or aligned inside (by decide), has_or aligned inside (by decide),
    has_or aligned inside (by decide), has_or aligned inside (by decide),
    has_or aligned inside (by decide), isPage, accessed, writes, users, userRuns, kernelRuns,
    if_pos ⟨by decide, by decide, rfl, below⟩]
  rfl

theorem lawful (size : OutputSize) : (format size).Lawful where
  zero := rfl
  empty := ⟨rfl, fun _ => rfl⟩
  link := fun _ within => link_leads within
  leaf := fun _ perms aligned below => stop_leaf perms aligned below
  aligned := by
    intro level entry found stops
    obtain ⟨rfl, small, whole, _⟩ := page_frame stops
    exact Nat.mod_eq_zero_of_dvd (Nat.dvd_trans (Nat.dvd_mul_right 4096 _)
      (Nat.dvd_of_mod_eq_zero whole))
  through := fun _ _ => ⟨rfl, rfl⟩
  limit_aligned := by cases size <;> decide
  limit_le := Nat.pow_le_pow_right (by decide) bits_le.2
  canonical := by
    intro va below
    change va < 2 ^ size.bits at below
    have inside : va < 2 ^ 48 :=
      Nat.lt_of_lt_of_le below (Nat.pow_le_pow_right (by decide) bits_le.2)
    exact decide_eq_true (Nat.div_eq_of_lt inside)
  past := by
    intro level entry found va stops above _ same
    obtain ⟨rfl, small, whole, below⟩ := page_frame stops
    change 2 ^ size.bits ≤ va at above
    have inside := page_inside small whole below
    have offset : va % (4096 * 512 ^ found.level) < 4096 * 512 ^ found.level :=
      Nat.mod_lt _ (Nat.mul_pos (by decide) (Nat.pow_pos (by decide)))
    omega
  apart := by
    intro va other below canonical upper last
    change va < 2 ^ size.bits at below
    have inside : va < 2 ^ 48 :=
      Nat.lt_of_lt_of_le below (Nat.pow_le_pow_right (by decide) bits_le.2)
    have page : other / 4096 % 512 ^ 4 = va / 4096 % 512 ^ 4 := page_of_upperPath upper last
    have low : other / 2 ^ 48 = 0 := of_decide_eq_true canonical
    omega

end Pages

end Aarch64Early

end Simurgh
