import Mathlib.Data.List.Induction
import Simurgh.Hal.PciBars
import Simurgh.Lib.Bytes

/-!
# The capabilities of a PCI device

The capabilities are a list in configuration space.  The walk follows it for a number of turns,
and keeps the last capability of every kind.
-/

namespace Simurgh

/-! ## Configuration space -/

/-- The bytes of the configuration space, and which of their bits can be written. -/
structure PciConfig where
  bytes : ByteMemory
  writable : ByteMemory

namespace PciConfig

variable (config : PciConfig)

def read8 (offset : Nat) : Nat := (config.bytes offset).toNat

def read32 (offset : Nat) : Nat := config.bytes.readNat offset 4

def write32 (offset value : Nat) : PciConfig :=
  { config with
    bytes := fun addr =>
      if offset ≤ addr ∧ addr < offset + 4 then
        config.bytes addr &&& ~~~config.writable addr |||
          UInt8.ofNat (value / 256 ^ (addr - offset)) &&& config.writable addr
      else config.bytes addr }

/-- The registers, as a probe reads and writes them. -/
def function : PciFunction where
  dwords offset := BitVec.ofNat 32 (config.read32 offset)
  writable offset := BitVec.ofNat 32 (config.writable.readNat offset 4)

/-- `pci_bar_phys`.  It leaves the registers as they were, which `PciFunction.restored` says. -/
def barPhys (bar : Nat) : Option (Nat × Nat) := (config.function.pciBarPhys bar).1

end PciConfig

/-! ## The walk -/

/-- The windows of a virtio device. -/
inductive VirtioCap where
  | common
  | notify
  | isr
  | device
  deriving DecidableEq, Repr

/-- The values of `cfg_type`. -/
def VirtioCap.ofCfgType : Nat → Option VirtioCap
  | 1 => some common
  | 2 => some notify
  | 3 => some isr
  | 4 => some device
  | _ => none

structure CapWindow where
  bar : Nat
  offset : Nat
  deriving DecidableEq, Repr

structure MsixLocation where
  capPtr : Nat
  bar : Nat
  tableOffset : Nat
  deriving DecidableEq, Repr

structure CapLayout where
  window : VirtioCap → Option CapWindow
  notifyOffMultiplier : Nat
  msix : Option MsixLocation

/-- So many bytes of the configuration space that are read. -/
structure ConfigRead where
  offset : Nat
  len : Nat
  deriving DecidableEq, Repr

/-- What the walk has found, and what it has read. -/
structure CapWalk where
  layout : CapLayout
  reads : List ConfigRead

def CapWalk.reading (walk : CapWalk) (reads : List ConfigRead) : CapWalk :=
  { walk with reads := walk.reads ++ reads }

def CapWalk.start : CapWalk where
  layout := { window := fun _ => none, notifyOffMultiplier := 0, msix := none }
  reads := []

def pciCapIdVendorSpecific : Nat := 0x09
def pciCapIdMsix : Nat := 0x11
def pciCapPointerOffset : Nat := 0x34
def msixTableOffsetBir : Nat := 4

namespace PciConfig

variable (config : PciConfig)

/-- The body of the loop, but for the next pointer. -/
def capTurn (walk : CapWalk) (ptr : Nat) : CapWalk :=
  let walk := walk.reading [⟨ptr, 1⟩, ⟨ptr + 1, 1⟩]
  if config.read8 ptr = pciCapIdVendorSpecific then
    let walk := walk.reading [⟨ptr + 3, 1⟩, ⟨ptr + 4, 1⟩, ⟨ptr + 8, 4⟩]
    let found : CapWindow :=
      { bar := config.read8 (ptr + 4), offset := config.read32 (ptr + 8) }
    match VirtioCap.ofCfgType (config.read8 (ptr + 3)) with
    | none => walk
    | some kind =>
        let window := Function.update walk.layout.window kind (some found)
        if kind = .notify then
          { walk.reading [⟨ptr + 16, 4⟩] with
            layout := { walk.layout with
              window, notifyOffMultiplier := config.read32 (ptr + 16) } }
        else { walk with layout := { walk.layout with window } }
  else if config.read8 ptr = pciCapIdMsix then
    let birDword := config.read32 (ptr + msixTableOffsetBir)
    { walk.reading [⟨ptr + msixTableOffsetBir, 4⟩] with
      layout := { walk.layout with
        msix := some
          { capPtr := ptr, bar := birDword % 8, tableOffset := birDword / 8 * 8 } } }
  else walk

/-- The loop, with so many turns left. -/
def capLoop : (turns ptr : Nat) → CapWalk → CapWalk
  | 0, _, walk => walk
  | turns + 1, ptr, walk =>
      if ptr = 0 then walk
      else capLoop turns (config.read8 (ptr + 1)) (config.capTurn walk ptr)

def walkVirtioPciCapabilities : CapWalk :=
  config.capLoop 48 (config.read8 pciCapPointerOffset)
    (CapWalk.start.reading [⟨pciCapPointerOffset, 1⟩])

/-! ## What is in the list -/

/-- The pointers that the walk follows. -/
def pointersFrom : (turns ptr : Nat) → List Nat
  | 0, _ => []
  | turns + 1, ptr => if ptr = 0 then [] else ptr :: pointersFrom turns (config.read8 (ptr + 1))

def pointers : List Nat := config.pointersFrom 48 (config.read8 pciCapPointerOffset)

/-- The window that a capability is about. -/
def kindAt (ptr : Nat) : Option VirtioCap :=
  if config.read8 ptr = pciCapIdVendorSpecific then
    VirtioCap.ofCfgType (config.read8 (ptr + 3))
  else none

def windowAt (ptr : Nat) : CapWindow where
  bar := config.read8 (ptr + 4)
  offset := config.read32 (ptr + 8)

/-- The length of the window, which the walk does not read. -/
def windowLength (ptr : Nat) : Nat := config.read32 (ptr + 12)

def msixAt (ptr : Nat) : MsixLocation where
  capPtr := ptr
  bar := config.read32 (ptr + msixTableOffsetBir) % 8
  tableOffset := config.read32 (ptr + msixTableOffsetBir) / 8 * 8

/-- The last capability of a kind. -/
def lastCapability (kind : VirtioCap) : Option Nat :=
  config.pointers.reverse.find? fun ptr => config.kindAt ptr = some kind

def lastMsix : Option Nat :=
  config.pointers.reverse.find? fun ptr => config.read8 ptr = pciCapIdMsix

/-- The end of what is read of a capability. -/
def capEnd (ptr : Nat) : Nat :=
  if config.read8 ptr = pciCapIdVendorSpecific then
    if config.kindAt ptr = some .notify then ptr + 20 else ptr + 12
  else if config.read8 ptr = pciCapIdMsix then ptr + 8
  else ptr + 2

variable {config}

theorem capLoop_eq_foldl (turns ptr : Nat) (walk : CapWalk) :
    config.capLoop turns ptr walk =
      (config.pointersFrom turns ptr).foldl config.capTurn walk := by
  induction turns generalizing ptr walk with
  | zero => rfl
  | succ turns ih =>
      rw [capLoop, pointersFrom]
      by_cases last : ptr = 0
      · rw [if_pos last, if_pos last]
        rfl
      · rw [if_neg last, if_neg last, ih]
        rfl

theorem capTurn_window (walk : CapWalk) (ptr : Nat) (kind : VirtioCap) :
    (config.capTurn walk ptr).layout.window kind =
      if config.kindAt ptr = some kind then some (config.windowAt ptr)
      else walk.layout.window kind := by
  rw [capTurn, kindAt]
  by_cases vendor : config.read8 ptr = pciCapIdVendorSpecific
  · rw [if_pos vendor, if_pos vendor]
    cases VirtioCap.ofCfgType (config.read8 (ptr + 3)) with
    | none => rfl
    | some found =>
        have updated : Function.update walk.layout.window found (some (config.windowAt ptr)) kind =
            if some found = some kind then some (config.windowAt ptr)
            else walk.layout.window kind := by
          by_cases same : found = kind
          · rw [same, if_pos rfl, Function.update_self]
          · rw [if_neg (fun both => same (Option.some.inj both)),
              Function.update_of_ne (Ne.symm same)]
        dsimp only
        split
        · exact updated
        · exact updated
  · have other : ¬ (none : Option VirtioCap) = some kind := nofun
    rw [if_neg vendor, if_neg vendor, if_neg other]
    split
    · rfl
    · rfl

theorem capTurn_msix (walk : CapWalk) (ptr : Nat) :
    (config.capTurn walk ptr).layout.msix =
      if config.read8 ptr = pciCapIdMsix then some (config.msixAt ptr) else walk.layout.msix := by
  rw [capTurn]
  by_cases vendor : config.read8 ptr = pciCapIdVendorSpecific
  · rw [if_pos vendor, if_neg (by rw [vendor]; decide)]
    cases VirtioCap.ofCfgType (config.read8 (ptr + 3)) with
    | none => rfl
    | some found =>
        dsimp only
        split
        · rfl
        · rfl
  · rw [if_neg vendor]
    split
    · rfl
    · rfl

end PciConfig

/-- Everything that has been read ends below the limit. -/
def CapWalk.Within (walk : CapWalk) (limit : Nat) : Prop :=
  ∀ read ∈ walk.reads, read.offset + read.len ≤ limit

theorem CapWalk.within_reading {walk : CapWalk} {reads : List ConfigRead} {limit : Nat} :
    (walk.reading reads).Within limit ↔
      walk.Within limit ∧ ∀ read ∈ reads, read.offset + read.len ≤ limit :=
  List.forall_mem_append

namespace PciConfig

variable {config : PciConfig}

theorem capTurn_within (walk : CapWalk) (ptr limit : Nat) :
    (config.capTurn walk ptr).Within limit ↔
      walk.Within limit ∧ config.capEnd ptr ≤ limit := by
  have first : (walk.reading [⟨ptr, 1⟩, ⟨ptr + 1, 1⟩]).Within limit ↔
      walk.Within limit ∧ ptr + 2 ≤ limit := by
    rw [CapWalk.within_reading, List.forall_mem_cons, List.forall_mem_singleton]
    apply and_congr_right
    intro _
    dsimp only
    omega
  rw [capTurn, capEnd, kindAt]
  by_cases vendor : config.read8 ptr = pciCapIdVendorSpecific
  · have second : ((walk.reading [⟨ptr, 1⟩, ⟨ptr + 1, 1⟩]).reading
        [⟨ptr + 3, 1⟩, ⟨ptr + 4, 1⟩, ⟨ptr + 8, 4⟩]).Within limit ↔
          walk.Within limit ∧ ptr + 12 ≤ limit := by
      rw [CapWalk.within_reading, first, List.forall_mem_cons, List.forall_mem_cons,
        List.forall_mem_singleton, and_assoc]
      apply and_congr_right
      intro _
      dsimp only
      omega
    rw [if_pos vendor, if_pos vendor, if_pos vendor]
    cases VirtioCap.ofCfgType (config.read8 (ptr + 3)) with
    | none =>
        rw [if_neg (nofun : ¬ (none : Option VirtioCap) = some .notify)]
        exact second
    | some kind =>
        by_cases notify : kind = .notify
        · rw [notify, if_pos rfl]
          change ((((walk.reading _).reading _).reading [⟨ptr + 16, 4⟩]).Within limit) ↔ _
          rw [CapWalk.within_reading, second, List.forall_mem_singleton, and_assoc]
          apply and_congr_right
          intro _
          dsimp only
          omega
        · dsimp only
          rw [if_neg notify, if_neg fun same => notify (Option.some.inj same)]
          exact second
  · rw [if_neg vendor, if_neg vendor]
    by_cases msix : config.read8 ptr = pciCapIdMsix
    · rw [if_pos msix, if_pos msix]
      change ((walk.reading _).reading [⟨ptr + 4, 4⟩]).Within limit ↔ _
      rw [CapWalk.within_reading, first, List.forall_mem_singleton, and_assoc]
      apply and_congr_right
      intro _
      dsimp only
      omega
    · rw [if_neg msix, if_neg msix]
      exact first

/-! ## The whole walk -/

theorem walk_eq_foldl :
    config.walkVirtioPciCapabilities =
      config.pointers.foldl config.capTurn
        (CapWalk.start.reading [⟨pciCapPointerOffset, 1⟩]) :=
  capLoop_eq_foldl _ _ _

/-- The walk finds the last window of each kind. -/
theorem walk_window (kind : VirtioCap) :
    config.walkVirtioPciCapabilities.layout.window kind =
      (config.lastCapability kind).map config.windowAt := by
  rw [walk_eq_foldl, lastCapability]
  induction config.pointers using List.reverseRecOn with
  | nil => rfl
  | append_singleton earlier ptr ih =>
      rw [List.foldl_append, List.foldl_cons, List.foldl_nil, capTurn_window, List.reverse_append,
        List.reverse_singleton, List.singleton_append]
      by_cases here : config.kindAt ptr = some kind
      · rw [if_pos here, List.find?_cons_of_pos (by simpa using here)]
        rfl
      · rw [if_neg here, List.find?_cons_of_neg (by simpa using here)]
        exact ih

theorem walk_msix :
    config.walkVirtioPciCapabilities.layout.msix = config.lastMsix.map config.msixAt := by
  rw [walk_eq_foldl, lastMsix]
  induction config.pointers using List.reverseRecOn with
  | nil => rfl
  | append_singleton earlier ptr ih =>
      rw [List.foldl_append, List.foldl_cons, List.foldl_nil, capTurn_msix, List.reverse_append,
        List.reverse_singleton, List.singleton_append]
      by_cases here : config.read8 ptr = pciCapIdMsix
      · rw [if_pos here, List.find?_cons_of_pos (by simpa using here)]
        rfl
      · rw [if_neg here, List.find?_cons_of_neg (by simpa using here)]
        exact ih

/-- The walk stays in the 256 bytes exactly if every capability of the list does. -/
theorem walk_within_iff :
    config.walkVirtioPciCapabilities.Within 256 ↔
      ∀ ptr ∈ config.pointers, config.capEnd ptr ≤ 256 := by
  rw [walk_eq_foldl]
  induction config.pointers using List.reverseRecOn with
  | nil =>
      constructor
      · exact fun _ _ absent => absurd absent List.not_mem_nil
      · intro _ read member
        rw [List.mem_singleton.1 member]
        decide
  | append_singleton earlier ptr ih =>
      rw [List.foldl_append, List.foldl_cons, List.foldl_nil, capTurn_within, ih,
        List.forall_mem_append, List.forall_mem_singleton]

end PciConfig

end Simurgh
