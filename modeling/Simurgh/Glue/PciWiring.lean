import Simurgh.Hal.PciCapabilities
import Simurgh.Lib.Exec

/-!
# Wiring a virtio device

The windows of a virtio device are mapped for its driver, BAR by BAR, at places of a fixed
distance.  MSI-X is set up through two windows of the kernel.
-/

namespace Simurgh

/-! ## The code -/

def drvPciBarVaBase : Nat := 0xD8400000
def drvPciBarVaStride : Nat := 0x100000
def drvPciMaxBars : Nat := 4
def kernelMsixBarVa : Nat := 0xD8100000
def kernelMsixCommonVa : Nat := 0xD8110000
def pciCommandOffset : Nat := 0x04
def pciCommandMemorySpace : Nat := 1 <<< 1
def pciCommandBusMaster : Nat := 1 <<< 2
def msixEnableBit : Nat := 1 <<< 31
def virtioPciCommonQueueSelect : Nat := 0x16
def virtioPciCommonQueueMsixVector : Nat := 0x1a
def virtioMsiNoVector : Nat := 0xFFFF

/-- A BAR, and the pages that it is mapped to. -/
structure BarMapping where
  bar : Nat
  va : Nat
  len : Nat
  deriving DecidableEq, Repr

/-- A write to a register, at an offset from where a BAR is mapped. -/
structure RegisterWrite where
  mapping : BarMapping
  offset : Nat
  len : Nat
  value : Nat
  deriving DecidableEq, Repr

/-- Is there a pool for a mapping, and does `map_range` find the tables? -/
structure MapAnswer where
  pool : Bool
  maps : Bool
  deriving DecidableEq, Repr

/-- What the rest of the kernel answers, each time that it is asked. -/
structure WiringHal where
  config : MapAnswer
  /-- For the BAR of a window, if it is mapped when its turn comes. -/
  bar : VirtioCap → MapAnswer
  msixTable : MapAnswer
  msixCommon : MapAnswer
  msiMessage : Option (Nat × Nat)

structure Wiring where
  config : PciConfig
  /-- What the walk has read. -/
  reads : List ConfigRead
  /-- What is mapped for the driver, and for the kernel. -/
  driver : List BarMapping
  kernel : List BarMapping
  writes : List RegisterWrite
  /-- Has MSI-X been enabled? -/
  enabled : Bool

def Wiring.start (config : PciConfig) : Wiring where
  config := config
  reads := []
  driver := []
  kernel := []
  writes := []
  enabled := false

/-- `None`, or a sum that overflows. -/
inductive WiringStop where
  | refused
  | aborted
  deriving DecidableEq, Repr

abbrev WiringM (α : Type) : Type := Exec Wiring WiringStop α

/-- `bar_size.div_ceil(4096) * 4096`. -/
def mapLen (checks : Bool) (barSize : Nat) : Option Nat :=
  let len := (barSize + 4095) / 4096 * 4096
  if len < 2 ^ 64 then some len else if checks then none else some (len % 2 ^ 64)

/-- `map_range` takes whole pages only. -/
def mapsPages (barPhys len : Nat) : Bool := len != 0 && barPhys % 4096 == 0

section Code

variable (hal : WiringHal) (checks : Bool)

/-- The address of a BAR for the driver.  No BAR is mapped twice. -/
def mapPciBar (kind : VirtioCap) (bar : Nat) : WiringM Nat := do
  let wiring ← Exec.get
  match wiring.driver.find? fun mapping => mapping.bar == bar with
  | some mapping => return mapping.va
  | none =>
      Exec.guard (decide (wiring.driver.length < drvPciMaxBars)) .refused
      let (barPhys, barSize) ← Exec.okOr .refused (wiring.config.barPhys bar)
      let len ← Exec.okOr .aborted (mapLen checks barSize)
      Exec.guard (decide (len ≠ 0 ∧ len ≤ drvPciBarVaStride)) .refused
      let va := drvPciBarVaBase + wiring.driver.length * drvPciBarVaStride
      Exec.guard (hal.bar kind).pool .refused
      Exec.guard ((hal.bar kind).maps && mapsPages barPhys len) .refused
      Exec.modify fun wiring => { wiring with driver := wiring.driver ++ [⟨bar, va, len⟩] }
      return va

/-- The closure `resolve`. -/
def resolveWindow (kind : VirtioCap) : Option CapWindow → WiringM Nat
  | none => return 0
  | some window => fun wiring =>
      match mapPciBar hal checks kind window.bar wiring with
      | .ok va later => .ok (va + window.offset) later
      | .err .refused later => .ok 0 later
      | .err .aborted later => .err .aborted later
      | .panic => .panic

/-- A BAR in a window of the kernel. -/
def mapKernelBar (answer : MapAnswer) (va bar : Nat) : WiringM BarMapping := do
  Exec.guard answer.pool .refused
  let wiring ← Exec.get
  let (barPhys, barSize) ← Exec.okOr .refused (wiring.config.barPhys bar)
  let len ← Exec.okOr .aborted (mapLen checks barSize)
  Exec.guard (answer.maps && mapsPages barPhys len) .refused
  Exec.modify fun wiring => { wiring with kernel := ⟨bar, va, len⟩ :: wiring.kernel }
  return ⟨bar, va, len⟩

def writeRegister (mapping : BarMapping) (offset len value : Nat) : WiringM Unit :=
  Exec.modify fun wiring =>
    { wiring with writes := ⟨mapping, offset, len, value⟩ :: wiring.writes }

def enableAndProgramMsix (msix : MsixLocation) (common : CapWindow)
    (msiMessage : Nat × Nat) : WiringM Unit := do
  let table ← mapKernelBar checks hal.msixTable kernelMsixBarVa msix.bar
  writeRegister table msix.tableOffset 4 (msiMessage.1 % 2 ^ 32)
  writeRegister table (msix.tableOffset + 4) 4 (msiMessage.1 / 2 ^ 32 % 2 ^ 32)
  writeRegister table (msix.tableOffset + 8) 4 msiMessage.2
  writeRegister table (msix.tableOffset + 12) 4 0
  Exec.modify fun wiring =>
    { wiring with
      config := wiring.config.write32 msix.capPtr
        (wiring.config.read32 msix.capPtr ||| msixEnableBit)
      enabled := true }
  let window ← mapKernelBar checks hal.msixCommon kernelMsixCommonVa common.bar
  writeRegister window (common.offset + virtioPciCommonQueueSelect) 2 0
  writeRegister window (common.offset + virtioPciCommonQueueMsixVector) 2 0

/-- The header block for the driver. -/
structure PciInfo where
  commonCfgVa : Nat
  notifyCfgVa : Nat
  notifyOffMultiplier : Nat
  isrCfgVa : Nat
  deviceCfgVa : Nat
  msixVector : Nat
  deriving DecidableEq, Repr

/-- The windows, of which the first one has to be there. -/
def mapWindows (caps : CapLayout) : WiringM (CapWindow × Nat × Nat × Nat × Nat) := do
  let common ← Exec.okOr .refused (caps.window .common)
  let commonVa ← mapPciBar hal checks .common common.bar
  let notifyCfgVa ← resolveWindow hal checks .notify (caps.window .notify)
  let isrCfgVa ← resolveWindow hal checks .isr (caps.window .isr)
  let deviceCfgVa ← resolveWindow hal checks .device (caps.window .device)
  return (common, commonVa + common.offset, notifyCfgVa, isrCfgVa, deviceCfgVa)

/-- The vector of the queue, if there are MSI-X and a message for it. -/
def programMsix (common : CapWindow) : Option MsixLocation → WiringM Nat
  | none => return virtioMsiNoVector
  | some msix =>
      match hal.msiMessage with
      | none => return virtioMsiNoVector
      | some msiMessage => do
          enableAndProgramMsix hal checks msix common msiMessage
          return 0

def wireVirtioPciTransport : WiringM PciInfo := do
  Exec.guard (hal.config.pool && hal.config.maps) .refused
  Exec.modify fun wiring =>
    { wiring with
      config := wiring.config.write32 pciCommandOffset
        (wiring.config.read32 pciCommandOffset ||| pciCommandMemorySpace |||
          pciCommandBusMaster) }
  let wiring ← Exec.get
  let walk := wiring.config.walkVirtioPciCapabilities
  Exec.modify fun wiring => { wiring with reads := walk.reads }
  let (common, commonCfgVa, notifyCfgVa, isrCfgVa, deviceCfgVa) ←
    mapWindows hal checks walk.layout
  let msixVector ← programMsix hal checks common walk.layout.msix
  return {
    commonCfgVa, notifyCfgVa, notifyOffMultiplier := walk.layout.notifyOffMultiplier
    isrCfgVa, deviceCfgVa, msixVector }

end Code

/-! ## What a BAR allows -/

/-- There are a pool and tables. -/
def MapAnswer.both (answer : MapAnswer) : Bool := answer.pool && answer.maps

namespace PciConfig

variable (config : PciConfig) (checks : Bool) (bar : Nat)

/-- The length of what `map_range` maps for a BAR. -/
def mappedLen : Option Nat := do
  let (barPhys, barSize) ← config.barPhys bar
  let len ← mapLen checks barSize
  if mapsPages barPhys len then some len else none

/-- The length of what is mapped for the driver, which fits in a slot. -/
def driverLen : Option Nat := (config.mappedLen checks bar).filter (· ≤ drvPciBarVaStride)

/-- The size of the BAR cannot be rounded up. -/
def Overflows : Prop :=
  ∃ barPhys barSize, config.barPhys bar = some (barPhys, barSize) ∧ mapLen checks barSize = none

end PciConfig

/-! ## One BAR -/

section Bar

variable {hal : WiringHal} {checks : Bool} {kind : VirtioCap} {bar : Nat} {wiring : Wiring}

/-- The next slot. -/
def Wiring.slot (wiring : Wiring) : Nat :=
  drvPciBarVaBase + wiring.driver.length * drvPciBarVaStride

def Wiring.withBar (wiring : Wiring) (bar len : Nat) : Wiring :=
  { wiring with driver := wiring.driver ++ [⟨bar, wiring.slot, len⟩] }

/-- How a BAR is mapped for the driver. -/
inductive MapsBar (hal : WiringHal) (checks : Bool) (kind : VirtioCap) (bar : Nat)
    (wiring : Wiring) : Prop where
  | again (mapping : BarMapping) (member : mapping ∈ wiring.driver) (same : mapping.bar = bar)
      (ran : mapPciBar hal checks kind bar wiring = .ok mapping.va wiring)
  | new (absent : ∀ mapping ∈ wiring.driver, mapping.bar ≠ bar)
      (answers : (hal.bar kind).both = true) (len : Nat)
      (maps : wiring.config.driverLen checks bar = some len)
      (ran : mapPciBar hal checks kind bar wiring = .ok wiring.slot (wiring.withBar bar len))
  | refused (absent : ∀ mapping ∈ wiring.driver, mapping.bar ≠ bar)
      (not : ∀ len, wiring.config.driverLen checks bar = some len → (hal.bar kind).both = false)
      (fits : ¬ wiring.config.Overflows checks bar)
      (ran : mapPciBar hal checks kind bar wiring = .err .refused wiring)
  | aborted (absent : ∀ mapping ∈ wiring.driver, mapping.bar ≠ bar)
      (overflows : wiring.config.Overflows checks bar)
      (ran : mapPciBar hal checks kind bar wiring = .err .aborted wiring)

theorem driverLen_eq {barPhys barSize len : Nat}
    (probed : wiring.config.barPhys bar = some (barPhys, barSize))
    (rounded : mapLen checks barSize = some len) :
    wiring.config.driverLen checks bar =
      if mapsPages barPhys len && decide (len ≤ drvPciBarVaStride) then some len else none := by
  rw [PciConfig.driverLen, PciConfig.mappedLen, probed]
  change Option.filter _ ((mapLen checks barSize).bind _) = _
  rw [rounded, Option.bind_some]
  cases mapsPages barPhys len with
  | false => rfl
  | true =>
      rw [if_pos rfl, Option.filter_some, Bool.true_and]

/-- A BAR whose size can be rounded up gets the next slot, if it fits and the rest of the kernel
plays along. -/
theorem mapPciBar_run {barPhys barSize len : Nat} (room : wiring.driver.length < drvPciMaxBars)
    (absent : wiring.driver.find? (fun mapping => mapping.bar == bar) = none)
    (probed : wiring.config.barPhys bar = some (barPhys, barSize))
    (rounded : mapLen checks barSize = some len) :
    mapPciBar hal checks kind bar wiring =
      if (hal.bar kind).both = true ∧ wiring.config.driverLen checks bar = some len then
        .ok wiring.slot (wiring.withBar bar len)
      else .err .refused wiring := by
  rw [mapPciBar, Exec.get_bind_run, absent]
  dsimp only
  rw [Exec.guard_bind_run, decide_eq_true room, if_pos rfl, probed, Exec.okOr_some,
    Exec.pure_bind_run]
  dsimp only
  rw [rounded, Exec.okOr_some, Exec.pure_bind_run, Exec.guard_bind_run, Exec.guard_bind_run,
    Exec.guard_bind_run, Exec.modify_bind_run, driverLen_eq probed rounded, MapAnswer.both]
  by_cases sized : len ≠ 0 ∧ len ≤ drvPciBarVaStride
  · rw [decide_eq_true sized, decide_eq_true sized.2, Bool.and_true, if_pos rfl]
    cases (hal.bar kind).pool with
    | false => rfl
    | true =>
        cases (hal.bar kind).maps with
        | false => rfl
        | true =>
            cases mapsPages barPhys len with
            | false => rfl
            | true =>
                have both : (true && true) = true ∧
                    (if true = true then some len else none) = some len := ⟨rfl, rfl⟩
                rw [if_pos both]
                rfl
  · rw [decide_eq_false sized, if_neg Bool.false_ne_true, if_neg]
    intro all
    have fits := all.2
    split at fits
    · next both =>
        obtain ⟨whole, short⟩ := Bool.and_eq_true_iff.1 both
        apply sized
        constructor
        · intro zero
          rw [zero] at whole
          cases whole
        · exact of_decide_eq_true short
    · cases fits

theorem mapsBar (room : wiring.driver.length < drvPciMaxBars) :
    MapsBar hal checks kind bar wiring := by
  cases found : wiring.driver.find? (fun mapping => mapping.bar == bar) with
  | some mapping =>
      apply MapsBar.again mapping (List.mem_of_find?_eq_some found)
      · simpa using List.find?_some found
      · rw [mapPciBar, Exec.get_bind_run, found]
        rfl
  | none =>
      have absent : ∀ mapping ∈ wiring.driver, mapping.bar ≠ bar := by
        intro mapping member
        simpa using List.find?_eq_none.1 found mapping member
      cases probed : wiring.config.barPhys bar with
      | none =>
          apply MapsBar.refused absent
          · intro len maps
            rw [PciConfig.driverLen, PciConfig.mappedLen, probed] at maps
            cases maps
          · intro overflows
            obtain ⟨_, _, same, _⟩ := overflows
            rw [probed] at same
            cases same
          · rw [mapPciBar, Exec.get_bind_run, found]
            dsimp only
            rw [Exec.guard_bind_run, decide_eq_true room, if_pos rfl, probed]
            rfl
      | some window =>
          obtain ⟨barPhys, barSize⟩ := window
          cases rounded : mapLen checks barSize with
          | none =>
              apply MapsBar.aborted absent ⟨barPhys, barSize, probed, rounded⟩
              rw [mapPciBar, Exec.get_bind_run, found]
              dsimp only
              rw [Exec.guard_bind_run, decide_eq_true room, if_pos rfl, probed, Exec.okOr_some,
                Exec.pure_bind_run]
              dsimp only
              rw [rounded]
              rfl
          | some len =>
              have ran := @mapPciBar_run hal checks kind bar wiring _ _ _ room found probed rounded
              by_cases all : (hal.bar kind).both = true ∧
                  wiring.config.driverLen checks bar = some len
              · rw [if_pos all] at ran
                exact .new absent all.1 len all.2 ran
              · rw [if_neg all] at ran
                apply MapsBar.refused absent _ _ ran
                · intro other maps
                  apply Bool.eq_false_iff.2
                  intro answers
                  apply all ⟨answers, _⟩
                  have lens := driverLen_eq probed rounded
                  rw [maps] at lens
                  split at lens
                  · rw [maps, lens]
                  · cases lens
                · intro overflows
                  obtain ⟨_, _, same, lost⟩ := overflows
                  rw [probed] at same
                  obtain ⟨rfl, rfl⟩ := Prod.mk.inj (Option.some.inj same)
                  rw [rounded] at lost
                  cases lost

theorem driverLen_of_overflows (overflows : wiring.config.Overflows checks bar) :
    wiring.config.driverLen checks bar = none := by
  obtain ⟨barPhys, barSize, probed, rounded⟩ := overflows
  rw [PciConfig.driverLen, PciConfig.mappedLen, probed]
  change Option.filter _ ((mapLen checks barSize).bind _) = _
  rw [rounded]
  rfl

end Bar

/-! ## The windows of the driver -/

/-- The kinds of windows up to one, in the order of their turns. -/
def VirtioCap.upTo : VirtioCap → List VirtioCap
  | common => [common]
  | notify => [common, notify]
  | isr => [common, notify, isr]
  | device => [common, notify, isr, device]

namespace PciConfig

variable (config : PciConfig) (hal : WiringHal) (checks : Bool)

/-- A BAR can be mapped when it is the turn of a kind. -/
structure Maps (kind : VirtioCap) (bar : Nat) : Prop where
  names : ∃ ptr, config.lastCapability kind = some ptr ∧ (config.windowAt ptr).bar = bar
  answers : (hal.bar kind).both = true
  fits : (config.driverLen checks bar).isSome = true

/-- The window of a kind is handed to the driver. -/
structure Hands (kind : VirtioCap) (ptr : Nat) : Prop where
  last : config.lastCapability kind = some ptr
  maps : ∃ earlier ∈ kind.upTo, config.Maps hal checks earlier (config.windowAt ptr).bar

/-- No BAR that is named overflows. -/
def Survives : Prop :=
  ∀ kind ptr, config.lastCapability kind = some ptr →
    ¬ config.Overflows checks (config.windowAt ptr).bar

end PciConfig

section Windows

variable {hal : WiringHal} {checks : Bool} {kind : VirtioCap} {bar ptr va : Nat}
  {wiring later final : Wiring} {done : List VirtioCap}

/-- The BARs are in slots one after another, and those are mapped that can be. -/
structure Slots (hal : WiringHal) (checks : Bool) (done : List VirtioCap) (wiring : Wiring) :
    Prop where
  slots : ∀ i mapping, wiring.driver[i]? = some mapping →
    mapping.va = drvPciBarVaBase + i * drvPciBarVaStride
  lens : ∀ mapping ∈ wiring.driver,
    wiring.config.driverLen checks mapping.bar = some mapping.len
  bars : ∀ bar, (∃ mapping ∈ wiring.driver, mapping.bar = bar) ↔
    ∃ kind ∈ done, wiring.config.Maps hal checks kind bar
  few : wiring.driver.length ≤ done.length

/-- More has been mapped for the driver, and nothing else has changed. -/
structure Extends (wiring later : Wiring) : Prop where
  frame : later = { wiring with driver := later.driver }
  kept : ∀ mapping ∈ wiring.driver, mapping ∈ later.driver

theorem Extends.refl (wiring : Wiring) : Extends wiring wiring := ⟨rfl, fun _ member => member⟩

theorem Extends.trans (first : Extends wiring later) (second : Extends later final) :
    Extends wiring final where
  frame := by rw [second.frame, first.frame]
  kept := fun mapping member => second.kept mapping (first.kept mapping member)

theorem Extends.config (extends_ : Extends wiring later) : later.config = wiring.config := by
  rw [extends_.frame]

theorem Extends.reads (extends_ : Extends wiring later) : later.reads = wiring.reads := by
  rw [extends_.frame]

theorem Extends.kernel (extends_ : Extends wiring later) : later.kernel = wiring.kernel := by
  rw [extends_.frame]

theorem Extends.writes (extends_ : Extends wiring later) : later.writes = wiring.writes := by
  rw [extends_.frame]

theorem Extends.enabled (extends_ : Extends wiring later) : later.enabled = wiring.enabled := by
  rw [extends_.frame]

/-- A turn in which nothing is mapped. -/
theorem Slots.skip (slots : Slots hal checks done wiring)
    (known : ∀ bar, wiring.config.Maps hal checks kind bar →
      ∃ mapping ∈ wiring.driver, mapping.bar = bar) :
    Slots hal checks (done ++ [kind]) wiring where
  slots := slots.slots
  lens := slots.lens
  bars := by
    intro bar
    constructor
    · intro mapped
      obtain ⟨earlier, member, maps⟩ := (slots.bars bar).1 mapped
      exact ⟨earlier, List.mem_append_left _ member, maps⟩
    · intro turn
      obtain ⟨other, member, maps⟩ := turn
      rcases List.mem_append.1 member with earlier | last
      · exact (slots.bars bar).2 ⟨other, earlier, maps⟩
      · rw [List.mem_singleton.1 last] at maps
        exact known bar maps
  few := by
    have few := slots.few
    rw [List.length_append]
    omega

/-- A turn in which a BAR gets the next slot. -/
theorem Slots.place {len : Nat} (slots : Slots hal checks done wiring)
    (maps : wiring.config.Maps hal checks kind bar)
    (only : ∀ other, wiring.config.Maps hal checks kind other → other = bar)
    (length : wiring.config.driverLen checks bar = some len) :
    Slots hal checks (done ++ [kind]) (wiring.withBar bar len) where
  slots := by
    intro i mapping found
    change (wiring.driver ++ [_])[i]? = some mapping at found
    rcases Nat.lt_trichotomy i wiring.driver.length with before | here | behind
    · rw [List.getElem?_append_left before] at found
      exact slots.slots i mapping found
    · rw [here, List.getElem?_append_right (Nat.le_refl _), Nat.sub_self] at found
      obtain rfl := Option.some.inj found
      rw [here]
      rfl
    · rw [List.getElem?_append_right (Nat.le_of_lt behind),
        List.getElem?_eq_none (by rw [List.length_singleton]; omega)] at found
      cases found
  lens := by
    intro mapping member
    rcases List.mem_append.1 member with earlier | last
    · exact slots.lens mapping earlier
    · rw [List.mem_singleton.1 last]
      exact length
  bars := by
    intro other
    change _ ↔ ∃ turn ∈ done ++ [kind], wiring.config.Maps hal checks turn other
    constructor
    · intro mapped
      obtain ⟨mapping, member, same⟩ := mapped
      rcases List.mem_append.1 member with earlier | last
      · obtain ⟨turn, earlierTurn, able⟩ := (slots.bars other).1 ⟨mapping, earlier, same⟩
        exact ⟨turn, List.mem_append_left _ earlierTurn, able⟩
      · rw [List.mem_singleton.1 last] at same
        rw [← same]
        exact ⟨kind, List.mem_append_right _ (List.mem_singleton_self kind), maps⟩
    · intro turn
      obtain ⟨turn, member, able⟩ := turn
      rcases List.mem_append.1 member with earlier | last
      · obtain ⟨mapping, placed, same⟩ := (slots.bars other).2 ⟨turn, earlier, able⟩
        exact ⟨mapping, List.mem_append_left _ placed, same⟩
      · rw [List.mem_singleton.1 last] at able
        rw [only other able]
        exact ⟨_, List.mem_append_right _ (List.mem_singleton_self _), rfl⟩
  few := by
    have few := slots.few
    change (wiring.driver ++ [_]).length ≤ _
    rw [List.length_append, List.length_append, List.length_singleton, List.length_singleton]
    omega

/-- How a turn ends for a kind that is in the list. -/
inductive Turn (hal : WiringHal) (checks : Bool) (done : List VirtioCap) (kind : VirtioCap)
    (bar : Nat) (wiring : Wiring) : Prop where
  | mapped (mapping : BarMapping) (later : Wiring)
      (ran : mapPciBar hal checks kind bar wiring = .ok mapping.va later)
      (slots : Slots hal checks (done ++ [kind]) later) (extends_ : Extends wiring later)
      (member : mapping ∈ later.driver) (same : mapping.bar = bar)
      (fits : ¬ wiring.config.Overflows checks bar)
  | refused (ran : mapPciBar hal checks kind bar wiring = .err .refused wiring)
      (slots : Slots hal checks (done ++ [kind]) wiring)
      (unmapped : ¬ ∃ turn ∈ done ++ [kind], wiring.config.Maps hal checks turn bar)
      (fits : ¬ wiring.config.Overflows checks bar)
  | aborted (ran : mapPciBar hal checks kind bar wiring = .err .aborted wiring)
      (overflows : wiring.config.Overflows checks bar)

theorem Slots.turn (slots : Slots hal checks done wiring) (room : done.length < 4)
    (last : wiring.config.lastCapability kind = some ptr) :
    Turn hal checks done kind (wiring.config.windowAt ptr).bar wiring := by
  have few : wiring.driver.length < drvPciMaxBars := Nat.lt_of_le_of_lt slots.few room
  have only : ∀ other, wiring.config.Maps hal checks kind other →
      other = (wiring.config.windowAt ptr).bar := by
    intro other maps
    obtain ⟨found, lastFound, same⟩ := maps.names
    obtain rfl := Option.some.inj (last.symm.trans lastFound)
    exact same.symm
  have sized : ∀ len, wiring.config.driverLen checks (wiring.config.windowAt ptr).bar = some len →
      ¬ wiring.config.Overflows checks (wiring.config.windowAt ptr).bar := by
    intro len found overflows
    rw [driverLen_of_overflows overflows] at found
    cases found
  have ended : MapsBar hal checks kind (wiring.config.windowAt ptr).bar wiring := mapsBar few
  cases ended with
  | again mapping member same ran =>
      apply Turn.mapped mapping wiring ran _ (.refl wiring) member same
      · have length := slots.lens mapping member
        rw [same] at length
        exact sized mapping.len length
      · apply slots.skip
        intro other maps
        rw [only other maps]
        exact ⟨mapping, member, same⟩
  | new absent answers len maps ran =>
      apply Turn.mapped ⟨_, wiring.slot, len⟩ (wiring.withBar _ len) ran _ _ _ rfl (sized len maps)
      · exact slots.place ⟨⟨ptr, last, rfl⟩, answers, by rw [maps]; rfl⟩ only maps
      · exact ⟨rfl, fun mapping member => List.mem_append_left _ member⟩
      · exact List.mem_append_right _ (List.mem_singleton_self _)
  | refused absent not fits ran =>
      have unable : ¬ wiring.config.Maps hal checks kind (wiring.config.windowAt ptr).bar := by
        intro maps
        obtain ⟨len, length⟩ := Option.isSome_iff_exists.1 maps.fits
        have answers := maps.answers
        rw [not len length] at answers
        cases answers
      have skipped : Slots hal checks (done ++ [kind]) wiring := by
        apply slots.skip
        intro other maps
        rw [only other maps] at maps
        exact absurd maps unable
      apply Turn.refused ran skipped _ fits
      intro turn
      obtain ⟨mapping, member, same⟩ := (skipped.bars _).2 turn
      exact absent mapping member same
  | aborted absent overflows ran => exact .aborted ran overflows

/-- What the driver is told about a window. -/
structure Resolved (hal : WiringHal) (checks : Bool) (done : List VirtioCap) (kind : VirtioCap)
    (va : Nat) (wiring : Wiring) : Prop where
  handed : ∀ ptr, wiring.config.lastCapability kind = some ptr →
    (∃ turn ∈ done, wiring.config.Maps hal checks turn (wiring.config.windowAt ptr).bar) →
      ∃ mapping ∈ wiring.driver, mapping.bar = (wiring.config.windowAt ptr).bar ∧
        va = mapping.va + (wiring.config.windowAt ptr).offset
  missing : (∀ ptr, wiring.config.lastCapability kind = some ptr →
    ¬ ∃ turn ∈ done, wiring.config.Maps hal checks turn (wiring.config.windowAt ptr).bar) → va = 0

theorem Resolved.extends_ (resolved : Resolved hal checks done kind va wiring)
    (more : Extends wiring later) : Resolved hal checks done kind va later where
  handed := by
    intro ptr
    rw [more.config]
    intro last maps
    obtain ⟨mapping, member, told⟩ := resolved.handed ptr last maps
    exact ⟨mapping, more.kept mapping member, told⟩
  missing := by
    rw [more.config]
    exact resolved.missing

/-- A BAR that is mapped could be mapped in one of the turns. -/
theorem Slots.maps_of_mem {mapping : BarMapping} (slots : Slots hal checks done later)
    (more : Extends wiring later) (member : mapping ∈ later.driver) (same : mapping.bar = bar) :
    ∃ turn ∈ done, wiring.config.Maps hal checks turn bar := by
  have turn := (slots.bars bar).1 ⟨mapping, member, same⟩
  rw [more.config] at turn
  exact turn

/-- The driver is told an address in the mapping. -/
theorem Slots.resolved {mapping : BarMapping} (slots : Slots hal checks done later)
    (more : Extends wiring later) (last : wiring.config.lastCapability kind = some ptr)
    (member : mapping ∈ later.driver) (same : mapping.bar = (wiring.config.windowAt ptr).bar) :
    Resolved hal checks done kind (mapping.va + (wiring.config.windowAt ptr).offset) later where
  handed := by
    intro other found _
    rw [more.config] at found ⊢
    obtain rfl := Option.some.inj (last.symm.trans found)
    exact ⟨mapping, member, same, rfl⟩
  missing := by
    intro none_
    rw [more.config] at none_
    exact absurd (slots.maps_of_mem more member same) (none_ ptr last)

/-- How the turn of a kind ends that need not be in the list. -/
inductive Resolves (hal : WiringHal) (checks : Bool) (done : List VirtioCap) (kind : VirtioCap)
    (wiring : Wiring) : Prop where
  | ok (va : Nat) (later : Wiring)
      (ran : resolveWindow hal checks kind
        ((wiring.config.lastCapability kind).map wiring.config.windowAt) wiring = .ok va later)
      (slots : Slots hal checks (done ++ [kind]) later) (extends_ : Extends wiring later)
      (resolved : Resolved hal checks (done ++ [kind]) kind va later)
      (fits : ∀ ptr, wiring.config.lastCapability kind = some ptr →
        ¬ wiring.config.Overflows checks (wiring.config.windowAt ptr).bar)
  | aborted (ptr : Nat) (last : wiring.config.lastCapability kind = some ptr)
      (ran : resolveWindow hal checks kind
        ((wiring.config.lastCapability kind).map wiring.config.windowAt) wiring =
          .err .aborted wiring)
      (overflows : wiring.config.Overflows checks (wiring.config.windowAt ptr).bar)

theorem Slots.resolve (slots : Slots hal checks done wiring) (room : done.length < 4)
    (kind : VirtioCap) : Resolves hal checks done kind wiring := by
  cases last : wiring.config.lastCapability kind with
  | none =>
      apply Resolves.ok 0 wiring
      · rw [last]
        rfl
      · apply slots.skip
        intro bar maps
        obtain ⟨ptr, found, _⟩ := maps.names
        rw [last] at found
        cases found
      · exact .refl wiring
      · constructor
        · intro ptr found
          rw [last] at found
          cases found
        · exact fun _ => rfl
      · intro ptr found
        rw [last] at found
        cases found
  | some ptr =>
      have window : resolveWindow hal checks kind
          ((wiring.config.lastCapability kind).map wiring.config.windowAt) wiring =
            match mapPciBar hal checks kind (wiring.config.windowAt ptr).bar wiring with
            | .ok va later => .ok (va + (wiring.config.windowAt ptr).offset) later
            | .err .refused later => .ok 0 later
            | .err .aborted later => .err .aborted later
            | .panic => .panic := by
        rw [last]
        rfl
      have single : ∀ other, wiring.config.lastCapability kind = some other → other = ptr :=
        fun other found => Option.some.inj (found.symm.trans last)
      cases slots.turn room last with
      | mapped mapping later ran placed more member same fits =>
          apply Resolves.ok (mapping.va + (wiring.config.windowAt ptr).offset) later
          · rw [window, ran]
          · exact placed
          · exact more
          · exact placed.resolved more last member same
          · intro other found
            rw [single other found]
            exact fits
      | refused ran placed unmapped fits =>
          apply Resolves.ok 0 wiring
          · rw [window, ran]
          · exact placed
          · exact .refl wiring
          · constructor
            · intro other found turn
              rw [single other found] at turn
              exact absurd turn unmapped
            · exact fun _ => rfl
          · intro other found
            rw [single other found]
            exact fits
      | aborted ran overflows =>
          apply Resolves.aborted ptr last _ overflows
          rw [window, ran]

end Windows

end Simurgh
