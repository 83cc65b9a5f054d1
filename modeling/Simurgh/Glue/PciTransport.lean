import Simurgh.Glue.PciWiring

/-!
# Staying inside the device

A wiring stays inside the device if it reads inside the configuration space, hands out and writes
inside the windows of the BARs, and leaves MSI-X alone if it fails.  `WiringFits` is the condition
on the device under which it does.
-/

namespace Simurgh

/-! ## What is expected of a wiring -/

/-- The mappings of two BARs have no address in common. -/
def BarMapping.Apart (first second : BarMapping) : Prop :=
  first.bar ≠ second.bar → first.va + first.len ≤ second.va ∨ second.va + second.len ≤ first.va

/-- A device has six BARs, and what is done is done inside the mapping of one. -/
def BarMapping.Holds (mapping : BarMapping) (offset len : Nat) : Prop :=
  mapping.bar < 6 ∧ offset + len ≤ mapping.len

/-- Nothing has been read or written outside, and the BARs are apart. -/
structure Wiring.Inside (wiring : Wiring) : Prop where
  reads : ∀ read ∈ wiring.reads, read.offset + read.len ≤ 256
  writes : ∀ write ∈ wiring.writes, write.mapping ∈ wiring.kernel ∧
    write.mapping.Holds write.offset write.len
  driverApart : wiring.driver.Pairwise BarMapping.Apart
  kernelApart : wiring.kernel.Pairwise BarMapping.Apart

/-- The address of a window, or zero. -/
def PciInfo.va (info : PciInfo) : VirtioCap → Nat
  | .common => info.commonCfgVa
  | .notify => info.notifyCfgVa
  | .isr => info.isrCfgVa
  | .device => info.deviceCfgVa

/-- The configuration space after the device has been told to decode its BARs. -/
def PciConfig.decoding (config : PciConfig) : PciConfig :=
  config.write32 pciCommandOffset
    (config.read32 pciCommandOffset ||| pciCommandMemorySpace ||| pciCommandBusMaster)

/-- The windows that the driver is told are inside the mappings of the BARs that their
capabilities name. -/
def PciInfo.Inside (info : PciInfo) (config : PciConfig) (wiring : Wiring) : Prop :=
  ∀ kind, info.va kind ≠ 0 → ∃ ptr, config.lastCapability kind = some ptr ∧
    ∃ mapping ∈ wiring.driver, mapping.bar = (config.windowAt ptr).bar ∧
      info.va kind = mapping.va + (config.windowAt ptr).offset ∧
      mapping.Holds (config.windowAt ptr).offset (config.windowLength ptr)

/-- However the wiring ends, it stays inside the device. -/
structure StaysInside (hal : WiringHal) (checks : Bool) (config : PciConfig) : Prop where
  inside : ∀ final,
    (wireVirtioPciTransport hal checks (.start config)).state? = some final → final.Inside
  handed : ∀ info final, wireVirtioPciTransport hal checks (.start config) = .ok info final →
    info.Inside config.decoding final
  refused : ∀ stop final, wireVirtioPciTransport hal checks (.start config) = .err stop final →
    final.enabled = false

/-! ## What the device has to be like -/

namespace PciConfig

variable (config : PciConfig) (hal : WiringHal) (checks : Bool)

/-- What is mapped of a BAR in a window of the kernel. -/
def kernelLen (answer : MapAnswer) (bar : Nat) : Option Nat :=
  if answer.both then config.mappedLen checks bar else none

/-- The capability that MSI-X is set up with. -/
def programs : Option Nat := if hal.msiMessage.isSome then config.lastMsix else none

/-- The configuration space with MSI-X enabled. -/
def enabling (msix : MsixLocation) : PciConfig :=
  config.write32 msix.capPtr (config.read32 msix.capPtr ||| msixEnableBit)

/-- The window of the common registers can be mapped, and no BAR overflows. -/
structure Reaches : Prop where
  common : ∃ ptr, config.Hands hal checks .common ptr
  survives : config.Survives checks

/-- The table and the common registers are inside their BARs, which do not meet in the windows of
the kernel, and the second one can still be mapped when MSI-X is enabled. -/
structure MsixFits (msix : MsixLocation) (common : CapWindow) (tableLen : Nat) : Prop where
  commonBar : common.bar < 6
  registers : ∃ commonLen,
    (config.enabling msix).kernelLen checks hal.msixCommon common.bar = some commonLen ∧
      common.offset + virtioPciCommonQueueMsixVector + 2 ≤ commonLen
  tableBar : msix.bar < 6
  table : msix.tableOffset + 16 ≤ tableLen
  apart : msix.bar ≠ common.bar → tableLen ≤ kernelMsixCommonVa - kernelMsixBarVa

/-- The windows that the driver gets are inside the BARs that their capabilities name. -/
def WindowsFit : Prop :=
  ∀ kind ptr, config.Hands hal checks kind ptr →
    (config.windowAt ptr).bar < 6 ∧
      ∃ len, config.driverLen checks (config.windowAt ptr).bar = some len ∧
        (config.windowAt ptr).offset + config.windowLength ptr ≤ len

end PciConfig

/-- Of a device whose configuration space can be mapped, the capabilities are inside of it.  If the
driver gets its windows, they are inside their BARs, and if MSI-X is set up, its table is. -/
structure WiringFits (hal : WiringHal) (checks : Bool) (config : PciConfig) : Prop where
  list : hal.config.both = true →
    ∀ ptr ∈ config.decoding.pointers, config.decoding.capEnd ptr ≤ 256
  msix : hal.config.both = true → config.decoding.Reaches hal checks →
    ∀ common, config.decoding.lastCapability .common = some common →
      ∀ msix, config.decoding.programs hal = some msix →
        ∀ tableLen, config.decoding.kernelLen checks hal.msixTable
            (config.decoding.msixAt msix).bar = some tableLen →
          config.decoding.MsixFits hal checks (config.decoding.msixAt msix)
            (config.decoding.windowAt common) tableLen
  windows : hal.config.both = true → config.decoding.Reaches hal checks →
    (∀ msix, config.decoding.programs hal = some msix →
      (config.decoding.kernelLen checks hal.msixTable
        (config.decoding.msixAt msix).bar).isSome = true) →
      config.decoding.WindowsFit hal checks

/-! ## Mapping for the driver -/

section Driver

variable {hal : WiringHal} {checks : Bool} {wiring later : Wiring} {done : List VirtioCap}
  {caps : CapLayout}

theorem Slots.start (empty : wiring.driver = []) : Slots hal checks [] wiring where
  slots := by
    intro i mapping found
    rw [empty] at found
    cases found
  lens := by
    intro mapping member
    rw [empty] at member
    cases member
  bars := by
    intro bar
    constructor
    · intro mapped
      obtain ⟨mapping, member, _⟩ := mapped
      rw [empty] at member
      cases member
    · intro turn
      obtain ⟨kind, member, _⟩ := turn
      cases member
  few := by
    rw [empty]
    exact Nat.le_refl _

/-- Slots are so far apart that the BARs in them do not meet. -/
theorem Slots.apart (slots : Slots hal checks done wiring) :
    wiring.driver.Pairwise BarMapping.Apart := by
  rw [List.pairwise_iff_getElem]
  intro i j iBelow jBelow before _
  have first := slots.slots i _ (List.getElem?_eq_getElem iBelow)
  have second := slots.slots j _ (List.getElem?_eq_getElem jBelow)
  have length := slots.lens _ (List.getElem_mem iBelow)
  rw [PciConfig.driverLen, Option.filter_eq_some_iff] at length
  have short : (wiring.driver[i]).len ≤ drvPciBarVaStride := of_decide_eq_true length.2
  have steps : (i + 1) * drvPciBarVaStride ≤ j * drvPciBarVaStride :=
    Nat.mul_le_mul_right _ before
  left
  rw [first, second]
  rw [Nat.add_mul, Nat.one_mul] at steps
  omega

/-- A turn, and what follows. -/
theorem Slots.resolve_bind {α : Type} (slots : Slots hal checks done wiring)
    (room : done.length < 4) (kind : VirtioCap) (next : Nat → WiringM α) {config : PciConfig}
    (same : wiring.config = config) :
    (∃ va later,
      (resolveWindow hal checks kind ((config.lastCapability kind).map config.windowAt) >>= next)
          wiring = next va later ∧
        Slots hal checks (done ++ [kind]) later ∧ Extends wiring later ∧
        Resolved hal checks (done ++ [kind]) kind va later ∧
        ∀ ptr, config.lastCapability kind = some ptr →
          ¬ config.Overflows checks (config.windowAt ptr).bar) ∨
      (resolveWindow hal checks kind ((config.lastCapability kind).map config.windowAt) >>= next)
          wiring = .err .aborted wiring ∧ ¬ config.Survives checks := by
  subst same
  cases slots.resolve room kind with
  | ok va later ran placed extended resolved fits =>
      exact Or.inl ⟨va, later, Exec.bind_of_ok ran next, placed, extended, resolved, fits⟩
  | aborted ptr last ran overflows =>
      exact Or.inr ⟨Exec.bind_of_err ran next, fun survives => survives kind ptr last overflows⟩

/-- What is mapped after the turns that follow the first one. -/
structure OthersMapped (hal : WiringHal) (checks : Bool) (wiring : Wiring)
    (notifyVa isrVa deviceVa : Nat) (later : Wiring) : Prop where
  slots : Slots hal checks [.common, .notify, .isr, .device] later
  extends_ : Extends wiring later
  notify : Resolved hal checks VirtioCap.notify.upTo .notify notifyVa later
  isr : Resolved hal checks VirtioCap.isr.upTo .isr isrVa later
  device : Resolved hal checks VirtioCap.device.upTo .device deviceVa later
  fits : ∀ kind, kind ≠ .common → ∀ ptr, wiring.config.lastCapability kind = some ptr →
    ¬ wiring.config.Overflows checks (wiring.config.windowAt ptr).bar

/-- Those turns, and what follows. -/
theorem Slots.others_bind {α : Type} (slots : Slots hal checks [.common] wiring)
    (next : Nat → Nat → Nat → WiringM α) {config : PciConfig} (same : wiring.config = config)
    {result : Outcome Wiring WiringStop α}
    (ran : (resolveWindow hal checks .notify
          ((config.lastCapability .notify).map config.windowAt) >>= fun notifyVa =>
        resolveWindow hal checks .isr ((config.lastCapability .isr).map config.windowAt) >>=
          fun isrVa =>
        resolveWindow hal checks .device ((config.lastCapability .device).map config.windowAt) >>=
          fun deviceVa =>
        next notifyVa isrVa deviceVa) wiring = result) :
    (∃ notifyVa isrVa deviceVa later, result = next notifyVa isrVa deviceVa later ∧
        OthersMapped hal checks wiring notifyVa isrVa deviceVa later) ∨
      ∃ later done, result = .err .aborted later ∧ Slots hal checks done later ∧
        Extends wiring later ∧ ¬ wiring.config.Survives checks := by
  subst same
  rcases slots.resolve_bind (by decide) .notify _ rfl with
    ⟨notifyVa, first, ranNotify, placed, more, notify, fitsNotify⟩ | ⟨ranNotify, lost⟩
  swap
  · rw [ranNotify] at ran
    exact Or.inr ⟨wiring, _, ran.symm, slots, .refl wiring, lost⟩
  rw [ranNotify] at ran
  rcases placed.resolve_bind (by decide) .isr _ more.config with
    ⟨isrVa, second, ranIsr, placedSecond, moreSecond, isr, fitsIsr⟩ | ⟨ranIsr, lost⟩
  swap
  · rw [ranIsr] at ran
    exact Or.inr ⟨first, _, ran.symm, placed, more, lost⟩
  rw [ranIsr] at ran
  have extended := more.trans moreSecond
  rcases placedSecond.resolve_bind (by decide) .device _ extended.config with
    ⟨deviceVa, third, ranDevice, placedThird, moreThird, device, fitsDevice⟩ | ⟨ranDevice, lost⟩
  swap
  · rw [ranDevice] at ran
    exact Or.inr ⟨second, _, ran.symm, placedSecond, extended, lost⟩
  rw [ranDevice] at ran
  refine Or.inl ⟨notifyVa, isrVa, deviceVa, third, ran.symm, ?_⟩
  constructor
  · exact placedThird
  · exact extended.trans moreThird
  · exact (notify.extends_ moreSecond).extends_ moreThird
  · exact isr.extends_ moreThird
  · exact device
  · intro kind other ptr last
    cases kind with
    | common => exact absurd rfl other
    | notify => exact fitsNotify ptr last
    | isr => exact fitsIsr ptr last
    | device => exact fitsDevice ptr last

/-- How the mapping of the windows ends. -/
inductive WindowsMapped (hal : WiringHal) (checks : Bool) (caps : CapLayout) (wiring : Wiring) :
    Prop where
  | ok (ptr commonVa notifyVa isrVa deviceVa : Nat) (later : Wiring)
      (last : wiring.config.lastCapability .common = some ptr)
      (reaches : wiring.config.Reaches hal checks)
      (ran : mapWindows hal checks caps wiring =
        .ok (wiring.config.windowAt ptr, commonVa, notifyVa, isrVa, deviceVa) later)
      (slots : Slots hal checks [.common, .notify, .isr, .device] later)
      (extends_ : Extends wiring later)
      (common : Resolved hal checks VirtioCap.common.upTo .common commonVa later)
      (notify : Resolved hal checks VirtioCap.notify.upTo .notify notifyVa later)
      (isr : Resolved hal checks VirtioCap.isr.upTo .isr isrVa later)
      (device : Resolved hal checks VirtioCap.device.upTo .device deviceVa later)
  | err (stop : WiringStop) (later : Wiring) (done : List VirtioCap)
      (not : ¬ wiring.config.Reaches hal checks)
      (ran : mapWindows hal checks caps wiring = .err stop later)
      (slots : Slots hal checks done later) (extends_ : Extends wiring later)

theorem windowsMapped (empty : wiring.driver = [])
    (found : ∀ kind, caps.window kind =
      (wiring.config.lastCapability kind).map wiring.config.windowAt) :
    WindowsMapped hal checks caps wiring := by
  obtain ⟨result, ran⟩ : ∃ result, mapWindows hal checks caps wiring = result := ⟨_, rfl⟩
  have run := ran
  rw [mapWindows, found, found, found, found] at run
  have slots : Slots hal checks [] wiring := .start empty
  cases last : wiring.config.lastCapability .common with
  | none =>
      rw [last] at run
      apply WindowsMapped.err .refused wiring [] _ (ran.trans run.symm) slots (.refl wiring)
      intro reaches
      obtain ⟨ptr, hands⟩ := reaches.common
      have there := hands.last
      rw [last] at there
      cases there
  | some ptr =>
      rw [last, Option.map_some, Exec.okOr_some, Exec.pure_bind_run] at run
      cases slots.turn (by decide) last with
      | refused ranBar placed unmapped fits =>
          rw [Exec.bind_of_err ranBar] at run
          apply WindowsMapped.err .refused wiring _ _ (ran.trans run.symm) placed (.refl wiring)
          intro reaches
          obtain ⟨other, hands⟩ := reaches.common
          obtain rfl := Option.some.inj (last.symm.trans hands.last)
          exact unmapped hands.maps
      | aborted ranBar overflows =>
          rw [Exec.bind_of_err ranBar] at run
          apply WindowsMapped.err .aborted wiring _ _ (ran.trans run.symm) slots (.refl wiring)
          exact fun reaches => reaches.survives .common ptr last overflows
      | mapped mapping first ranBar placed extended member same fits =>
          rw [Exec.bind_of_ok ranBar] at run
          have hands : wiring.config.Hands hal checks .common ptr :=
            ⟨last, placed.maps_of_mem extended member same⟩
          rcases placed.others_bind _ extended.config run with
            ⟨notifyVa, isrVa, deviceVa, later, ends, others⟩ |
              ⟨later, done, ends, placedLater, more, lost⟩
          · have reaches : wiring.config.Reaches hal checks := by
              constructor
              · exact ⟨ptr, hands⟩
              · intro kind other found
                by_cases common : kind = .common
                · rw [common] at found
                  obtain rfl := Option.some.inj (last.symm.trans found)
                  exact fits
                · have otherFits := others.fits kind common other
                  rw [extended.config] at otherFits
                  exact otherFits found
            have common := placed.resolved extended last member same
            exact .ok ptr _ notifyVa isrVa deviceVa later last reaches (ran.trans ends)
              others.slots (extended.trans others.extends_) (common.extends_ others.extends_)
              others.notify others.isr others.device
          · rw [extended.config] at lost
            exact .err .aborted later done (fun reaches => lost reaches.survives)
              (ran.trans ends) placedLater (extended.trans more)

/-- The driver is told addresses inside the BARs exactly if the windows are inside. -/
theorem inside_iff {info : PciInfo} (slots : Slots hal checks done wiring)
    (resolved : ∀ kind : VirtioCap,
      Resolved hal checks kind.upTo kind (info.va kind) wiring) :
    info.Inside wiring.config wiring ↔ wiring.config.WindowsFit hal checks := by
  constructor
  · intro inside kind ptr hands
    obtain ⟨mapping, member, _, told⟩ := (resolved kind).handed ptr hands.last hands.maps
    have nonzero : info.va kind ≠ 0 := by
      obtain ⟨i, found⟩ := List.mem_iff_getElem?.1 member
      have place := slots.slots i mapping found
      have positive : 0 < drvPciBarVaBase := by decide
      omega
    obtain ⟨other, last, holder, there, same, _, holds⟩ := inside kind nonzero
    obtain rfl := Option.some.inj (hands.last.symm.trans last)
    have length := slots.lens holder there
    rw [same] at length
    have bar := holds.1
    rw [same] at bar
    exact ⟨bar, holder.len, length, holds.2⟩
  · intro fits kind nonzero
    have hands : ∃ ptr, wiring.config.Hands hal checks kind ptr := by
      by_contra none_
      apply nonzero
      apply (resolved kind).missing
      exact fun ptr last turn => none_ ⟨ptr, last, turn⟩
    obtain ⟨ptr, hands⟩ := hands
    obtain ⟨mapping, member, same, told⟩ := (resolved kind).handed ptr hands.last hands.maps
    obtain ⟨bar, len, fitsLen, below⟩ := fits kind ptr hands
    have length := slots.lens mapping member
    rw [same, fitsLen] at length
    obtain rfl := Option.some.inj length
    rw [← same] at bar
    exact ⟨ptr, hands.last, mapping, member, same, told, bar, below⟩

end Driver

/-! ## Setting up MSI-X -/

section Msix

variable {hal : WiringHal} {checks : Bool} {wiring : Wiring}

/-- A window of the kernel is mapped, or nothing is changed. -/
theorem mapKernelBar_cases (answer : MapAnswer) (va bar : Nat) :
    (∃ len, wiring.config.kernelLen checks answer bar = some len ∧
      mapKernelBar checks answer va bar wiring =
        .ok ⟨bar, va, len⟩ { wiring with kernel := ⟨bar, va, len⟩ :: wiring.kernel }) ∨
      wiring.config.kernelLen checks answer bar = none ∧
        ∃ stop, mapKernelBar checks answer va bar wiring = .err stop wiring := by
  rw [PciConfig.kernelLen, PciConfig.mappedLen, mapKernelBar, Exec.guard_bind_run,
    MapAnswer.both]
  cases pool : answer.pool with
  | false => exact Or.inr ⟨rfl, .refused, rfl⟩
  | true =>
      rw [if_pos rfl, Exec.get_bind_run, Bool.true_and]
      cases probed : wiring.config.barPhys bar with
      | none =>
          refine Or.inr ⟨?_, .refused, rfl⟩
          split
          · rfl
          · rfl
      | some window =>
          obtain ⟨barPhys, barSize⟩ := window
          rw [Exec.okOr_some, Exec.pure_bind_run]
          dsimp only
          change (∃ len, (if answer.maps = true then
            (mapLen checks barSize).bind _ else none) = some len ∧ _) ∨
              (if answer.maps = true then (mapLen checks barSize).bind _ else none) = none ∧ _
          cases rounded : mapLen checks barSize with
          | none =>
              refine Or.inr ⟨?_, .aborted, rfl⟩
              split
              · rfl
              · rfl
          | some len =>
              rw [Exec.okOr_some, Exec.pure_bind_run, Exec.guard_bind_run, Option.bind_some]
              cases maps : answer.maps with
              | false => exact Or.inr ⟨rfl, .refused, rfl⟩
              | true =>
                  cases whole : mapsPages barPhys len with
                  | false => exact Or.inr ⟨rfl, .refused, rfl⟩
                  | true => exact Or.inl ⟨len, rfl, rfl⟩

/-- The BARs that the registers are written in. -/
def msixTable (msix : MsixLocation) (len : Nat) : BarMapping := ⟨msix.bar, kernelMsixBarVa, len⟩

def msixCommon (common : CapWindow) (len : Nat) : BarMapping :=
  ⟨common.bar, kernelMsixCommonVa, len⟩

/-- What has been written when MSI-X is set up, the last write first. -/
def msixWrites (msix : MsixLocation) (common : CapWindow) (message : Nat × Nat)
    (tableLen commonLen : Nat) : List RegisterWrite :=
  [⟨msixCommon common commonLen, common.offset + virtioPciCommonQueueMsixVector, 2, 0⟩,
    ⟨msixCommon common commonLen, common.offset + virtioPciCommonQueueSelect, 2, 0⟩,
    ⟨msixTable msix tableLen, msix.tableOffset + 12, 4, 0⟩,
    ⟨msixTable msix tableLen, msix.tableOffset + 8, 4, message.2⟩,
    ⟨msixTable msix tableLen, msix.tableOffset + 4, 4, message.1 / 2 ^ 32 % 2 ^ 32⟩,
    ⟨msixTable msix tableLen, msix.tableOffset, 4, message.1 % 2 ^ 32⟩]

/-- How setting up MSI-X ends. -/
inductive Programs (hal : WiringHal) (checks : Bool) (msix : MsixLocation) (common : CapWindow)
    (message : Nat × Nat) (wiring : Wiring) : Prop where
  | noTable (stop : WiringStop)
      (missing : wiring.config.kernelLen checks hal.msixTable msix.bar = none)
      (ran : enableAndProgramMsix hal checks msix common message wiring = .err stop wiring)
  | noCommon (tableLen : Nat) (stop : WiringStop) (later : Wiring)
      (table : wiring.config.kernelLen checks hal.msixTable msix.bar = some tableLen)
      (missing : (wiring.config.enabling msix).kernelLen checks hal.msixCommon common.bar = none)
      (ran : enableAndProgramMsix hal checks msix common message wiring = .err stop later)
      (enabled : later.enabled = true)
  | done (tableLen commonLen : Nat)
      (table : wiring.config.kernelLen checks hal.msixTable msix.bar = some tableLen)
      (registers : (wiring.config.enabling msix).kernelLen checks hal.msixCommon common.bar =
        some commonLen)
      (ran : enableAndProgramMsix hal checks msix common message wiring =
        .ok () { wiring with
          config := wiring.config.enabling msix
          kernel := msixCommon common commonLen :: msixTable msix tableLen :: wiring.kernel
          writes := msixWrites msix common message tableLen commonLen ++ wiring.writes
          enabled := true })

theorem programs (msix : MsixLocation) (common : CapWindow) (message : Nat × Nat) :
    Programs hal checks msix common message wiring := by
  obtain ⟨result, ran⟩ :
      ∃ result, enableAndProgramMsix hal checks msix common message wiring = result := ⟨_, rfl⟩
  have run := ran
  rw [enableAndProgramMsix] at run
  rcases @mapKernelBar_cases checks wiring hal.msixTable kernelMsixBarVa msix.bar with
    ⟨tableLen, table, ranTable⟩ | ⟨missing, stop, ranTable⟩
  swap
  · rw [Exec.bind_of_err ranTable] at run
    exact .noTable stop missing (ran.trans run.symm)
  rw [Exec.bind_of_ok ranTable, writeRegister, Exec.modify_bind_run, writeRegister,
    Exec.modify_bind_run, writeRegister, Exec.modify_bind_run, writeRegister,
    Exec.modify_bind_run, Exec.modify_bind_run] at run
  let middle : Wiring := { wiring with
    config := wiring.config.enabling msix
    kernel := msixTable msix tableLen :: wiring.kernel
    writes := (msixWrites msix common message tableLen 0).drop 2 ++ wiring.writes
    enabled := true }
  change (mapKernelBar checks hal.msixCommon kernelMsixCommonVa common.bar >>= _) middle =
    result at run
  rcases @mapKernelBar_cases checks middle hal.msixCommon kernelMsixCommonVa common.bar with
    ⟨commonLen, registers, ranCommon⟩ | ⟨missing, stop, ranCommon⟩
  swap
  · rw [Exec.bind_of_err ranCommon] at run
    exact .noCommon tableLen stop _ table missing (ran.trans run.symm) rfl
  rw [Exec.bind_of_ok ranCommon] at run
  exact .done tableLen commonLen table registers (ran.trans run.symm)

/-- The writes are inside the BARs, and the BARs apart, exactly if the table and the registers
are inside. -/
theorem msixFits_iff {config : PciConfig} {msix : MsixLocation} {common : CapWindow}
    {message : Nat × Nat} {tableLen commonLen : Nat}
    (registers : (config.enabling msix).kernelLen checks hal.msixCommon common.bar =
      some commonLen) :
    config.MsixFits hal checks msix common tableLen ↔
      (∀ write ∈ msixWrites msix common message tableLen commonLen,
        write.mapping ∈ [msixCommon common commonLen, msixTable msix tableLen] ∧
          write.mapping.Holds write.offset write.len) ∧
        [msixCommon common commonLen, msixTable msix tableLen].Pairwise BarMapping.Apart := by
  have pairs : [msixCommon common commonLen, msixTable msix tableLen].Pairwise
      BarMapping.Apart ↔ (msix.bar ≠ common.bar → tableLen ≤ 0x10000) := by
    rw [List.pairwise_pair]
    change (common.bar ≠ msix.bar → 0xD8110000 + commonLen ≤ 0xD8100000 ∨
      0xD8100000 + tableLen ≤ 0xD8110000) ↔ _
    constructor
    · intro apart ne
      have sides := apart (Ne.symm ne)
      omega
    · intro short ne
      have below := short (Ne.symm ne)
      omega
  have writes : (∀ write ∈ msixWrites msix common message tableLen commonLen,
      write.mapping ∈ [msixCommon common commonLen, msixTable msix tableLen] ∧
        write.mapping.Holds write.offset write.len) ↔
        (common.bar < 6 ∧ common.offset + 0x1a + 2 ≤ commonLen) ∧
          msix.bar < 6 ∧ msix.tableOffset + 16 ≤ tableLen := by
    have first : msixCommon common commonLen ∈
        [msixCommon common commonLen, msixTable msix tableLen] := List.mem_cons_self
    have second : msixTable msix tableLen ∈
        [msixCommon common commonLen, msixTable msix tableLen] :=
      List.mem_cons_of_mem _ (List.mem_singleton_self _)
    rw [msixWrites, List.forall_mem_cons, List.forall_mem_cons, List.forall_mem_cons,
      List.forall_mem_cons, List.forall_mem_cons, List.forall_mem_singleton]
    rw [and_iff_right first, and_iff_right first, and_iff_right second, and_iff_right second,
      and_iff_right second, and_iff_right second]
    simp only [BarMapping.Holds, msixCommon, msixTable, virtioPciCommonQueueMsixVector,
      virtioPciCommonQueueSelect]
    omega
  rw [pairs, writes]
  constructor
  · intro fits
    obtain ⟨len, length, below⟩ := fits.registers
    obtain rfl := Option.some.inj (registers.symm.trans length)
    exact ⟨⟨⟨fits.commonBar, below⟩, fits.tableBar, fits.table⟩, fits.apart⟩
  · intro all
    obtain ⟨⟨⟨commonBar, below⟩, tableBar, table⟩, apart⟩ := all
    exact ⟨commonBar, ⟨commonLen, registers, below⟩, tableBar, table, apart⟩

end Msix

/-! ## The whole wiring -/

section Whole

variable {hal : WiringHal} {checks : Bool} {config : PciConfig}

/-- The state when the walk has ended. -/
def Wiring.walked (config : PciConfig) : Wiring :=
  { Wiring.start config with
    config := config.decoding
    reads := config.decoding.walkVirtioPciCapabilities.reads }

theorem wire_run (maps : hal.config.both = true) :
    wireVirtioPciTransport hal checks (.start config) =
      (do
        let (common, commonCfgVa, notifyCfgVa, isrCfgVa, deviceCfgVa) ←
          mapWindows hal checks config.decoding.walkVirtioPciCapabilities.layout
        let msixVector ← programMsix hal checks common
          config.decoding.walkVirtioPciCapabilities.layout.msix
        return {
          commonCfgVa, notifyCfgVa
          notifyOffMultiplier :=
            config.decoding.walkVirtioPciCapabilities.layout.notifyOffMultiplier
          isrCfgVa, deviceCfgVa, msixVector } : WiringM PciInfo) (.walked config) := by
  rw [MapAnswer.both] at maps
  rw [wireVirtioPciTransport, Exec.guard_bind_run, maps]
  rfl

/-- A wiring that ends in failure before MSI-X is enabled. -/
theorem staysInside_of_refused {stop : WiringStop} {final : Wiring} {done : List VirtioCap}
    (ran : wireVirtioPciTransport hal checks (.start config) = .err stop final)
    (slots : Slots hal checks done final) (kernel : final.kernel = []) (writes : final.writes = [])
    (enabled : final.enabled = false) :
    StaysInside hal checks config ↔ ∀ read ∈ final.reads, read.offset + read.len ≤ 256 := by
  constructor
  · intro stays
    exact (stays.inside final (by rw [ran]; rfl)).reads
  · intro reads
    constructor
    · intro other ended
      rw [ran] at ended
      obtain rfl := Option.some.inj ended
      constructor
      · exact reads
      · intro write member
        rw [writes] at member
        cases member
      · exact slots.apart
      · rw [kernel]
        exact .nil
    · intro info other ended
      rw [ran] at ended
      cases ended
    · intro other later ended
      rw [ran] at ended
      obtain ⟨rfl, rfl⟩ := Outcome.err.inj ended
      exact enabled

/-- A wiring that succeeds. -/
theorem staysInside_of_wired {info : PciInfo} {final : Wiring}
    (ran : wireVirtioPciTransport hal checks (.start config) = .ok info final)
    (apart : final.driver.Pairwise BarMapping.Apart) :
    StaysInside hal checks config ↔
      (∀ read ∈ final.reads, read.offset + read.len ≤ 256) ∧
        ((∀ write ∈ final.writes, write.mapping ∈ final.kernel ∧
            write.mapping.Holds write.offset write.len) ∧
          final.kernel.Pairwise BarMapping.Apart) ∧
        info.Inside config.decoding final := by
  constructor
  · intro stays
    have inside := stays.inside final (by rw [ran]; rfl)
    exact ⟨inside.reads, ⟨inside.writes, inside.kernelApart⟩, stays.handed info final ran⟩
  · intro all
    obtain ⟨reads, ⟨writes, kernelApart⟩, handed⟩ := all
    constructor
    · intro other ended
      rw [ran] at ended
      obtain rfl := Option.some.inj ended
      exact ⟨reads, writes, apart, kernelApart⟩
    · intro other later ended
      rw [ran] at ended
      obtain ⟨rfl, rfl⟩ := Outcome.ok.inj ended
      exact handed
    · intro stop later ended
      rw [ran] at ended
      cases ended

theorem programMsix_none {common : CapWindow} {wiring : Wiring}
    (none_ : config.programs hal = none) :
    programMsix hal checks common (config.lastMsix.map config.msixAt) wiring =
      .ok virtioMsiNoVector wiring := by
  rw [PciConfig.programs] at none_
  cases last : config.lastMsix with
  | none => rfl
  | some ptr =>
      rw [Option.map_some, programMsix]
      cases message : hal.msiMessage with
      | none => rfl
      | some pair =>
          rw [message, last] at none_
          cases none_

theorem programMsix_some {common : CapWindow} {ptr : Nat}
    (some_ : config.programs hal = some ptr) :
    ∃ message, programMsix hal checks common (config.lastMsix.map config.msixAt) =
      (do
        enableAndProgramMsix hal checks (config.msixAt ptr) common message
        return 0 : WiringM Nat) := by
  rw [PciConfig.programs] at some_
  cases message : hal.msiMessage with
  | none =>
      rw [message] at some_
      cases some_
  | some pair =>
      rw [message] at some_
      change config.lastMsix = some ptr at some_
      refine ⟨pair, ?_⟩
      rw [some_, Option.map_some, programMsix, message]

/-- The condition on a device whose windows cannot be mapped. -/
theorem wiringFits_of_refused (maps : hal.config.both = true)
    (not : ¬ config.decoding.Reaches hal checks) :
    WiringFits hal checks config ↔
      ∀ ptr ∈ config.decoding.pointers, config.decoding.capEnd ptr ≤ 256 := by
  constructor
  · exact fun fits => fits.list maps
  · intro list
    constructor
    · exact fun _ => list
    · exact fun _ reaches => absurd reaches not
    · exact fun _ reaches => absurd reaches not

/-- The condition on a device without MSI-X. -/
theorem wiringFits_of_plain (maps : hal.config.both = true)
    (reaches : config.decoding.Reaches hal checks)
    (plain : config.decoding.programs hal = none) :
    WiringFits hal checks config ↔
      (∀ ptr ∈ config.decoding.pointers, config.decoding.capEnd ptr ≤ 256) ∧
        config.decoding.WindowsFit hal checks := by
  have never : ∀ msix, config.decoding.programs hal ≠ some msix := by
    intro msix found
    rw [plain] at found
    cases found
  constructor
  · intro fits
    exact ⟨fits.list maps, fits.windows maps reaches fun msix found => absurd found (never msix)⟩
  · intro both
    constructor
    · exact fun _ => both.1
    · exact fun _ _ _ _ msix found => absurd found (never msix)
    · exact fun _ _ _ => both.2

/-- The condition on a device whose table cannot be mapped. -/
theorem wiringFits_of_noTable {msix : Nat} (maps : hal.config.both = true)
    (programs : config.decoding.programs hal = some msix)
    (missing : config.decoding.kernelLen checks hal.msixTable
      (config.decoding.msixAt msix).bar = none) :
    WiringFits hal checks config ↔
      ∀ ptr ∈ config.decoding.pointers, config.decoding.capEnd ptr ≤ 256 := by
  constructor
  · exact fun fits => fits.list maps
  · intro list
    constructor
    · exact fun _ => list
    · intro _ _ common _ other found tableLen table
      obtain rfl := Option.some.inj (programs.symm.trans found)
      rw [missing] at table
      cases table
    · intro _ _ all
      have there := all msix programs
      rw [missing] at there
      cases there

/-- The condition on a device whose table is mapped. -/
theorem wiringFits_of_table {common msix tableLen : Nat} (maps : hal.config.both = true)
    (reaches : config.decoding.Reaches hal checks)
    (last : config.decoding.lastCapability .common = some common)
    (programs : config.decoding.programs hal = some msix)
    (table : config.decoding.kernelLen checks hal.msixTable
      (config.decoding.msixAt msix).bar = some tableLen) :
    WiringFits hal checks config ↔
      (∀ ptr ∈ config.decoding.pointers, config.decoding.capEnd ptr ≤ 256) ∧
        config.decoding.MsixFits hal checks (config.decoding.msixAt msix)
          (config.decoding.windowAt common) tableLen ∧
        config.decoding.WindowsFit hal checks := by
  constructor
  · intro fits
    refine ⟨fits.list maps, fits.msix maps reaches common last msix programs tableLen table, ?_⟩
    apply fits.windows maps reaches
    intro other found
    obtain rfl := Option.some.inj (programs.symm.trans found)
    rw [table]
    rfl
  · intro all
    obtain ⟨list, msixFits, windows⟩ := all
    constructor
    · exact fun _ => list
    · intro _ _ first lastFirst other found len lens
      obtain rfl := Option.some.inj (last.symm.trans lastFirst)
      obtain rfl := Option.some.inj (programs.symm.trans found)
      obtain rfl := Option.some.inj (table.symm.trans lens)
      exact msixFits
    · exact fun _ _ _ => windows

/-- The wiring from when the windows have been mapped. -/
theorem staysInside_iff_of_windows {ptr commonVa notifyVa isrVa deviceVa : Nat} {later : Wiring}
    {done : List VirtioCap} (maps : hal.config.both = true)
    (last : config.decoding.lastCapability .common = some ptr)
    (reaches : config.decoding.Reaches hal checks)
    (ran : mapWindows hal checks config.decoding.walkVirtioPciCapabilities.layout
      (.walked config) =
        .ok (config.decoding.windowAt ptr, commonVa, notifyVa, isrVa, deviceVa) later)
    (slots : Slots hal checks done later) (more : Extends (.walked config) later)
    (inside : ∀ multiplier vector,
      (PciInfo.mk commonVa notifyVa multiplier isrVa deviceVa vector).Inside config.decoding later ↔
        config.decoding.WindowsFit hal checks) :
    StaysInside hal checks config ↔ WiringFits hal checks config := by
  have list := @PciConfig.walk_within_iff config.decoding
  have run := @wire_run hal checks config maps
  have reads : later.reads = config.decoding.walkVirtioPciCapabilities.reads := more.reads
  have same : later.config = config.decoding := more.config
  have kernel : later.kernel = [] := more.kernel
  have writes : later.writes = [] := more.writes
  rw [Exec.bind_of_ok ran] at run
  dsimp only at run
  rw [PciConfig.walk_msix] at run
  cases programmed : config.decoding.programs hal with
  | none =>
      rw [Exec.bind_of_ok (programMsix_none programmed)] at run
      rw [staysInside_of_wired run slots.apart, wiringFits_of_plain maps reaches programmed, ← list,
        inside, reads, kernel, writes]
      apply and_congr_right
      intro _
      apply and_iff_right
      constructor
      · intro write member
        cases member
      · exact .nil
  | some msix =>
      obtain ⟨message, ranMsix⟩ := @programMsix_some hal checks config.decoding
        (config.decoding.windowAt ptr) msix programmed
      rw [ranMsix, Exec.bind_assoc] at run
      have ended : Programs hal checks (config.decoding.msixAt msix)
          (config.decoding.windowAt ptr) message later := programs _ _ _
      cases ended with
      | noTable stop missing ranEnable =>
          rw [same] at missing
          rw [Exec.bind_of_err ranEnable] at run
          rw [staysInside_of_refused run slots kernel writes more.enabled, reads,
            wiringFits_of_noTable maps programmed missing]
          exact list
      | noCommon tableLen stop final table missing ranEnable enabled =>
          rw [same] at table missing
          rw [Exec.bind_of_err ranEnable] at run
          apply iff_of_false
          · intro stays
            have off := stays.refused stop final run
            rw [enabled] at off
            cases off
          · intro fits
            have msixFits := fits.msix maps reaches ptr last msix programmed tableLen table
            obtain ⟨len, registers, _⟩ := msixFits.registers
            rw [missing] at registers
            cases registers
      | done tableLen commonLen table registers ranEnable =>
          rw [same] at table registers
          rw [Exec.bind_of_ok ranEnable, Exec.pure_bind_run] at run
          rw [staysInside_of_wired run slots.apart,
            wiringFits_of_table maps reaches last programmed table, ← list,
            @msixFits_iff hal checks _ _ _ message _ _ registers]
          rw [kernel, writes, List.append_nil, ← inside _ 0]
          change (∀ read ∈ later.reads, _) ∧ _ ↔ _
          rw [reads]
          exact Iff.rfl

/-- The wiring stays inside the device exactly if the device fits. -/
theorem wiring_stays_inside_iff (hal : WiringHal) (checks : Bool) (config : PciConfig) :
    StaysInside hal checks config ↔ WiringFits hal checks config := by
  cases maps : hal.config.both with
  | false =>
      have ran : wireVirtioPciTransport hal checks (.start config) =
          .err .refused (.start config) := by
        rw [MapAnswer.both] at maps
        rw [wireVirtioPciTransport, Exec.guard_bind_run, maps]
        rfl
      have slots : Slots hal checks [] (.start config) := .start rfl
      rw [staysInside_of_refused ran slots rfl rfl rfl]
      apply iff_of_true
      · intro read member
        cases member
      · have never : hal.config.both ≠ true := ne_true_of_eq_false maps
        constructor
        · exact fun both => absurd both never
        · exact fun both => absurd both never
        · exact fun both => absurd both never
  | true =>
      have mapped : WindowsMapped hal checks config.decoding.walkVirtioPciCapabilities.layout
          (.walked config) := windowsMapped rfl PciConfig.walk_window
      cases mapped with
      | err stop later done not ran slots more =>
          have run := @wire_run hal checks config maps
          rw [Exec.bind_of_err ran] at run
          rw [staysInside_of_refused run slots more.kernel more.writes more.enabled, more.reads,
            wiringFits_of_refused maps not]
          exact PciConfig.walk_within_iff
      | ok ptr commonVa notifyVa isrVa deviceVa later last reaches ran slots more common notify
          isr device =>
          apply staysInside_iff_of_windows maps last reaches ran slots more
          intro multiplier vector
          have inside := @inside_iff hal checks later _
            (.mk commonVa notifyVa multiplier isrVa deviceVa vector) slots (by
              intro kind
              cases kind with
              | common => exact common
              | notify => exact notify
              | isr => exact isr
              | device => exact device)
          rw [more.config] at inside
          exact inside

end Whole

/-! ## A window behind its BAR -/

/-- A device whose window is behind its BAR of one page. -/
def offBarDevice : PciConfig where
  bytes addr :=
    if addr = 0x13 then 0xC0 else if addr = 0x34 then 0x40
    else if addr = 0x40 then 0x09 else if addr = 0x43 then 1
    else if addr = 0x49 then 0x10 else if addr = 0x4C then 0x38 else 0
  writable addr :=
    if addr = 0x11 then 0xF0 else if addr = 0x12 ∨ addr = 0x13 then 0xFF else 0

/-- Everything can be mapped, and there is no message for MSI-X. -/
def mappingHal : WiringHal where
  config := ⟨true, true⟩
  bar _ := ⟨true, true⟩
  msixTable := ⟨true, true⟩
  msixCommon := ⟨true, true⟩
  msiMessage := none

theorem off_bar_window_is_handed : ¬ StaysInside mappingHal true offBarDevice := by
  intro stays
  have value : (wireVirtioPciTransport mappingHal true (.start offBarDevice)).value? =
      some ⟨0xD8401000, 0, 0, 0, 0, 0xFFFF⟩ := by decide +kernel
  have mapped : (wireVirtioPciTransport mappingHal true (.start offBarDevice)).state?.map
      Wiring.driver = some [⟨0, 0xD8400000, 0x1000⟩] := by decide +kernel
  have last : offBarDevice.decoding.lastCapability .common = some 0x40 := by decide +kernel
  have window : (offBarDevice.decoding.windowAt 0x40).offset = 0x1000 ∧
      offBarDevice.decoding.windowLength 0x40 = 0x38 := by decide +kernel
  obtain ⟨final, ran⟩ := Outcome.eq_ok_of_value? value
  rw [ran] at mapped
  have driver : final.driver = [⟨0, 0xD8400000, 0x1000⟩] := Option.some.inj mapped
  obtain ⟨ptr, found, mapping, member, _, _, holds⟩ :=
    stays.handed _ final ran .common (by decide)
  obtain rfl := Option.some.inj (last.symm.trans found)
  rw [driver, List.mem_singleton] at member
  have below := holds.2
  rw [member, window.1, window.2] at below
  exact absurd below (by decide)

end Simurgh
