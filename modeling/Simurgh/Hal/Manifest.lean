import Simurgh.Hal.ComputeDevices
import Simurgh.Hal.Handoff
import Simurgh.Lib.CappedTable

/-!
# The hardware manifest

What the parts of the hardware layer found goes into one record of fixed size, which the kernel
gets.  Each table of the record has a capacity of its own, and what does not fit is counted.
-/

namespace Simurgh

/-! ## The record -/

def maxMemoryRegions : Nat := 256

def maxPeripheralDevices : Nat := 32

structure PeripheralDeviceRaw extends PeripheralDevice where
  deviceIndex : BitVec 32
  deriving DecidableEq, Repr

/-- `device.device_index = idx as u32`. -/
def ComputeDeviceRaw.placed (device : ComputeDeviceRaw) (idx : Nat) : ComputeDeviceRaw :=
  { device with deviceIndex := BitVec.ofNat 32 idx }

def PeripheralDeviceRaw.placed (device : PeripheralDeviceRaw) (idx : Nat) : PeripheralDeviceRaw :=
  { device with deviceIndex := BitVec.ofNat 32 idx }

inductive InterruptControllerKindRaw where
  | apicXapic
  | apicX2apic
  | gicv3
  | gicv4
  | plicClic
  deriving DecidableEq, Repr

structure InterruptControllerInfoRaw where
  kind : InterruptControllerKindRaw
  primaryBase : Nat
  hasSecondary : Bool
  secondaryBase : Nat
  irqLineCount : Nat
  ipiTargetCoreCount : Nat
  deriving DecidableEq, Repr

def InterruptControllerInfoRaw.zero : InterruptControllerInfoRaw where
  kind := .apicXapic
  primaryBase := 0
  hasSecondary := false
  secondaryBase := 0
  irqLineCount := 0
  ipiTargetCoreCount := 0

inductive TimerKindRaw where
  | tsc
  | hpet
  | armGenericTimer
  | riscvSbiTimer
  deriving DecidableEq, Repr

structure TimerInfoRaw where
  kind : TimerKindRaw
  frequencyHz : Nat
  supportsTickless : Bool
  deriving DecidableEq, Repr

def TimerInfoRaw.zero : TimerInfoRaw where
  kind := .tsc
  frequencyHz := 0
  supportsTickless := false

/-- A table is an array with a count and a count of what was truncated. -/
structure HardwareManifestRaw where
  cpuCoreCount : BitVec 32
  cpuFeatureFlags : BitVec 64
  memoryRegions : CappedTable HalRegion maxMemoryRegions 32
  computeDevices : CappedTable ComputeDeviceRaw maxComputeDevices 32
  peripheralDevices : CappedTable PeripheralDeviceRaw maxPeripheralDevices 32
  interruptController : InterruptControllerInfoRaw
  timer : TimerInfoRaw
  powerDomains : CappedTable PowerDomainRaw maxPowerDomains 32

namespace HardwareManifestRaw

def zeroed : HardwareManifestRaw where
  cpuCoreCount := 0
  cpuFeatureFlags := 0
  memoryRegions := .empty
  computeDevices := .empty
  peripheralDevices := .empty
  interruptController := .zero
  timer := .zero
  powerDomains := .empty

variable (manifest : HardwareManifestRaw)

def pushMemoryRegion (region : HalRegion) : Except Unit Unit × HardwareManifestRaw :=
  let (result, memoryRegions) := manifest.memoryRegions.push fun _ => region
  (result, { manifest with memoryRegions })

/-- A device gets its place as its index. -/
def pushComputeDevice (device : ComputeDeviceRaw) : Except Unit Unit × HardwareManifestRaw :=
  let (result, computeDevices) := manifest.computeDevices.push device.placed
  (result, { manifest with computeDevices })

def pushPeripheralDevice (device : PeripheralDeviceRaw) :
    Except Unit Unit × HardwareManifestRaw :=
  let (result, peripheralDevices) := manifest.peripheralDevices.push device.placed
  (result, { manifest with peripheralDevices })

def pushPowerDomain (domain : PowerDomainRaw) : Except Unit Unit × HardwareManifestRaw :=
  let (result, powerDomains) := manifest.powerDomains.push fun _ => domain
  (result, { manifest with powerDomains })

/-! ## Filling it -/

def pushRegions (regions : List HalRegion) : HardwareManifestRaw :=
  regions.foldl (fun manifest region => (manifest.pushMemoryRegion region).2) manifest

def pushDevices (devices : List ComputeDeviceRaw) : HardwareManifestRaw :=
  devices.foldl (fun manifest device => (manifest.pushComputeDevice device).2) manifest

def pushPeripherals (devices : List PeripheralDeviceRaw) : HardwareManifestRaw :=
  devices.foldl (fun manifest device => (manifest.pushPeripheralDevice device).2) manifest

def pushDomains (domains : List PowerDomainRaw) : HardwareManifestRaw :=
  domains.foldl (fun manifest domain => (manifest.pushPowerDomain domain).2) manifest

/-- `truncated_memory_regions += dropped as u32`. -/
def foldInDropped (dropped : Nat) : HardwareManifestRaw :=
  { manifest with
    memoryRegions :=
      { manifest.memoryRegions with
        truncated := manifest.memoryRegions.truncated + BitVec.ofNat 32 dropped } }

end HardwareManifestRaw

/-! ## What was found -/

/-- `CpuFeatureFlags::IOMMU_CAPABLE`. -/
def iommuCapable : BitVec 64 := 1#64 <<< 8

structure CpuFindings where
  coreCount : Nat
  featureFlags : BitVec 64
  deriving DecidableEq, Repr

def CpuFindings.markIommuCapable (cpu : CpuFindings) (present : Bool) : CpuFindings :=
  { cpu with
    featureFlags :=
      if present then cpu.featureFlags ||| iommuCapable
      else cpu.featureFlags &&& ~~~iommuCapable }

structure ControllerFindings where
  detectedKind : InterruptControllerKindRaw
  primaryBase : Nat
  secondaryBase : Option Nat
  irqLineCount : Nat
  ipiTargetCoreCount : Nat
  deriving DecidableEq, Repr

def ControllerFindings.info (interrupt : ControllerFindings) : InterruptControllerInfoRaw where
  kind := interrupt.detectedKind
  primaryBase := interrupt.primaryBase
  hasSecondary := interrupt.secondaryBase.isSome
  secondaryBase := interrupt.secondaryBase.getD 0
  irqLineCount := interrupt.irqLineCount
  ipiTargetCoreCount := interrupt.ipiTargetCoreCount

/-- What the parts found, apart from the memory. -/
structure Findings where
  compute : ComputeDiscovery
  power : List PowerDomainRaw
  cpu : CpuFindings
  interrupt : ControllerFindings
  timer : TimerInfoRaw
  peripheral : List PeripheralDeviceRaw

/-- The fields without a table are written before and behind the loops. -/
def HardwareManifestRaw.withFacts (manifest : HardwareManifestRaw) (found : Findings)
    (iommuPresent : Bool) : HardwareManifestRaw :=
  { manifest with
    interruptController := found.interrupt.info
    timer := found.timer
    cpuFeatureFlags := (found.cpu.markIommuCapable iommuPresent).featureFlags }

def HardwareManifestRaw.ofCpu (found : Findings) : HardwareManifestRaw :=
  { zeroed with
    cpuCoreCount := BitVec.ofNat 32 found.cpu.coreCount
    cpuFeatureFlags := found.cpu.featureFlags }

/-- `Memory` of riscv64. -/
structure Riscv64.Memory where
  regions : List HalRegion
  iommuPresent : Bool
  plicBase : Nat
  deriving DecidableEq, Repr

def X8664.builtHardwareManifest (memory : HalMemory) (found : Findings) : HardwareManifestRaw :=
  let manifest := HardwareManifestRaw.ofCpu found
  let manifest := manifest.pushRegions memory.regions
  let manifest := manifest.foldInDropped memory.droppedRegionCount
  let manifest := manifest.pushDevices found.compute.enumerateComputeDevices
  let manifest := manifest.pushDomains found.power
  let manifest := manifest.pushPeripherals found.peripheral
  manifest.withFacts found memory.iommuPresent

def Arm64.builtHardwareManifest (memory : HalMemory) (found : Findings) : HardwareManifestRaw :=
  let manifest := HardwareManifestRaw.ofCpu found
  let manifest := manifest.pushRegions memory.regions
  let manifest := manifest.foldInDropped memory.droppedRegionCount
  let manifest := manifest.pushDevices found.compute.enumerateComputeDevices
  let manifest := manifest.pushPeripherals found.peripheral
  let manifest := manifest.pushDomains found.power
  manifest.withFacts found memory.iommuPresent

def Riscv64.builtHardwareManifest (memory : Riscv64.Memory) (found : Findings) :
    HardwareManifestRaw :=
  let manifest := HardwareManifestRaw.ofCpu found
  let manifest := manifest.pushRegions memory.regions
  let manifest := manifest.pushDevices found.compute.enumerateComputeDevices
  let manifest := manifest.pushPeripherals found.peripheral
  let manifest := manifest.pushDomains found.power
  manifest.withFacts found memory.iommuPresent

/-! ## What the manifest lists -/

namespace HardwareManifestRaw

theorem mapIdx_const {α : Type} (items : List α) :
    items.mapIdx (fun _ item => item) = items := by
  apply List.ext_getElem?
  intro place
  rw [List.getElem?_mapIdx]
  exact Option.map_id'

/-- The entries are what was found, as far as there is room, and the counts are exact. -/
structure Lists (manifest : HardwareManifestRaw) (known : List HalRegion) (dropped : Nat)
    (found : Findings) : Prop where
  regions : manifest.memoryRegions.entries = known.take maxMemoryRegions
  devices : manifest.computeDevices.entries =
    (found.compute.devices.take maxComputeDevices).mapIdx fun place device => device.placed place
  peripherals : manifest.peripheralDevices.entries =
    (found.peripheral.take maxPeripheralDevices).mapIdx fun place device => device.placed place
  domains : manifest.powerDomains.entries = found.power.take maxPowerDomains
  lostRegions : manifest.memoryRegions.truncated =
    BitVec.ofNat 32 (known.length - maxMemoryRegions) + BitVec.ofNat 32 dropped
  lostDevices : manifest.computeDevices.truncated =
    BitVec.ofNat 32 (found.compute.devices.length - maxComputeDevices)
  lostPeripherals : manifest.peripheralDevices.truncated =
    BitVec.ofNat 32 (found.peripheral.length - maxPeripheralDevices)
  lostDomains : manifest.powerDomains.truncated =
    BitVec.ofNat 32 (found.power.length - maxPowerDomains)
  timer : manifest.timer = found.timer

variable (manifest : HardwareManifestRaw)

theorem pushRegions_eq (regions : List HalRegion) :
    manifest.pushRegions regions =
      { manifest with
        memoryRegions := manifest.memoryRegions.pushAll (fun region _ => region) regions } :=
  CappedTable.foldl_field HardwareManifestRaw.memoryRegions
    (fun memoryRegions manifest => { manifest with memoryRegions }) (fun region _ => region)
    (fun _ _ => rfl) (fun _ _ _ => rfl) (fun _ => rfl) regions manifest

theorem pushDevices_eq (devices : List ComputeDeviceRaw) :
    manifest.pushDevices devices =
      { manifest with
        computeDevices := manifest.computeDevices.pushAll ComputeDeviceRaw.placed devices } :=
  CappedTable.foldl_field HardwareManifestRaw.computeDevices
    (fun computeDevices manifest => { manifest with computeDevices }) ComputeDeviceRaw.placed
    (fun _ _ => rfl) (fun _ _ _ => rfl) (fun _ => rfl) devices manifest

theorem pushPeripherals_eq (devices : List PeripheralDeviceRaw) :
    manifest.pushPeripherals devices =
      { manifest with
        peripheralDevices :=
          manifest.peripheralDevices.pushAll PeripheralDeviceRaw.placed devices } :=
  CappedTable.foldl_field HardwareManifestRaw.peripheralDevices
    (fun peripheralDevices manifest => { manifest with peripheralDevices })
    PeripheralDeviceRaw.placed
    (fun _ _ => rfl) (fun _ _ _ => rfl) (fun _ => rfl) devices manifest

theorem pushDomains_eq (domains : List PowerDomainRaw) :
    manifest.pushDomains domains =
      { manifest with
        powerDomains := manifest.powerDomains.pushAll (fun domain _ => domain) domains } :=
  CappedTable.foldl_field HardwareManifestRaw.powerDomains
    (fun powerDomains manifest => { manifest with powerDomains }) (fun domain _ => domain)
    (fun _ _ => rfl) (fun _ _ _ => rfl) (fun _ => rfl) domains manifest

/-- The manifest with all tables filled, whatever the order of the loops. -/
def listing (regions : List HalRegion) (dropped : Nat) (found : Findings) (iommuPresent : Bool) :
    HardwareManifestRaw where
  cpuCoreCount := BitVec.ofNat 32 found.cpu.coreCount
  cpuFeatureFlags := (found.cpu.markIommuCapable iommuPresent).featureFlags
  memoryRegions :=
    let listed := CappedTable.empty.pushAll (fun region _ => region) regions
    { listed with truncated := listed.truncated + BitVec.ofNat 32 dropped }
  computeDevices := CappedTable.empty.pushAll ComputeDeviceRaw.placed found.compute.devices
  peripheralDevices := CappedTable.empty.pushAll PeripheralDeviceRaw.placed found.peripheral
  interruptController := found.interrupt.info
  timer := found.timer
  powerDomains := CappedTable.empty.pushAll (fun domain _ => domain) found.power

theorem lists_listing (regions : List HalRegion) (dropped : Nat) (found : Findings)
    (iommuPresent : Bool) :
    (listing regions dropped found iommuPresent).Lists regions dropped found where
  regions := (CappedTable.entries_pushAll_empty _ _).trans (mapIdx_const _)
  devices := CappedTable.entries_pushAll_empty _ _
  peripherals := CappedTable.entries_pushAll_empty _ _
  domains := (CappedTable.entries_pushAll_empty _ _).trans (mapIdx_const _)
  lostRegions := by
    change (CappedTable.empty.pushAll _ regions).truncated + _ = _
    rw [CappedTable.truncated_pushAll_empty]
  lostDevices := CappedTable.truncated_pushAll_empty _ _
  lostPeripherals := CappedTable.truncated_pushAll_empty _ _
  lostDomains := CappedTable.truncated_pushAll_empty _ _
  timer := rfl

theorem x8664_built (memory : HalMemory) (found : Findings) :
    X8664.builtHardwareManifest memory found =
      listing memory.regions memory.droppedRegionCount found memory.iommuPresent := by
  simp only [X8664.builtHardwareManifest, pushRegions_eq, pushDevices_eq, pushDomains_eq,
    pushPeripherals_eq]
  rfl

theorem arm64_built (memory : HalMemory) (found : Findings) :
    Arm64.builtHardwareManifest memory found =
      listing memory.regions memory.droppedRegionCount found memory.iommuPresent := by
  simp only [Arm64.builtHardwareManifest, pushRegions_eq, pushDevices_eq, pushDomains_eq,
    pushPeripherals_eq]
  rfl

/-- There is no count of dropped regions to add. -/
theorem riscv64_built (memory : Riscv64.Memory) (found : Findings) :
    Riscv64.builtHardwareManifest memory found =
      listing memory.regions 0 found memory.iommuPresent := by
  have none' : (CappedTable.empty.pushAll (fun region _ => region) memory.regions :
      CappedTable HalRegion maxMemoryRegions 32).truncated + BitVec.ofNat 32 0 =
      (CappedTable.empty.pushAll (fun region _ => region) memory.regions :
        CappedTable HalRegion maxMemoryRegions 32).truncated := BitVec.add_zero _
  simp only [Riscv64.builtHardwareManifest, pushRegions_eq, pushDevices_eq, pushDomains_eq,
    pushPeripherals_eq, listing, none']
  rfl

end HardwareManifestRaw

/-! ## The devices of a bus -/

/-- One domain for the CPU, and one for each device as long as there is room. -/
theorem length_powerDomains (cpuDvfs cpuThermal : Bool) (compute : ComputeDiscovery) :
    (powerDomains cpuDvfs cpuThermal compute).length =
      1 + min (maxPowerDomains - 1) compute.devices.length := by
  obtain ⟨cpu, domains⟩ := powerDomains_eq cpuDvfs cpuThermal compute
  rw [domains, List.length_cons, List.length_mapIdx, List.length_take, List.length_map,
    Nat.add_comm]

/-- What the manifest says of the accelerators of a bus. -/
structure HardwareManifestRaw.OfBus (manifest : HardwareManifestRaw) (space : PciSpace) : Prop where
  listed : ∀ place, manifest.computeDevices.entries[place]? =
    (ComputeDiscovery.new space).devices[place]?.map fun device =>
      ComputeDeviceRaw.placed device place
  uncounted : manifest.computeDevices.truncated = 0 ∧ manifest.powerDomains.truncated = 0
  first : ∀ place domain, manifest.powerDomains.entries[place + 1]? = some domain →
    domain.associatedComputeDeviceIndex = 0
  associated : (∀ place domain, manifest.powerDomains.entries[place + 1]? = some domain →
      domain.associatedComputeDeviceIndex = BitVec.ofNat 32 place) ↔
    space.AtMostOneAccelerator

namespace HardwareManifestRaw

/-- The scans keep within the capacities of the manifest, and no device has its index when the
domains are made. -/
theorem Lists.ofBus {manifest : HardwareManifestRaw} {known : List HalRegion} {dropped : Nat}
    {found : Findings} (lists : manifest.Lists known dropped found) {space : PciSpace}
    (scanned : found.compute = .new space) {cpuDvfs cpuThermal : Bool}
    (made : found.power = Simurgh.powerDomains cpuDvfs cpuThermal found.compute) :
    manifest.OfBus space := by
  have devices := lists.devices
  have few := ComputeDiscovery.length_new_le space
  have count := length_powerDomains cpuDvfs cpuThermal found.compute
  rw [← made] at count
  have within : found.power.length ≤ maxPowerDomains := by
    rw [count, maxPowerDomains]
    omega
  have domains := lists.domains
  rw [List.take_of_length_le within] at domains
  rw [scanned, List.take_of_length_le few] at devices
  have first : ∀ place domain, manifest.powerDomains.entries[place + 1]? = some domain →
      (∃ device, (ComputeDiscovery.new space).devices[place]? = some device) ∧
        domain.associatedComputeDeviceIndex = 0 := by
    intro place domain here
    rw [domains, made, scanned] at here
    obtain ⟨device, there, same⟩ := getElem?_powerDomains here
    exact ⟨⟨device, there⟩, same.trans (space.deviceIndex_of_mem (List.mem_of_getElem? there))⟩
  constructor
  · intro place
    rw [devices, List.getElem?_mapIdx]
  · constructor
    · rw [lists.lostDevices, scanned, Nat.sub_eq_zero_of_le few]
      rfl
    · rw [lists.lostDomains, Nat.sub_eq_zero_of_le within]
      rfl
  · exact fun place domain here => (first place domain here).2
  · rw [space.atMostOneAccelerator_iff]
    constructor
    · intro right
      by_contra many
      have long : 1 + 1 < manifest.powerDomains.entries.length := by
        rw [domains, count, scanned, maxPowerDomains]
        omega
      have here := List.getElem?_eq_getElem long
      have zero := (first 1 _ here).2
      rw [right 1 _ here] at zero
      exact absurd zero (by decide)
    · intro one place domain here
      obtain ⟨⟨device, there⟩, zero⟩ := first place domain here
      have inside := (List.getElem?_eq_some_iff.1 there).1
      obtain rfl : place = 0 := by omega
      exact zero

/-- Whatever is on the bus, the manifest lists the devices of the scan under their places and
counts none as lost, and its domains name the right devices exactly if there is one at most. -/
theorem built_ofBus (space : PciSpace) (rdmsr : Nat → BitVec 64) (memory : HalMemory)
    (riscvMemory : Riscv64.Memory) (found : Findings) :
    (X8664.builtHardwareManifest memory
      { found with
        compute := .new space
        power := (PowerThermalImpl.new rdmsr (.new space)).domains }).OfBus space ∧
    (Arm64.builtHardwareManifest memory
      { found with
        compute := .new space
        power := armPowerThermalDomains (.new space) }).OfBus space ∧
    (Riscv64.builtHardwareManifest riscvMemory
      { found with
        compute := .new space
        power := armPowerThermalDomains (.new space) }).OfBus space := by
  refine ⟨?_, ?_, ?_⟩
  · rw [x8664_built]
    exact (lists_listing _ _ _ _).ofBus rfl rfl
  · rw [arm64_built]
    exact (lists_listing _ _ _ _).ofBus rfl rfl
  · rw [riscv64_built]
    exact (lists_listing _ _ _ _).ofBus rfl rfl

end HardwareManifestRaw

/-! ## The kernel's view -/

/-- `BootInfo::new`, with the parts of the manifest that the kernel reads. -/
def BootInfo.new (manifest : HardwareManifestRaw) (initialPageTablePhys : Nat)
    (kernelImagePhysRange bootReservedPhysRange : Nat × Nat) : BootInfo where
  magic := bootInfoMagic
  version := bootInfoVersion
  memoryRegions := manifest.memoryRegions.entries.map HalRegion.toMemoryRegion
  peripheralDevices := manifest.peripheralDevices.entries.map PeripheralDeviceRaw.toPeripheralDevice
  timerFrequencyHz := manifest.timer.frequencyHz
  initialPageTablePhys
  kernelImagePhysStart := kernelImagePhysRange.1
  kernelImagePhysEnd := kernelImagePhysRange.2
  bootReservedPhysStart := bootReservedPhysRange.1
  bootReservedPhysEnd := bootReservedPhysRange.2

end Simurgh
