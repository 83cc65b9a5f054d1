import Mathlib.Data.List.Nodup
import Mathlib.Data.List.TakeDrop
import Simurgh.Hal.Direct
import Simurgh.Hal.PciBars
import Simurgh.Lib.ListLoop

/-!
# Compute devices and their power domains

A scan of the PCI bus finds the accelerators.  A device is known by its index, which a lookup
takes and which the power domain of the device names.  The scan is the same on two architectures,
which differ in how they reach configuration space.
-/

namespace Simurgh

/-! ## Devices -/

inductive ComputeKindRaw where
  | cpu
  | gpu
  | npu
  | tpu
  | fpga
  deriving DecidableEq, Repr

def maxComputeDevices : Nat := 32

def maxPowerDomains : Nat := 16

def shortNameMaxLen : Nat := 32

structure ComputeDeviceRaw where
  kind : ComputeKindRaw
  vendor : BitVec 32
  hasDedicatedMemory : Bool
  dedicatedMemoryBytes : Nat
  unifiedMemoryCapable : Bool
  bandwidthToCpuMbps : Nat
  shortName : List UInt8
  shortNameLen : Nat
  deviceIndex : BitVec 32
  deriving DecidableEq, Repr

/-- `ComputeDeviceRaw::ZERO`. -/
def ComputeDeviceRaw.zero : ComputeDeviceRaw where
  kind := .cpu
  vendor := 0
  hasDedicatedMemory := false
  dedicatedMemoryBytes := 0
  unifiedMemoryCapable := false
  bandwidthToCpuMbps := 0
  shortName := List.replicate shortNameMaxLen 0
  shortNameLen := 0
  deviceIndex := 0

/-! ## The scan -/

/-- The function at a bus, a device and a function number.  An absent one reads as all ones. -/
abbrev PciSpace := Nat → Nat → Nat → PciFunction

structure PciDeviceHeader where
  vendorId : BitVec 16
  deviceId : BitVec 16
  classCode : BitVec 8
  subclass : BitVec 8
  headerType : BitVec 8
  deriving DecidableEq, Repr

def readPciHeader (function : PciFunction) : Option PciDeviceHeader :=
  let dword0 := function.read32 0x00
  let vendorId := dword0.extractLsb' 0 16
  if vendorId = 0xFFFF#16 then none
  else
    let deviceId := dword0.extractLsb' 16 16
    let dword2 := function.read32 0x08
    let subclass := dword2.extractLsb' 16 8
    let classCode := dword2.extractLsb' 24 8
    let dword3 := function.read32 0x0C
    let headerType := dword3.extractLsb' 16 8
    some { vendorId, deviceId, classCode, subclass, headerType }

def pciClassDisplayController : BitVec 8 := 0x03

def pciClassProcessingAccelerator : BitVec 8 := 0x12

def knownNpuTpuVendorIds : List (BitVec 16 × ComputeKindRaw) := [(0x1AE0, .tpu)]

def classifyPciDevice (header : PciDeviceHeader) : Option ComputeKindRaw :=
  if header.classCode = pciClassDisplayController then some .gpu
  else if header.classCode = pciClassProcessingAccelerator then some .npu
  else (knownNpuTpuVendorIds.find? fun known => header.vendorId = known.1).map Prod.snd

/-- The entry of a device.  The probe leaves its function as it was, which
`PciFunction.restored` says. -/
def computeEntry (function : PciFunction) (header : PciDeviceHeader) (kind : ComputeKindRaw) :
    ComputeDeviceRaw :=
  let dedicatedMemoryBytes := (function.probeBarSize 0).1
  { ComputeDeviceRaw.zero with
    kind
    vendor := header.vendorId.setWidth 32
    hasDedicatedMemory := dedicatedMemoryBytes.isSome
    dedicatedMemoryBytes := dedicatedMemoryBytes.getD 0
    unifiedMemoryCapable := false }

/-- The innermost loop's body.  The loops end at a device for which there is no room. -/
def scanFunction (space : PciSpace) (bus device function : Nat) (devices : List ComputeDeviceRaw) :
    Iteration (List ComputeDeviceRaw) (List ComputeDeviceRaw) :=
  match readPciHeader (space bus device function) with
  | none => .again devices
  | some header =>
      match classifyPciDevice header with
      | none => .again devices
      | some kind =>
          if maxComputeDevices ≤ devices.length then .done devices
          else .again (devices ++ [computeEntry (space bus device function) header kind])

/-- Function 0 says whether there are others. -/
def scanDevice (space : PciSpace) (bus device : Nat) (devices : List ComputeDeviceRaw) :
    Iteration (List ComputeDeviceRaw) (List ComputeDeviceRaw) :=
  match readPciHeader (space bus device 0) with
  | none => .again devices
  | some header0 =>
      let functionCount := if header0.headerType &&& 0x80#8 ≠ 0 then 8 else 1
      ListLoop.runPure (scanFunction space bus device) (List.range functionCount) devices

structure ComputeDiscovery where
  devices : List ComputeDeviceRaw
  deriving DecidableEq, Repr

namespace ComputeDiscovery

/-- `ComputeDiscovery::new`. -/
def new (space : PciSpace) : ComputeDiscovery where
  devices :=
    (ListLoop.runPure (fun bus => ListLoop.runPure (scanDevice space bus) (List.range 32))
      (List.range 256) []).either

def enumerateComputeDevices (discovery : ComputeDiscovery) : List ComputeDeviceRaw :=
  discovery.devices

def rescan (discovery : ComputeDiscovery) (_kindFilter : Option ComputeKindRaw) (space : PciSpace) :
    Except HalError Unit × ComputeDiscovery :=
  let fresh := new space
  if maxComputeDevices < fresh.devices.length then (.error .tooManyComputeDevices, discovery)
  else (.ok (), { discovery with devices := fresh.devices })

/-- The reference that `device_by_index` returns is the place of the device. -/
def deviceByIndex (discovery : ComputeDiscovery) (deviceIndex : BitVec 32) : Option Nat :=
  discovery.enumerateComputeDevices.findIdx? fun device => device.deviceIndex = deviceIndex

end ComputeDiscovery

/-! ## Power domains -/

structure PowerDomainRaw where
  domainId : BitVec 32
  associatedComputeDeviceIndex : BitVec 32
  supportsDvfs : Bool
  hasThermalSensor : Bool
  deriving DecidableEq, Repr

def PowerDomainRaw.noAssociatedDevice : BitVec 32 := BitVec.allOnes 32

def cpuPackageDomainId : BitVec 32 := 0

/-- The body of the loop over the devices. -/
def pushDeviceDomain (device : ComputeDeviceRaw) (domains : List PowerDomainRaw) :
    Iteration (List PowerDomainRaw) (List PowerDomainRaw) :=
  if maxPowerDomains ≤ domains.length then .done domains
  else .again (domains ++ [{
    domainId := BitVec.ofNat 32 domains.length
    associatedComputeDeviceIndex := device.deviceIndex
    supportsDvfs := false
    hasThermalSensor := false }])

/-- The domain of the CPU package, and one for each device. -/
def powerDomains (cpuDvfs cpuThermal : Bool) (compute : ComputeDiscovery) : List PowerDomainRaw :=
  let cpu : PowerDomainRaw := {
    domainId := cpuPackageDomainId
    associatedComputeDeviceIndex := PowerDomainRaw.noAssociatedDevice
    supportsDvfs := cpuDvfs
    hasThermalSensor := cpuThermal }
  (ListLoop.runPure pushDeviceDomain compute.enumerateComputeDevices [cpu]).either

/-- `PowerThermalImpl` of x86_64. -/
structure PowerThermalImpl where
  domains : List PowerDomainRaw
  tccActivationTempC : Nat
  raplSupported : Bool
  deriving DecidableEq, Repr

def msrTemperatureTarget : Nat := 0x1A2

def msrRaplPowerUnit : Nat := 0x606

/-- `PowerThermalImpl::new` of x86_64. -/
def PowerThermalImpl.new (rdmsr : Nat → BitVec 64) (compute : ComputeDiscovery) :
    PowerThermalImpl :=
  let tempTarget := rdmsr msrTemperatureTarget
  let tccActivationTempC := (tempTarget.extractLsb' 16 8).toNat
  let raplUnits := rdmsr msrRaplPowerUnit
  let raplSupported := decide (raplUnits ≠ 0)
  { domains := powerDomains raplSupported true compute, tccActivationTempC, raplSupported }

/-- `PowerThermalImpl::new` of arm64, which has nothing but the domains. -/
def armPowerThermalDomains (compute : ComputeDiscovery) : List PowerDomainRaw :=
  powerDomains false false compute

/-! ## Identity -/

namespace ComputeDiscovery

variable (discovery : ComputeDiscovery)

/-- Each domain but the first, which is the CPU's, names the device it was made for. -/
def Associated (domains : List PowerDomainRaw) : Prop :=
  ∀ place domain, domains[place + 1]? = some domain →
    ∃ device, discovery.devices[place]? = some device ∧
      domain.associatedComputeDeviceIndex = device.deviceIndex ∧
      ∀ other listed, discovery.devices[other]? = some listed →
        listed.deviceIndex = domain.associatedComputeDeviceIndex → other = place

/-- The index is the identity of a device. -/
structure Identified : Prop where
  distinct : ∀ (first second : Nat) (left right : ComputeDeviceRaw),
    discovery.enumerateComputeDevices[first]? = some left →
    discovery.enumerateComputeDevices[second]? = some right →
    left.deviceIndex = right.deviceIndex → first = second
  looksUp : ∀ place device, discovery.enumerateComputeDevices[place]? = some device →
    discovery.deviceByIndex device.deviceIndex = some place
  powered : ∀ rdmsr, discovery.Associated (PowerThermalImpl.new rdmsr discovery).domains
  armPowered : discovery.Associated (armPowerThermalDomains discovery)

/-- The discovery after a scan and rescans, the first of them first. -/
def after (first : PciSpace) (rescans : List (Option ComputeKindRaw × PciSpace)) :
    ComputeDiscovery :=
  rescans.foldl (fun discovery again => (discovery.rescan again.1 again.2).2) (new first)

end ComputeDiscovery

namespace PciSpace

variable (space : PciSpace)

/-- So many functions of a device the scan looks at. -/
def functionCount (bus device : Nat) : Nat :=
  match readPciHeader (space bus device 0) with
  | none => 0
  | some header0 => if header0.headerType &&& 0x80#8 ≠ 0 then 8 else 1

/-- The scan gets there, and finds an accelerator. -/
structure Accelerator (address : Nat × Nat × Nat) : Prop where
  bus : address.1 < 256
  device : address.2.1 < 32
  function : address.2.2 < space.functionCount address.1 address.2.1
  recognised : ((readPciHeader (space address.1 address.2.1 address.2.2)).bind
    classifyPciDevice).isSome = true

def AtMostOneAccelerator : Prop :=
  ∀ first second, space.Accelerator first → space.Accelerator second → first = second

end PciSpace

/-! ## What a scan finds -/

namespace PciSpace

variable (space : PciSpace)

/-- The functions the scan looks at, in its order. -/
def scanned : List (Nat × Nat × Nat) :=
  (List.range 256).flatMap fun bus =>
    ((List.range 32).flatMap fun device =>
      (List.range (space.functionCount bus device)).map (Prod.mk device)).map (Prod.mk bus)

theorem mem_scanned {address : Nat × Nat × Nat} :
    address ∈ space.scanned ↔ address.1 < 256 ∧ address.2.1 < 32 ∧
      address.2.2 < space.functionCount address.1 address.2.1 := by
  obtain ⟨bus, device, function⟩ := address
  simp only [scanned, List.mem_flatMap, List.mem_map, List.mem_range, Prod.mk.injEq]
  constructor
  · rintro ⟨bus, small, pair, ⟨device, few, function, within, rfl⟩, rfl, samePair⟩
    obtain ⟨rfl, rfl⟩ := Prod.mk.inj samePair
    exact ⟨small, few, within⟩
  · intro inside
    exact ⟨bus, inside.1, (device, function),
      ⟨device, inside.2.1, function, inside.2.2, rfl⟩, rfl, rfl⟩

theorem nodup_scanned : space.scanned.Nodup := by
  have apart : ∀ (keys : List Nat) (κ : Type) (inner : Nat → List κ), keys.Nodup →
      (∀ key, (inner key).Nodup) →
      (keys.flatMap fun key => (inner key).map (Prod.mk key)).Nodup := by
    intro keys κ inner ne inners
    apply List.nodup_flatMap.2
    constructor
    · intro key _
      exact (inners key).map (Prod.mk_right_injective key)
    · apply ne.imp
      intro left right differ pair inLeft inRight
      obtain ⟨_, _, rfl⟩ := List.mem_map.1 inLeft
      obtain ⟨_, _, same⟩ := List.mem_map.1 inRight
      exact differ (Prod.mk.inj same).1.symm
  apply apart _ _ _ List.nodup_range
  intro bus
  apply apart _ _ _ List.nodup_range
  intro device
  exact List.nodup_range

/-- The entry for a function, which does not depend on its position. -/
def entryAt (address : Nat × Nat × Nat) : Option (Nat → ComputeDeviceRaw) :=
  (readPciHeader (space address.1 address.2.1 address.2.2)).bind fun header =>
    (classifyPciDevice header).map fun kind _ =>
      computeEntry (space address.1 address.2.1 address.2.2) header kind

theorem scanFunction_eq (bus device function : Nat) :
    scanFunction space bus device function =
      ListLoop.collecting space.entryAt maxComputeDevices (bus, device, function) := by
  funext devices
  rw [scanFunction, ListLoop.collecting, entryAt]
  cases readPciHeader (space bus device function) with
  | none => rfl
  | some header =>
      rw [Option.bind_some]
      dsimp only
      cases classifyPciDevice header with
      | none => rfl
      | some kind => rfl

theorem scanDevice_eq (bus device : Nat) :
    scanDevice space bus device =
      ListLoop.runPure (scanFunction space bus device)
        (List.range (space.functionCount bus device)) := by
  funext devices
  rw [scanDevice, functionCount]
  cases readPciHeader (space bus device 0) with
  | none => rfl
  | some header0 => rfl

theorem devices_new :
    (ComputeDiscovery.new space).devices =
      ((space.scanned.filterMap space.entryAt).take maxComputeDevices).mapIdx
        (fun position make => make (0 + position)) := by
  have rows : ∀ bus, ListLoop.runPure (scanDevice space bus) (List.range 32) =
      ListLoop.runPure
        (fun pair : Nat × Nat => scanFunction space bus pair.1 pair.2)
        ((List.range 32).flatMap fun device =>
          (List.range (space.functionCount bus device)).map (Prod.mk device)) := by
    intro bus
    funext devices
    rw [← ListLoop.runPure_flatMap]
    congr 1
    funext device
    exact space.scanDevice_eq bus device
  rw [ComputeDiscovery.new]
  simp only [rows]
  rw [ListLoop.runPure_flatMap]
  simp only [space.scanFunction_eq]
  exact ListLoop.runPure_collecting space.entryAt maxComputeDevices space.scanned (Nat.zero_le _)

theorem isSome_entryAt {address : Nat × Nat × Nat} :
    (space.entryAt address).isSome =
      ((readPciHeader (space address.1 address.2.1 address.2.2)).bind
        classifyPciDevice).isSome := by
  rw [entryAt]
  cases readPciHeader (space address.1 address.2.1 address.2.2) with
  | none => rfl
  | some header => exact Option.isSome_map

/-- The accelerators, in the order of the scan. -/
theorem mem_accelerators {address : Nat × Nat × Nat} :
    address ∈ space.scanned.filter (fun address => (space.entryAt address).isSome) ↔
      space.Accelerator address := by
  rw [List.mem_filter, mem_scanned, isSome_entryAt]
  constructor
  · intro both
    exact ⟨both.1.1, both.1.2.1, both.1.2.2, both.2⟩
  · intro accelerator
    exact ⟨⟨accelerator.bus, accelerator.device, accelerator.function⟩, accelerator.recognised⟩

/-- So many accelerators are there. -/
theorem length_entries :
    (space.scanned.filterMap space.entryAt).length =
      (space.scanned.filter (fun address => (space.entryAt address).isSome)).length := by
  rw [List.length_filterMap_eq_countP, List.countP_eq_length_filter]

theorem atMostOneAccelerator_iff :
    space.AtMostOneAccelerator ↔ (ComputeDiscovery.new space).devices.length ≤ 1 := by
  have most : (ComputeDiscovery.new space).devices.length ≤ 1 ↔
      (space.scanned.filter (fun address => (space.entryAt address).isSome)).length ≤ 1 := by
    rw [devices_new, List.length_mapIdx, List.length_take, length_entries, maxComputeDevices]
    omega
  have ne := space.nodup_scanned.filter (fun address => (space.entryAt address).isSome)
  rw [most, AtMostOneAccelerator]
  simp only [← mem_accelerators]
  generalize space.scanned.filter (fun address => (space.entryAt address).isSome) = found at *
  constructor
  · intro same
    match found, ne with
    | [], _ => exact Nat.zero_le 1
    | [_], _ => exact Nat.le_refl 1
    | first :: second :: rest, ne =>
        have equal := same first second List.mem_cons_self
          (List.mem_cons_of_mem _ List.mem_cons_self)
        exact absurd (equal ▸ List.mem_cons_self) (List.nodup_cons.1 ne).1
  · intro few first second inFirst inSecond
    match found with
    | [] => exact absurd inFirst List.not_mem_nil
    | [only] => rw [List.mem_singleton.1 inFirst, List.mem_singleton.1 inSecond]
    | _ :: _ :: _ => exact absurd few (by simp)

/-- No device ever gets an index of its own. -/
theorem deviceIndex_of_mem {device : ComputeDeviceRaw}
    (listed : device ∈ (ComputeDiscovery.new space).devices) : device.deviceIndex = 0 := by
  rw [devices_new] at listed
  obtain ⟨position, small, rfl⟩ := List.mem_mapIdx.1 listed
  obtain ⟨address, _, made⟩ :=
    List.mem_filterMap.1 (List.mem_of_mem_take (List.getElem_mem small))
  obtain ⟨header, _, classified⟩ := Option.bind_eq_some_iff.1 made
  obtain ⟨kind, _, same⟩ := Option.map_eq_some_iff.1 classified
  rw [← same]
  rfl

end PciSpace

/-! ## The domains -/

def deviceDomain (device : ComputeDeviceRaw) (position : Nat) : PowerDomainRaw where
  domainId := BitVec.ofNat 32 position
  associatedComputeDeviceIndex := device.deviceIndex
  supportsDvfs := false
  hasThermalSensor := false

/-- The domain of the CPU, and those of the devices as long as there is room. -/
theorem powerDomains_eq (cpuDvfs cpuThermal : Bool) (compute : ComputeDiscovery) :
    ∃ cpu, powerDomains cpuDvfs cpuThermal compute =
      cpu :: ((compute.devices.map deviceDomain).take (maxPowerDomains - 1)).mapIdx
        fun position make => make (1 + position) := by
  have pushes : pushDeviceDomain =
      ListLoop.collecting (fun device => some (deviceDomain device)) maxPowerDomains := rfl
  have one : ∀ cpu : PowerDomainRaw, [cpu].length ≤ maxPowerDomains := fun _ => Nat.succ_pos 15
  rw [powerDomains, pushes, ListLoop.runPure_collecting _ _ _ (one _), List.filterMap_eq_map']
  exact ⟨_, rfl⟩

/-- Domain by domain, the devices behind the CPU. -/
theorem getElem?_powerDomains {cpuDvfs cpuThermal : Bool} {compute : ComputeDiscovery}
    {place : Nat} {domain : PowerDomainRaw}
    (listed : (powerDomains cpuDvfs cpuThermal compute)[place + 1]? = some domain) :
    ∃ device, compute.devices[place]? = some device ∧
      domain.associatedComputeDeviceIndex = device.deviceIndex := by
  obtain ⟨cpu, domains⟩ := powerDomains_eq cpuDvfs cpuThermal compute
  rw [domains, List.getElem?_cons_succ, List.getElem?_mapIdx, List.getElem?_take] at listed
  obtain ⟨make, taken, rfl⟩ := Option.map_eq_some_iff.1 listed
  split at taken
  · rw [List.getElem?_map] at taken
    obtain ⟨device, here, rfl⟩ := Option.map_eq_some_iff.1 taken
    exact ⟨device, here, rfl⟩
  · cases taken

namespace ComputeDiscovery

theorem associated_powerDomains {discovery : ComputeDiscovery} (few : discovery.devices.length ≤ 1)
    (cpuDvfs cpuThermal : Bool) :
    discovery.Associated (powerDomains cpuDvfs cpuThermal discovery) := by
  intro place domain listed
  obtain ⟨device, here, same⟩ := getElem?_powerDomains listed
  refine ⟨device, here, same, ?_⟩
  intro other otherDevice otherListed _
  have first := (List.getElem?_eq_some_iff.1 here).1
  have second := (List.getElem?_eq_some_iff.1 otherListed).1
  omega

/-! ## Runs -/

/-- Every device has the same index, so that there must be one at most. -/
theorem identified_new_iff (space : PciSpace) :
    (new space).Identified ↔ space.AtMostOneAccelerator := by
  rw [space.atMostOneAccelerator_iff]
  constructor
  · intro identified
    by_contra many
    have first : 0 < (new space).devices.length := by omega
    have second : 1 < (new space).devices.length := by omega
    have same : (new space).devices[0].deviceIndex = (new space).devices[1].deviceIndex := by
      rw [space.deviceIndex_of_mem (List.getElem_mem first),
        space.deviceIndex_of_mem (List.getElem_mem second)]
    have equal := identified.distinct 0 1 _ _ (List.getElem?_eq_getElem first)
      (List.getElem?_eq_getElem second) same
    exact absurd equal (by decide)
  · intro few
    constructor
    case distinct =>
      intro first second left right atFirst atSecond _
      have firstInside := (List.getElem?_eq_some_iff.1 atFirst).1
      have secondInside := (List.getElem?_eq_some_iff.1 atSecond).1
      rw [enumerateComputeDevices] at firstInside secondInside
      omega
    case looksUp =>
      intro place device here
      obtain ⟨inside, isDevice⟩ := List.getElem?_eq_some_iff.1 here
      rw [enumerateComputeDevices] at inside
      obtain rfl : place = 0 := by omega
      rw [deviceByIndex, List.findIdx?_eq_some_iff_getElem]
      refine ⟨inside, decide_eq_true (congrArg ComputeDeviceRaw.deviceIndex isDevice), ?_⟩
      intro earlier before
      exact absurd before (Nat.not_lt_zero earlier)
    case powered =>
      intro rdmsr
      exact associated_powerDomains few _ _
    case armPowered => exact associated_powerDomains few _ _

theorem length_new_le (space : PciSpace) : (new space).devices.length ≤ maxComputeDevices := by
  rw [space.devices_new, List.length_mapIdx]
  exact List.length_take_le _ _

/-- A rescan never fails, and forgets what was there. -/
theorem rescan_eq (discovery : ComputeDiscovery) (kindFilter : Option ComputeKindRaw)
    (space : PciSpace) : discovery.rescan kindFilter space = (.ok (), new space) := by
  rw [rescan, if_neg (Nat.not_lt_of_le (length_new_le space))]

theorem after_append (first : PciSpace) (rescans : List (Option ComputeKindRaw × PciSpace))
    (kindFilter : Option ComputeKindRaw) (space : PciSpace) :
    after first (rescans ++ [(kindFilter, space)]) = new space := by
  rw [after, List.foldl_append, List.foldl_cons, List.foldl_nil, rescan_eq]

/-- In every state of a run the index is the identity of a device, exactly if no scan finds two
accelerators. -/
theorem identified_iff (first : PciSpace) (rescans : List (Option ComputeKindRaw × PciSpace)) :
    (∀ taken, taken <+: rescans → (after first taken).Identified) ↔
      ∀ space ∈ first :: rescans.map Prod.snd, space.AtMostOneAccelerator := by
  constructor
  · intro identified space scanned
    rcases List.mem_cons.1 scanned with rfl | rescanned
    · exact (identified_new_iff space).1 (identified [] List.nil_prefix)
    · obtain ⟨⟨kindFilter, _⟩, member, rfl⟩ := List.mem_map.1 rescanned
      obtain ⟨earlier, later, split⟩ := List.append_of_mem member
      have taken : earlier ++ [(kindFilter, _)] <+: rescans :=
        ⟨later, by rw [split, List.append_assoc, List.singleton_append]⟩
      have here := identified _ taken
      rw [after_append] at here
      exact (identified_new_iff _).1 here
  · intro few taken isPrefix
    rcases List.eq_nil_or_concat taken with rfl | ⟨earlier, ⟨kindFilter, space⟩, rfl⟩
    · exact (identified_new_iff first).2 (few first List.mem_cons_self)
    · rw [List.concat_eq_append] at isPrefix ⊢
      have member : (kindFilter, space) ∈ rescans :=
        isPrefix.subset (List.mem_append_right _ (List.mem_singleton_self _))
      rw [after_append, identified_new_iff]
      exact few space (List.mem_cons_of_mem _ (List.mem_map_of_mem member))

end ComputeDiscovery

/-! ## Two graphics cards -/

/-- No function. -/
def absentFunction : PciFunction where
  dwords _ := 0xFFFFFFFF#32
  writable _ := 0

/-- A display controller without a BAR. -/
def displayFunction : PciFunction where
  dwords offset :=
    if offset = 0x00 then 0x123410DE#32 else if offset = 0x08 then 0x03000000#32 else 0
  writable _ := 0

def twoDisplays : PciSpace := fun bus device function =>
  if bus = 0 ∧ device < 2 ∧ function = 0 then displayFunction else absentFunction

theorem two_displays_not_identified :
    ¬ ∀ (first : PciSpace) (rescans : List (Option ComputeKindRaw × PciSpace)),
      ∀ taken, taken <+: rescans → (ComputeDiscovery.after first taken).Identified := by
  intro identified
  have here := (ComputeDiscovery.identified_new_iff twoDisplays).1
    (identified twoDisplays [] [] List.nil_prefix)
  have left : twoDisplays.Accelerator (0, 0, 0) :=
    ⟨by decide, by decide, by decide +kernel, by decide +kernel⟩
  have right : twoDisplays.Accelerator (0, 1, 0) :=
    ⟨by decide, by decide, by decide +kernel, by decide +kernel⟩
  exact absurd (here _ _ left right) (by decide)

end Simurgh
