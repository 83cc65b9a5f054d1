import Simurgh.Core.FreeMemory
import Simurgh.Hal.DeviceTreeNodes
import Simurgh.Hal.Manifest

/-!
# From the firmware to the first kernel state

The map of the firmware goes through the block of the bootloader, the manifest and the boot
information, and what is left of it becomes the memory that the kernel hands out.  On riscv64 a
device tree takes the place of the map.
-/

namespace Simurgh

/-! ## Firmware with a memory map -/

/-- Where the firmware says that the memory of a descriptor ends. -/
def UefiMemoryDescriptor.stop (descriptor : UefiMemoryDescriptor) : Nat :=
  descriptor.physicalStart + descriptor.numberOfPages * pageSize

inductive UefiArch where
  | x8664
  | arm64
  deriving DecidableEq, Repr

def UefiArch.builtHardwareManifest : UefiArch → HalMemory → Findings → HardwareManifestRaw
  | .x8664 => X8664.builtHardwareManifest
  | .arm64 => Arm64.builtHardwareManifest

/-- What a boot starts from: the maps of the firmware, what the parts find, and the addresses
that the linker and the page tables fix. -/
structure FirmwareBoot where
  arch : UefiArch
  exploratory : FirmwareMap
  final : FirmwareMap
  rsdpAddr : Word
  acpiDmarPresent : Nat → Bool
  found : Findings
  initialPageTablePhys : Nat
  kernelImage : Nat × Nat
  bootReserved : Nat × Nat

namespace FirmwareBoot

variable (boot : FirmwareBoot)

def memory (writes : List BlockWrite) : HalMemory :=
  fromUefiMemoryMap boot.acpiDmarPresent (writtenBlock writes)

def manifest (writes : List BlockWrite) : HardwareManifestRaw :=
  boot.arch.builtHardwareManifest (boot.memory writes) boot.found

def bootInfo (writes : List BlockWrite) : BootInfo :=
  .new (boot.manifest writes) boot.initialPageTablePhys boot.kernelImage boot.bootReserved

/-- The bootloader goes on, and the kernel comes up with the manifest and in the state. -/
def ComesUp (manifest : HardwareManifestRaw) (state : KernelState) : Prop :=
  ∃ writes, exitBootServicesAndJump boot.exploratory boot.final boot.rsdpAddr = some writes ∧
    manifest = boot.manifest writes ∧
    KernelState.populateFromBootInfo (boot.bootInfo writes) .empty = .ok () state

/-- The descriptors for which there is room. -/
def tracked : List UefiMemoryDescriptor := boot.final.descriptors.take maxTrackedRegions

/-- The holes of the kernel. -/
def holes : List (Nat × Nat) := [boot.kernelImage, boot.bootReserved, (0, boot.kernelImage.1)]

/-- A range of addresses lies in usable memory of the firmware, beside what the kernel keeps. -/
structure Free (interval : Nat × Nat) : Prop where
  usable : ∃ descriptor ∈ boot.tracked, classifyUefiType descriptor.ty = .usable ∧
    descriptor.physicalStart ≤ interval.1 ∧ interval.2 ≤ descriptor.stop
  beside : HoleFree boot.holes interval

/-- What holds of the kernel that came up. -/
structure Meets (manifest : HardwareManifestRaw) (state : KernelState) : Prop where
  inside : ∀ uid mem, state.untyped.get? uid = some mem →
    pageSize ≤ mem.sizeBytes ∧ boot.Free (mem.base, mem.base + mem.sizeBytes)
  covers : state.untyped.vacancies = 0 ∨
    ∀ descriptor ∈ boot.tracked, classifyUefiType descriptor.ty = .usable →
      descriptor.stop < 2 ^ 64 →
      ∀ interval : Nat × Nat, pageSize ≤ interval.2 - interval.1 →
        descriptor.physicalStart ≤ interval.1 → interval.2 ≤ descriptor.stop →
        HoleFree boot.holes interval →
        ∃ uid mem, state.untyped.get? uid = some mem ∧ mem.base ≤ interval.1 ∧
          interval.2 ≤ mem.base + mem.sizeBytes
  counted : manifest.memoryRegions.truncated =
    BitVec.ofNat 32 (boot.final.descriptors.length - maxTrackedRegions)

variable {boot}

theorem lists_manifest (writes : List BlockWrite) :
    (boot.manifest writes).Lists (boot.memory writes).regions
      (boot.memory writes).droppedRegionCount boot.found := by
  unfold manifest UefiArch.builtHardwareManifest
  cases boot.arch with
  | x8664 =>
      simp only [HardwareManifestRaw.x8664_built]
      exact HardwareManifestRaw.lists_listing _ _ _ _
  | arm64 =>
      simp only [HardwareManifestRaw.arm64_built]
      exact HardwareManifestRaw.lists_listing _ _ _ _

theorem regions_memory :
    (boot.memory (handoffWrites boot.final boot.rsdpAddr)).regions.map HalRegion.toMemoryRegion =
      boot.tracked.map fun descriptor => (HalRegion.ofDescriptor descriptor).toMemoryRegion :=
  regions_handoff boot.acpiDmarPresent

theorem dropped_memory :
    (boot.memory (handoffWrites boot.final boot.rsdpAddr)).droppedRegionCount =
      boot.final.descriptors.length - maxTrackedRegions := by
  unfold memory fromUefiMemoryMap
  simp only [readNat_mapSize, readNat_descriptorSize, items_handoff, foldl_trackRegion]

theorem length_tracked_le : boot.tracked.length ≤ maxMemoryRegions := by
  rw [tracked, List.length_take]
  exact Nat.min_le_left ..

/-- The regions of the boot information are the tracked descriptors. -/
theorem memoryRegions_bootInfo :
    (boot.bootInfo (handoffWrites boot.final boot.rsdpAddr)).memoryRegions =
      boot.tracked.map fun descriptor => (HalRegion.ofDescriptor descriptor).toMemoryRegion := by
  change (boot.manifest _).memoryRegions.entries.map _ = _
  rw [(lists_manifest _).regions, List.map_take, regions_memory, List.take_of_length_le]
  rw [List.length_map]
  exact length_tracked_le

theorem truncated_manifest :
    (boot.manifest (handoffWrites boot.final boot.rsdpAddr)).memoryRegions.truncated =
      BitVec.ofNat 32 (boot.final.descriptors.length - maxTrackedRegions) := by
  have few : (boot.memory (handoffWrites boot.final boot.rsdpAddr)).regions.length ≤
      maxMemoryRegions := by
    have same := congrArg List.length (@regions_memory boot)
    rw [List.length_map, List.length_map] at same
    rw [same]
    exact length_tracked_le
  rw [(lists_manifest _).lostRegions, Nat.sub_eq_zero_of_le few, dropped_memory]
  exact BitVec.zero_add _

/-- A region does not reach behind its descriptor. -/
theorem lengthBytes_ofDescriptor_le (descriptor : UefiMemoryDescriptor) :
    (HalRegion.ofDescriptor descriptor).lengthBytes ≤ descriptor.numberOfPages * pageSize :=
  Nat.mod_le _ _

theorem stop_ofDescriptor {descriptor : UefiMemoryDescriptor} (short : descriptor.stop < 2 ^ 64) :
    (HalRegion.ofDescriptor descriptor).toMemoryRegion.stop = descriptor.stop := by
  rw [UefiMemoryDescriptor.stop] at short ⊢
  have length : (HalRegion.ofDescriptor descriptor).lengthBytes =
      descriptor.numberOfPages * pageSize := Nat.mod_eq_of_lt (by omega)
  rw [MemoryRegion.stop, length, saturatingAdd]
  change min (descriptor.physicalStart + descriptor.numberOfPages * pageSize) _ = _
  exact Nat.min_eq_left (by omega)

/-- Whatever the firmware says, the kernel hands out usable memory of it, beside its own image
and the boot stack, all of it unless a table is full, and counts the descriptors it lost. -/
theorem comesUp_meets (boot : FirmwareBoot) (manifest : HardwareManifestRaw)
    (state : KernelState) (up : boot.ComesUp manifest state) : boot.Meets manifest state := by
  obtain ⟨writes, jumps, rfl, populated⟩ := up
  obtain rfl : handoffWrites boot.final boot.rsdpAddr = writes := by
    unfold exitBootServicesAndJump at jumps
    split at jumps
    · cases jumps
    · exact Option.some.inj jumps
  have handsOut := KernelState.handsOut_of_populate populated
  constructor
  · intro uid mem present
    have gives := handsOut.inside uid mem present
    obtain ⟨region, there, usable, starts, stops⟩ := gives.region
    rw [memoryRegions_bootInfo] at there
    obtain ⟨descriptor, tracked, rfl⟩ := List.mem_map.1 (List.mem_of_getElem? there)
    have long := lengthBytes_ofDescriptor_le descriptor
    refine ⟨gives.page, ⟨descriptor, tracked, usable, starts, ?_⟩, gives.holeFree⟩
    exact Nat.le_trans stops (Nat.add_le_add_left long _)
  · rcases handsOut.covers with full | covers
    · exact Or.inl full
    · refine Or.inr fun descriptor tracked usable short interval long starts stops free => ?_
      refine covers (HalRegion.ofDescriptor descriptor).toMemoryRegion ?_ usable interval long
        starts ?_ free
      · rw [memoryRegions_bootInfo]
        exact List.mem_map_of_mem tracked
      · rw [stop_ofDescriptor short]
        exact stops
  · exact truncated_manifest

end FirmwareBoot

/-! ## A map of one descriptor -/

theorem conventionalMap_stride : descriptorBytes ≤ 48 := by decide

theorem conventionalMap_word : 48 < 0x10000000000000000 := by decide

/-- 32 MiB of conventional memory. -/
def conventionalMap : FirmwareMap where
  descSize := 48
  mapSize := 48
  buffer := Bytes.encode 8 7 ++ Bytes.encode 8 0x1000000 ++ Bytes.encode 8 0 ++
    Bytes.encode 8 0x2000 ++ Bytes.encode 8 0 ++ Bytes.encode 8 0
  stride := conventionalMap_stride
  word := conventionalMap_word
  fits := by decide
  slice := by decide

def quietFindings : Findings where
  compute := { devices := [] }
  power := []
  cpu := { coreCount := 1, featureFlags := 0 }
  interrupt := {
    detectedKind := .apicXapic
    primaryBase := 0xFEE00000
    secondaryBase := none
    irqLineCount := 256
    ipiTargetCoreCount := 1 }
  timer := { kind := .tsc, frequencyHz := 1000000000, supportsTickless := true }
  peripheral := []

def conventionalBoot : FirmwareBoot where
  arch := .x8664
  exploratory := conventionalMap
  final := conventionalMap
  rsdpAddr := 0
  acpiDmarPresent _ := false
  found := quietFindings
  initialPageTablePhys := 0x1000
  kernelImage := (0x100000, 0x200000)
  bootReserved := (0x200000, 0x210000)

theorem conventionalBoot_bootInfo :
    conventionalBoot.bootInfo
      (handoffWrites conventionalBoot.final conventionalBoot.rsdpAddr) = sampleBoot := by
  have regions := @FirmwareBoot.memoryRegions_bootInfo conventionalBoot
  have one : (conventionalBoot.tracked.map fun descriptor =>
      (HalRegion.ofDescriptor descriptor).toMemoryRegion) = sampleBoot.memoryRegions := by
    decide +kernel
  have lists := @FirmwareBoot.lists_manifest conventionalBoot
    (handoffWrites conventionalBoot.final conventionalBoot.rsdpAddr)
  unfold FirmwareBoot.bootInfo BootInfo.new at regions ⊢
  rw [sampleBoot, BootInfo.mk.injEq]
  refine ⟨rfl, rfl, regions.trans one, ?_, ?_, rfl, rfl, rfl, rfl, rfl⟩
  · rw [lists.peripherals]
    rfl
  · rw [lists.timer]
    rfl

theorem comesUp_meets_conventional :
    ∃ manifest state, conventionalBoot.Meets manifest state := by
  have jumps : exitBootServicesAndJump conventionalBoot.exploratory conventionalBoot.final
      conventionalBoot.rsdpAddr =
        some (handoffWrites conventionalBoot.final conventionalBoot.rsdpAddr) := by
    unfold exitBootServicesAndJump
    exact if_neg (by decide +kernel)
  have populated := sampleBoot_populates
  rw [← conventionalBoot_bootInfo] at populated
  exact ⟨_, _, FirmwareBoot.comesUp_meets conventionalBoot _ _ ⟨_, jumps, rfl, populated⟩⟩

/-! ## Firmware with a device tree -/

def qemuVirtDefaultPlicBase : Nat := 0x0c000000

def qemuVirtDefaultMemoryBase : Nat := 0x80000000

def qemuVirtDefaultMemorySize : Nat := 128 * 1024 * 1024

/-- What lies below the kernel image is reserved, if the image lies in the memory. -/
def splitReservedPrefix (memoryBase memorySize kernelImagePhysStart : Nat) :
    Option (Nat × Nat) × (Nat × Nat) :=
  let memoryEnd := saturatingAdd memoryBase memorySize
  if memoryBase < kernelImagePhysStart ∧ kernelImagePhysStart < memoryEnd then
    (some (memoryBase, kernelImagePhysStart), (kernelImagePhysStart, memoryEnd))
  else (none, (memoryBase, memoryEnd))

/-- `Memory::from_device_tree`, behind the walk. -/
def Riscv64.Memory.fromDeviceTree (dt : DtDiscoveryResult) (kernelImagePhysStart : Nat) :
    Riscv64.Memory :=
  let memoryBase := dt.memoryBase.getD qemuVirtDefaultMemoryBase
  let memorySize := dt.memorySize.getD qemuVirtDefaultMemorySize
  let (reserved, usable) := splitReservedPrefix memoryBase memorySize kernelImagePhysStart
  let region (range : Nat × Nat) (kind : MemoryRegionKind) : HalRegion := {
    baseAddr := range.1
    lengthBytes := range.2 - range.1
    kind
    behindIommu := dt.iommuPresent }
  { regions := (reserved.map fun range => region range .reserved).toList ++
      [region usable .usable]
    iommuPresent := dt.iommuPresent
    plicBase := dt.plicBase.getD qemuVirtDefaultPlicBase }

/-- What a boot of riscv64 starts from. -/
structure TreeBoot where
  checks : Bool
  blob : ByteMemory
  found : Findings
  initialPageTablePhys : Nat
  kernelImage : Nat × Nat
  bootReserved : Nat × Nat

namespace TreeBoot

variable (boot : TreeBoot)

def bootInfo (dt : DtDiscoveryResult) : BootInfo :=
  .new
    (Riscv64.builtHardwareManifest (.fromDeviceTree dt boot.kernelImage.1) boot.found)
    boot.initialPageTablePhys boot.kernelImage boot.bootReserved

/-- The walk returns, and the kernel comes up in the state. -/
def ComesUp (state : KernelState) : Prop :=
  ∃ dt, WalkReturns boot.checks boot.blob dt ∧
    KernelState.populateFromBootInfo (boot.bootInfo dt) .empty = .ok () state

def holes : List (Nat × Nat) := [boot.kernelImage, boot.bootReserved, (0, boot.kernelImage.1)]

/-- The kernel hands out the memory of a machine that is not told, whatever the tree says. -/
structure TakesDefaults (state : KernelState) : Prop where
  inside : ∀ uid mem, state.untyped.get? uid = some mem →
    pageSize ≤ mem.sizeBytes ∧ 0x80000000 ≤ mem.base ∧ mem.base + mem.sizeBytes ≤ 0x88000000 ∧
      HoleFree boot.holes (mem.base, mem.base + mem.sizeBytes)
  covers : state.untyped.vacancies = 0 ∨
    ∀ interval : Nat × Nat, pageSize ≤ interval.2 - interval.1 → 0x80000000 ≤ interval.1 →
      interval.2 ≤ 0x88000000 → HoleFree boot.holes interval →
      ∃ uid mem, state.untyped.get? uid = some mem ∧ mem.base ≤ interval.1 ∧
        interval.2 ≤ mem.base + mem.sizeBytes

variable {boot}

def rangeRegion (range : Nat × Nat) (kind : MemoryRegionKind) : MemoryRegion where
  baseAddr := range.1
  lengthBytes := range.2 - range.1
  kind := kind

theorem memoryRegions_bootInfo (dt : DtDiscoveryResult) :
    (boot.bootInfo dt).memoryRegions =
      ((splitReservedPrefix (dt.memoryBase.getD qemuVirtDefaultMemoryBase)
          (dt.memorySize.getD qemuVirtDefaultMemorySize) boot.kernelImage.1).1.map fun range =>
        rangeRegion range .reserved).toList ++
      [rangeRegion (splitReservedPrefix (dt.memoryBase.getD qemuVirtDefaultMemoryBase)
          (dt.memorySize.getD qemuVirtDefaultMemorySize) boot.kernelImage.1).2 .usable] := by
  change (Riscv64.builtHardwareManifest _ boot.found).memoryRegions.entries.map _ = _
  rw [HardwareManifestRaw.riscv64_built, (HardwareManifestRaw.lists_listing _ _ _ _).regions,
    Riscv64.Memory.fromDeviceTree]
  cases splitReservedPrefix (dt.memoryBase.getD qemuVirtDefaultMemoryBase)
      (dt.memorySize.getD qemuVirtDefaultMemorySize) boot.kernelImage.1 with
  | mk reserved usable =>
      cases reserved with
      | none => rfl
      | some range => rfl

/-- The usable region of a walk that found nothing. -/
def defaultRegion (boot : TreeBoot) : MemoryRegion :=
  rangeRegion (splitReservedPrefix qemuVirtDefaultMemoryBase qemuVirtDefaultMemorySize
    boot.kernelImage.1).2 .usable

/-- The region starts where the memory does, or at the kernel image. -/
theorem defaultRegion_spec (boot : TreeBoot) :
    boot.defaultRegion.stop = 0x88000000 ∧
      (boot.defaultRegion.baseAddr = 0x80000000 ∨
        boot.defaultRegion.baseAddr = boot.kernelImage.1 ∧ 0x80000000 < boot.kernelImage.1) := by
  have ends : saturatingAdd qemuVirtDefaultMemoryBase qemuVirtDefaultMemorySize = 0x88000000 :=
    rfl
  have kept : ∀ start, start ≤ 0x88000000 →
      (rangeRegion (start, 0x88000000) .usable).stop = 0x88000000 := by
    intro start below
    change min (start + (0x88000000 - start)) 0xffffffffffffffff = _
    omega
  rw [defaultRegion, splitReservedPrefix, ends]
  by_cases within : qemuVirtDefaultMemoryBase < boot.kernelImage.1 ∧
      boot.kernelImage.1 < 0x88000000
  · rw [if_pos within]
    exact ⟨kept _ (Nat.le_of_lt within.2), Or.inr ⟨rfl, within.1⟩⟩
  · rw [if_neg within]
    exact ⟨kept _ (by decide), Or.inl rfl⟩

/-- The only usable region of the boot information. -/
theorem mem_memoryRegions {dt : DtDiscoveryResult} (blank : dt.Blank) {region : MemoryRegion} :
    (region ∈ (boot.bootInfo dt).memoryRegions ∧ region.kind = .usable) ↔
      region = boot.defaultRegion := by
  rw [memoryRegions_bootInfo, blank.memoryBase, blank.memorySize, Option.getD_none,
    Option.getD_none, defaultRegion, List.mem_append, List.mem_singleton, Option.mem_toList,
    Option.map_eq_some_iff]
  constructor
  · rintro ⟨⟨range, _, rfl⟩ | here, usable⟩
    · cases usable
    · exact here
  · rintro rfl
    exact ⟨Or.inr rfl, rfl⟩

/-- No flattened tree changes what the kernel takes for memory. -/
theorem tree_takes_defaults (boot : TreeBoot) (root : DtNode) (state : KernelState)
    (flat : IsFlattened boot.blob root) (up : boot.ComesUp state) : boot.TakesDefaults state := by
  obtain ⟨dt, returns, populated⟩ := up
  obtain ⟨found, walked, blank⟩ := walk_finds_nothing flat boot.checks
  obtain rfl := walked.unique returns
  obtain ⟨ends, starts⟩ := boot.defaultRegion_spec
  have handsOut := KernelState.handsOut_of_populate populated
  constructor
  · intro uid mem present
    have gives := handsOut.inside uid mem present
    obtain ⟨region, there, usable, lower, upper⟩ := gives.region
    have same := (mem_memoryRegions blank).1 ⟨List.mem_of_getElem? there, usable⟩
    subst same
    refine ⟨gives.page, ?_, ?_, gives.holeFree⟩
    · omega
    · rw [MemoryRegion.stop, saturatingAdd] at ends
      omega
  · rcases handsOut.covers with full | covers
    · exact Or.inl full
    · refine Or.inr fun interval long lower upper free => ?_
      have listed := (mem_memoryRegions blank).2 (Eq.refl boot.defaultRegion)
      have positive : 0 < pageSize := by decide
      -- What lies below the kernel image is a hole.
      have above : boot.kernelImage.1 ≤ interval.1 := by
        by_contra below
        exact free (0, boot.kernelImage.1) (by simp [TreeBoot.holes]) interval.1
          ⟨Nat.le_refl _, by omega⟩ ⟨Nat.zero_le _, Nat.lt_of_not_le below⟩
      exact covers boot.defaultRegion listed.1 listed.2 interval long (by omega) (by omega) free

end TreeBoot

/-- A tree with 256 MiB of memory. -/
def ramBoot : TreeBoot where
  checks := false
  blob := ramBlob
  found := quietFindings
  initialPageTablePhys := 0x80500000
  kernelImage := (0x80200000, 0x80400000)
  bootReserved := (0x80400000, 0x80410000)

/-- The boot information of `ramBoot`. -/
def ramBootInfo : BootInfo where
  magic := bootInfoMagic
  version := bootInfoVersion
  memoryRegions := [
    { baseAddr := 0x80000000, lengthBytes := 0x200000, kind := .reserved },
    { baseAddr := 0x80200000, lengthBytes := 0x7E00000, kind := .usable } ]
  peripheralDevices := []
  timerFrequencyHz := 1000000000
  initialPageTablePhys := 0x80500000
  kernelImagePhysStart := 0x80200000
  kernelImagePhysEnd := 0x80400000
  bootReservedPhysStart := 0x80400000
  bootReservedPhysEnd := 0x80410000

theorem ramBoot_bootInfo {dt : DtDiscoveryResult} (blank : dt.Blank) :
    ramBoot.bootInfo dt = ramBootInfo := by
  have regions := @TreeBoot.memoryRegions_bootInfo ramBoot dt
  rw [blank.memoryBase, blank.memorySize] at regions
  unfold TreeBoot.bootInfo BootInfo.new at regions ⊢
  rw [ramBootInfo, BootInfo.mk.injEq]
  refine ⟨rfl, rfl, regions.trans (by decide), ?_, ?_, rfl, rfl, rfl, rfl, rfl⟩
  · rw [HardwareManifestRaw.riscv64_built, (HardwareManifestRaw.lists_listing _ _ _ _).peripherals]
    rfl
  · rw [HardwareManifestRaw.riscv64_built]
    rfl

theorem tree_takes_defaults_ram : ∃ state, ramBoot.TakesDefaults state := by
  obtain ⟨dt, returns, blank⟩ := walk_finds_nothing ramTree_flattened ramBoot.checks
  have succeeded :
      (KernelState.populateFromBootInfo ramBootInfo .empty).value? = some () := by
    decide +kernel
  obtain ⟨state, populated⟩ := Outcome.eq_ok_of_value? succeeded
  rw [← ramBoot_bootInfo blank] at populated
  exact ⟨state, TreeBoot.tree_takes_defaults ramBoot ramTree state ramTree_flattened
    ⟨dt, returns, populated⟩⟩

end Simurgh
