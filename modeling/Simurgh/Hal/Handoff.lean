import Simurgh.Core.Boot
import Simurgh.Hal.Context
import Simurgh.Lib.Bytes

/-!
# The boot handoff on x86_64

The bootloader copies the firmware's memory map into a block of fixed size, and the
kernel reads the block.  The two programs share only the layout: a header with two sizes,
the descriptors at the stride of the firmware, and the address of the ACPI root pointer
behind them.
-/

namespace Simurgh

/-! ## The firmware's memory map -/

def handoffBufferPages : Nat := 4

/-- The bytes of the block. -/
def handoffBufferBytes : Nat := handoffBufferPages * 0x1000

/-- Two 64-bit numbers, the size of the map and of one descriptor. -/
def headerSize : Nat := 16

/-- `size_of::<UefiMemoryDescriptor>()`. -/
def descriptorBytes : Nat := 40

/-- `MAX_MEMORY_REGIONS` of the manifest. -/
def maxTrackedRegions : Nat := 256

structure UefiMemoryDescriptor where
  ty : Nat
  physicalStart : Nat
  virtualStart : Nat
  numberOfPages : Nat
  attributeBits : Nat
  deriving DecidableEq, Repr

/-- The fields lie at their offsets in `#[repr(C)]` order. -/
def UefiMemoryDescriptor.ofBytes (bytes : List UInt8) : UefiMemoryDescriptor where
  ty := Bytes.decode (bytes.take 4)
  physicalStart := Bytes.decode ((bytes.drop 8).take 8)
  virtualStart := Bytes.decode ((bytes.drop 16).take 8)
  numberOfPages := Bytes.decode ((bytes.drop 24).take 8)
  attributeBits := Bytes.decode ((bytes.drop 32).take 8)

/-- What `GetMemoryMap` returned: a buffer with `mapSize` bytes of descriptors, `descSize`
bytes apart.  The standard descriptor fits in each. -/
structure FirmwareMap where
  descSize : Nat
  mapSize : Nat
  buffer : List UInt8
  stride : descriptorBytes ≤ descSize
  word : descSize < 0x10000000000000000
  fits : mapSize ≤ buffer.length
  slice : buffer.length < 0x8000000000000000

namespace FirmwareMap

variable (map : FirmwareMap)

def descriptorCount : Nat := map.mapSize / map.descSize

/-- The bytes that are copied. -/
def mapBytes : Nat := map.descSize * map.descriptorCount

/-- The descriptors of the map. -/
def descriptors : List UefiMemoryDescriptor :=
  (List.range map.descriptorCount).map fun i =>
    .ofBytes ((map.buffer.drop (i * map.descSize)).take descriptorBytes)

variable {map}

theorem mapBytes_le : map.mapBytes ≤ map.buffer.length :=
  Nat.le_trans (Nat.mul_div_le ..) map.fits

end FirmwareMap

/-! ## The bootloader -/

/-- Bytes written at an offset of the block. -/
structure BlockWrite where
  offset : Nat
  bytes : List UInt8

/-- What is written once the final map is known. -/
def handoffWrites (final : FirmwareMap) (rsdpAddr : Word) : List BlockWrite :=
  [ { offset := 0, bytes := Bytes.encode 8 final.mapBytes },
    { offset := 8, bytes := Bytes.encode 8 final.descSize },
    { offset := headerSize, bytes := final.buffer.take final.mapBytes },
    { offset := headerSize + final.mapBytes, bytes := Bytes.encode 8 rsdpAddr.toNat } ]

/-- The writes of `exit_boot_services_and_jump`, or `none` if it panics.  The size of the
exploratory map is compared with the buffer, and the final map is copied. -/
def exitBootServicesAndJump (exploratory final : FirmwareMap) (rsdpAddr : Word) :
    Option (List BlockWrite) :=
  if handoffBufferBytes < headerSize + exploratory.mapBytes + 8 then none
  else some (handoffWrites final rsdpAddr)

/-- The block as it was allocated. -/
def zeroedBlock : ByteMemory := fun _ => 0

/-- The block after the writes. -/
def writtenBlock (writes : List BlockWrite) : ByteMemory :=
  writes.foldl (fun block write => block.write write.offset write.bytes) zeroedBlock

/-! ## The kernel -/

/-- `classify_uefi_type`. -/
def classifyUefiType (ty : Nat) : MemoryRegionKind :=
  if ty = 7 ∨ ty = 3 ∨ ty = 4 ∨ ty = 1 ∨ ty = 2 then .usable
  else if ty = 9 then .acpiReclaimable
  else if ty = 10 then .acpiNvs
  else if ty = 11 ∨ ty = 12 then .mmio
  else .reserved

structure DescriptorIter where
  current : Nat
  remainingBytes : Nat
  descriptorSize : Nat
  deriving DecidableEq, Repr

namespace DescriptorIter

def next (block : ByteMemory) (iter : DescriptorIter) :
    Option (UefiMemoryDescriptor × DescriptorIter) :=
  if iter.remainingBytes < iter.descriptorSize ∨ iter.descriptorSize < descriptorBytes then
    none
  else
    some (.ofBytes (block.read iter.current descriptorBytes),
      { iter with
        current := iter.current + iter.descriptorSize
        remainingBytes := iter.remainingBytes - iter.descriptorSize })

theorem remainingBytes_next {block : ByteMemory} {iter later : DescriptorIter}
    {descriptor : UefiMemoryDescriptor} (taken : iter.next block = some (descriptor, later)) :
    later.remainingBytes < iter.remainingBytes := by
  unfold next at taken
  split at taken
  · cases taken
  · next more =>
      obtain ⟨_, rfl⟩ := Prod.mk.inj (Option.some.inj taken)
      have positive : 0 < descriptorBytes := by decide
      simp only
      omega

/-- The descriptors that a `for` loop over the iterator visits. -/
def items (block : ByteMemory) (iter : DescriptorIter) : List UefiMemoryDescriptor :=
  match _taken : iter.next block with
  | none => []
  | some (descriptor, later) => descriptor :: items block later
termination_by iter.remainingBytes
decreasing_by exact remainingBytes_next _taken

end DescriptorIter

/-- A region with the flag that `behind_iommu` adds. -/
structure HalRegion extends MemoryRegion where
  behindIommu : Bool
  deriving DecidableEq, Repr

structure HalMemory where
  regions : List HalRegion
  droppedRegionCount : Nat
  iommuPresent : Bool
  rsdpPhys : Nat
  deriving DecidableEq, Repr

/-- The region of a descriptor.  The product is taken in 64 bits. -/
def HalRegion.ofDescriptor (descriptor : UefiMemoryDescriptor) : HalRegion where
  baseAddr := descriptor.physicalStart
  lengthBytes := asU64 (descriptor.numberOfPages * pageSize)
  kind := classifyUefiType descriptor.ty
  behindIommu := false

/-- Track a region, or count it as dropped if the table is full. -/
def trackRegion (tracked : List HalRegion × Nat) (descriptor : UefiMemoryDescriptor) :
    List HalRegion × Nat :=
  if maxTrackedRegions ≤ tracked.1.length then (tracked.1, tracked.2 + 1)
  else (tracked.1 ++ [.ofDescriptor descriptor], tracked.2)

/-- `locate_acpi_rsdp`. -/
def locateAcpiRsdp (block : ByteMemory) (mapSize : Nat) : Nat :=
  block.readNat (headerSize + mapSize) 8

/-- `Memory::from_uefi_memory_map`.  `acpiDmarPresent` walks tables outside of the block. -/
def fromUefiMemoryMap (acpiDmarPresent : Nat → Bool) (block : ByteMemory) : HalMemory :=
  let mapSize := block.readNat 0 8
  let descriptorSize := block.readNat 8 8
  let iter : DescriptorIter :=
    { current := headerSize, remainingBytes := mapSize, descriptorSize }
  let tracked := (iter.items block).foldl trackRegion ([], 0)
  let rsdpPhys := locateAcpiRsdp block mapSize
  let iommuPresent := acpiDmarPresent rsdpPhys
  { regions :=
      if iommuPresent then tracked.1.map fun region => { region with behindIommu := true }
      else tracked.1
    droppedRegionCount := tracked.2
    iommuPresent
    rsdpPhys }

/-! ## Reading the block -/

/-- The iterator visits one descriptor for each stride. -/
theorem DescriptorIter.items_eq (block : ByteMemory) (iter : DescriptorIter)
    (stride : descriptorBytes ≤ iter.descriptorSize) :
    iter.items block =
      (List.range (iter.remainingBytes / iter.descriptorSize)).map fun i =>
        .ofBytes (block.read (iter.current + i * iter.descriptorSize) descriptorBytes) := by
  have positive : 0 < iter.descriptorSize := Nat.lt_of_lt_of_le (by decide) stride
  fun_induction items block iter with
  | case1 iter stops =>
      have fewer : iter.remainingBytes < iter.descriptorSize := by
        unfold next at stops
        by_contra more
        rw [if_neg (by omega)] at stops
        cases stops
      rw [Nat.div_eq_of_lt fewer]
      rfl
  | case2 iter descriptor later taken ih =>
      unfold next at taken
      split at taken
      · cases taken
      · next more =>
          obtain ⟨rfl, rfl⟩ := Prod.mk.inj (Option.some.inj taken)
          have enough : iter.descriptorSize ≤ iter.remainingBytes := by omega
          rw [ih stride positive]
          have rounds : iter.remainingBytes / iter.descriptorSize =
              (iter.remainingBytes - iter.descriptorSize) / iter.descriptorSize + 1 :=
            Nat.div_eq_sub_div positive enough
          rw [rounds, List.range_succ_eq_map, List.map_cons, List.map_map, Nat.zero_mul,
            Nat.add_zero]
          refine congrArg (List.cons _) (List.map_congr_left fun i _ => ?_)
          have place : iter.current + iter.descriptorSize + i * iter.descriptorSize =
              iter.current + (i + 1) * iter.descriptorSize := by
            rw [Nat.succ_mul]
            omega
          simp only [Function.comp, place]

/-- The loop tracks the first descriptors and counts the others. -/
theorem foldl_trackRegion (descriptors : List UefiMemoryDescriptor) :
    descriptors.foldl trackRegion ([], 0) =
      ((descriptors.take maxTrackedRegions).map .ofDescriptor,
        descriptors.length - maxTrackedRegions) := by
  have general : ∀ (rest : List UefiMemoryDescriptor) (regions : List HalRegion)
      (dropped : Nat), regions.length ≤ maxTrackedRegions →
      rest.foldl trackRegion (regions, dropped) =
        (regions ++ (rest.take (maxTrackedRegions - regions.length)).map .ofDescriptor,
          dropped + (rest.length - (maxTrackedRegions - regions.length))) := by
    intro rest
    induction rest with
    | nil => simp
    | cons descriptor rest ih =>
        intro regions dropped bound
        rw [List.foldl_cons]
        by_cases full : maxTrackedRegions ≤ regions.length
        · have skipped : trackRegion (regions, dropped) descriptor = (regions, dropped + 1) :=
            if_pos full
          have none' : maxTrackedRegions - regions.length = 0 := by omega
          rw [skipped, ih regions (dropped + 1) bound, none', List.take_zero,
            List.take_zero, List.length_cons, Nat.sub_zero, Nat.sub_zero]
          simp only [Prod.mk.injEq, true_and]
          omega
        · have kept : trackRegion (regions, dropped) descriptor =
              (regions ++ [.ofDescriptor descriptor], dropped) := if_neg full
          have grown : (regions ++ [HalRegion.ofDescriptor descriptor]).length =
              regions.length + 1 := by
            rw [List.length_append, List.length_singleton]
          have more : maxTrackedRegions - regions.length =
              (maxTrackedRegions - (regions.length + 1)) + 1 := by omega
          rw [kept, ih _ dropped (by omega), grown, more,
            List.take_succ_cons, List.map_cons, List.append_assoc, List.length_cons,
            List.singleton_append]
          simp only [Prod.mk.injEq, true_and]
          omega
  have whole := general descriptors [] 0 (Nat.zero_le _)
  rw [List.nil_append, List.length_nil, Nat.sub_zero, Nat.zero_add] at whole
  exact whole

section Block

variable {final : FirmwareMap} {rsdpAddr : Word}

/-- The block that is handed over, write by write. -/
theorem writtenBlock_handoff (final : FirmwareMap) (rsdpAddr : Word) :
    writtenBlock (handoffWrites final rsdpAddr) =
      (((zeroedBlock.writeNat 0 8 final.mapBytes).writeNat 8 8 final.descSize).write
        headerSize (final.buffer.take final.mapBytes)).writeNat
          (headerSize + final.mapBytes) 8 rsdpAddr.toNat := rfl

theorem length_copied (final : FirmwareMap) :
    (final.buffer.take final.mapBytes).length = final.mapBytes := by
  rw [List.length_take]
  exact Nat.min_eq_left FirmwareMap.mapBytes_le

theorem readNat_mapSize :
    (writtenBlock (handoffWrites final rsdpAddr)).readNat 0 8 = final.mapBytes := by
  have bound := @FirmwareMap.mapBytes_le final
  have slice := final.slice
  rw [writtenBlock_handoff,
    ByteMemory.readNat_writeNat_of_disjoint _ (Or.inl (by unfold headerSize; omega)),
    ByteMemory.readNat_write_of_disjoint (Or.inl (by decide)),
    ByteMemory.readNat_writeNat_of_disjoint _ (Or.inl (by decide)),
    ByteMemory.readNat_writeNat]
  exact Nat.mod_eq_of_lt (by omega)

theorem readNat_descriptorSize :
    (writtenBlock (handoffWrites final rsdpAddr)).readNat 8 8 = final.descSize := by
  rw [writtenBlock_handoff,
    ByteMemory.readNat_writeNat_of_disjoint _ (Or.inl (by unfold headerSize; omega)),
    ByteMemory.readNat_write_of_disjoint (Or.inl (by decide)),
    ByteMemory.readNat_writeNat]
  exact Nat.mod_eq_of_lt final.word

theorem readNat_rsdp :
    (writtenBlock (handoffWrites final rsdpAddr)).readNat (headerSize + final.mapBytes) 8 =
      rsdpAddr.toNat := by
  rw [writtenBlock_handoff, ByteMemory.readNat_writeNat]
  exact Nat.mod_eq_of_lt rsdpAddr.isLt

/-- Every descriptor is found where it was copied to. -/
theorem read_descriptor {i : Nat} (inside : i < final.descriptorCount) :
    (writtenBlock (handoffWrites final rsdpAddr)).read (headerSize + i * final.descSize)
        descriptorBytes =
      (final.buffer.drop (i * final.descSize)).take descriptorBytes := by
  have stride := final.stride
  have last : i * final.descSize + final.descSize ≤ final.mapBytes := by
    rw [← Nat.succ_mul, FirmwareMap.mapBytes, Nat.mul_comm final.descSize]
    exact Nat.mul_le_mul_right final.descSize inside
  rw [writtenBlock_handoff, ByteMemory.writeNat,
    ByteMemory.read_write_of_disjoint (Or.inl (by omega)),
    ByteMemory.read_write_inside (Nat.le_add_right ..) (by rw [length_copied]; omega),
    Nat.add_sub_cancel_left, List.drop_take, List.take_take]
  have fewer : min descriptorBytes (final.mapBytes - i * final.descSize) = descriptorBytes := by
    omega
  rw [fewer]

/-- The kernel finds the descriptors of the final map. -/
theorem items_handoff :
    DescriptorIter.items (writtenBlock (handoffWrites final rsdpAddr))
        { current := headerSize, remainingBytes := final.mapBytes
          descriptorSize := final.descSize } = final.descriptors := by
  have positive : 0 < final.descSize := Nat.lt_of_lt_of_le (by decide) final.stride
  rw [DescriptorIter.items_eq _ _ final.stride]
  simp only
  have count : final.mapBytes / final.descSize = final.descriptorCount :=
    Nat.mul_div_cancel_left _ positive
  rw [count]
  refine List.map_congr_left fun i member => ?_
  rw [read_descriptor (List.mem_range.1 member)]

end Block

/-! ## The result -/

/-- The region of a descriptor with its exact length. -/
def exactRegion (descriptor : UefiMemoryDescriptor) : MemoryRegion where
  baseAddr := descriptor.physicalStart
  lengthBytes := descriptor.numberOfPages * pageSize
  kind := classifyUefiType descriptor.ty

/-- The writes stay in the block, and the kernel reads from it what the firmware said. -/
structure HandsOver (acpiDmarPresent : Nat → Bool) (final : FirmwareMap) (rsdpAddr : Word)
    (writes : List BlockWrite) : Prop where
  inside : ∀ write ∈ writes, write.offset + write.bytes.length ≤ handoffBufferBytes
  rsdp : (fromUefiMemoryMap acpiDmarPresent (writtenBlock writes)).rsdpPhys = rsdpAddr.toNat
  regions : (fromUefiMemoryMap acpiDmarPresent (writtenBlock writes)).regions.map
      HalRegion.toMemoryRegion =
    (final.descriptors.take maxTrackedRegions).map exactRegion
  dropped : (fromUefiMemoryMap acpiDmarPresent (writtenBlock writes)).droppedRegionCount =
    final.descriptors.length - maxTrackedRegions

section Result

variable (acpiDmarPresent : Nat → Bool) {final : FirmwareMap} {rsdpAddr : Word}

/-- The regions that the kernel tracks, apart from the IOMMU flag. -/
theorem regions_handoff :
    (fromUefiMemoryMap acpiDmarPresent
        (writtenBlock (handoffWrites final rsdpAddr))).regions.map HalRegion.toMemoryRegion =
      (final.descriptors.take maxTrackedRegions).map fun descriptor =>
        (HalRegion.ofDescriptor descriptor).toMemoryRegion := by
  unfold fromUefiMemoryMap
  simp only [readNat_mapSize, readNat_descriptorSize, items_handoff, foldl_trackRegion]
  split
  · rw [List.map_map, List.map_map]
    rfl
  · rw [List.map_map]
    rfl

/-- The length of a region is exact if it is a 64-bit number. -/
theorem toMemoryRegion_ofDescriptor_iff {descriptor : UefiMemoryDescriptor} :
    (HalRegion.ofDescriptor descriptor).toMemoryRegion = exactRegion descriptor ↔
      descriptor.numberOfPages * pageSize < 0x10000000000000000 := by
  unfold HalRegion.ofDescriptor exactRegion asU64
  rw [MemoryRegion.mk.injEq]
  simp only [true_and, and_true]
  constructor
  · intro exact'
    rw [← exact']
    exact Nat.mod_lt _ (by decide)
  · exact Nat.mod_eq_of_lt

/-- The bootloader stops or hands over what the firmware said, exactly if it stops for the
exploratory map, or the final map fits in the block as well and no tracked region is as
long as the address space. -/
theorem handoff_iff (exploratory final : FirmwareMap) (rsdpAddr : Word) :
    (exitBootServicesAndJump exploratory final rsdpAddr = none ∨
      ∃ writes, exitBootServicesAndJump exploratory final rsdpAddr = some writes ∧
        HandsOver acpiDmarPresent final rsdpAddr writes) ↔
    handoffBufferBytes < headerSize + exploratory.mapBytes + 8 ∨
      headerSize + final.mapBytes + 8 ≤ handoffBufferBytes ∧
        ∀ descriptor ∈ final.descriptors.take maxTrackedRegions,
          descriptor.numberOfPages * pageSize < 0x10000000000000000 := by
  unfold exitBootServicesAndJump
  by_cases stops : handoffBufferBytes < headerSize + exploratory.mapBytes + 8
  · rw [if_pos stops]
    exact iff_of_true (Or.inl rfl) (Or.inl stops)
  · rw [if_neg stops]
    simp only [Option.some.injEq, exists_eq_left', reduceCtorEq, false_or, stops]
    constructor
    · intro handsOver
      constructor
      · have last := handsOver.inside
          { offset := headerSize + final.mapBytes, bytes := Bytes.encode 8 rsdpAddr.toNat }
          (by simp [handoffWrites])
        rw [Bytes.length_encode] at last
        exact last
      · have regions := handsOver.regions
        rw [regions_handoff, List.map_inj_left] at regions
        intro descriptor member
        exact toMemoryRegion_ofDescriptor_iff.1 (regions descriptor member)
    · rintro ⟨fits, short⟩
      exact {
        inside := by
          intro write member
          have size := length_copied final
          simp only [handoffWrites, List.mem_cons, List.not_mem_nil, or_false] at member
          rcases member with rfl | rfl | rfl | rfl
          · rw [Bytes.length_encode]
            exact (by decide : 0 + 8 ≤ handoffBufferBytes)
          · rw [Bytes.length_encode]
            exact (by decide : 8 + 8 ≤ handoffBufferBytes)
          · change headerSize + (final.buffer.take final.mapBytes).length ≤ _
            rw [size]
            omega
          · rw [Bytes.length_encode]
            exact fits
        rsdp := by
          unfold fromUefiMemoryMap locateAcpiRsdp
          simp only [readNat_mapSize, readNat_rsdp]
        regions := by
          rw [regions_handoff, List.map_inj_left]
          exact fun descriptor member =>
            toMemoryRegion_ofDescriptor_iff.2 (short descriptor member)
        dropped := by
          unfold fromUefiMemoryMap
          simp only [readNat_mapSize, readNat_descriptorSize, items_handoff,
            foldl_trackRegion] }

end Result

/-- A firmware map of zeroed descriptors. -/
def zeroMap (count : Nat) (bound : count < 0x1000) : FirmwareMap where
  descSize := 48
  mapSize := count * 48
  buffer := List.replicate (count * 48) 0
  stride := by decide
  word := by decide
  fits := by rw [List.length_replicate]
  slice := by
    rw [List.length_replicate]
    omega

/-- The final map has one descriptor more than fits in the block, and the exploratory one
fits. -/
theorem final_map_overruns_block :
    ¬ ∀ (exploratory final : FirmwareMap) (rsdpAddr : Word),
      exitBootServicesAndJump exploratory final rsdpAddr = none ∨
        ∃ writes, exitBootServicesAndJump exploratory final rsdpAddr = some writes ∧
          HandsOver (fun _ => false) final rsdpAddr writes := by
  intro claimed
  have small : (zeroMap 340 (by decide)).mapBytes = 16320 := by decide
  have large : (zeroMap 341 (by decide)).mapBytes = 16368 := by decide
  rcases claimed (zeroMap 340 (by decide)) (zeroMap 341 (by decide)) 0 with
    stops | ⟨writes, ran, handsOver⟩
  · unfold exitBootServicesAndJump at stops
    rw [small, if_neg (by decide)] at stops
    cases stops
  · unfold exitBootServicesAndJump at ran
    rw [small, if_neg (by decide), Option.some.injEq] at ran
    subst ran
    have last := handsOver.inside
      { offset := headerSize + (zeroMap 341 (by decide)).mapBytes
        bytes := Bytes.encode 8 (0 : Word).toNat } (by simp [handoffWrites])
    rw [Bytes.length_encode, large] at last
    exact absurd last (by decide)

end Simurgh
