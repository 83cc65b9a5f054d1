import Simurgh.Elf.Segments

/-!
# The boot loader

The boot loader copies the segments of the kernel to their physical addresses, into pages that it
gets from the firmware one segment after another.
-/

namespace Simurgh

/-! ## The code -/

/-- So many pages from an address on. -/
structure PageRange where
  base : Nat
  pages : Nat
  deriving DecidableEq, Repr

def PageRange.Covers (range : PageRange) (addr : Nat) : Prop :=
  range.base ≤ addr ∧ addr < range.base + range.pages * 0x1000

/-- `AllocatePages` of the firmware, for exact addresses.  The answer depends on what has been
allocated before.  It allocates whole pages of the address space, and none of them twice. -/
structure Firmware where
  grants : List PageRange → PageRange → Bool
  aligned : ∀ allocated range, grants allocated range = true → range.base % 0x1000 = 0
  fresh : ∀ allocated range, grants allocated range = true →
    ∀ other ∈ allocated, ∀ addr, ¬ (range.Covers addr ∧ other.Covers addr)

/-- Bytes that are written for a segment. -/
structure SegmentWrite where
  segment : LoadSegment
  start : Nat
  bytes : List UInt8
  deriving DecidableEq, Repr

/-- Physical memory, what the firmware has allocated, and what has been written. -/
structure Loading where
  memory : ByteMemory
  allocated : List PageRange
  writes : List SegmentWrite
  totalLoadedBytes : Nat

def Loading.start (memory : ByteMemory) : Loading where
  memory := memory
  allocated := []
  writes := []
  totalLoadedBytes := 0

def Loading.write (loading : Loading) (write : SegmentWrite) : Loading :=
  { loading with
    memory := loading.memory.write write.start write.bytes
    writes := write :: loading.writes }

abbrev Loader (α : Type) : Type := Exec Loading String α

/-- `left + right`, which aborts if it leaves 64 bits. -/
def addOrAbort (left right : Nat) : Loader Nat := Exec.expect (checkedAdd left right)

/-- `left - right`, which aborts below zero. -/
def subOrAbort (left right : Nat) : Loader Nat :=
  Exec.expect (if right ≤ left then some (left - right) else none)

/-- One iteration of the loop.  The slice `dest` is the memory from `paddr` on, of the length
`mem_size`. -/
def loadKernelSegment (firmware : Firmware) (elfData : List UInt8) (segment : LoadSegment) :
    Loader Unit := do
  let rounded ← addOrAbort segment.memSize 0xFFF
  let range : PageRange := { base := segment.paddr, pages := rounded / 0x1000 }
  let loading ← Exec.get
  Exec.guard (firmware.grants loading.allocated range)
    "AllocatePages failed for a kernel PT_LOAD segment"
  Exec.modify fun loading => { loading with allocated := range :: loading.allocated }
  let srcEnd ← addOrAbort segment.fileOffset segment.fileSize
  Exec.ensure (segment.fileSize ≤ segment.memSize)
  Exec.ensure (srcEnd ≤ elfData.length)
  Exec.modify fun loading => loading.write
    { segment, start := segment.paddr,
      bytes := Slice.bytesAt elfData segment.fileOffset segment.fileSize }
  let total ← addOrAbort loading.totalLoadedBytes segment.fileSize
  Exec.modify fun loading => { loading with totalLoadedBytes := total }
  let zeroFillSize ← subOrAbort segment.memSize segment.fileSize
  if 0 < zeroFillSize then
    Exec.modify fun loading => loading.write
      { segment, start := segment.paddr + segment.fileSize,
        bytes := List.replicate zeroFillSize 0 }
  else return ()

def loadKernelSegments (firmware : Firmware) (machine : Nat) (elfData : List UInt8) :
    Loader Nat :=
  forEachSegment elfData machine "failed to parse kernel ELF header"
    (loadKernelSegment firmware elfData)

/-! ## One segment -/

namespace LoadSegment

/-- The pages that are allocated for a segment. -/
def pageRange (segment : LoadSegment) : PageRange where
  base := segment.paddr
  pages := (segment.memSize + 0xFFF) / 0x1000

end LoadSegment

/-- A loading after a segment has been loaded. -/
def Loading.loaded (loading : Loading) (data : List UInt8) (segment : LoadSegment) : Loading :=
  let granted : Loading := { loading with
    allocated := segment.pageRange :: loading.allocated
    totalLoadedBytes := loading.totalLoadedBytes + segment.fileSize }
  let copied := granted.write
    { segment, start := segment.paddr,
      bytes := Slice.bytesAt data segment.fileOffset segment.fileSize }
  if 0 < segment.memSize - segment.fileSize then
    copied.write
      { segment, start := segment.paddr + segment.fileSize,
        bytes := List.replicate (segment.memSize - segment.fileSize) 0 }
  else copied

variable {firmware : Firmware} {data : List UInt8} {segment : LoadSegment} {loading : Loading}

theorem addOrAbort_bind {α : Type} {left right : Nat} (next : Nat → Loader α)
    (loading : Loading) :
    (addOrAbort left right >>= next) loading =
      if left + right < 2 ^ 64 then next (left + right) loading else .panic := by
  by_cases fits : left + right < 2 ^ 64
  · rw [if_pos fits, addOrAbort, checkedAdd_eq_some.2 ⟨fits, rfl⟩]
    rfl
  · rw [if_neg fits, addOrAbort, checkedAdd_eq_none fits]
    rfl

theorem ensure_bind {α : Type} {condition : Prop} [Decidable condition]
    (next : Unit → Loader α) (loading : Loading) :
    (Exec.ensure (decide condition) >>= next) loading =
      if condition then next () loading else .panic := by
  by_cases holds : condition
  · rw [decide_eq_true holds, if_pos holds]
    rfl
  · rw [decide_eq_false holds, if_neg holds]
    rfl

/-- What happens to a segment. -/
theorem loadKernelSegment_run :
    loadKernelSegment firmware data segment loading =
      if segment.memSize + 0xFFF < 2 ^ 64 then
        if firmware.grants loading.allocated segment.pageRange then
          if segment.Copies data ∧ loading.totalLoadedBytes + segment.fileSize < 2 ^ 64 then
            .ok () (loading.loaded data segment)
          else .panic
        else .err "AllocatePages failed for a kernel PT_LOAD segment" loading
      else .panic := by
  rw [loadKernelSegment, addOrAbort_bind]
  by_cases rounds : segment.memSize + 0xFFF < 2 ^ 64
  swap
  · rw [if_neg rounds, if_neg rounds]
  rw [if_pos rounds, if_pos rounds, Exec.get_bind_run, Exec.guard_bind_run]
  change (if firmware.grants loading.allocated segment.pageRange then _ else _) = _
  by_cases granted : firmware.grants loading.allocated segment.pageRange = true
  swap
  · rw [if_neg granted, if_neg granted]
  rw [if_pos granted, if_pos granted, Exec.modify_bind_run, addOrAbort_bind]
  by_cases word : segment.fileOffset + segment.fileSize < 2 ^ 64
  swap
  · rw [if_neg word, if_neg fun both => word both.1.word]
  rw [if_pos word, ensure_bind]
  by_cases inMemory : segment.fileSize ≤ segment.memSize
  swap
  · rw [if_neg inMemory, if_neg fun both => inMemory both.1.inMemory]
  rw [if_pos inMemory, ensure_bind]
  by_cases inFile : segment.fileOffset + segment.fileSize ≤ data.length
  swap
  · rw [if_neg inFile, if_neg fun both => inFile both.1.inFile]
  rw [if_pos inFile, Exec.modify_bind_run, addOrAbort_bind]
  by_cases total : loading.totalLoadedBytes + segment.fileSize < 2 ^ 64
  swap
  · rw [if_neg total, if_neg fun both => total both.2]
  rw [if_pos total, if_pos ⟨⟨word, inFile, inMemory⟩, total⟩, Exec.modify_bind_run, subOrAbort,
    if_pos inMemory, Exec.expect_some, Exec.pure_bind_run, Loading.loaded]
  split
  · rfl
  · rfl

theorem loaded_allocated :
    (loading.loaded data segment).allocated = segment.pageRange :: loading.allocated := by
  rw [Loading.loaded]
  split
  · rfl
  · rfl

theorem loaded_total :
    (loading.loaded data segment).totalLoadedBytes =
      loading.totalLoadedBytes + segment.fileSize := by
  rw [Loading.loaded]
  split
  · rfl
  · rfl

/-- The segment is in memory. -/
theorem loaded_memory_inside (copies : segment.Copies data) {i : Nat}
    (inside : i < segment.memSize) :
    (loading.loaded data segment).memory (segment.paddr + i) = segment.byteAt data i := by
  by_cases fromFile : i < segment.fileSize
  · rw [Loading.loaded]
    split
    · have before : segment.paddr + i < segment.paddr + segment.fileSize := by omega
      exact (ByteMemory.write_of_lt _ before).trans (write_bytesAt copies _ _ fromFile)
    · exact write_bytesAt copies _ _ fromFile
  · rw [LoadSegment.byteAt, if_neg fromFile, Loading.loaded, if_pos (by omega)]
    have zero := @ByteMemory.write_of_mem
      (loading.memory.write segment.paddr
        (Slice.bytesAt data segment.fileOffset segment.fileSize))
      (segment.paddr + segment.fileSize) (i - segment.fileSize)
      (List.replicate (segment.memSize - segment.fileSize) 0)
      (by rw [List.length_replicate]; omega)
    have place : segment.paddr + segment.fileSize + (i - segment.fileSize) = segment.paddr + i := by
      omega
    rw [List.getElem?_replicate, if_pos (by omega), place] at zero
    exact Option.some.inj zero

/-- Beside the segment, memory stays as it is. -/
theorem loaded_memory_outside (copies : segment.Copies data) {addr : Nat}
    (outside : addr < segment.paddr ∨ segment.paddr + segment.memSize ≤ addr) :
    (loading.loaded data segment).memory addr = loading.memory addr := by
  have length := length_bytesAt copies
  have inMemory := copies.inMemory
  have copied : loading.memory.write segment.paddr
      (Slice.bytesAt data segment.fileOffset segment.fileSize) addr = loading.memory addr := by
    rcases outside with before | behind
    · exact ByteMemory.write_of_lt _ before
    · exact ByteMemory.write_of_le (by omega)
  rw [Loading.loaded]
  split
  · refine Eq.trans ?_ copied
    rcases outside with before | behind
    · have lower : addr < segment.paddr + segment.fileSize := by omega
      exact ByteMemory.write_of_lt _ lower
    · have upper : segment.paddr + segment.fileSize +
          (List.replicate (segment.memSize - segment.fileSize) (0 : UInt8)).length ≤ addr := by
        rw [List.length_replicate]
        omega
      exact ByteMemory.write_of_le upper
  · exact copied

/-! ## What is written -/

/-- The pages of a segment begin at its address, rounded down, and its size is rounded up. -/
structure SegmentWrite.Inside (write : SegmentWrite) : Prop where
  lower : write.segment.paddr / 0x1000 * 0x1000 ≤ write.start
  upper : write.start + write.bytes.length ≤
    write.segment.paddr / 0x1000 * 0x1000 + (write.segment.memSize + 0xFFF) / 0x1000 * 0x1000

/-- Only pages that are allocated for a segment are written for it, and nothing else is. -/
structure WritesInside (before : ByteMemory) (loading : Loading) : Prop where
  owned : ∀ write ∈ loading.writes, write.segment.pageRange ∈ loading.allocated
  inside : ∀ write ∈ loading.writes, write.Inside
  unchanged : ∀ addr, loading.memory addr ≠ before addr →
    ∃ write ∈ loading.writes, write.start ≤ addr ∧ addr < write.start + write.bytes.length

variable {before : ByteMemory}

theorem WritesInside.start (before : ByteMemory) : WritesInside before (.start before) where
  owned := fun _ absent => nomatch absent
  inside := fun _ absent => nomatch absent
  unchanged := fun _ changed => absurd rfl changed

theorem WritesInside.write {write : SegmentWrite} (holds : WritesInside before loading)
    (owned : write.segment.pageRange ∈ loading.allocated) (inside : write.Inside) :
    WritesInside before (loading.write write) := by
  constructor
  · intro other member
    rcases List.mem_cons.1 member with rfl | older
    · exact owned
    · exact holds.owned other older
  · intro other member
    rcases List.mem_cons.1 member with rfl | older
    · exact inside
    · exact holds.inside other older
  · intro addr changed
    by_cases covered : write.start ≤ addr ∧ addr < write.start + write.bytes.length
    · exact ⟨write, List.mem_cons_self, covered⟩
    · have same : (loading.write write).memory addr = loading.memory addr := by
        by_cases lower : write.start ≤ addr
        · exact ByteMemory.write_of_le (by omega)
        · exact ByteMemory.write_of_lt _ (by omega)
      rw [same] at changed
      obtain ⟨other, member, covers⟩ := holds.unchanged addr changed
      exact ⟨other, List.mem_cons_of_mem _ member, covers⟩

theorem WritesInside.loaded (holds : WritesInside before loading)
    (aligned : segment.paddr % 0x1000 = 0) (copies : segment.Copies data) :
    WritesInside before (loading.loaded data segment) := by
  have length := length_bytesAt copies
  have inMemory := copies.inMemory
  let granted : Loading := { loading with
    allocated := segment.pageRange :: loading.allocated
    totalLoadedBytes := loading.totalLoadedBytes + segment.fileSize }
  have grantedInside : WritesInside before granted :=
    ⟨fun write member => List.mem_cons_of_mem _ (holds.owned write member), holds.inside,
      holds.unchanged⟩
  have copiedInside : WritesInside before (granted.write
      { segment, start := segment.paddr,
        bytes := Slice.bytesAt data segment.fileOffset segment.fileSize }) := by
    refine grantedInside.write List.mem_cons_self ⟨?_, ?_⟩
    · exact Nat.div_mul_le_self _ _
    · change segment.paddr + (Slice.bytesAt data segment.fileOffset segment.fileSize).length ≤
        segment.paddr / 0x1000 * 0x1000 + (segment.memSize + 0xFFF) / 0x1000 * 0x1000
      omega
  rw [Loading.loaded]
  split
  · refine copiedInside.write List.mem_cons_self ⟨?_, ?_⟩
    · change segment.paddr / 0x1000 * 0x1000 ≤ segment.paddr + segment.fileSize
      omega
    · change segment.paddr + segment.fileSize +
        (List.replicate (segment.memSize - segment.fileSize) (0 : UInt8)).length ≤
          segment.paddr / 0x1000 * 0x1000 + (segment.memSize + 0xFFF) / 0x1000 * 0x1000
      rw [List.length_replicate]
      omega
  · exact copiedInside

/-! ## The loop -/

section Loop

variable (firmware : Firmware) (data : List UInt8) (header : Elf64Header)

/-- The segments among the first so many entries. -/
def loadsBefore (i : Nat) : List LoadSegment := header.loadSegmentsFrom data i 0

def rangesBefore (i : Nat) : List PageRange :=
  ((loadsBefore data header i).map LoadSegment.pageRange).reverse

def totalBefore (i : Nat) : Nat := ((loadsBefore data header i).map LoadSegment.fileSize).sum

/-- The firmware allocates the pages of the segment, after those of the segments before. -/
def Granted (i : Nat) : Prop :=
  firmware.grants (rangesBefore data header i) (segmentOf data header i).pageRange = true

instance (i : Nat) : Decidable (Granted firmware data header i) :=
  inferInstanceAs (Decidable (_ = true))

/-- Nothing goes wrong with an entry: it is in the file as far as it is read, its size can be
rounded up, and if its pages are allocated, they can be filled. -/
structure EntryLoads (i : Nat) : Prop where
  inside : EntryInside data (header.base i)
  rounds : IsLoad data (header.base i) → (segmentOf data header i).memSize + 0xFFF < 2 ^ 64
  copies : IsLoad data (header.base i) → Granted firmware data header i →
    (segmentOf data header i).Copies data
  total : IsLoad data (header.base i) → Granted firmware data header i →
    totalBefore data header (i + 1) < 2 ^ 64

/-- What a loading keeps about the entries before one of them. -/
structure TracksEntries (i : Nat) (loading : Loading) : Prop where
  allocated : loading.allocated = rangesBefore data header i
  total : loading.totalLoadedBytes = totalBefore data header i

end Loop

variable {header : Elf64Header} {i : Nat}

theorem loadsBefore_succ (data : List UInt8) (header : Elf64Header) (i : Nat) :
    loadsBefore data header (i + 1) =
      if IsLoad data (header.base i) then loadsBefore data header i ++ [segmentOf data header i]
      else loadsBefore data header i := by
  rw [loadsBefore, Elf64Header.loadSegmentsFrom, List.range'_concat, List.filter_append,
    List.map_append, Nat.one_mul, Nat.zero_add]
  by_cases load : IsLoad data (header.base i)
  · rw [if_pos load, List.filter_cons_of_pos (by simpa using load)]
    rfl
  · rw [if_neg load, List.filter_cons_of_neg (by simpa using load), List.filter_nil, List.map_nil,
      List.append_nil]
    rfl

theorem rangesBefore_succ_of_load (load : IsLoad data (header.base i)) :
    rangesBefore data header (i + 1) =
      (segmentOf data header i).pageRange :: rangesBefore data header i := by
  rw [rangesBefore, loadsBefore_succ, if_pos load, List.map_append, List.reverse_append]
  rfl

theorem totalBefore_succ_of_load (load : IsLoad data (header.base i)) :
    totalBefore data header (i + 1) =
      totalBefore data header i + (segmentOf data header i).fileSize := by
  rw [totalBefore, loadsBefore_succ, if_pos load, List.map_append, List.sum_append, totalBefore]
  rfl

theorem TracksEntries.of_other (tracks : TracksEntries data header i loading)
    (other : ¬ IsLoad data (header.base i)) : TracksEntries data header (i + 1) loading := by
  have same : loadsBefore data header (i + 1) = loadsBefore data header i := by
    rw [loadsBefore_succ, if_neg other]
  constructor
  · rw [tracks.allocated, rangesBefore, rangesBefore, same]
  · rw [tracks.total, totalBefore, totalBefore, same]

theorem TracksEntries.loaded (tracks : TracksEntries data header i loading)
    (load : IsLoad data (header.base i)) :
    TracksEntries data header (i + 1) (loading.loaded data (segmentOf data header i)) := by
  constructor
  · rw [loaded_allocated, tracks.allocated, rangesBefore_succ_of_load load]
  · rw [loaded_total, tracks.total, totalBefore_succ_of_load load]

/-! ## One entry -/

/-- The loop, from an entry on. -/
abbrev loadFrom (firmware : Firmware) (data : List UInt8) (header : Elf64Header)
    (remaining i : Nat) : Loader Unit :=
  header.segments.forEach data "failed to parse kernel ELF header"
    (loadKernelSegment firmware data) remaining i

theorem loadFrom_succ_of_outside {remaining : Nat}
    (outside : ¬ EntryInside data (header.base i)) :
    loadFrom firmware data header (remaining + 1) i loading = .panic :=
  forEach_succ_of_outside outside

theorem loadFrom_succ_of_other {remaining : Nat} (inside : EntryInside data (header.base i))
    (other : ¬ IsLoad data (header.base i)) :
    loadFrom firmware data header (remaining + 1) i loading =
      loadFrom firmware data header remaining (i + 1) loading :=
  forEach_succ_of_other inside other

/-- What happens at the entry of a segment. -/
theorem loadFrom_succ_of_load {remaining : Nat} (inside : EntryInside data (header.base i))
    (load : IsLoad data (header.base i)) (tracks : TracksEntries data header i loading) :
    loadFrom firmware data header (remaining + 1) i loading =
      if (segmentOf data header i).memSize + 0xFFF < 2 ^ 64 then
        if Granted firmware data header i then
          if (segmentOf data header i).Copies data ∧
              totalBefore data header (i + 1) < 2 ^ 64 then
            loadFrom firmware data header remaining (i + 1)
              (loading.loaded data (segmentOf data header i))
          else .panic
        else .err "AllocatePages failed for a kernel PT_LOAD segment" loading
      else .panic := by
  rw [loadFrom, forEach_succ_of_load inside load, Exec.bind_run, loadKernelSegment_run, tracks.allocated, tracks.total,
    ← totalBefore_succ_of_load load]
  by_cases rounds : (segmentOf data header i).memSize + 0xFFF < 2 ^ 64
  swap
  · rw [if_neg rounds, if_neg rounds]
  rw [if_pos rounds, if_pos rounds]
  by_cases granted : firmware.grants (rangesBefore data header i)
      (segmentOf data header i).pageRange = true
  swap
  · have refused : ¬ Granted firmware data header i := granted
    rw [if_neg granted, if_neg refused]
  have allocated : Granted firmware data header i := granted
  rw [if_pos granted, if_pos allocated]
  by_cases fits : (segmentOf data header i).Copies data ∧ totalBefore data header (i + 1) < 2 ^ 64
  · rw [if_pos fits, if_pos fits]
  · rw [if_neg fits, if_neg fits]

/-! ## The run -/

/-- The entries that the loop comes to are the next one, and those it comes to from there. -/
theorem forall_reached_succ {passed holds : Nat → Prop} {i remaining : Nat} :
    (∀ j, i ≤ j → j < i + (remaining + 1) → (∀ k, i ≤ k → k < j → passed k) → holds j) ↔
      holds i ∧ (passed i → ∀ j, i + 1 ≤ j → j < i + 1 + remaining →
        (∀ k, i + 1 ≤ k → k < j → passed k) → holds j) := by
  constructor
  · intro all
    refine ⟨all i (Nat.le_refl i) (by omega) (by omega), fun here j lower upper before => ?_⟩
    refine all j (by omega) (by omega) fun k above below => ?_
    by_cases same : k = i
    · rw [same]
      exact here
    · exact before k (by omega) below
  · rintro ⟨here, rest⟩ j lower upper before
    by_cases same : j = i
    · rw [same]
      exact here
    · exact rest (before i (Nat.le_refl i) (by omega)) j (by omega) (by omega)
        fun k above below => before k (by omega) below

/-- The loop goes through without a panic exactly if nothing goes wrong with the entries it comes
to. -/
theorem loadFrom_returns_iff {remaining : Nat} (tracks : TracksEntries data header i loading) :
    loadFrom firmware data header remaining i loading ≠ .panic ↔
      ∀ j, i ≤ j → j < i + remaining →
        (∀ k, i ≤ k → k < j → IsLoad data (header.base k) → Granted firmware data header k) →
          EntryLoads firmware data header j := by
  induction remaining generalizing i loading with
  | zero =>
      apply iff_of_true
      · exact fun absurdity => nomatch absurdity
      · intro j lower upper
        omega
  | succ remaining ih =>
      rw [forall_reached_succ]
      by_cases inside : EntryInside data (header.base i)
      swap
      · rw [loadFrom_succ_of_outside inside]
        exact iff_of_false (fun returns => returns rfl) (fun both => inside both.1.inside)
      by_cases load : IsLoad data (header.base i)
      swap
      · have here : EntryLoads firmware data header i :=
          ⟨inside, fun isLoad => absurd isLoad load, fun isLoad => absurd isLoad load,
            fun isLoad => absurd isLoad load⟩
        rw [loadFrom_succ_of_other inside load, ih (tracks.of_other load),
          and_iff_right here]
        exact ⟨fun rest _ => rest, fun rest => rest fun isLoad => absurd isLoad load⟩
      rw [loadFrom_succ_of_load inside load tracks]
      by_cases rounds : (segmentOf data header i).memSize + 0xFFF < 2 ^ 64
      swap
      · rw [if_neg rounds]
        exact iff_of_false (fun returns => returns rfl) (fun both => rounds (both.1.rounds load))
      rw [if_pos rounds]
      by_cases granted : Granted firmware data header i
      swap
      · have here : EntryLoads firmware data header i :=
          ⟨inside, fun _ => rounds, fun _ yes => absurd yes granted,
            fun _ yes => absurd yes granted⟩
        rw [if_neg granted]
        exact iff_of_true (fun absurdity => nomatch absurdity)
          ⟨here, fun goes => absurd (goes load) granted⟩
      rw [if_pos granted]
      by_cases fits : (segmentOf data header i).Copies data ∧
          totalBefore data header (i + 1) < 2 ^ 64
      swap
      · rw [if_neg fits]
        exact iff_of_false (fun returns => returns rfl)
          (fun both => fits ⟨both.1.copies load granted, both.1.total load granted⟩)
      have here : EntryLoads firmware data header i :=
        ⟨inside, fun _ => rounds, fun _ _ => fits.1, fun _ _ => fits.2⟩
      rw [if_pos fits, ih (tracks.loaded load), and_iff_right here]
      exact ⟨fun rest _ => rest, fun rest => rest fun _ => granted⟩

/-- The loading before an entry: the segments of the entries before it are in memory. -/
structure LoadedBefore (before : ByteMemory) (data : List UInt8) (header : Elf64Header) (i : Nat)
    (loading : Loading) : Prop where
  tracks : TracksEntries data header i loading
  writes : WritesInside before loading
  contents : ∀ segment ∈ loadsBefore data header i, ∀ k < segment.memSize,
    loading.memory (segment.paddr + k) = segment.byteAt data k

theorem LoadedBefore.start (before : ByteMemory) (data : List UInt8) (header : Elf64Header) :
    LoadedBefore before data header 0 (.start before) where
  tracks := ⟨rfl, rfl⟩
  writes := .start before
  contents := fun _ absent => nomatch absent

theorem LoadedBefore.of_other (holds : LoadedBefore before data header i loading)
    (other : ¬ IsLoad data (header.base i)) : LoadedBefore before data header (i + 1) loading := by
  refine ⟨holds.tracks.of_other other, holds.writes, ?_⟩
  rw [loadsBefore_succ, if_neg other]
  exact holds.contents

theorem covers_of_lt {k : Nat} (inside : k < segment.memSize) :
    segment.pageRange.Covers (segment.paddr + k) := by
  refine ⟨Nat.le_add_right _ _, ?_⟩
  change segment.paddr + k < segment.paddr + (segment.memSize + 0xFFF) / 0x1000 * 0x1000
  omega

/-- New pages are none of the pages of an earlier segment, so that these stay as they are. -/
theorem LoadedBefore.loaded (holds : LoadedBefore before data header i loading)
    (load : IsLoad data (header.base i)) (granted : Granted firmware data header i)
    (copies : (segmentOf data header i).Copies data) :
    LoadedBefore before data header (i + 1) (loading.loaded data (segmentOf data header i)) := by
  refine ⟨holds.tracks.loaded load, holds.writes.loaded (firmware.aligned _ _ granted) copies, ?_⟩
  rw [loadsBefore_succ, if_pos load]
  intro segment member k inside
  rcases List.mem_append.1 member with earlier | new
  · rw [← holds.contents segment earlier k inside]
    apply loaded_memory_outside copies
    have allocated : segment.pageRange ∈ rangesBefore data header i :=
      List.mem_reverse.2 (List.mem_map_of_mem earlier)
    have apart := firmware.fresh _ _ granted segment.pageRange allocated (segment.paddr + k)
    by_contra overlap
    rw [not_or, Nat.not_lt, Nat.not_le] at overlap
    have place : segment.paddr + k =
        (segmentOf data header i).paddr + (segment.paddr + k - (segmentOf data header i).paddr) := by
      omega
    refine apart ⟨?_, covers_of_lt inside⟩
    rw [place]
    exact covers_of_lt (by omega)
  · rw [List.mem_singleton.1 new] at inside ⊢
    exact loaded_memory_inside copies inside

/-- What a run of the loop leaves behind. -/
theorem loadFrom_outcome {remaining : Nat} (holds : LoadedBefore before data header i loading) :
    (∀ value final, loadFrom firmware data header remaining i loading =
        .ok value final → LoadedBefore before data header (i + remaining) final) ∧
      ∀ error final, loadFrom firmware data header remaining i loading =
        .err error final → WritesInside before final := by
  induction remaining generalizing i loading with
  | zero =>
      constructor
      · intro value final ran
        obtain ⟨_, rfl⟩ := Outcome.ok.inj ran
        exact holds
      · intro error final ran
        cases ran
  | succ remaining ih =>
      have place : i + (remaining + 1) = i + 1 + remaining := by omega
      rw [place]
      by_cases inside : EntryInside data (header.base i)
      swap
      · rw [loadFrom_succ_of_outside inside]
        exact ⟨fun _ _ ran => (nomatch ran), fun _ _ ran => (nomatch ran)⟩
      by_cases load : IsLoad data (header.base i)
      swap
      · rw [loadFrom_succ_of_other inside load]
        exact ih (holds.of_other load)
      rw [loadFrom_succ_of_load inside load holds.tracks]
      split
      swap
      · exact ⟨fun _ _ ran => (nomatch ran), fun _ _ ran => (nomatch ran)⟩
      split
      · next granted =>
          split
          · next fits => exact ih (holds.loaded load granted fits.1)
          · exact ⟨fun _ _ ran => (nomatch ran), fun _ _ ran => (nomatch ran)⟩
      · refine ⟨fun _ _ ran => (nomatch ran), fun error final ran => ?_⟩
        obtain ⟨_, rfl⟩ := Outcome.err.inj ran
        exact holds.writes

/-! ## The boot loader -/

/-- The boot loader returns, and has written inside the pages of the segments only.  If it
returns the entry point, every segment is in memory. -/
structure LoadsSafely (firmware : Firmware) (machine : Nat) (before : ByteMemory)
    (data : List UInt8) : Prop where
  returns : loadKernelSegments firmware machine data (.start before) ≠ .panic
  inside : ∀ final, (loadKernelSegments firmware machine data (.start before)).state? = some final →
    WritesInside before final
  loaded : ∀ entry final,
    loadKernelSegments firmware machine data (.start before) = .ok entry final →
      entry = (Elf64Header.stored data).eEntry ∧
        ∀ segment ∈ (Elf64Header.stored data).loadSegments data, ∀ k < segment.memSize,
          final.memory (segment.paddr + k) = segment.byteAt data k

theorem loadsBefore_all (data : List UInt8) (header : Elf64Header) :
    loadsBefore data header (0 + header.ePhnum) = header.loadSegments data := by
  rw [Nat.zero_add, loadsBefore, loadSegmentsFrom_zero]

theorem forall_reached_zero {passed holds : Nat → Prop} {count : Nat} :
    (∀ j, 0 ≤ j → j < 0 + count → (∀ k, 0 ≤ k → k < j → passed k) → holds j) ↔
      ∀ i < count, (∀ j < i, passed j) → holds i := by
  rw [Nat.zero_add]
  constructor
  · exact fun all i inside passed => all i (Nat.zero_le i) inside fun k _ below => passed k below
  · exact fun all i _ inside passed => all i inside fun k below => passed k (Nat.zero_le k) below

/-- The boot loader loads safely exactly if, in a file whose header is accepted, nothing goes wrong
with the entries up to the first segment whose pages are refused. -/
theorem loads_safely_iff (firmware : Firmware) (machine : Nat) (before : ByteMemory)
    (data : List UInt8) :
    LoadsSafely firmware machine before data ↔
      (Accepted data machine → ∀ i < (Elf64Header.stored data).ePhnum,
        (∀ j < i, IsLoad data ((Elf64Header.stored data).base j) →
          Granted firmware data (.stored data) j) →
            EntryLoads firmware data (.stored data) i) := by
  by_cases accepted : Accepted data machine
  swap
  · have failed : loadKernelSegments firmware machine data (.start before) =
        .err "failed to parse kernel ELF header" (.start before) :=
      forEachSegment_of_refused accepted
    apply iff_of_true
    · constructor
      · rw [failed]
        exact fun absurdity => nomatch absurdity
      · rw [failed]
        intro final ended
        rw [← Option.some.inj ended]
        exact .start before
      · rw [failed]
        exact fun _ _ absurdity => nomatch absurdity
    · exact fun yes => absurd yes accepted
  have ran : loadKernelSegments firmware machine data (.start before) =
      (loadFrom firmware data (.stored data) (Elf64Header.stored data).ePhnum 0 >>= fun _ =>
        (pure (Elf64Header.stored data).eEntry : Loader Nat)) (.start before) :=
    forEachSegment_of_accepted accepted
  have start := LoadedBefore.start before data (.stored data)
  have panics := @loadFrom_returns_iff firmware data _ _ _ (Elf64Header.stored data).ePhnum
    start.tracks
  obtain ⟨loads, fails⟩ :=
    @loadFrom_outcome firmware data _ _ _ _ (Elf64Header.stored data).ePhnum start
  rw [forall_reached_zero] at panics
  constructor
  · intro safe _
    apply panics.1
    intro aborted
    apply safe.returns
    rw [ran, Exec.bind_run, aborted]
  · intro entries
    have returns := panics.2 (entries accepted)
    constructor
    · rw [ran]
      exact Exec.bind_pure_returns returns
    · intro final ended
      rw [ran] at ended
      rcases Exec.bind_state.1 ended with ⟨error, failed⟩ | ⟨value, later, went, same⟩
      · exact fails error final failed
      · rw [← Option.some.inj same]
        exact (loads value later went).writes
    · intro entry final ended
      rw [ran] at ended
      obtain ⟨value, later, went, same⟩ := Exec.bind_eq_ok.1 ended
      obtain ⟨rfl, rfl⟩ := Outcome.ok.inj same
      have contents := (loads value later went).contents
      rw [loadsBefore_all] at contents
      exact ⟨rfl, contents⟩

/-- A firmware that allocates once, any whole pages. -/
def oneAllocation : Firmware where
  grants := fun allocated range => allocated.isEmpty && range.base % 0x1000 == 0
  aligned := by
    intro allocated range granted
    rw [Bool.and_eq_true, beq_iff_eq] at granted
    exact granted.2
  fresh := by
    intro allocated range granted other member
    rw [Bool.and_eq_true, List.isEmpty_iff] at granted
    rw [granted.1] at member
    cases member

/-- A file header, and one segment of one byte, of which the file has two. -/
def tooMuchInFile : List UInt8 :=
  [0x7F, 0x45, 0x4C, 0x46, 2, 1, 1, 0, 0, 0, 0, 0, 0, 0, 0, 0,
    2, 0, 243, 0, 1, 0, 0, 0, 0, 0, 0, 0, 0, 0, 0, 0,
    64, 0, 0, 0, 0, 0, 0, 0, 0, 0, 0, 0, 0, 0, 0, 0,
    0, 0, 0, 0, 64, 0, 56, 0, 1, 0, 0, 0, 0, 0, 0, 0,
    1, 0, 0, 0, 5, 0, 0, 0, 0, 0, 0, 0, 0, 0, 0, 0,
    0, 0, 32, 0, 0, 0, 0, 0, 0, 0, 32, 0, 0, 0, 0, 0,
    2, 0, 0, 0, 0, 0, 0, 0, 1, 0, 0, 0, 0, 0, 0, 0,
    0, 16, 0, 0, 0, 0, 0, 0]

/-- The pages are allocated, and then the slice of the segment is too short. -/
theorem too_much_in_file_aborts :
    ¬ ∀ firmware machine before data, LoadsSafely firmware machine before data := by
  intro safe
  have aborts : (loadKernelSegments oneAllocation 243 tooMuchInFile
      (.start fun _ => 0)).state?.isNone = true := by
    decide +kernel
  apply (safe oneAllocation 243 (fun _ => 0) tooMuchInFile).returns
  cases ran : loadKernelSegments oneAllocation 243 tooMuchInFile (.start fun _ => 0) with
  | ok value final =>
      rw [ran] at aborts
      cases aborts
  | err error final =>
      rw [ran] at aborts
      cases aborts
  | panic => rfl

end Simurgh
