import Simurgh.Core.Boot
import Simurgh.Glue.SpawnElf

/-!
# The image of a new process

The segments and the stack are areas of pages.  An address belongs to the area that has been
mapped last among those with its page, and has the byte and the permissions of that area.
-/

namespace Simurgh

/-! ## Areas -/

/-- Pages next to each other, and what is in them. -/
structure Area where
  vaddr : Nat
  pages : Nat
  permBits : Nat
  content : Nat → UInt8

namespace Area

/-- Which of the pages has the number of the page of an address. -/
def pageOf (area : Area) (va : Nat) : Nat :=
  (Sv39.pageNumber va + 2 ^ 27 - Sv39.pageNumber area.vaddr) % 2 ^ 27

def Covers (area : Area) (va : Nat) : Prop := area.pageOf va < area.pages

instance (area : Area) (va : Nat) : Decidable (area.Covers va) :=
  inferInstanceAs (Decidable (_ < _))

def byteAt (area : Area) (va : Nat) : UInt8 := area.content (area.pageOf va * 4096 + va % 4096)

theorem pageOf_eq_iff {area : Area} {va k : Nat} (aligned : area.vaddr % 4096 = 0)
    (few : area.pages ≤ 2 ^ 27) (inside : k < area.pages) :
    Sv39.pageNumber (area.vaddr + k * 4096) = Sv39.pageNumber va ↔ area.pageOf va = k := by
  have page : (area.vaddr + k * 4096) / 4096 = area.vaddr / 4096 + k := by omega
  rw [pageOf, Sv39.pageNumber, Sv39.pageNumber, Sv39.pageNumber, page]
  omega

/-- An area has the pages from its first to its last address. -/
theorem pageOf_of_inside {area : Area} {va : Nat} (aligned : area.vaddr % 4096 = 0)
    (few : area.pages ≤ 2 ^ 27) (lower : area.vaddr ≤ va)
    (upper : va < area.vaddr + area.pages * 4096) :
    area.pageOf va = (va - area.vaddr) / 4096 := by
  apply (pageOf_eq_iff aligned few (by omega)).1
  rw [Sv39.pageNumber, Sv39.pageNumber]
  congr 1
  omega

theorem covers_of_inside {area : Area} {va : Nat} (aligned : area.vaddr % 4096 = 0)
    (few : area.pages ≤ 2 ^ 27) (lower : area.vaddr ≤ va)
    (upper : va < area.vaddr + area.pages * 4096) : area.Covers va := by
  rw [Covers, pageOf_of_inside aligned few lower upper]
  omega

/-- The pages of a segment.  Around the segment they are zero. -/
def ofSegment (data : List UInt8) (segment : LoadSegment) : Area where
  vaddr := segment.vaddr - segment.vaddr % 0x1000
  pages := (segment.memSize + segment.vaddr % 0x1000 + 0xFFF) / 4096
  permBits := segment.perm
  content offset :=
    if offset < segment.vaddr % 0x1000 then 0
    else segment.byteAt data (offset - segment.vaddr % 0x1000)

end Area

/-! ## What the callers expect -/

/-- At least what the flags of the segment say. -/
structure LoadSegment.Permits (segment : LoadSegment) (permissions : PagePermissions) : Prop where
  user : permissions.user = true
  readable : segment.flags &&& pfR ≠ 0 → permissions.readable = true
  writable : segment.flags &&& pfW ≠ 0 → permissions.writable = true
  executable : segment.flags &&& pfX ≠ 0 → permissions.userExecutable = true

/-- Not writable and executable at the same time. -/
def PagePermissions.Exclusive (permissions : PagePermissions) : Prop :=
  permissions.writable = true →
    permissions.userExecutable = false ∧ permissions.kernelExecutable = false

/-- The byte at a position of a segment is at its address. -/
def Spawning.HasByte (after : Spawning) (root : Nat) (data : List UInt8) (segment : LoadSegment)
    (i : Nat) : Prop :=
  ∃ phys permissions,
    Sv39.tables.translate after.tables root (segment.vaddr + i) = some (phys, permissions) ∧
      after.ram phys = segment.byteAt data i ∧
      segment.Permits permissions ∧ permissions.Exclusive

/-- The root of the tables of a thread. -/
def KernelState.rootOf (state : KernelState) (tid : ThreadId) : Option Nat := do
  let tcb ← state.tcb tid
  let space ← state.addrSpaces.get? tcb.addrSpace
  return space.rootPhys

namespace SpawnCall

variable (call : SpawnCall)

def segments : List LoadSegment :=
  (Elf64Header.stored call.elfBytes).loadSegments call.elfBytes

/-- The address space of the thread has every byte of every segment. -/
def Loads (after : Spawning) (tid : ThreadId) : Prop :=
  ∃ root, after.kernel.rootOf tid = some root ∧
    ∀ segment ∈ call.segments, ∀ i < segment.memSize,
      after.HasByte root call.elfBytes segment i

end SpawnCall

/-! ## What the loader arranges -/

/-- The end of what has been handed out of the first region. -/
def Spawning.free (spawning : Spawning) : Option Nat :=
  (spawning.kernel.untyped.get? 0).map fun region => region.base + region.watermark

/-- The first region is below the addresses that Sv39 cannot map to themselves. -/
def Spawning.Addressable (spawning : Spawning) : Prop :=
  ∀ region, spawning.kernel.untyped.get? 0 = some region →
    region.base + region.sizeBytes ≤ 2 ^ 38

/-- The frames of the stack are behind those of the root and the pool. -/
def Spawning.stackPhys (before : Spawning) : Nat :=
  EarlyFormat.alignDown (before.free.getD 0 + 0xFFF) + 4096 * 3 + 4096 * poolPages

namespace SpawnCall

variable (call : SpawnCall)

/-- The stack is not cleared. -/
def stackArea (before : Spawning) : Area where
  vaddr := call.stackVma.toNat
  pages := (call.stackLen.toNat + 0xFFF) % 2 ^ 64 / 4096
  permBits := 1 ||| 2 ||| 8
  content offset := before.ram (before.stackPhys + offset)

/-- The areas, from the last one that is mapped to the first. -/
def areas (before : Spawning) : List Area :=
  call.stackArea before :: (call.segments.map (Area.ofSegment call.elfBytes)).reverse

/-- The area that is mapped last over a byte of a segment has this byte there, and permissions
that Sv39 can express and that are right for the segment. -/
def Keeps (before : Spawning) (segment : LoadSegment) (i : Nat) : Prop :=
  ∃ area,
    (call.areas before).find? (fun area => area.Covers (segment.vaddr + i)) = some area ∧
      area.byteAt (segment.vaddr + i) = segment.byteAt call.elfBytes i ∧
      Sv39.tables.grants area.permBits = true ∧
      segment.Permits (requestedPermissions area.permBits) ∧
      (requestedPermissions area.permBits).Exclusive

/-- All bytes of the segments have addresses, and no area that is mapped later takes them away. -/
def Loadable (before : Spawning) : Prop :=
  ∀ segment ∈ call.segments, ∀ i < segment.memSize,
    Sv39.tables.canonical (segment.vaddr + i) = true ∧ call.Keeps before segment i

end SpawnCall

/-! ## Frames -/

/-- Frames that have been taken for something, and nothing else in the state has changed. -/
structure Spawning.Carved (before : Spawning) (bytes start : Nat) (after : Spawning) :
    Prop where
  place : ∃ free, before.free = some free ∧ start = EarlyFormat.alignDown (free + 0xFFF)
  free : after.free = some (start + bytes)
  inside : start + bytes ≤ 2 ^ 38
  addressable : after.Addressable
  ram : after.ram = before.ram
  tables : after.tables = before.tables
  used : after.used = before.used

theorem SpawnM.onKernel_eq_ok {α : Type} {program : Exec KernelState SyscallError α} {value : α}
    {before after : Spawning} :
    SpawnM.onKernel program before = .ok value after ↔
      ∃ kernel, program before.kernel = .ok value kernel ∧ { before with kernel } = after :=
  Exec.zoom_eq_ok

theorem SpawnM.carve_ok {bytes start : Nat} {before after : Spawning}
    (addressable : before.Addressable) (ran : SpawnM.carve bytes before = .ok start after) :
    before.Carved bytes start after := by
  obtain ⟨kernel, inner, rfl⟩ := SpawnM.onKernel_eq_ok.1 ran
  rw [KernelState.onUntyped, KernelState.onObject, Exec.get_bind_run] at inner
  obtain ⟨region, _, found, inner⟩ := Exec.bind_eq_ok.1 inner
  obtain ⟨present, rfl⟩ := Exec.okOr_eq_ok.1 found
  obtain ⟨later, allocated, rfl⟩ := Exec.zoom_eq_ok.1 inner
  obtain ⟨rfl, lower, upper, ⟨pages, whole⟩, inside⟩ := UntypedMemory.alloc_ok allocated
  have below := addressable region present
  have page : pageSize = 4096 := rfl
  rw [page] at upper whole
  have there : (before.kernel.untyped.put 0
      { region with watermark := start + bytes - region.base }).get? 0 =
        some { region with watermark := start + bytes - region.base } := by
    rw [Slab.get?_put_of_some present]
    exact if_pos rfl
  constructor
  · refine ⟨region.base + region.watermark, ?_, ?_⟩
    · rw [Spawning.free, present]
      rfl
    · rw [EarlyFormat.alignDown]
      omega
  · change Option.map _ ((before.kernel.untyped.put 0 _).get? 0) = _
    rw [there]
    change some (region.base + (start + bytes - region.base)) = _
    congr 1
    omega
  · omega
  · intro other found
    change (before.kernel.untyped.put 0 _).get? 0 = _ at found
    rw [there] at found
    obtain rfl := Option.some.inj found
    exact below
  · rfl
  · rfl
  · rfl

/-! ## Areas with their frames -/

/-- An area, and its first frame. -/
structure PlacedArea where
  area : Area
  base : Nat

def PlacedArea.stop (placed : PlacedArea) : Nat := placed.base + placed.area.pages * 4096

/-- What there is of a process after some of the steps. -/
structure Arranged (place : SpawnTables) (held mapped : List PlacedArea) (spawning : Spawning) :
    Prop where
  addressable : spawning.Addressable
  below : ∃ free, spawning.free = some free ∧ free ≤ 2 ^ 38 ∧ ∀ placed ∈ held, placed.stop ≤ free
  contents : ∀ placed ∈ held, ∀ offset < placed.area.pages * 4096,
    spawning.ram (placed.base + offset) = placed.area.content offset
  next : ∀ args : MapArgs, args.rootFrame = place.rootPt →
    args.poolBase = place.pool + spawning.used * 4096 →
      args.poolLen = poolPages - spawning.used → Sv39.tables.Prepared args spawning.tables
  mappings : ∀ va placed, mapped.find? (fun placed => placed.area.Covers va) = some placed →
    Sv39.pageAt spawning.tables place.rootPt va =
      Sv39.leafEntry (placed.base + placed.area.pageOf va * 4096) placed.area.permBits

variable {checks : Bool} {place : SpawnTables} {held mapped : List PlacedArea}
  {placed : PlacedArea} {spawning after : Spawning}

theorem SpawnTables.step_ok {vaddr paddr len perm : Nat}
    (ran : place.step checks vaddr paddr len perm spawning = .ok () after) :
    ∃ n tables,
      Sv39.mapRange (place.args spawning.used vaddr paddr len perm) spawning.tables =
        (n, tables) ∧ n ≠ u32Max ∧
      after = { spawning with tables, used := spawning.used + n } := by
  rw [SpawnTables.step, Exec.get_bind_run] at ran
  rcases mapped : Sv39.mapRange (place.args spawning.used vaddr paddr len perm)
    spawning.tables with ⟨n, tables⟩
  rw [mapped] at ran
  dsimp only at ran
  rw [Exec.modify_bind_run] at ran
  obtain ⟨_, _, guarded, ran⟩ := Exec.bind_eq_ok.1 ran
  obtain ⟨succeeded, rfl⟩ := Exec.guard_eq_ok.1 guarded
  obtain ⟨_, _, ensured, ran⟩ := Exec.bind_eq_ok.1 ran
  obtain ⟨_, rfl⟩ := Exec.ensure_eq_ok.1 ensured
  obtain ⟨_, rfl⟩ := Outcome.ok.inj ran
  refine ⟨n, tables, rfl, ?_, rfl⟩
  rintro rfl
  cases succeeded

/-- A step that succeeds maps the area, over whatever has been there. -/
theorem Arranged.step (arranged : Arranged place held mapped spawning) (member : placed ∈ held)
    (ran : place.step checks placed.area.vaddr placed.base (placed.area.pages * 4096)
      placed.area.permBits spawning = .ok () after) :
    Arranged place held (placed :: mapped) after ∧ placed.area.vaddr % 4096 = 0 := by
  obtain ⟨n, tables, called, succeeded, rfl⟩ := SpawnTables.step_ok ran
  obtain ⟨free, stands, low, below⟩ := arranged.below
  have stop : placed.base + placed.area.pages * 4096 ≤ free := below placed member
  have maps := Sv39.mapRange_pages (arranged.next _ rfl rfl rfl)
    (show placed.area.pages * 4096 ≤ 2 ^ 38 by omega)
    (show placed.base + placed.area.pages * 4096 ≤ 2 ^ 56 by omega) called succeeded
  have aligned : placed.area.vaddr % 4096 = 0 := maps.aligned.1
  have few : placed.area.pages ≤ 2 ^ 27 := by omega
  have pages : placed.area.pages * 4096 / 4096 = placed.area.pages :=
    Nat.mul_div_cancel _ (by decide)
  refine ⟨?_, aligned⟩
  constructor
  · exact arranged.addressable
  · exact ⟨free, stands, low, below⟩
  · exact arranged.contents
  · intro args root base length
    apply maps.next args root
    · rw [base]
      change place.pool + (spawning.used + n) * 4096 = place.pool + spawning.used * 4096 + n * 4096
      omega
    · rw [length]
      change poolPages - (spawning.used + n) = poolPages - spawning.used - n
      omega
  · intro va last found
    by_cases covers : placed.area.Covers va
    · rw [List.find?_cons_of_pos (by simpa using covers)] at found
      obtain rfl := Option.some.inj found
      apply maps.inside va _
      · change placed.area.pageOf va < placed.area.pages * 4096 / 4096
        rw [pages]
        exact covers
      · exact (Area.pageOf_eq_iff aligned few covers).2 rfl
    · rw [List.find?_cons_of_neg (by simpa using covers)] at found
      rw [← arranged.mappings va last found]
      apply maps.outside va
      intro k inside same
      change k < placed.area.pages * 4096 / 4096 at inside
      rw [pages] at inside
      have page := (Area.pageOf_eq_iff aligned few inside).1 same
      rw [Area.Covers, page] at covers
      exact covers inside

/-- Bytes in frames that have just been taken. -/
theorem Arranged.hold {bytes : Nat} (arranged : Arranged place held mapped spawning)
    (carved : spawning.Carved bytes placed.base after) (size : placed.area.pages * 4096 ≤ bytes)
    {ram : ByteMemory}
    (same : ∀ addr < placed.base, ram addr = after.ram addr)
    (contents : ∀ offset < placed.area.pages * 4096,
      ram (placed.base + offset) = placed.area.content offset) :
    Arranged place (placed :: held) mapped { after with ram } := by
  obtain ⟨free, stands, low, below⟩ := arranged.below
  obtain ⟨former, former_stands, start⟩ := carved.place
  obtain rfl : free = former := Option.some.inj (stands.symm.trans former_stands)
  have behind : free ≤ placed.base := by
    rw [start, EarlyFormat.alignDown]
    omega
  constructor
  · exact carved.addressable
  · refine ⟨_, carved.free, carved.inside, ?_⟩
    intro other member
    rcases List.mem_cons.1 member with rfl | older
    · rw [PlacedArea.stop]
      omega
    · have stop := below other older
      omega
  · intro other member offset inside
    rcases List.mem_cons.1 member with rfl | older
    · exact contents offset inside
    · have stop : other.base + other.area.pages * 4096 ≤ free := below other older
      change ram (other.base + offset) = _
      rw [same _ (by omega), carved.ram, arranged.contents other older offset inside]
  · change ∀ args : MapArgs, _ → args.poolBase = place.pool + after.used * 4096 →
      args.poolLen = poolPages - after.used → Sv39.tables.Prepared args after.tables
    rw [carved.used, carved.tables]
    exact arranged.next
  · change ∀ va placed, _ → Sv39.pageAt after.tables place.rootPt va = _
    rw [carved.tables]
    exact arranged.mappings

/-! ## Sums -/

theorem SpawnM.add_of_fits {left right : Nat} (fits : left + right < 2 ^ 64) :
    SpawnM.add checks left right = pure (left + right) := by
  rw [SpawnM.add, EarlyFormat.addU64, if_pos fits]
  rfl

theorem SpawnM.round4k_of_fits {n : Nat} (fits : n + 0xFFF < 2 ^ 64) :
    SpawnM.round4k checks n = pure ((n + 0xFFF) / 4096 * 4096) := by
  rw [SpawnM.round4k, SpawnM.add_of_fits fits]
  rfl

theorem SpawnM.add_eq_ok {left right sum : Nat}
    (ran : SpawnM.add checks left right spawning = .ok sum after) :
    sum = (left + right) % 2 ^ 64 ∧ after = spawning := by
  rw [SpawnM.add] at ran
  obtain ⟨added, rfl⟩ := Exec.expect_eq_ok.1 ran
  refine ⟨?_, rfl⟩
  rw [EarlyFormat.addU64] at added
  split at added
  · next below =>
      rw [Nat.mod_eq_of_lt below]
      exact (Option.some.inj added).symm
  · split at added
    · cases added
    · exact (Option.some.inj added).symm

theorem SpawnM.round4k_eq_ok {n size : Nat}
    (ran : SpawnM.round4k checks n spawning = .ok size after) :
    size = (n + 0xFFF) % 2 ^ 64 / 4096 * 4096 ∧ after = spawning := by
  rw [SpawnM.round4k] at ran
  obtain ⟨sum, _, added, ran⟩ := Exec.bind_eq_ok.1 ran
  obtain ⟨rfl, rfl⟩ := Outcome.ok.inj ran
  obtain ⟨same, rfl⟩ := SpawnM.add_eq_ok added
  rw [← same]
  exact ⟨rfl, rfl⟩

/-! ## The segments -/

section Segments

variable {data : List UInt8} {segment : LoadSegment}

/-- The frames of a segment, zeroed and written. -/
def LoadSegment.fill (segment : LoadSegment) (data : List UInt8) (base : Nat) (ram : ByteMemory) :
    ByteMemory :=
  (ram.write base
      (List.replicate ((Area.ofSegment data segment).pages * 4096) 0)).write
    (base + segment.vaddr % 0x1000)
    (Slice.bytesAt data segment.fileOffset segment.fileSize)

theorem fill_below {base addr : Nat} (ram : ByteMemory) (below : addr < base) :
    segment.fill data base ram addr = ram addr := by
  rw [LoadSegment.fill, ByteMemory.write_of_lt _ (by omega), ByteMemory.write_of_lt _ below]

theorem fill_inside (copies : segment.Copies data) (base : Nat) (ram : ByteMemory) {offset : Nat}
    (inside : offset < (Area.ofSegment data segment).pages * 4096) :
    segment.fill data base ram (base + offset) =
      (Area.ofSegment data segment).content offset := by
  have length := length_bytesAt copies
  have zero : ram.write base
      (List.replicate ((Area.ofSegment data segment).pages * 4096) 0) (base + offset) = 0 := by
    have here := @ByteMemory.write_of_mem ram base offset
      (List.replicate ((Area.ofSegment data segment).pages * 4096) 0)
      (by rw [List.length_replicate]; exact inside)
    rw [List.getElem?_replicate, if_pos inside] at here
    exact Option.some.inj here
  change _ = if offset < segment.vaddr % 0x1000 then 0
    else segment.byteAt data (offset - segment.vaddr % 0x1000)
  rw [LoadSegment.fill]
  by_cases before : offset < segment.vaddr % 0x1000
  · rw [if_pos before, ByteMemory.write_of_lt _ (by omega), zero]
  · rw [if_neg before]
    by_cases fromFile : offset - segment.vaddr % 0x1000 < segment.fileSize
    · have place : base + offset =
          base + segment.vaddr % 0x1000 + (offset - segment.vaddr % 0x1000) := by omega
      rw [place]
      exact write_bytesAt copies _ _ fromFile
    · rw [LoadSegment.byteAt, if_neg fromFile, ByteMemory.write_of_le (by omega), zero]

/-- The sums of the sizes of a segment. -/
def LoadSegment.Fits (segment : LoadSegment) : Prop :=
  segment.memSize + segment.vaddr % 0x1000 + 0xFFF < 2 ^ 64

/-- An iteration that succeeds maps nothing, or frames that it has just filled. -/
theorem SpawnTables.loadSegment_ok (fits : segment.Fits)
    (ran : place.loadSegment checks data segment spawning = .ok () after) :
    ((Area.ofSegment data segment).pages = 0 ∧ after = spawning) ∨
      segment.Copies data ∧ ∃ base carved,
        SpawnM.carve ((Area.ofSegment data segment).pages * 4096) spawning = .ok base carved ∧
          place.step checks (Area.ofSegment data segment).vaddr base
              ((Area.ofSegment data segment).pages * 4096)
              (Area.ofSegment data segment).permBits
            { carved with ram := segment.fill data base carved.ram } = .ok () after := by
  have sum : segment.memSize + segment.vaddr % 0x1000 < 2 ^ 64 := by
    rw [LoadSegment.Fits] at fits
    omega
  rw [SpawnTables.loadSegment, SpawnM.add_of_fits sum, Exec.pure_bind_run,
    SpawnM.round4k_of_fits fits, Exec.pure_bind_run] at ran
  change (if (Area.ofSegment data segment).pages * 4096 = 0 then _ else _ : SpawnM Unit) spawning =
    _ at ran
  by_cases empty : (Area.ofSegment data segment).pages * 4096 = 0
  · rw [if_pos empty] at ran
    obtain ⟨_, rfl⟩ := Outcome.ok.inj ran
    exact Or.inl ⟨by omega, rfl⟩
  · rw [if_neg empty] at ran
    obtain ⟨fileEnd, _, summed, ran⟩ := Exec.bind_eq_ok.1 ran
    obtain ⟨sum, rfl⟩ := Exec.okOr_eq_ok.1 summed
    obtain ⟨word, rfl⟩ := checkedAdd_eq_some.1 sum
    obtain ⟨_, _, guarded, ran⟩ := Exec.bind_eq_ok.1 ran
    obtain ⟨holds, rfl⟩ := Exec.guard_eq_ok.1 guarded
    obtain ⟨inMemory, inFile⟩ := of_decide_eq_true holds
    obtain ⟨base, carved, taken, ran⟩ := Exec.bind_eq_ok.1 ran
    rw [Exec.modify_bind_run] at ran
    exact Or.inr ⟨⟨word, inFile, inMemory⟩, base, carved, taken, ran⟩

/-- An area without pages needs no frames. -/
theorem Arranged.empty (arranged : Arranged place held mapped spawning)
    (empty : placed.area.pages = 0) (base : placed.base = 0) :
    Arranged place (placed :: held) (placed :: mapped) spawning := by
  obtain ⟨free, stands, low, below⟩ := arranged.below
  constructor
  · exact arranged.addressable
  · refine ⟨free, stands, low, ?_⟩
    intro other member
    rcases List.mem_cons.1 member with rfl | older
    · rw [PlacedArea.stop, empty, base]
      exact Nat.zero_le _
    · exact below other older
  · intro other member offset inside
    rcases List.mem_cons.1 member with rfl | older
    · rw [empty, Nat.zero_mul] at inside
      exact absurd inside (Nat.not_lt_zero _)
    · exact arranged.contents other older offset inside
  · exact arranged.next
  · intro va last found
    have uncovered : ¬ placed.area.Covers va := by
      rw [Area.Covers, empty]
      exact Nat.not_lt_zero _
    rw [List.find?_cons_of_neg (by simpa using uncovered)] at found
    exact arranged.mappings va last found

theorem Arranged.loadSegment (fits : segment.Fits)
    (arranged : Arranged place held mapped spawning)
    (ran : place.loadSegment checks data segment spawning = .ok () after) :
    ∃ placed : PlacedArea, placed.area = Area.ofSegment data segment ∧
      Arranged place (placed :: held) (placed :: mapped) after := by
  rcases SpawnTables.loadSegment_ok fits ran with ⟨empty, rfl⟩ | ⟨copies, base, carved, taken, ran⟩
  · exact ⟨⟨Area.ofSegment data segment, 0⟩, rfl, arranged.empty empty rfl⟩
  · refine ⟨⟨Area.ofSegment data segment, base⟩, rfl, ?_⟩
    have holds : Arranged place (⟨Area.ofSegment data segment, base⟩ :: held) mapped
        { carved with ram := segment.fill data base carved.ram } :=
      arranged.hold (SpawnM.carve_ok arranged.addressable taken) (Nat.le_refl _)
        (fun addr below => fill_below carved.ram below)
        (fun offset inside => fill_inside copies base carved.ram inside)
    exact (holds.step List.mem_cons_self ran).1

/-- The loop places the segments one after another. -/
theorem Arranged.forEach {header : Elf64Header} {remaining i : Nat}
    (fits : ∀ segment ∈ header.loadSegmentsFrom data remaining i, segment.Fits)
    (arranged : Arranged place held mapped spawning)
    (ran : header.segments.forEach data () (place.loadSegment checks data) remaining i spawning =
      .ok () after) :
    ∃ more : List PlacedArea,
      more.map PlacedArea.area =
        ((header.loadSegmentsFrom data remaining i).map (Area.ofSegment data)).reverse ∧
      Arranged place (more ++ held) (more ++ mapped) after := by
  induction remaining generalizing i spawning held mapped with
  | zero =>
      obtain ⟨_, rfl⟩ := Outcome.ok.inj ran
      exact ⟨[], rfl, arranged⟩
  | succ remaining ih =>
      by_cases inside : EntryInside data (header.base i)
      swap
      · rw [forEach_succ_of_outside inside] at ran
        cases ran
      rw [loadSegmentsFrom_succ] at fits ⊢
      by_cases load : IsLoad data (header.base i)
      · rw [forEach_succ_of_load inside load] at ran
        rw [if_pos load] at fits ⊢
        obtain ⟨_, later, first, ran⟩ := Exec.bind_eq_ok.1 ran
        obtain ⟨placed, area, arranged⟩ :=
          arranged.loadSegment (fits _ List.mem_cons_self) first
        obtain ⟨more, areas, arranged⟩ := ih
          (fun segment member => fits segment (List.mem_cons_of_mem _ member)) arranged ran
        refine ⟨more ++ [placed], ?_, ?_⟩
        · rw [List.map_append, areas, List.map_singleton, area]
          exact List.reverse_cons.symm
        · rw [List.append_assoc, List.append_assoc]
          exact arranged
      · rw [forEach_succ_of_other inside load] at ran
        rw [if_neg load] at fits ⊢
        exact ih fits arranged ran

end Segments

/-! ## The tables at the start -/

section Start

variable {bytesGib : Nat} {mem : TableMemory}

/-- The entries of the root are large pages or empty. -/
theorem SpawnTables.start_root (aligned : place.rootPt % 4096 = 0) (i : Fin 512) :
    Sv39.tables.reading.next ((place.start bytesGib mem).store (place.rootPt / 4096) i) = none := by
  have inside := i.isLt
  have slot : 4096 * (place.rootPt / 4096) + 8 * i.val = place.rootPt + 8 * i.val := by omega
  have gib : (place.rootPt + 8 * i.val - place.rootPt) / 8 = i.val := by omega
  rw [TableMemory.store, slot, SpawnTables.start, Sv39.mapRamIdentity,
    if_pos ⟨Nat.le_add_right _ _, by omega⟩]
  simp only [gib]
  by_cases low : i.val < bytesGib
  · rw [if_pos low]
    obtain ⟨present, block, _⟩ := Sv39.format_gib i.val inside false
    change (if Sv39.format.present _ && !Sv39.format.block _ then _ else none) = none
    rw [present, block]
    rfl
  · rw [if_neg low]
    exact (TableFormat.next_of_absent Sv39.tables_lawful.zero).1

/-- Below the root there are no tables yet. -/
theorem SpawnTables.follow_start (aligned : place.rootPt % 4096 = 0) {path : List (Fin 512)}
    {frame : Nat}
    (there : RadixTree.follow Sv39.tables.reading (place.start bytesGib mem).store path
      (place.rootPt / 4096) = some frame) : path = [] ∧ frame = place.rootPt / 4096 := by
  cases path with
  | nil => exact ⟨rfl, (Option.some.inj there).symm⟩
  | cons i rest =>
      rw [RadixTree.follow, SpawnTables.start_root aligned] at there
      cases there

theorem SpawnTables.prepared_start (rootAligned : place.rootPt % 4096 = 0)
    (poolAligned : place.pool % 4096 = 0) (apart : place.rootPt + 4096 ≤ place.pool)
    (within : place.pool + poolPages * 4096 ≤ 2 ^ 38) {args : MapArgs}
    (root : args.rootFrame = place.rootPt) (base : args.poolBase = place.pool)
    (length : args.poolLen = poolPages) :
    Sv39.tables.Prepared args (place.start bytesGib mem) := by
  have pages : poolPages = 32 := rfl
  rw [pages] at within length
  have only : ∀ frame, Sv39.tables.Node (place.start bytesGib mem) args.rootFrame frame →
      frame = place.rootPt / 4096 := by
    rintro frame ⟨path, _, there⟩
    rw [root] at there
    exact (SpawnTables.follow_start rootAligned there).2
  constructor
  · constructor
    · rw [root]
      exact rootAligned
    · intro p q table _ _ left right
      rw [root] at left right
      rw [(SpawnTables.follow_start rootAligned left).1,
        (SpawnTables.follow_start rootAligned right).1]
    · rfl
    · intro frame node
      have same := only frame node
      change 4096 * frame + 4096 ≤ 2 ^ 56
      omega
  · rw [base]
    exact poolAligned
  · change args.poolBase + args.poolLen * 4096 ≤ 2 ^ 56
    omega
  · intro k inside i
    have small := i.isLt
    rw [length] at inside
    have slot : 4096 * args.poolFrame k + 8 * i.val = place.pool + k * 4096 + 8 * i.val := by
      rw [MapArgs.poolFrame, base]
      omega
    rw [TableMemory.store, slot, SpawnTables.start, Sv39.mapRamIdentity, if_neg (by omega), pages]
    apply if_pos
    omega
  · intro k _ node
    have same := only _ node
    rw [MapArgs.poolFrame, base] at same
    omega

/-- The stack has its frames before anything is mapped. -/
theorem Arranged.start {stack : PlacedArea} (addressable : spawning.Addressable)
    (rootAligned : place.rootPt % 4096 = 0) (poolAligned : place.pool % 4096 = 0)
    (apart : place.rootPt + 4096 ≤ place.pool) (within : place.pool + poolPages * 4096 ≤ 2 ^ 38)
    (below : ∃ free, spawning.free = some free ∧ free ≤ 2 ^ 38 ∧ stack.stop ≤ free)
    (contents : ∀ offset, spawning.ram (stack.base + offset) = stack.area.content offset) :
    Arranged place [stack] []
      { spawning with tables := place.start bytesGib mem, used := 0 } := by
  obtain ⟨free, stands, low, stop⟩ := below
  constructor
  · exact addressable
  · refine ⟨free, stands, low, ?_⟩
    intro other member
    rw [List.mem_singleton.1 member]
    exact stop
  · intro other member offset _
    rw [List.mem_singleton.1 member]
    exact contents offset
  · intro args root base length
    rw [Nat.zero_mul, Nat.add_zero] at base
    exact SpawnTables.prepared_start rootAligned poolAligned apart within root base length
  · intro va last found
    cases found

end Start

/-! ## The thread -/

/-- An object that is made is there. -/
theorem KernelState.allocIn_okOr_eq_ok {ε α : Type} {n id : Nat} {table : KernelState → Slab α n}
    {store : Slab α n → KernelState → KernelState} {make : Nat → α} {error : ε}
    {before after : KernelState}
    (ran : ((allocIn table store make : Exec KernelState ε (Option Nat)) >>= Exec.okOr error)
      before = .ok id after) :
    ∃ objects, (table before).insert make = some (id, objects) ∧ after = store objects before ∧
      objects.get? id = some (make id) := by
  obtain ⟨created, middle, allocated, found⟩ := Exec.bind_eq_ok.1 ran
  obtain ⟨rfl, rfl⟩ := Exec.okOr_eq_ok.1 found
  rcases allocIn_eq_ok allocated with ⟨absurdity, _⟩ | ⟨other, objects, same, inserted, stored⟩
  · cases absurdity
  · obtain rfl := Option.some.inj same
    refine ⟨objects, inserted, stored, ?_⟩
    rw [Slab.get?_of_insert inserted, if_pos rfl]

/-- The thread runs in the address space with the given root. -/
theorem SpawnCall.makeThread_ok {call : SpawnCall} {rootPt entry : Nat} {tid : ThreadId}
    {capSpace : CapSpaceId}
    (ran : call.makeThread checks rootPt entry spawning = .ok (tid, capSpace) after) :
    after.kernel.rootOf tid = some rootPt ∧ after.ram = spawning.ram ∧
      after.tables = spawning.tables := by
  rw [SpawnCall.makeThread] at ran
  obtain ⟨addrSpace, _, onFirst, ran⟩ := Exec.bind_eq_ok.1 ran
  obtain ⟨withSpace, made, rfl⟩ := SpawnM.onKernel_eq_ok.1 onFirst
  obtain ⟨spaces, _, rfl, space⟩ := KernelState.allocIn_okOr_eq_ok made
  obtain ⟨_, _, onSecond, ran⟩ := Exec.bind_eq_ok.1 ran
  obtain ⟨withCaps, made, rfl⟩ := SpawnM.onKernel_eq_ok.1 onSecond
  obtain ⟨caps, _, rfl, _⟩ := KernelState.allocIn_okOr_eq_ok made
  obtain ⟨fresh, _, onThird, ran⟩ := Exec.bind_eq_ok.1 ran
  obtain ⟨withTcb, made, rfl⟩ := SpawnM.onKernel_eq_ok.1 onThird
  obtain ⟨tcbs, _, rfl, thread⟩ := KernelState.allocIn_okOr_eq_ok made
  obtain ⟨top, _, added, ran⟩ := Exec.bind_eq_ok.1 ran
  obtain ⟨_, rfl⟩ := SpawnM.add_eq_ok added
  obtain ⟨_, _, onLast, ran⟩ := Exec.bind_eq_ok.1 ran
  obtain ⟨final, started, rfl⟩ := SpawnM.onKernel_eq_ok.1 onLast
  obtain ⟨same, rfl⟩ := Outcome.ok.inj ran
  obtain ⟨rfl, rfl⟩ := Prod.mk.inj same
  rw [KernelState.initUserThread, KernelState.admitThread_run] at started
  obtain ⟨_, rfl⟩ := Outcome.ok.inj started
  refine ⟨?_, rfl, rfl⟩
  have root : ∀ (update : Tcb → Tcb) (state : KernelState) (sched : KScheduler) (tcb : Tcb),
      state.tcb fresh = some tcb → (update tcb).addrSpace = addrSpace →
        state.addrSpaces.get? addrSpace = some (.new rootPt) →
          ({ state.updateTcb fresh update with sched } : KernelState).rootOf fresh = some rootPt := by
    intro update state sched tcb present kept there
    have updated : (state.updateTcb fresh update).tcb fresh = some (update tcb) := by
      rw [KernelState.tcb_updateTcb, if_pos rfl, present]
      rfl
    change (((state.updateTcb fresh update).tcb fresh).bind fun tcb =>
      ((state.updateTcb fresh update).addrSpaces.get? tcb.addrSpace).bind _) = _
    rw [updated, Option.bind_some, kept, KernelState.updateTcb_frame]
    change (state.addrSpaces.get? addrSpace).bind _ = _
    rw [there]
    rfl
  exact root _ _ _ _ thread rfl space

/-! ## The process -/

section Process

variable {call : SpawnCall} {before : Spawning} {tid : ThreadId} {capSpace : CapSpaceId}
  {stackPhys : Nat}

/-- How things stand when the thread is made. -/
structure SpawnCall.Arranges (call : SpawnCall) (before : Spawning) (place : SpawnTables)
    (held mapped : List PlacedArea) (spawning : Spawning) : Prop where
  arranged : Arranged place held mapped spawning
  holds : ∀ placed ∈ mapped, placed ∈ held
  areas : mapped.map PlacedArea.area = call.areas before
  stack : call.stackVma.toNat % 4096 = 0

/-- The tables and the stack are carved one after another. -/
theorem SpawnCall.arranged_of_carved {rootPt pool stackSize stackBase : Nat}
    {first second third : Spawning} (root : before.Carved (4096 * 3) rootPt first)
    (frames : first.Carved (4096 * poolPages) pool second)
    (stack : second.Carved stackSize stackBase third)
    (size : stackSize = (call.stackLen.toNat + 0xFFF) % 2 ^ 64 / 4096 * 4096) :
    Arranged ⟨rootPt, pool⟩ [⟨call.stackArea before, stackBase⟩] []
      { third with
        tables := (SpawnTables.mk rootPt pool).start call.bytesGib third.tables, used := 0 } := by
  have pages : poolPages = 32 := rfl
  obtain ⟨free, free_eq, rootPt_eq⟩ := root.place
  obtain ⟨_, free_root, pool_eq⟩ := frames.place
  obtain rfl := Option.some.inj (root.free.symm.trans free_root)
  obtain ⟨_, free_pool, stack_eq⟩ := stack.place
  obtain rfl := Option.some.inj (frames.free.symm.trans free_pool)
  rw [EarlyFormat.alignDown] at rootPt_eq pool_eq stack_eq
  rw [pages] at stack_eq
  apply Arranged.start stack.addressable
  · change rootPt % 4096 = 0
    omega
  · change pool % 4096 = 0
    omega
  · change rootPt + 4096 ≤ pool
    omega
  · have inside := frames.inside
    change pool + poolPages * 4096 ≤ 2 ^ 38
    rw [pages] at inside ⊢
    omega
  · refine ⟨_, stack.free, stack.inside, ?_⟩
    change stackBase + (call.stackLen.toNat + 0xFFF) % 2 ^ 64 / 4096 * 4096 ≤ _
    rw [size]
  · intro offset
    have base : before.stackPhys = stackBase := by
      rw [Spawning.stackPhys, free_eq, pages, EarlyFormat.alignDown, Option.getD_some]
      omega
    change third.ram (stackBase + offset) = before.ram (before.stackPhys + offset)
    rw [stack.ram, frames.ram, root.ram, base]

theorem SpawnCall.spawn_ok (addressable : before.Addressable)
    (fits : ∀ segment ∈ call.segments, segment.Fits)
    (ran : spawnProcessFromElf checks call before = .ok (tid, capSpace, stackPhys) after) :
    ∃ place held mapped spawning, call.Arranges before place held mapped spawning ∧
      after.kernel.rootOf tid = some place.rootPt ∧ after.ram = spawning.ram ∧
      after.tables = spawning.tables := by
  rw [spawnProcessFromElf] at ran
  obtain ⟨⟨entry, segments⟩, _, parsed, afterParse⟩ := Exec.bind_eq_ok.1 ran
  rcases parseAndCollect_cases call.elfBytes call.expectedMachine with
    ⟨_, accepts⟩ | ⟨_, error, refuses⟩
  swap
  · rw [ElfReader.within, refuses] at parsed
    cases parsed
  rw [ElfReader.within, accepts] at parsed
  obtain ⟨same, rfl⟩ := Outcome.ok.inj parsed
  obtain ⟨rfl, rfl⟩ := Prod.mk.inj same
  obtain ⟨rootPt, first, tookRoot, afterRoot⟩ := Exec.bind_eq_ok.1 afterParse
  obtain ⟨pool, second, tookPool, afterPool⟩ := Exec.bind_eq_ok.1 afterRoot
  obtain ⟨stackSize, _, rounded, afterSize⟩ := Exec.bind_eq_ok.1 afterPool
  obtain ⟨size, rfl⟩ := SpawnM.round4k_eq_ok rounded
  obtain ⟨stackBase, third, tookStack, afterStack⟩ := Exec.bind_eq_ok.1 afterSize
  dsimp only at afterStack
  rw [Exec.modify_bind_run] at afterStack
  obtain ⟨_, fourth, looped, afterLoop⟩ := Exec.bind_eq_ok.1 afterStack
  obtain ⟨_, fifth, stepped, afterStep⟩ := Exec.bind_eq_ok.1 afterLoop
  obtain ⟨thread, _, made, last⟩ := Exec.bind_eq_ok.1 afterStep
  obtain ⟨same, rfl⟩ := Outcome.ok.inj last
  rw [Prod.mk.injEq, Prod.mk.injEq] at same
  obtain ⟨rfl, rfl, rfl⟩ := same
  have root := SpawnM.carve_ok addressable tookRoot
  have frames := SpawnM.carve_ok root.addressable tookPool
  have stack := SpawnM.carve_ok frames.addressable tookStack
  have begins := SpawnCall.arranged_of_carved root frames stack size
  have whole : (Elf64Header.stored call.elfBytes).loadSegmentsFrom call.elfBytes
      (Elf64Header.stored call.elfBytes).segments.phCount 0 = call.segments :=
    loadSegmentsFrom_zero _ _
  obtain ⟨more, areas, looping⟩ := begins.forEach (by rw [whole]; exact fits) looped
  rw [size] at stepped
  obtain ⟨ends, aligned⟩ := looping.step
    (List.mem_append_right more (List.mem_singleton_self _)) stepped
  refine ⟨⟨rootPt, pool⟩, _, _, fifth, ⟨ends, ?_, ?_, aligned⟩, SpawnCall.makeThread_ok made⟩
  · intro placed member
    rcases List.mem_cons.1 member with rfl | older
    · exact List.mem_append_right more (List.mem_singleton_self _)
    · rw [List.append_nil] at older
      exact List.mem_append_left _ older
  · rw [List.map_cons, List.append_nil, areas, whole]
    rfl

variable {segment : LoadSegment} {place : SpawnTables} {held mapped : List PlacedArea}

theorem Sv39.canonical_iff {va : Nat} :
    Sv39.tables.canonical va = true ↔ va < 2 ^ 38 ∨ (2 ^ 64 - 2 ^ 38 ≤ va ∧ va < 2 ^ 64) := by
  change decide (va / 2 ^ 38 = 0 ∨ va / 2 ^ 38 = 2 ^ 26 - 1) = true ↔ _
  rw [decide_eq_true_iff]
  omega

/-- The addresses of a segment do not reach over the hole. -/
theorem LoadSegment.memSize_le
    (canonical : ∀ i < segment.memSize, Sv39.tables.canonical (segment.vaddr + i) = true) :
    segment.memSize ≤ 2 ^ 38 := by
  by_contra long
  rcases Sv39.canonical_iff.1 (canonical 0 (by omega)) with low | high
  · have beyond := Sv39.canonical_iff.1 (canonical (2 ^ 38 - segment.vaddr) (by omega))
    omega
  · have beyond := Sv39.canonical_iff.1 (canonical (2 ^ 64 - segment.vaddr) (by omega))
    omega

theorem LoadSegment.fits_of_le (short : segment.memSize ≤ 2 ^ 38) : segment.Fits := by
  rw [LoadSegment.Fits]
  omega

/-- An address of a segment is in one of the areas. -/
theorem SpawnCall.Arranges.found (arranges : call.Arranges before place held mapped spawning)
    (member : segment ∈ call.segments) (short : segment.memSize ≤ 2 ^ 38) {i : Nat}
    (inside : i < segment.memSize) :
    ∃ placed, mapped.find? (fun placed => placed.area.Covers (segment.vaddr + i)) = some placed ∧
      (call.areas before).find? (fun area => area.Covers (segment.vaddr + i)) =
        some placed.area := by
  have same : (call.areas before).find? (fun area => area.Covers (segment.vaddr + i)) =
      (mapped.find? (fun placed => placed.area.Covers (segment.vaddr + i))).map PlacedArea.area := by
    rw [← arranges.areas, List.find?_map]
    rfl
  have own : Area.ofSegment call.elfBytes segment ∈ call.areas before :=
    List.mem_cons_of_mem _ (List.mem_reverse.2 (List.mem_map_of_mem member))
  have covers : (Area.ofSegment call.elfBytes segment).Covers (segment.vaddr + i) := by
    apply Area.covers_of_inside
    · change (segment.vaddr - segment.vaddr % 0x1000) % 4096 = 0
      omega
    · change (segment.memSize + segment.vaddr % 0x1000 + 0xFFF) / 4096 ≤ 2 ^ 27
      omega
    · change segment.vaddr - segment.vaddr % 0x1000 ≤ segment.vaddr + i
      omega
    · change segment.vaddr + i < segment.vaddr - segment.vaddr % 0x1000 +
        (segment.memSize + segment.vaddr % 0x1000 + 0xFFF) / 4096 * 4096
      omega
  have some : ((call.areas before).find?
      (fun area => area.Covers (segment.vaddr + i))).isSome = true :=
    List.find?_isSome.2 ⟨_, own, decide_eq_true covers⟩
  rw [same, Option.isSome_map, Option.isSome_iff_exists] at some
  obtain ⟨placed, found⟩ := some
  rw [same, found]
  exact ⟨placed, rfl, rfl⟩

/-- A byte is where it should be exactly if the last area over it keeps it. -/
theorem SpawnCall.Arranges.hasByte_iff
    (arranges : call.Arranges before place held mapped spawning)
    (member : segment ∈ call.segments) (short : segment.memSize ≤ 2 ^ 38) {i : Nat}
    (inside : i < segment.memSize)
    (canonical : Sv39.tables.canonical (segment.vaddr + i) = true) :
    spawning.HasByte place.rootPt call.elfBytes segment i ↔ call.Keeps before segment i := by
  obtain ⟨placed, found, areaFound⟩ := arranges.found member short inside
  have covers : placed.area.Covers (segment.vaddr + i) := by
    simpa using List.find?_some found
  have within : placed.area.pageOf (segment.vaddr + i) * 4096 + (segment.vaddr + i) % 4096 <
      placed.area.pages * 4096 := by
    rw [Area.Covers] at covers
    omega
  have content := arranges.arranged.contents placed
    (arranges.holds placed (List.mem_of_find?_eq_some found)) _ within
  rw [← Nat.add_assoc] at content
  rw [Spawning.HasByte, SpawnCall.Keeps, Sv39.translate_eq, if_pos canonical,
    arranges.arranged.mappings _ placed found, Sv39.leafEntry, areaFound]
  by_cases grants : Sv39.tables.grants placed.area.permBits = true
  · rw [if_pos grants, Option.map_some, Nat.pow_zero, Nat.mul_one]
    constructor
    · rintro ⟨phys, permissions, same, byte, permits, exclusive⟩
      obtain ⟨rfl, rfl⟩ := Prod.mk.inj (Option.some.inj same)
      rw [content] at byte
      exact ⟨placed.area, rfl, byte, grants, permits, exclusive⟩
    · rintro ⟨area, same, byte, _, permits, exclusive⟩
      obtain rfl := Option.some.inj same
      exact ⟨_, _, rfl, content.trans byte, permits, exclusive⟩
  · rw [if_neg grants, Option.map_none]
    constructor
    · rintro ⟨_, _, absurdity, _⟩
      cases absurdity
    · rintro ⟨area, same, _, granted, _⟩
      obtain rfl := Option.some.inj same
      exact absurd granted grants

/-- A process that has been spawned has every byte of its image exactly if no byte is lost to an
area that is mapped after its own. -/
theorem spawned_image_loads_iff (addressable : before.Addressable)
    (ran : spawnProcessFromElf checks call before = .ok (tid, capSpace, stackPhys) after) :
    call.Loads after tid ↔ call.Loadable before := by
  by_cases canonical : ∀ segment ∈ call.segments, ∀ i < segment.memSize,
      Sv39.tables.canonical (segment.vaddr + i) = true
  · have short : ∀ segment ∈ call.segments, segment.memSize ≤ 2 ^ 38 :=
      fun segment member => LoadSegment.memSize_le (canonical segment member)
    obtain ⟨place, held, mapped, spawning, arranges, root, ram, tables⟩ :=
      SpawnCall.spawn_ok addressable
        (fun segment member => LoadSegment.fits_of_le (short segment member)) ran
    have byte : ∀ segment ∈ call.segments, ∀ i < segment.memSize,
        (after.HasByte place.rootPt call.elfBytes segment i ↔ call.Keeps before segment i) := by
      intro segment member i inside
      rw [← arranges.hasByte_iff member (short segment member) inside
        (canonical segment member i inside), Spawning.HasByte, Spawning.HasByte, ram, tables]
    constructor
    · rintro ⟨other, found, loads⟩ segment member i inside
      obtain rfl := Option.some.inj (root.symm.trans found)
      exact ⟨canonical segment member i inside,
        (byte segment member i inside).1 (loads segment member i inside)⟩
    · intro loadable
      exact ⟨place.rootPt, root, fun segment member i inside =>
        (byte segment member i inside).2 (loadable segment member i inside).2⟩
  · constructor
    · rintro ⟨root, _, loads⟩
      apply absurd _ canonical
      intro segment member i inside
      obtain ⟨phys, permissions, translated, _⟩ := loads segment member i inside
      rw [Sv39.translate_eq] at translated
      by_contra other
      rw [if_neg other] at translated
      cases translated
    · intro loadable
      exact absurd (fun segment member i inside => (loadable segment member i inside).1) canonical

/-- The ranges of the segments and of the stack have no address in common. -/
def SpawnCall.Apart (call : SpawnCall) : Prop :=
  call.segments.Pairwise
      (fun s t => s.vaddr + s.memSize ≤ t.vaddr ∨ t.vaddr + t.memSize ≤ s.vaddr) ∧
    ∀ segment ∈ call.segments, segment.vaddr + segment.memSize ≤ call.stackVma.toNat ∨
      call.stackVma.toNat + call.stackLen.toNat ≤ segment.vaddr

instance (call : SpawnCall) : Decidable call.Apart :=
  inferInstanceAs (Decidable (_ ∧ _))

/-- What a thread reads at an address. -/
def Spawning.byteOf (spawning : Spawning) (tid : ThreadId) (va : Nat) : Option UInt8 := do
  let root ← spawning.kernel.rootOf tid
  let (phys, _) ← Sv39.tables.translate spawning.tables root va
  return spawning.ram phys

theorem SpawnCall.Loads.byteOf (loads : call.Loads after tid) (member : segment ∈ call.segments)
    {i : Nat} (inside : i < segment.memSize) :
    after.byteOf tid (segment.vaddr + i) = some (segment.byteAt call.elfBytes i) := by
  obtain ⟨root, found, loads⟩ := loads
  obtain ⟨phys, permissions, translated, byte, _⟩ := loads segment member i inside
  change (after.kernel.rootOf tid).bind _ = _
  rw [found, Option.bind_some]
  change (Sv39.tables.translate after.tables root (segment.vaddr + i)).bind _ = _
  rw [translated, ← byte]
  rfl

end Process

/-- Four bytes of code, and two bytes of data behind them in the same page. -/
def sharedPageFile : List UInt8 :=
  [0x7F, 0x45, 0x4C, 0x46, 2, 1, 1, 0, 0, 0, 0, 0, 0, 0, 0, 0,
    2, 0, 243, 0, 1, 0, 0, 0, 0, 0, 0, 0xC0, 0, 0, 0, 0,
    64, 0, 0, 0, 0, 0, 0, 0, 0, 0, 0, 0, 0, 0, 0, 0,
    0, 0, 0, 0, 64, 0, 56, 0, 2, 0, 0, 0, 0, 0, 0, 0,
    1, 0, 0, 0, 5, 0, 0, 0, 0, 0, 0, 0, 0, 0, 0, 0,
    0, 0, 0, 0xC0, 0, 0, 0, 0, 0, 0, 0, 0xC0, 0, 0, 0, 0,
    4, 0, 0, 0, 0, 0, 0, 0, 4, 0, 0, 0, 0, 0, 0, 0,
    0, 16, 0, 0, 0, 0, 0, 0,
    1, 0, 0, 0, 6, 0, 0, 0, 0, 0, 0, 0, 0, 0, 0, 0,
    16, 0, 0, 0xC0, 0, 0, 0, 0, 16, 0, 0, 0xC0, 0, 0, 0, 0,
    2, 0, 0, 0, 0, 0, 0, 0, 2, 0, 0, 0, 0, 0, 0, 0,
    0, 16, 0, 0, 0, 0, 0, 0]

def sharedPageCall : SpawnCall where
  elfBytes := sharedPageFile
  expectedMachine := 243
  stackVma := 0xC0100000
  stackLen := 0x1000
  bytesGib := 3
  nowNs := 0

/-- A kernel with one region of memory. -/
def oneRegion : Spawning where
  kernel := { KernelState.empty with
    untyped := KernelState.empty.untyped.put 0 (.new 0x80000000 0x100000) }
  ram := fun _ => 0
  tables := fun _ => 0
  used := 0

theorem oneRegion_addressable : oneRegion.Addressable := by
  intro region found
  have there : oneRegion.kernel.untyped.get? 0 = some (.new 0x80000000 0x100000) := by
    decide +kernel
  obtain rfl := Option.some.inj (there.symm.trans found)
  decide

theorem sharedPageCall_value :
    (spawnProcessFromElf true sharedPageCall oneRegion).value? = some (0, 0, 0x80023000) := by
  decide +kernel

/-- The page of the data takes the place of the page with the code. -/
theorem shared_page_loses_code :
    sharedPageCall.Apart ∧
      ∃ after, spawnProcessFromElf true sharedPageCall oneRegion = .ok (0, 0, 0x80023000) after ∧
        ¬ sharedPageCall.Loads after 0 := by
  have zero : (spawnProcessFromElf true sharedPageCall oneRegion).state?.bind
      (fun after => after.byteOf 0 0xC0000000) = some 0 := by
    decide +kernel
  obtain ⟨after, ran⟩ := Outcome.eq_ok_of_value? sharedPageCall_value
  refine ⟨by decide +kernel, after, ran, ?_⟩
  intro loads
  rw [ran] at zero
  have code : LoadSegment.stored sharedPageFile 64 ∈ sharedPageCall.segments := by
    decide +kernel
  have first := loads.byteOf code (show 0 < (LoadSegment.stored sharedPageFile 64).memSize by
    decide +kernel)
  have byte : (LoadSegment.stored sharedPageFile 64).byteAt sharedPageFile 0 = 0x7F := by
    decide +kernel
  have place : (LoadSegment.stored sharedPageFile 64).vaddr + 0 = 0xC0000000 := by
    decide +kernel
  change _ = some ((LoadSegment.stored sharedPageFile 64).byteAt sharedPageFile 0) at first
  rw [byte, place] at first
  exact absurd (zero.symm.trans first) (by decide)

theorem shared_page_spawns :
    ∃ after, spawnProcessFromElf true sharedPageCall oneRegion = .ok (0, 0, 0x80023000) after ∧
      (sharedPageCall.Loads after 0 ↔ sharedPageCall.Loadable oneRegion) := by
  obtain ⟨after, ran⟩ := Outcome.eq_ok_of_value? sharedPageCall_value
  exact ⟨after, ran, spawned_image_loads_iff oneRegion_addressable ran⟩

end Simurgh
