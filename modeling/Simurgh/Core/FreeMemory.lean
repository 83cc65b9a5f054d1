import Simurgh.Core.Memory
import Simurgh.Core.Run

/-!
# Free memory at boot

Which addresses the untyped objects hold that the kernel starts with.  The sweep
between the holes loses nothing and takes nothing that a hole covers; the rest follows
the fragments into the table of untyped objects.
-/

namespace Simurgh

/-! ## The sweep -/

/-- The half-open interval contains the address. -/
def Holds (interval : Nat × Nat) (addr : Nat) : Prop :=
  interval.1 ≤ addr ∧ addr < interval.2

/-- No address of the interval is in a hole. -/
def HoleFree (holes : List (Nat × Nat)) (interval : Nat × Nat) : Prop :=
  ∀ hole ∈ holes, ∀ addr, Holds interval addr → ¬ Holds hole addr

/-- Nonempty holes below `stop`, sorted by where they start. -/
structure Swept (stop : Nat) (holes : List (Nat × Nat)) : Prop where
  sorted : holes.Pairwise fun first second => first.1 ≤ second.1
  nonempty : ∀ hole ∈ holes, hole.1 < hole.2
  below : ∀ hole ∈ holes, hole.2 ≤ stop

namespace Swept

variable {stop cur : Nat} {hole : Nat × Nat} {holes : List (Nat × Nat)}

theorem tail (swept : Swept stop (hole :: holes)) : Swept stop holes where
  sorted := (List.pairwise_cons.1 swept.sorted).2
  nonempty other member := swept.nonempty other (List.mem_cons_of_mem _ member)
  below other member := swept.below other (List.mem_cons_of_mem _ member)

/-- A gap lies in the swept range, and beside every hole. -/
theorem gap_spec (swept : Swept stop holes) {gap : Nat × Nat}
    (member : gap ∈ gaps stop cur holes) :
    cur ≤ gap.1 ∧ gap.1 < gap.2 ∧ gap.2 ≤ stop ∧
      ∀ hole ∈ holes, gap.2 ≤ hole.1 ∨ hole.2 ≤ gap.1 := by
  induction holes generalizing cur with
  | nil =>
      unfold gaps at member
      split at member
      · next more =>
          obtain rfl := List.mem_singleton.1 member
          exact ⟨Nat.le_refl cur, more, Nat.le_refl stop, by simp⟩
      · cases member
  | cons hole rest ih =>
      have first := List.pairwise_cons.1 swept.sorted
      have nonempty := swept.nonempty hole (List.mem_cons_self ..)
      have below := swept.below hole (List.mem_cons_self ..)
      have later : gap ∈ gaps stop (max cur hole.2) rest →
          cur ≤ gap.1 ∧ gap.1 < gap.2 ∧ gap.2 ≤ stop ∧
            ∀ other ∈ hole :: rest, gap.2 ≤ other.1 ∨ other.2 ≤ gap.1 := by
        intro inside
        obtain ⟨starts, more, stops, beside⟩ := ih swept.tail inside
        refine ⟨by omega, more, stops, fun other among => ?_⟩
        rcases List.mem_cons.1 among with rfl | among
        · exact Or.inr (by omega)
        · exact beside other among
      unfold gaps at member
      simp only at member
      split at member
      · next before =>
          rcases List.mem_cons.1 member with rfl | inside
          · refine ⟨Nat.le_refl cur, before, by omega, fun other among => Or.inl ?_⟩
            rcases List.mem_cons.1 among with rfl | among
            · exact Nat.le_refl _
            · exact first.1 other among
          · exact later inside
      · exact later member

/-- The gaps follow each other. -/
theorem gaps_pairwise (swept : Swept stop holes) :
    (gaps stop cur holes).Pairwise fun first second => first.2 ≤ second.1 := by
  induction holes generalizing cur with
  | nil =>
      unfold gaps
      split
      · exact List.pairwise_singleton ..
      · exact .nil
  | cons hole rest ih =>
      have nonempty := swept.nonempty hole (List.mem_cons_self ..)
      unfold gaps
      simp only
      split
      · refine List.pairwise_cons.2 ⟨fun gap inside => ?_, ih swept.tail⟩
        have starts := (gap_spec swept.tail inside).1
        omega
      · exact ih swept.tail

/-- An interval without holes is part of one gap. -/
theorem exists_gap (swept : Swept stop holes) {interval : Nat × Nat}
    (nonempty : interval.1 < interval.2) (starts : cur ≤ interval.1)
    (stops : interval.2 ≤ stop) (free : HoleFree holes interval) :
    ∃ gap ∈ gaps stop cur holes, gap.1 ≤ interval.1 ∧ interval.2 ≤ gap.2 := by
  induction holes generalizing cur with
  | nil =>
      have more : cur < stop := by omega
      refine ⟨(cur, stop), ?_, starts, stops⟩
      unfold gaps
      rw [if_pos more]
      exact List.mem_singleton_self _
  | cons hole rest ih =>
      have filled := swept.nonempty hole (List.mem_cons_self ..)
      have beside : interval.2 ≤ hole.1 ∨ hole.2 ≤ interval.1 := by
        by_contra meets
        refine free hole (List.mem_cons_self ..) (max interval.1 hole.1) ?_ ?_
        · exact ⟨by omega, by omega⟩
        · exact ⟨by omega, by omega⟩
      unfold gaps
      simp only
      rcases beside with before | behind
      · have more : cur < hole.1 := by omega
        rw [if_pos more]
        exact ⟨(cur, hole.1), List.mem_cons_self .., starts, before⟩
      · have free' : HoleFree rest interval := fun other among =>
          free other (List.mem_cons_of_mem _ among)
        have later : max cur hole.2 ≤ interval.1 := Nat.max_le.2 ⟨starts, behind⟩
        obtain ⟨gap, inside, contains⟩ := ih swept.tail later free'
        refine ⟨gap, ?_, contains⟩
        split
        · exact List.mem_cons_of_mem _ inside
        · exact inside

end Swept

/-! ## Sorting the holes -/

theorem mem_insertHole {hole other : Nat × Nat} {sorted : List (Nat × Nat)} :
    other ∈ insertHole hole sorted ↔ other = hole ∨ other ∈ sorted := by
  induction sorted with
  | nil => simp [insertHole]
  | cons first rest ih =>
      unfold insertHole
      split
      · exact List.mem_cons
      · rw [List.mem_cons, ih, List.mem_cons]
        constructor
        · rintro (here | here | there)
          · exact Or.inr (Or.inl here)
          · exact Or.inl here
          · exact Or.inr (Or.inr there)
        · rintro (here | here | there)
          · exact Or.inr (Or.inl here)
          · exact Or.inl here
          · exact Or.inr (Or.inr there)

theorem insertHole_sorted {hole : Nat × Nat} {sorted : List (Nat × Nat)}
    (pairwise : sorted.Pairwise fun first second => first.1 ≤ second.1) :
    (insertHole hole sorted).Pairwise fun first second => first.1 ≤ second.1 := by
  induction sorted with
  | nil => exact List.pairwise_singleton ..
  | cons first rest ih =>
      have ordered := List.pairwise_cons.1 pairwise
      unfold insertHole
      split
      · next less =>
          refine List.pairwise_cons.2 ⟨fun other among => ?_, pairwise⟩
          rcases List.mem_cons.1 among with rfl | among
          · exact Nat.le_of_lt less
          · exact Nat.le_trans (Nat.le_of_lt less) (ordered.1 other among)
      · next more =>
          refine List.pairwise_cons.2 ⟨fun other among => ?_, ih ordered.2⟩
          rcases mem_insertHole.1 among with rfl | among
          · exact Nat.le_of_not_lt more
          · exact ordered.1 other among

/-- The sorted holes are those that meet the range, clamped to it. -/
theorem mem_sortHoles {start stop : Nat} {holes : List (Nat × Nat)} {clamped : Nat × Nat} :
    clamped ∈ sortHoles start stop holes ↔
      ∃ hole ∈ holes, clamped = (max hole.1 start, min hole.2 stop) ∧
        clamped.1 < clamped.2 := by
  have general : ∀ sorted : List (Nat × Nat),
      clamped ∈ holes.foldl
        (fun sorted hole =>
          let clamped := (max hole.1 start, min hole.2 stop)
          if clamped.2 ≤ clamped.1 then sorted else insertHole clamped sorted) sorted ↔
      clamped ∈ sorted ∨ ∃ hole ∈ holes, clamped = (max hole.1 start, min hole.2 stop) ∧
        clamped.1 < clamped.2 := by
    induction holes with
    | nil => simp
    | cons hole rest ih =>
        intro sorted
        rw [List.foldl_cons, ih, List.exists_mem_cons_iff]
        simp only
        split
        · next empty =>
            have skipped : ¬ (clamped = (max hole.1 start, min hole.2 stop) ∧
                clamped.1 < clamped.2) := by
              rintro ⟨rfl, more⟩
              exact Nat.not_lt.2 empty more
            rw [or_iff_right (a := clamped = _ ∧ _) skipped]
        · next more =>
            rw [mem_insertHole]
            have kept : clamped = (max hole.1 start, min hole.2 stop) ↔
                clamped = (max hole.1 start, min hole.2 stop) ∧ clamped.1 < clamped.2 := by
              constructor
              · rintro rfl
                exact ⟨rfl, Nat.lt_of_not_le more⟩
              · exact And.left
            rw [← kept, or_assoc, or_left_comm]
  rw [sortHoles, general]
  simp

theorem sortHoles_swept (start stop : Nat) (holes : List (Nat × Nat)) :
    Swept stop (sortHoles start stop holes) where
  sorted := by
    unfold sortHoles
    have general : ∀ sorted : List (Nat × Nat),
        (sorted.Pairwise fun first second => first.1 ≤ second.1) →
        (holes.foldl
          (fun sorted hole =>
            let clamped := (max hole.1 start, min hole.2 stop)
            if clamped.2 ≤ clamped.1 then sorted else insertHole clamped sorted)
          sorted).Pairwise fun first second => first.1 ≤ second.1 := by
      induction holes with
      | nil => exact fun _ pairwise => pairwise
      | cons hole rest ih =>
          intro sorted pairwise
          rw [List.foldl_cons]
          refine ih _ ?_
          simp only
          split
          · exact pairwise
          · exact insertHole_sorted pairwise
    exact general [] .nil
  nonempty clamped member := by
    obtain ⟨_, _, _, more⟩ := mem_sortHoles.1 member
    exact more
  below clamped member := by
    obtain ⟨hole, _, same, _⟩ := mem_sortHoles.1 member
    rw [same]
    exact Nat.min_le_right ..

/-! ## The parts of a region -/

section Subtract

variable {start stop : Nat} {holes : List (Nat × Nat)}

/-- A part lies in the range and no hole covers any of it. -/
theorem subtractHoles_spec {part : Nat × Nat} (member : part ∈ subtractHoles start stop holes) :
    start ≤ part.1 ∧ part.1 < part.2 ∧ part.2 ≤ stop ∧ HoleFree holes part := by
  obtain ⟨starts, more, stops, beside⟩ :=
    (sortHoles_swept start stop holes).gap_spec member
  refine ⟨starts, more, stops, fun hole among addr inPart inHole => ?_⟩
  have clampedIn : ((max hole.1 start, min hole.2 stop) : Nat × Nat) ∈
      sortHoles start stop holes := by
    refine mem_sortHoles.2 ⟨hole, among, rfl, ?_⟩
    have inside := inPart
    unfold Holds at inside inHole
    simp only
    omega
  have apart := beside _ clampedIn
  unfold Holds at inPart inHole
  simp only at apart
  omega

theorem subtractHoles_pairwise :
    (subtractHoles start stop holes).Pairwise fun first second => first.2 ≤ second.1 :=
  (sortHoles_swept start stop holes).gaps_pairwise

/-- A part of the range without holes is in one of the parts. -/
theorem exists_part {interval : Nat × Nat} (nonempty : interval.1 < interval.2)
    (starts : start ≤ interval.1) (stops : interval.2 ≤ stop)
    (free : HoleFree holes interval) :
    ∃ part ∈ subtractHoles start stop holes, part.1 ≤ interval.1 ∧ interval.2 ≤ part.2 := by
  refine (sortHoles_swept start stop holes).exists_gap nonempty starts stops ?_
  intro clamped member addr inside inClamped
  obtain ⟨hole, among, same, _⟩ := mem_sortHoles.1 member
  refine free hole among addr inside ?_
  rw [same] at inClamped
  unfold Holds at *
  simp only at inClamped
  omega

end Subtract

/-! ## The table of untyped objects -/

namespace KernelState

variable {before after : KernelState}

/-- The object that a fragment becomes. -/
def untypedOf (fragment : Nat × Nat) : UntypedMemory :=
  .new fragment.1 (fragment.2 - fragment.1)

/-- The fragments `done` have become untyped objects, each with a capability. -/
structure Seeding (space : CapSpaceId) (done : List (Nat × Nat)) (state : KernelState) :
    Prop where
  untyped : state.untyped.FilledBy untypedOf done
  table : ∃ table, state.capSpaces.get? space = some table ∧ table.Wf ∧
    table.occupied = done.length

/-- There is room for a capability as long as there are fewer than slots. -/
theorem Seeding.insertRootCap {space : CapSpaceId} {done : List (Nat × Nat)}
    {fragment : Nat × Nat} {object : ObjectRef} {inserted : Option CapId}
    (ran : KernelState.insertRootCap space object before = .ok inserted after)
    (untyped : before.untyped.FilledBy untypedOf (done ++ [fragment]))
    (table : ∃ table, before.capSpaces.get? space = some table ∧ table.Wf ∧
      table.occupied = done.length) :
    inserted.isSome ∧ Seeding space (done ++ [fragment]) after := by
  obtain ⟨table, present, wf, occupied⟩ := table
  have bound := untyped.length_le
  rw [List.length_append, List.length_singleton] at bound
  have room : capSlotsPerSpace - table.occupied ≠ 0 := by
    have fewer : maxUntyped < capSlotsPerSpace := by decide
    omega
  rcases CapTable.insertRoot_run wf (.full object) with ⟨head, _⟩ | ⟨id, head, stored⟩
  · exact absurd (wf.freeHead_eq_none_iff.1 head) room
  · have inside : space < maxCapSpaces := Slab.lt_of_get? present
    have exact : KernelState.insertRootCap space object before =
        .ok (some id)
          { before with
            capSpaces := before.capSpaces.put space (table.occupy id (.full object) none) } := by
      unfold KernelState.insertRootCap Exec.asOption Exec.zoom
      rw [CapTables.onTable_of_ok present stored]
    rw [exact, Outcome.ok.injEq] at ran
    obtain ⟨rfl, rfl⟩ := ran
    refine ⟨rfl, untyped, _, Slab.get?_put_self inside _, wf.occupy head _ none, ?_⟩
    rw [List.length_append, List.length_singleton, ← occupied]
    rfl

/-- The fragments become objects in order, until there is no room for another. -/
theorem Seeding.seedUntyped {space : CapSpaceId} {done fragments : List (Nat × Nat)}
    {made total : Nat} (seeding : Seeding space done before)
    (ran : KernelState.seedUntyped space fragments made before = .ok total after) :
    ∃ more rest, fragments = more ++ rest ∧
      after.untyped.FilledBy untypedOf (done ++ more) ∧
      (rest = [] ∨ after.untyped.vacancies = 0) := by
  induction fragments generalizing done made before with
  | nil =>
      obtain ⟨_, rfl⟩ : made = total ∧ before = after := by
        simpa [KernelState.seedUntyped] using ran
      refine ⟨[], [], rfl, ?_, Or.inl rfl⟩
      rw [List.append_nil]
      exact seeding.untyped
  | cons fragment rest ih =>
      rw [KernelState.seedUntyped] at ran
      obtain ⟨created, middle, allocated, ran⟩ := Exec.bind_eq_ok.1 ran
      cases created with
      | none =>
          obtain ⟨_, rfl⟩ : made = total ∧ middle = after := by simpa using ran
          refine ⟨[], fragment :: rest, rfl, ?_, Or.inr ?_⟩
          · rw [List.append_nil]
            rcases allocIn_eq_ok allocated with ⟨_, rfl⟩ | ⟨_, _, absurdity, _⟩
            · exact seeding.untyped
            · cases absurdity
          · unfold allocUntyped allocIn at allocated
            rw [Exec.get_bind_run] at allocated
            cases inserted : before.untyped.insert
                (fun _ => UntypedMemory.new fragment.1 (fragment.2 - fragment.1)) with
            | none =>
                simp only [inserted, Exec.pure_run, Outcome.ok.injEq] at allocated
                rw [← allocated.2]
                exact Slab.insert_eq_none_iff.1 inserted
            | some pair => simp [inserted] at allocated
      | some uid =>
          rcases allocIn_eq_ok allocated with
            ⟨absurdity, _⟩ | ⟨id, objects, _, inserted, rfl⟩
          · cases absurdity
          obtain ⟨_, filled⟩ := seeding.untyped.insert inserted
          obtain ⟨stored, later, capped, ran⟩ := Exec.bind_eq_ok.1 ran
          obtain ⟨given, next⟩ := Seeding.insertRootCap capped filled seeding.table
          cases stored with
          | none => cases given
          | some cap =>
              obtain ⟨more, left, rfl, filled', full⟩ := ih next ran
              refine ⟨fragment :: more, left, rfl, ?_, full⟩
              rw [List.append_assoc] at filled'
              exact filled'

/-- Nothing is seeded when the root task has just been created. -/
theorem allocRoot_seeding {boot : BootInfo} {rootCs : CapSpaceId} {rootAs : PageTableId}
    {rootTid : ThreadId} (ran : allocRoot boot .empty = .ok (rootCs, rootAs, rootTid) after) :
    Seeding rootCs [] after := by
  obtain ⟨tables, _, _, insertedCs, _, _, rfl⟩ := allocRoot_inserts ran
  refine ⟨Slab.filledBy_empty untypedOf, .new rootCs, ?_, CapTable.wf_new rootCs, rfl⟩
  change tables.get? rootCs = _
  rw [Slab.get?_of_insert insertedCs, if_pos rfl]

/-- After boot the untyped objects are the first fragments, and all of them unless the
table is full. -/
theorem untyped_of_populate {boot : BootInfo} {state : KernelState}
    (populated : populateFromBootInfo boot .empty = .ok () state) :
    ∃ more rest, boot.fragments = more ++ rest ∧
      state.untyped.FilledBy untypedOf more ∧ (rest = [] ∨ state.untyped.vacancies = 0) := by
  obtain ⟨rootCs, rootAs, rootTid, first, made, ptCap, blkCap, netCap, second, third, allocated,
    seeded, scheduled, rfl⟩ := populateFromBootInfo_eq_ok populated
  obtain ⟨_, _, _, _, _, _, _, inside, _⟩ := allocRoot_ok allocated
  have final := scheduleRoot_ok inside scheduled
  have seeding := allocRoot_seeding allocated
  obtain ⟨total, filled, inserted, capped, blk, withBlk, net, untypedSeeded, insertedPt, seededBlk,
    seededNet⟩ := seedCaps_eq_ok seeded
  have same : third.untyped = filled.untyped := by
    rw [final]
    change (second.updateTcb rootTid _).untyped = _
    rw [updateTcb_frame]
    exact (seedMmio_memory seededNet).1.trans
      ((seedMmio_memory seededBlk).1.trans (insertRootCap_memory insertedPt).untyped)
  change ∃ more rest, _ ∧ third.untyped.FilledBy untypedOf more ∧
    (rest = [] ∨ third.untyped.vacancies = 0)
  rw [same]
  exact seeding.seedUntyped untypedSeeded

end KernelState

/-! ## Where the objects come from -/

/-- Where the kernel takes a region to end. -/
def MemoryRegion.stop (region : MemoryRegion) : Nat :=
  saturatingAdd region.baseAddr region.lengthBytes

theorem MemoryRegion.stop_le (region : MemoryRegion) :
    region.stop ≤ region.baseAddr + region.lengthBytes :=
  Nat.min_le_left ..

namespace BootInfo

variable (boot : BootInfo)

/-- The fragments of one region. -/
def parts (region : MemoryRegion) : List (Nat × Nat) :=
  if region.kind ≠ .usable ∨ region.lengthBytes < pageSize then []
  else
    (subtractHoles region.baseAddr region.stop boot.holes).filter
      fun fragment => pageSize ≤ fragment.2 - fragment.1

/-- The fragments, each with the index of its region. -/
def sourced : List ((Nat × Nat) × Nat) :=
  boot.memoryRegions.zipIdx.flatMap fun source =>
    (boot.parts source.1).map fun part => (part, source.2)

/-- The index of the region that an untyped object comes from. -/
def sourceOf (uid : UntypedId) : Nat := (boot.sourced[uid]?).elim 0 Prod.snd

/-- The object is a page or more of free memory of the region. -/
structure Gives (index : Nat) (mem : UntypedMemory) : Prop where
  region : ∃ region, boot.memoryRegions[index]? = some region ∧ region.kind = .usable ∧
    region.baseAddr ≤ mem.base ∧
      mem.base + mem.sizeBytes ≤ region.baseAddr + region.lengthBytes
  page : pageSize ≤ mem.sizeBytes
  image : ∀ addr, mem.base ≤ addr → addr < mem.base + mem.sizeBytes →
    ¬ (boot.kernelImagePhysStart ≤ addr ∧ addr < boot.kernelImagePhysEnd)
  reserved : ∀ addr, mem.base ≤ addr → addr < mem.base + mem.sizeBytes →
    ¬ (boot.bootReservedPhysStart ≤ addr ∧ addr < boot.bootReservedPhysEnd)
  above : boot.kernelImagePhysStart ≤ mem.base

variable {boot}

theorem mem_parts {region : MemoryRegion} {part : Nat × Nat} :
    part ∈ boot.parts region ↔
      region.kind = .usable ∧ pageSize ≤ region.lengthBytes ∧
        part ∈ subtractHoles region.baseAddr region.stop boot.holes ∧
          pageSize ≤ part.2 - part.1 := by
  unfold parts
  split
  · next skipped =>
      refine iff_of_false List.not_mem_nil ?_
      rintro ⟨usable, long, _⟩
      rcases skipped with other | short
      · exact other usable
      · omega
  · next taken =>
      rw [not_or, not_not, Nat.not_lt] at taken
      rw [List.mem_filter, decide_eq_true_eq]
      simp [taken]

theorem map_sourced (boot : BootInfo) : boot.sourced.map Prod.fst = boot.fragments := by
  have indexed : ∀ (regions : List MemoryRegion) (first : Nat),
      ((regions.zipIdx first).flatMap fun source =>
        (boot.parts source.1).map fun part => (part, source.2)).map Prod.fst =
        regions.flatMap boot.parts := by
    intro regions
    induction regions with
    | nil => exact fun _ => rfl
    | cons region rest ih =>
        intro first
        rw [List.zipIdx_cons, List.flatMap_cons, List.map_append, ih,
          List.flatMap_cons, List.map_map]
        have kept : (Prod.fst ∘ fun part : Nat × Nat => (part, first)) = id := rfl
        rw [kept, List.map_id]
  exact indexed boot.memoryRegions 0

theorem mem_sourced {part : Nat × Nat} {index : Nat}
    (member : (part, index) ∈ boot.sourced) :
    ∃ region, boot.memoryRegions[index]? = some region ∧ part ∈ boot.parts region := by
  obtain ⟨⟨region, i⟩, among, there⟩ := List.mem_flatMap.1 member
  obtain ⟨other, inside, same⟩ := List.mem_map.1 there
  obtain ⟨rfl, rfl⟩ := Prod.mk.inj same
  exact ⟨region, List.mem_zipIdx_iff_getElem?.1 among, inside⟩

theorem lt_of_mem_sourced {part : Nat × Nat} {index : Nat}
    (member : (part, index) ∈ boot.sourced) : part.1 < part.2 := by
  obtain ⟨_, _, inside⟩ := mem_sourced member
  obtain ⟨_, _, inParts, _⟩ := mem_parts.1 inside
  exact (subtractHoles_spec inParts).2.1

/-- The fragments of one region follow each other. -/
theorem sourced_pairwise (boot : BootInfo) :
    boot.sourced.Pairwise fun first second =>
      first.2 = second.2 → first.1.2 ≤ second.1.1 := by
  refine List.pairwise_flatMap.2 ⟨fun source _ => ?_, ?_⟩
  · have ordered : (boot.parts source.1).Pairwise fun first second => first.2 ≤ second.1 := by
      unfold parts
      split
      · exact .nil
      · exact subtractHoles_pairwise.filter _
    refine List.pairwise_map.2 (ordered.imp ?_)
    intro first second before _
    exact before
  · refine List.pairwise_iff_getElem.2 fun i j insideI insideJ less first among second
      amongSecond same => ?_
    obtain ⟨_, _, rfl⟩ := List.mem_map.1 among
    obtain ⟨_, _, rfl⟩ := List.mem_map.1 amongSecond
    rw [List.getElem_zipIdx, List.getElem_zipIdx] at same
    simp only at same
    omega

end BootInfo

/-! ## The result -/

section Boot

variable {boot : BootInfo} {state : KernelState}

/-- The fragment and the region of an object. -/
theorem exists_source {more rest : List (Nat × Nat)} (split : boot.fragments = more ++ rest)
    (filled : state.untyped.FilledBy KernelState.untypedOf more) {uid : UntypedId}
    {mem : UntypedMemory} (present : state.untyped.get? uid = some mem) :
    ∃ part, mem = KernelState.untypedOf part ∧
      boot.sourced[uid]? = some (part, boot.sourceOf uid) := by
  rw [filled uid] at present
  obtain ⟨part, there, rfl⟩ := Option.map_eq_some_iff.1 present
  have inside : boot.fragments[uid]? = some part := by
    rw [split]
    exact (List.getElem?_append_left (List.getElem?_eq_some_iff.1 there).1).trans there
  rw [← BootInfo.map_sourced, List.getElem?_map] at inside
  obtain ⟨⟨_, index⟩, found, rfl⟩ := Option.map_eq_some_iff.1 inside
  refine ⟨_, rfl, ?_⟩
  rw [BootInfo.sourceOf, found]
  rfl

/-- An object made of a fragment of a region. -/
theorem gives_of_part {part : Nat × Nat} {index : Nat}
    (member : (part, index) ∈ boot.sourced) :
    boot.Gives index (KernelState.untypedOf part) := by
  obtain ⟨region, present, inside⟩ := BootInfo.mem_sourced member
  obtain ⟨usable, _, inParts, page⟩ := BootInfo.mem_parts.1 inside
  obtain ⟨starts, more, stops, free⟩ := subtractHoles_spec inParts
  have ends := region.stop_le
  have size : part.1 + (part.2 - part.1) = part.2 := by omega
  have holdsPart : ∀ addr, part.1 ≤ addr → addr < part.1 + (part.2 - part.1) →
      Holds part addr := by
    intro addr lower upper
    exact ⟨lower, by omega⟩
  exact {
    region := by
      refine ⟨region, present, usable, starts, ?_⟩
      change part.1 + (part.2 - part.1) ≤ _
      omega
    page := page
    image := fun addr lower upper =>
      free (boot.kernelImagePhysStart, boot.kernelImagePhysEnd) (by simp [BootInfo.holes])
        addr (holdsPart addr lower upper)
    reserved := fun addr lower upper =>
      free (boot.bootReservedPhysStart, boot.bootReservedPhysEnd) (by simp [BootInfo.holes])
        addr (holdsPart addr lower upper)
    above := by
      by_contra below
      exact free (0, boot.kernelImagePhysStart) (by simp [BootInfo.holes]) part.1
        ⟨Nat.le_refl _, more⟩ ⟨Nat.zero_le _, Nat.lt_of_not_le below⟩ }

/-- The object is beside the holes. -/
theorem BootInfo.Gives.holeFree {index : Nat} {mem : UntypedMemory}
    (gives : boot.Gives index mem) :
    HoleFree boot.holes (mem.base, mem.base + mem.sizeBytes) := by
  intro hole among addr inMem inHole
  simp only [BootInfo.holes, List.mem_cons, List.not_mem_nil, or_false] at among
  rcases among with rfl | rfl | rfl
  · exact gives.image addr inMem.1 inMem.2 inHole
  · exact gives.reserved addr inMem.1 inMem.2 inHole
  · exact absurd (Nat.le_trans gives.above inMem.1) (Nat.not_le_of_lt inHole.2)

/-- The kernel hands out whole pages of the regions, beside the holes, and nothing else. -/
structure BootInfo.HandsOut (boot : BootInfo) (state : KernelState) : Prop where
  inside : ∀ uid mem, state.untyped.get? uid = some mem → boot.Gives (boot.sourceOf uid) mem
  covers : state.untyped.vacancies = 0 ∨
    ∀ region ∈ boot.memoryRegions, region.kind = .usable →
      ∀ interval : Nat × Nat, pageSize ≤ interval.2 - interval.1 →
        region.baseAddr ≤ interval.1 → interval.2 ≤ region.stop →
        HoleFree boot.holes interval →
        ∃ uid mem, state.untyped.get? uid = some mem ∧ mem.base ≤ interval.1 ∧
          interval.2 ≤ mem.base + mem.sizeBytes

theorem KernelState.handsOut_of_populate
    (populated : KernelState.populateFromBootInfo boot .empty = .ok () state) :
    boot.HandsOut state := by
  obtain ⟨more, rest, split, filled, ended⟩ := KernelState.untyped_of_populate populated
  constructor
  · intro uid mem present
    obtain ⟨part, rfl, found⟩ := exists_source split filled present
    exact gives_of_part (List.mem_of_getElem? found)
  · rcases ended with rfl | full
    · refine Or.inr fun region among usable interval long starts stops free => ?_
      rw [List.append_nil] at split
      have positive : 0 < pageSize := by decide
      have nonempty : interval.1 < interval.2 := by omega
      obtain ⟨part, inParts, lower, upper⟩ := exists_part nonempty starts stops free
      have ends := region.stop_le
      have inRegion : part ∈ boot.parts region :=
        BootInfo.mem_parts.2 ⟨usable, by omega, inParts, by omega⟩
      have inMore : part ∈ more := by
        rw [← split]
        exact List.mem_flatMap.2 ⟨region, among, inRegion⟩
      obtain ⟨uid, found⟩ := List.mem_iff_getElem?.1 inMore
      refine ⟨uid, KernelState.untypedOf part, ?_, lower, ?_⟩
      · rw [filled uid, found]
        rfl
      · change _ ≤ part.1 + (part.2 - part.1)
        omega
    · exact Or.inl full

/-- The memory that the kernel hands out at boot: every object is free memory of one
region, objects of one region or of disjoint regions are disjoint, and unless the table
is full every free page range below the end of the address space is in an object. -/
theorem untyped_free (populated : KernelState.populateFromBootInfo boot .empty = .ok () state) :
    (∀ uid mem, state.untyped.get? uid = some mem → boot.Gives (boot.sourceOf uid) mem) ∧
    (∀ first second mem other, first ≠ second → state.untyped.get? first = some mem →
      state.untyped.get? second = some other →
      (boot.sourceOf first = boot.sourceOf second ∨
        ∀ region region', boot.memoryRegions[boot.sourceOf first]? = some region →
          boot.memoryRegions[boot.sourceOf second]? = some region' →
          region.baseAddr + region.lengthBytes ≤ region'.baseAddr ∨
            region'.baseAddr + region'.lengthBytes ≤ region.baseAddr) →
      mem.base + mem.sizeBytes ≤ other.base ∨ other.base + other.sizeBytes ≤ mem.base) ∧
    (state.untyped.vacancies = 0 ∨
      ∀ region ∈ boot.memoryRegions, region.kind = .usable →
        ∀ interval : Nat × Nat, pageSize ≤ interval.2 - interval.1 →
          region.baseAddr ≤ interval.1 → interval.2 ≤ region.stop →
          HoleFree boot.holes interval →
          ∃ uid mem, state.untyped.get? uid = some mem ∧ mem.base ≤ interval.1 ∧
            interval.2 ≤ mem.base + mem.sizeBytes) := by
  obtain ⟨more, rest, split, filled, -⟩ := KernelState.untyped_of_populate populated
  have given := (KernelState.handsOut_of_populate populated).inside
  refine ⟨given, ?_, ?_⟩
  · intro first second mem other ne present presentOther sources
    rcases sources with same | apart
    · obtain ⟨part, rfl, found⟩ := exists_source split filled present
      obtain ⟨part', rfl, found'⟩ := exists_source split filled presentOther
      have inside := List.getElem?_eq_some_iff.1 found
      have inside' := List.getElem?_eq_some_iff.1 found'
      have more := BootInfo.lt_of_mem_sourced (List.mem_of_getElem? found)
      have more' := BootInfo.lt_of_mem_sourced (List.mem_of_getElem? found')
      have ordered := List.pairwise_iff_getElem.1 boot.sourced_pairwise
      change part.1 + (part.2 - part.1) ≤ part'.1 ∨ part'.1 + (part'.2 - part'.1) ≤ part.1
      rcases Nat.lt_or_gt_of_ne ne with before | behind
      · have follows := ordered first second inside.1 inside'.1 before
        rw [inside.2, inside'.2] at follows
        have apart : part.2 ≤ part'.1 := follows same
        omega
      · have follows := ordered second first inside'.1 inside.1 behind
        rw [inside.2, inside'.2] at follows
        have apart : part'.2 ≤ part.1 := follows same.symm
        omega
    · obtain ⟨region, there, _, lower, upper⟩ := (given first mem present).region
      obtain ⟨region', there', _, lower', upper'⟩ := (given second other presentOther).region
      have disjoint := apart region region' there there'
      omega
  · exact (KernelState.handsOut_of_populate populated).covers

end Boot

theorem untyped_free_sample :
    ∃ mem, sampleKernel.untyped.get? 0 = some mem ∧ sampleBoot.Gives 0 mem := by
  have some' : (sampleKernel.untyped.get? 0).isSome := by
    decide +kernel
  have first : sampleBoot.sourceOf 0 = 0 := by
    decide +kernel
  obtain ⟨mem, present⟩ := Option.isSome_iff_exists.1 some'
  have gives := (untyped_free sampleBoot_populates).1 0 mem present
  rw [first] at gives
  exact ⟨mem, present, gives⟩

/-- `sampleBoot` with one more page, the last one of the address space. -/
def topBoot : BootInfo :=
  { sampleBoot with
    memoryRegions :=
      [ { baseAddr := 0x1000000, lengthBytes := 0x2000000, kind := .usable },
        { baseAddr := 0xfffffffffffff000, lengthBytes := 0x1000, kind := .usable } ] }

/-- The last page of the address space is lost: the end of its region is cut to 64 bits,
and what is left is less than a page. -/
theorem last_page_not_covered :
    ¬ ∀ (boot : BootInfo) (state : KernelState),
      KernelState.populateFromBootInfo boot .empty = .ok () state →
      state.untyped.vacancies = 0 ∨
        ∀ region ∈ boot.memoryRegions, region.kind = .usable →
          ∀ interval : Nat × Nat, pageSize ≤ interval.2 - interval.1 →
            region.baseAddr ≤ interval.1 →
            interval.2 ≤ region.baseAddr + region.lengthBytes →
            HoleFree boot.holes interval →
            ∃ uid mem, state.untyped.get? uid = some mem ∧ mem.base ≤ interval.1 ∧
              interval.2 ≤ mem.base + mem.sizeBytes := by
  intro claimed
  have ran : (KernelState.populateFromBootInfo topBoot .empty).value? = some () ∧
      (KernelState.populateFromBootInfo topBoot .empty).state?.any (fun state =>
        state.untyped.vacancies ≠ 0 ∧
          state.untyped.objects.all fun mem =>
            mem.base + mem.sizeBytes < 0x10000000000000000) := by
    decide +kernel
  obtain ⟨state, populated⟩ := Outcome.eq_ok_of_value? ran.1
  have facts := ran.2
  rw [populated] at facts
  obtain ⟨room, below⟩ := of_decide_eq_true facts
  rcases claimed topBoot state populated with full | covered
  · exact room full
  · have free : HoleFree topBoot.holes (0xfffffffffffff000, 0x10000000000000000) := by
      intro hole among addr inside inHole
      have known : hole = (0x100000, 0x200000) ∨ hole = (0x200000, 0x210000) ∨
          hole = (0, 0x100000) := by
        simpa [BootInfo.holes, topBoot, sampleBoot] using among
      unfold Holds at inside inHole
      rcases known with rfl | rfl | rfl
      · omega
      · omega
      · omega
    obtain ⟨uid, mem, present, _, upper⟩ :=
      covered { baseAddr := 0xfffffffffffff000, lengthBytes := 0x1000, kind := .usable }
        (by simp [topBoot]) rfl _ (by decide) (Nat.le_refl _) (Nat.le_refl _) free
    have bound := of_decide_eq_true
      (List.all_eq_true.1 below mem (Slab.mem_objects.2 ⟨uid, present⟩))
    simp only at upper
    omega

end Simurgh
