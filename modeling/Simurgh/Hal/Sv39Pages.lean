import Simurgh.Hal.MapRange

/-!
# An address space as a map of its pages

Below a root, the Sv39 tables are a map from page numbers to entries.  A call of `map_range`
changes the map at the pages of its range, whatever permissions it is asked for, and leaves the
tables and the rest of the pool ready for the next call.
-/

namespace Simurgh

namespace Sv39

/-- The bits of an address that the tables look at. -/
def pageNumber (va : Nat) : Nat := va / 4096 % 2 ^ 27

/-- The entry for the page of an address. -/
def pageAt (mem : TableMemory) (root va : Nat) : Option PageEntry :=
  RadixTree.walk tables.reading mem.store (upperPath tables.depth va) (slotIndex 0 va) (root / 4096)

/-- The entry that `map_range` writes for a page, as the hardware reads it. -/
def leafEntry (paddr permBits : Nat) : Option PageEntry :=
  if tables.grants permBits then
    some { frame := paddr, level := 0, permissions := requestedPermissions permBits }
  else none

theorem translate_eq (mem : TableMemory) (root va : Nat) :
    tables.translate mem root va =
      if tables.canonical va then
        (pageAt mem root va).map fun entry =>
          (entry.frame + va % (4096 * 512 ^ entry.level), entry.permissions)
      else none := by
  rw [TableFormat.translate, TableFormat.entryAt]
  split
  · rfl
  · rfl

/-- Addresses have one path exactly if they have one page number. -/
theorem path_eq_iff {va other : Nat} :
    upperPath tables.depth other = upperPath tables.depth va ∧ slotIndex 0 other = slotIndex 0 va ↔
      pageNumber other = pageNumber va := by
  have depth : tables.depth = 2 := rfl
  rw [depth]
  constructor
  · rintro ⟨upper, last⟩
    exact page_of_upperPath upper last
  · intro same
    have index : ∀ level < 3, slotIndex level other = slotIndex level va := by
      intro level low
      apply Fin.ext
      rw [slotIndex_val, slotIndex_val]
      rw [pageNumber, pageNumber] at same
      obtain rfl | rfl | rfl : level = 0 ∨ level = 1 ∨ level = 2 := by omega
      · omega
      · omega
      · omega
    constructor
    · rw [upperPath, upperPath, upperPath, upperPath, upperPath, upperPath, index 2 (by decide),
        index 1 (by decide)]
    · exact index 0 (by decide)

/-- Links take nothing away. -/
theorem limits_eq (store : Nat → Fin 512 → Word) (path : List (Fin 512)) (table : Nat) :
    RadixTree.limits tables.reading store path table = id := by
  induction path generalizing table with
  | nil => rfl
  | cons i rest ih =>
      rw [RadixTree.limits]
      cases tables.reading.next (store table i) with
      | none => rfl
      | some next =>
          change tables.reading.through _ ∘ RadixTree.limits tables.reading store rest next = id
          rw [ih]
          rfl

theorem page_leaf_of_refused {paddr permBits : Nat} (below : paddr < 2 ^ 56)
    (refused : tables.grants permBits = false) : format.page (format.leaf paddr permBits) = none := by
  obtain ⟨_, readable, writable, _, _, either⟩ :=
    has_leafFlags (permBits.testBit 0) (permBits.testBit 1) (permBits.testBit 2)
      (permBits.testBit 3)
  rw [page_eq, has_leaf below (by decide), has_leaf below (by decide),
    has_leaf below (by decide), readable, writable, either]
  apply if_pos
  change ((permBits.testBit 0 || permBits.testBit 2) &&
    (!permBits.testBit 1 || permBits.testBit 0)) = false at refused
  revert refused
  generalize permBits.testBit 0 = readable
  generalize permBits.testBit 1 = writable
  generalize permBits.testBit 2 = executable
  revert readable writable executable
  decide

/-- A leaf with permissions that Sv39 does not have maps no page. -/
theorem stop_leaf {paddr permBits : Nat} (aligned : paddr % 4096 = 0)
    (within : paddr + 4096 ≤ 2 ^ 56) :
    tables.reading.stop 0 (tables.leaf paddr permBits) = leafEntry paddr permBits := by
  have below : paddr < 2 ^ 56 := by omega
  change (if tables.present (tables.leaf paddr permBits) then
    tables.page 0 (tables.leaf paddr permBits) else none) = _
  rw [leafEntry]
  by_cases grants : tables.grants permBits = true
  · obtain ⟨present, page⟩ := tables_lawful.leaf paddr permBits aligned within grants
    rw [if_pos grants, present, if_pos rfl, page]
    rfl
  · have refused := Bool.eq_false_iff.2 grants
    rw [if_neg grants]
    split
    · change (format.page (format.leaf paddr permBits)).bind _ = none
      rw [page_leaf_of_refused below refused]
      rfl
    · rfl

/-! ## A call -/

end Sv39

namespace TableFormat

/-- Another call below the same root can use the rest of the pool. -/
theorem Grown.next {format : TableFormat} {args later : MapArgs} {before : TableMemory}
    {walk : MapWalk} (prepared : format.Prepared args before)
    (grown : Grown format args before walk) (root : later.rootFrame = args.rootFrame)
    (base : later.poolBase = args.poolBase + walk.used * 4096)
    (length : later.poolLen = args.poolLen - walk.used) : format.Prepared later walk.mem := by
  have used := grown.used
  have poolAligned := prepared.poolAligned
  have frame : ∀ k, later.poolFrame k = args.poolFrame (walk.used + k) := by
    intro k
    rw [MapArgs.poolFrame, MapArgs.poolFrame, base]
    omega
  constructor
  · rw [root]
    exact grown.forest prepared
  · omega
  · have within := prepared.poolWithin
    rw [base, length]
    omega
  · intro k inside i
    rw [frame]
    exact grown.blank _ (Nat.le_add_right _ _) (by omega) i
  · intro k inside node
    rw [root, frame] at node
    exact grown.unused prepared (Nat.le_add_right _ _) (by omega) node

end TableFormat

namespace Sv39

/-- What a call has done, and that the next one can follow. -/
structure MapsPages (args : MapArgs) (mem : TableMemory) (n : Nat) (after : TableMemory) :
    Prop where
  aligned : args.vaddr % 4096 = 0 ∧ args.paddr % 4096 = 0 ∧ args.len % 4096 = 0
  next : ∀ later : MapArgs, later.rootFrame = args.rootFrame →
    later.poolBase = args.poolBase + n * 4096 → later.poolLen = args.poolLen - n →
      tables.Prepared later after
  taken : n ≤ args.poolLen
  inside : ∀ va, ∀ k < args.len / 4096, pageNumber (args.vaddr + k * 4096) = pageNumber va →
    pageAt after args.rootFrame va = leafEntry (args.paddr + k * 4096) args.permBits
  outside : ∀ va, (∀ k < args.len / 4096, pageNumber (args.vaddr + k * 4096) ≠ pageNumber va) →
    pageAt after args.rootFrame va = pageAt mem args.rootFrame va

theorem mapRange_pages {args : MapArgs} {mem after : TableMemory} {n : Nat}
    (prepared : tables.Prepared args mem) (short : args.len ≤ 2 ^ 38)
    (within : args.paddr + args.len ≤ 2 ^ 56) (ran : mapRange args mem = (n, after))
    (succeeded : n ≠ u32Max) : MapsPages args mem n after := by
  obtain ⟨⟨vaddrAligned, paddrAligned, whole⟩, walk, pages, rfl, rfl⟩ :=
    TableFormat.mapPages_of_mapRange ran succeeded
  have paths : tables.OwnPaths args (0 + args.len / 4096) := by
    constructor
    · exact fun _ _ => rfl
    · intro j k jBelow kBelow same
      have page := path_eq_iff.1 same
      unfold pageNumber at page
      omega
  have written := prepared.grown.mapPages tables_lawful prepared paths pages
  have used : walk.used % 2 ^ 32 = walk.used := by
    have count := written.used
    change walk.used ≤ 0 + 2 * (args.len / 4096) at count
    omega
  rw [used]
  constructor
  · exact ⟨vaddrAligned, paddrAligned, whole⟩
  · exact fun later root base length => written.grown.next prepared root base length
  · exact written.grown.used
  · intro va k below same
    obtain ⟨upper, last⟩ := path_eq_iff.2 same
    have here := written.pages k (Nat.zero_le k) (by omega)
    rw [upper, last, stop_leaf (by omega) (by omega), limits_eq, Option.map_id] at here
    exact here
  · intro va apart
    apply written.others _ _ (upperPath_length _ _)
    rintro k - below ⟨upper, last⟩
    exact apart k (by omega) (path_eq_iff.1 ⟨upper.symm, last.symm⟩)

end Sv39

end Simurgh
