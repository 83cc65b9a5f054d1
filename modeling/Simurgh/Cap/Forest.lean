import Simurgh.Cap.FreeList
import Simurgh.Lib.DerivationForest

/-!
# The tables hold a derivation forest

The parent links of a family of capability tables run from table to table.
Seen from outside they form one forest, in which rights shrink and badges stay
along every link.  Each operation on the tables is an operation on this forest.
-/

namespace Simurgh

/-- The forest of all capabilities of all spaces. -/
abbrev CapForest := DerivationForest GlobalCapId Capability Capability.DerivedFrom

namespace CapTables

variable {N M : Nat}

/-- The tables hold `forest`.  Each is stamped with its own index and keeps its
free list in order. -/
structure Represents (tables : CapTables N M) (forest : CapForest) : Prop where
  stamped : ∀ space table, tables.get? space = some table → table.spaceId = space
  wf : ∀ space table, tables.get? space = some table → table.Wf
  lookup : ∀ id, tables.lookup id = forest.node id
  parentOf : ∀ id, tables.parentOf id = forest.parent id

/-- The invariant of a family of tables between calls. -/
def Wf (tables : CapTables N M) : Prop :=
  ∃ forest, tables.Represents forest

/-! ## Reading through the family -/

theorem lookup_of_get? {tables : CapTables N M} {space : CapSpaceId}
    {table : CapTable N} (present : tables.get? space = some table) (cap : CapId) :
    tables.lookup { space, cap } = table.lookup cap := by
  simp [lookup, present]

theorem parentOf_of_get? {tables : CapTables N M} {space : CapSpaceId}
    {table : CapTable N} (present : tables.get? space = some table) (cap : CapId) :
    tables.parentOf { space, cap } = table.parentOf cap := by
  simp [parentOf, present]

theorem exists_of_lookup {tables : CapTables N M} {id : GlobalCapId}
    {cap : Capability} (occupied : tables.lookup id = some cap) :
    ∃ table, tables.get? id.space = some table ∧ table.lookup id.cap = some cap :=
  Option.bind_eq_some_iff.1 occupied

theorem lookup_put {tables : CapTables N M} {space : CapSpaceId}
    {old : CapTable N} (present : tables.get? space = some old)
    (table : CapTable N) (id : GlobalCapId) :
    lookup (tables.put space table) id =
      if space = id.space then table.lookup id.cap else tables.lookup id := by
  unfold lookup
  rw [Slab.get?_put_of_some present]
  by_cases same : space = id.space
  · simp [same]
  · simp [same]

theorem parentOf_put {tables : CapTables N M} {space : CapSpaceId}
    {old : CapTable N} (present : tables.get? space = some old)
    (table : CapTable N) (id : GlobalCapId) :
    parentOf (tables.put space table) id =
      if space = id.space then table.parentOf id.cap else tables.parentOf id := by
  unfold parentOf
  rw [Slab.get?_put_of_some present]
  by_cases same : space = id.space
  · simp [same]
  · simp [same]

theorem onTable_of_ok {ε α : Type} {tables : CapTables N M} {space : CapSpaceId}
    {table later : CapTable N} {program : Exec (CapTable N) ε α} {value : α}
    (present : tables.get? space = some table)
    (ran : program table = .ok value later) :
    onTable space program tables = .ok value (tables.put space later) := by
  simp [onTable, present, Exec.zoom, ran]

/-- A call that fails without touching its table leaves the whole family alone. -/
theorem onTable_of_err {ε α : Type} {tables : CapTables N M} {space : CapSpaceId}
    {table : CapTable N} {program : Exec (CapTable N) ε α} {error : ε}
    (present : tables.get? space = some table)
    (failed : program table = .err error table) :
    onTable space program tables = .err error tables := by
  simp [onTable, present, Exec.zoom, failed, Slab.put_self present]

/-- A program on one table touches no other table and removes none. -/
theorem onTable_frame {ε α : Type} {tables final : CapTables N M} {space : CapSpaceId}
    {program : Exec (CapTable N) ε α}
    (ended : (onTable space program tables).state? = some final) (other : CapSpaceId) :
    (other ≠ space → final.get? other = tables.get? other) ∧
      (final.get? other).isSome = (tables.get? other).isSome := by
  cases present : tables.get? space with
  | none => simp [onTable, present] at ended
  | some table =>
      simp only [onTable, Exec.get_bind_run, present, Exec.expect_some,
        Exec.pure_bind_run] at ended
      obtain ⟨later, _, rfl⟩ := Exec.zoom_state.1 ended
      refine ⟨fun ne => Slab.get?_put_of_ne ne.symm later, ?_⟩
      exact Slab.isSome_get?_put_of_some present other later

theorem onTable_of_none {ε α : Type} {tables : CapTables N M} {space : CapSpaceId}
    (program : Exec (CapTable N) ε α) (absent : tables.get? space = none) :
    onTable space program tables = .panic := by
  simp [onTable, absent]

/-! ## Inserting -/

namespace Represents

variable {tables : CapTables N M} {forest : CapForest}

/-- Filling the head of a free list inserts a node into the forest. -/
theorem occupy (represents : tables.Represents forest) {space : CapSpaceId}
    {table : CapTable N} (present : tables.get? space = some table) {id : CapId}
    (head : table.freeHead = some id) {cap : Capability}
    {link : Option GlobalCapId} (fits : forest.Fits cap link) :
    ∃ vacant : forest.node { space, cap := id } = none,
      Represents (tables.put space (table.occupy id cap link))
        (forest.insert { space, cap := id } cap link vacant fits) := by
  have wf : table.Wf := represents.wf space table present
  obtain ⟨inside, isFree⟩ := wf.freeHead_spec head
  have vacant : forest.node { space, cap := id } = none := by
    rw [← represents.lookup, lookup_of_get? present, isFree]
  refine ⟨vacant, ?_, ?_, ?_, ?_⟩
  · intro other later there
    rw [Slab.get?_put_of_some present] at there
    by_cases same : space = other
    · rw [if_pos same, Option.some.injEq] at there
      rw [← there, ← same]
      exact represents.stamped space table present
    · rw [if_neg same] at there
      exact represents.stamped other later there
  · intro other later there
    rw [Slab.get?_put_of_some present] at there
    by_cases same : space = other
    · rw [if_pos same, Option.some.injEq] at there
      rw [← there]
      exact wf.occupy head cap link
    · rw [if_neg same] at there
      exact represents.wf other later there
  · rintro ⟨otherSpace, otherCap⟩
    rw [lookup_put present, DerivationForest.node_insert, ← represents.lookup]
    by_cases sameSpace : space = otherSpace
    · subst sameSpace
      rw [if_pos rfl, CapTable.lookup_occupy inside, lookup_of_get? present]
      simp [eq_comm]
    · simp [sameSpace, Ne.symm sameSpace]
  · rintro ⟨otherSpace, otherCap⟩
    rw [parentOf_put present, DerivationForest.parent_insert, ← represents.parentOf]
    by_cases sameSpace : space = otherSpace
    · subst sameSpace
      rw [if_pos rfl, CapTable.parentOf_occupy inside, parentOf_of_get? present]
      simp [eq_comm]
    · simp [sameSpace, Ne.symm sameSpace]

/-- A fresh table in an empty entry changes nothing in the forest. -/
theorem create (represents : tables.Represents forest) {space : CapSpaceId}
    (absent : tables.get? space = none) :
    Represents (tables.put space (CapTable.new space)) forest := by
  have read : ∀ other,
      (tables.put space (CapTable.new space)).get? other = tables.get? other ∨
        space = other ∧
          (tables.put space (CapTable.new space)).get? other =
            some (CapTable.new other) := by
    intro other
    rw [Slab.get?_put]
    by_cases here : space = other ∧ other < M
    · exact Or.inr ⟨here.1, by rw [if_pos here, here.1]⟩
    · exact Or.inl (if_neg here)
  refine ⟨?_, ?_, ?_, ?_⟩
  · intro other later there
    rcases read other with unchanged | ⟨_, created⟩
    · exact represents.stamped other later (unchanged ▸ there)
    · rw [created, Option.some.injEq] at there
      rw [← there]
      rfl
  · intro other later there
    rcases read other with unchanged | ⟨_, created⟩
    · exact represents.wf other later (unchanged ▸ there)
    · rw [created, Option.some.injEq] at there
      rw [← there]
      exact CapTable.wf_new other
  · intro id
    rw [← represents.lookup]
    rcases read id.space with unchanged | ⟨same, created⟩
    · simp [CapTables.lookup, unchanged]
    · have vacant : tables.get? id.space = none := same ▸ absent
      simp [CapTables.lookup, created, vacant]
  · intro id
    rw [← represents.parentOf]
    rcases read id.space with unchanged | ⟨same, created⟩
    · simp [CapTables.parentOf, unchanged]
    · have vacant : tables.get? id.space = none := same ▸ absent
      simp [CapTables.parentOf, created, vacant]

/-! ## The calls that insert -/

/-- `child` is a legal derivation of the capability at `link`. -/
def DerivedFromSlot (tables : CapTables N M) (link : GlobalCapId) (child : Capability) :
    Prop :=
  ∃ parentCap, tables.lookup link = some parentCap ∧ child.DerivedFrom parentCap

/-- A call that inserts fails without any change, or it adds one node with an
allowed capability. -/
def Inserts (tables : CapTables N M) (forest : CapForest) (space : CapSpaceId)
    (link : Option GlobalCapId) (allowed : Capability → Prop)
    (outcome : Outcome (CapTables N M) CapTableError CapId) : Prop :=
  (∃ error, outcome = .err error tables) ∨
    ∃ id cap vacant fits final, allowed cap ∧ outcome = .ok id final ∧
      Represents final (forest.insert { space, cap := id } cap link vacant fits)

theorem Inserts.wf {tables final : CapTables N M} {forest : CapForest}
    {space : CapSpaceId} {link : Option GlobalCapId} {allowed : Capability → Prop}
    {outcome : Outcome (CapTables N M) CapTableError CapId}
    (inserts : Inserts tables forest space link allowed outcome)
    (represents : tables.Represents forest)
    (ended : outcome.state? = some final) : final.Wf := by
  rcases inserts with ⟨error, rfl⟩ | ⟨id, cap, vacant, fits, later, _, rfl, stored⟩
  · obtain rfl : tables = final := by simpa using ended
    exact ⟨forest, represents⟩
  · obtain rfl : later = final := by simpa using ended
    exact ⟨_, stored⟩

/-- A slot is as it was, or it is the one that was filled. -/
theorem Inserts.slot {tables final : CapTables N M} {forest : CapForest}
    {space : CapSpaceId} {link : Option GlobalCapId} {allowed : Capability → Prop}
    {outcome : Outcome (CapTables N M) CapTableError CapId}
    (inserts : Inserts tables forest space link allowed outcome)
    (represents : tables.Represents forest)
    (ended : outcome.state? = some final) (id : GlobalCapId) :
    (final.lookup id = tables.lookup id ∧ final.parentOf id = tables.parentOf id) ∨
      id.space = space ∧ tables.lookup id = none ∧ final.parentOf id = link ∧
        ∃ cap, final.lookup id = some cap ∧ allowed cap := by
  rcases inserts with ⟨error, rfl⟩ | ⟨fresh, cap, vacant, fits, later, isAllowed, rfl, stored⟩
  · obtain rfl : tables = final := by simpa using ended
    exact Or.inl ⟨rfl, rfl⟩
  · obtain rfl : later = final := by simpa using ended
    rw [stored.lookup, stored.parentOf, forest.node_insert, forest.parent_insert,
      represents.lookup, represents.parentOf]
    by_cases same : id = { space, cap := fresh }
    · rw [if_pos same, if_pos same, same]
      exact Or.inr ⟨rfl, vacant, rfl, cap, rfl, isAllowed⟩
    · rw [if_neg same, if_neg same]
      exact Or.inl ⟨rfl, rfl⟩

theorem insertRoot (represents : tables.Represents forest) {space : CapSpaceId}
    {table : CapTable N} (present : tables.get? space = some table)
    (cap : Capability) :
    Inserts tables forest space none (· = cap)
      (onTable space (CapTable.insertRoot cap) tables) := by
  have wf : table.Wf := represents.wf space table present
  rcases CapTable.insertRoot_run wf cap with ⟨_, failed⟩ | ⟨id, head, ran⟩
  · exact Or.inl ⟨.full, onTable_of_err present failed⟩
  · obtain ⟨vacant, stored⟩ :=
      represents.occupy present head (forest.fits_root cap)
    exact Or.inr ⟨id, cap, vacant, _, _, rfl, onTable_of_ok present ran, stored⟩

theorem insertDerived (represents : tables.Represents forest) {space : CapSpaceId}
    {table : CapTable N} (present : tables.get? space = some table)
    {parentCap : Capability} {link : GlobalCapId}
    (parent : tables.lookup link = some parentCap)
    (rights : CapabilityRights) (badge : Nat) :
    Inserts tables forest space (some link) (DerivedFromSlot tables link)
      (onTable space (CapTable.insertDerived parentCap link rights badge) tables) := by
  have wf : table.Wf := represents.wf space table present
  rcases CapTable.insertDerived_run wf parentCap link rights badge with
    ⟨error, failed⟩ | ⟨id, cap, head, derived, ran⟩
  · exact Or.inl ⟨error, onTable_of_err present failed⟩
  · have fits : forest.Fits cap (some link) := by
      rintro upper ⟨⟩
      exact ⟨parentCap, by rw [← represents.lookup, parent], derived⟩
    obtain ⟨vacant, stored⟩ := represents.occupy present head fits
    exact Or.inr ⟨id, cap, vacant, fits, _, ⟨parentCap, parent, derived⟩,
      onTable_of_ok present ran, stored⟩

theorem deriveChild (represents : tables.Represents forest) {space : CapSpaceId}
    {table : CapTable N} (present : tables.get? space = some table)
    (parent : CapId) (rights : CapabilityRights) (badge : Nat) :
    Inserts tables forest space (some { space, cap := parent })
      (DerivedFromSlot tables { space, cap := parent })
      (onTable space (CapTable.deriveChild parent rights badge) tables) := by
  cases held : table.lookup parent with
  | none =>
      refine Or.inl ⟨.emptySlot, onTable_of_err present ?_⟩
      simp [CapTable.deriveChild, held]
  | some parentCap =>
      have same : CapTable.deriveChild parent rights badge table =
          CapTable.insertDerived parentCap { space, cap := parent } rights badge
            table := by
        simp [CapTable.deriveChild, held, represents.stamped space table present]
      have inserts :=
        represents.insertDerived present
          ((lookup_of_get? present parent).trans held) rights badge
      simpa only [onTable, Exec.get_bind_run, present, Exec.expect_some,
        Exec.pure_bind_run, Exec.zoom, same] using inserts

theorem deriveChildCrossSpace (represents : tables.Represents forest)
    {src dst : CapSpaceId} {srcTable table : CapTable N}
    (srcPresent : tables.get? src = some srcTable)
    (present : tables.get? dst = some table)
    (parent : CapId) (rights : CapabilityRights) (badge : Nat) :
    Inserts tables forest dst (some { space := src, cap := parent })
      (DerivedFromSlot tables { space := src, cap := parent })
      (onTable dst
        (CapTable.deriveChildCrossSpace srcTable src parent rights badge) tables) := by
  cases held : srcTable.lookup parent with
  | none =>
      refine Or.inl ⟨.emptySlot, onTable_of_err present ?_⟩
      simp [CapTable.deriveChildCrossSpace, held]
  | some parentCap =>
      have same : CapTable.deriveChildCrossSpace srcTable src parent rights badge =
          (CapTable.insertDerived parentCap { space := src, cap := parent } rights
            badge : Exec (CapTable N) CapTableError CapId) := by
        funext state
        simp [CapTable.deriveChildCrossSpace, held]
      rw [same]
      exact represents.insertDerived present
        ((lookup_of_get? srcPresent parent).trans held) rights badge

end Represents

end CapTables

end Simurgh
