import Simurgh.Core.Effect

/-!
# The creation loop of `Retype`

Each round adds one object to one table and one root capability to the caller's
space.  A round that fails keeps what it did before it failed.
-/

namespace Simurgh

namespace KernelState

variable {csId : CapSpaceId} {targetType : KernelObjectType} {grant : RetypeGrant}
variable {before middle after : KernelState}

/-! ## Composing rounds -/

theorem Creates.refl (csId : CapSpaceId) (targetType : KernelObjectType)
    (grant : RetypeGrant) (state : KernelState) :
    Creates csId targetType grant state state where
  frame := rfl

theorem Creates.hasObject (creates : Creates csId targetType grant before after)
    {object : ObjectRef} (present : before.hasObject object = true) :
    after.hasObject object = true := by
  have mmio : after.mmioRegions = before.mmioRegions := by rw [creates.frame]
  unfold KernelState.hasObject at *
  cases kind : object.kind with
  | untypedMemory => exact creates.untyped.isSome_get? (by simpa [kind] using present)
  | pageTable => exact creates.addrSpaces.isSome_get? (by simpa [kind] using present)
  | threadControlBlock => exact creates.tcbs.isSome_get? (by simpa [kind] using present)
  | endpoint => exact creates.endpoints.isSome_get? (by simpa [kind] using present)
  | notification => exact creates.notifications.isSome_get? (by simpa [kind] using present)
  | capabilitySpace => exact creates.tables object.id (by simpa [kind] using present)
  | sharedRegion => exact creates.sharedRegions.isSome_get? (by simpa [kind] using present)
  | mmioRegion =>
      rw [mmio]
      simpa [kind] using present

theorem NewCap.later {id : GlobalCapId}
    (newCap : NewCap csId targetType before middle id)
    (creates : Creates csId targetType grant middle after)
    (kept : after.capSpaces.lookup id = middle.capSpaces.lookup id ∧
      after.capSpaces.parentOf id = middle.capSpaces.parentOf id) :
    NewCap csId targetType before after id := by
  obtain ⟨inSpace, vacant, root, object, held, kind, absent, present⟩ := newCap
  exact ⟨inSpace, vacant, kept.2.trans root, object, kept.1.trans held, kind, absent,
    creates.hasObject present⟩

theorem NewCap.earlier {id : GlobalCapId}
    (creates : Creates csId targetType grant before middle)
    (kept : middle.capSpaces.lookup id = before.capSpaces.lookup id)
    (newCap : NewCap csId targetType middle after id) :
    NewCap csId targetType before after id := by
  obtain ⟨inSpace, vacant, root, object, held, kind, absent, present⟩ := newCap
  refine ⟨inSpace, kept ▸ vacant, root, object, held, kind, ?_, present⟩
  by_contra there
  rw [Bool.not_eq_false] at there
  rw [creates.hasObject there] at absent
  simp at absent

theorem Creates.trans (first : Creates csId targetType grant before middle)
    (second : Creates csId targetType grant middle after) :
    Creates csId targetType grant before after where
  frame := by
    rw [second.frame, first.frame]
  untyped := first.untyped.trans second.untyped
  addrSpaces := first.addrSpaces.trans second.addrSpaces
  endpoints := first.endpoints.trans second.endpoints
  notifications := first.notifications.trans second.notifications
  sharedRegions := first.sharedRegions.trans second.sharedRegions
  tcbs := first.tcbs.trans second.tcbs
  spaces := by
    intro space ne
    rcases first.spaces space ne with same | ⟨absent, created⟩
    · rw [← same]
      exact second.spaces space ne
    · rcases second.spaces space ne with same | ⟨stillAbsent, _⟩
      · exact Or.inr ⟨absent, same.trans created⟩
      · rw [created] at stillAbsent
        simp at stillAbsent
  tables := fun space present => second.tables space (first.tables space present)
  caps := by
    intro wf
    obtain ⟨middleWf, firstCaps⟩ := first.caps wf
    obtain ⟨afterWf, secondCaps⟩ := second.caps middleWf
    refine ⟨afterWf, fun id => ?_⟩
    rcases firstCaps id with kept | newCap
    · rcases secondCaps id with keptAgain | newCap
      · exact Or.inl ⟨keptAgain.1.trans kept.1, keptAgain.2.trans kept.2⟩
      · exact Or.inr (newCap.earlier first kept.1)
    · rcases secondCaps id with keptAgain | ⟨_, vacant, _⟩
      · exact Or.inr (newCap.later second keptAgain)
      · obtain ⟨_, _, _, object, held, _⟩ := newCap
        rw [held] at vacant
        simp at vacant

/-! ## One object -/

/-- A new object of the type that was asked for, in the page `phys`. -/
structure Allocates (csId : CapSpaceId) (targetType : KernelObjectType)
    (grant : RetypeGrant) (phys : Nat) (before after : KernelState) (object : ObjectRef) :
    Prop where
  creates : Creates csId targetType grant before after
  kind : object.kind = targetType.asObjectKind
  absent : before.hasObject object = false
  present : after.hasObject object = true
  caps : ∀ id, after.capSpaces.lookup id = before.capSpaces.lookup id ∧
    after.capSpaces.parentOf id = before.capSpaces.parentOf id
  region : Slab.NewAt UntypedMemory.base phys before.untyped after.untyped := by
    exact .refl ..
  root : Slab.NewAt AddressSpace.rootPhys phys before.addrSpaces after.addrSpaces := by
    exact .refl ..
  tables : ∀ space table, before.capSpaces.get? space = some table →
    after.capSpaces.get? space = some table

/-- Either the table is full, or an object was put into it. -/
private theorem allocIn_object {α : Type} {n : Nat} {table : KernelState → Slab α n}
    {store : Slab α n → KernelState → KernelState} {make : Nat → α}
    {kind : KernelObjectKind} {outcome : Outcome KernelState SyscallError ObjectRef}
    (ran : (do
      let created ← allocIn table store make
      let id ← Exec.okOr .objectTableFull created
      return { kind, id } : Exec KernelState SyscallError ObjectRef) before = outcome) :
    outcome = .err .objectTableFull before ∨
      ∃ id objects, (table before).insert make = some (id, objects) ∧
        outcome = .ok { kind, id } (store objects before) := by
  rw [← ran]
  cases inserted : (table before).insert make with
  | none => exact Or.inl (by simp [allocIn, Exec.bind_run, inserted])
  | some created =>
      obtain ⟨id, objects⟩ := created
      exact Or.inr ⟨id, objects, rfl, by simp [allocIn, Exec.bind_run, inserted]⟩

private theorem isSome_of_insert {α : Type} {n id : Nat} {old new : Slab α n}
    {make : Nat → α} (inserted : old.insert make = some (id, new)) :
    (old.get? id).isSome = false ∧ (new.get? id).isSome = true := by
  refine ⟨by simp [(Slab.insert_spec inserted).2.1], ?_⟩
  rw [Slab.get?_of_insert inserted, if_pos rfl]
  rfl

/-- A new capability space takes no capability away. -/
theorem newSpace_caps {tables later : CapTables capSlotsPerSpace maxCapSpaces}
    {space : CapSpaceId} (inserted : tables.insert CapTable.new = some (space, later))
    (id : GlobalCapId) :
    later.lookup id = tables.lookup id ∧ later.parentOf id = tables.parentOf id := by
  have absent : tables.get? space = none := (Slab.insert_spec inserted).2.1
  unfold CapTables.lookup CapTables.parentOf
  rw [Slab.get?_of_insert inserted]
  by_cases same : space = id.space
  · rw [if_pos same, ← same, absent]
    simp
  · rw [if_neg same]
    exact ⟨rfl, rfl⟩

private theorem newSpace_creates
    {later : CapTables capSlotsPerSpace maxCapSpaces} {space : CapSpaceId}
    (inserted : before.capSpaces.insert CapTable.new = some (space, later)) :
    Creates csId targetType grant before { before with capSpaces := later } where
  frame := rfl
  spaces := by
    intro other _
    change later.get? other = _ ∨ _ ∧ later.get? other = _
    rw [Slab.get?_of_insert inserted]
    by_cases same : space = other
    · rw [if_pos same, ← same]
      exact Or.inr ⟨(Slab.insert_spec inserted).2.1, rfl⟩
    · exact Or.inl (if_neg same)
  tables := by
    intro other present
    obtain ⟨table, there⟩ := Option.isSome_iff_exists.1 present
    change (later.get? other).isSome
    rw [Slab.get?_of_insert_of_some inserted there]
    rfl
  caps := by
    rintro ⟨forest, represents⟩
    obtain ⟨_, absent, stored⟩ := Slab.insert_spec inserted
    refine ⟨⟨forest, ?_⟩, fun id => Or.inl (newSpace_caps inserted id)⟩
    change later.Represents forest
    rw [stored]
    exact represents.create absent

/-- `allocObject` fails without any change, or it adds one object. -/
theorem allocObject_spec {phys : Nat} (page : grant.Page phys) (caller : ThreadId)
    (csId : CapSpaceId) (before : KernelState) :
    (∃ error, allocObject caller targetType phys before = .err error before) ∨
      ∃ object after,
        allocObject caller targetType phys before = .ok object after ∧
          Allocates csId targetType grant phys before after object := by
  cases targetType with
  | untyped =>
      rcases allocIn_object rfl with failed | ⟨id, objects, inserted, ran⟩
      · exact Or.inl ⟨_, failed⟩
      · obtain ⟨absent, present⟩ := isSome_of_insert inserted
        refine Or.inr ⟨_, _, ran, ?_, rfl, absent, present, fun _ => ⟨rfl, rfl⟩,
          .of_insert inserted rfl, .refl .., fun _ _ there => there⟩
        exact { frame := rfl, untyped := .of_insert inserted ⟨rfl, phys, page, rfl⟩ }
  | pageTable =>
      rcases allocIn_object rfl with failed | ⟨id, objects, inserted, ran⟩
      · exact Or.inl ⟨_, failed⟩
      · obtain ⟨absent, present⟩ := isSome_of_insert inserted
        refine Or.inr ⟨_, _, ran, ?_, rfl, absent, present, fun _ => ⟨rfl, rfl⟩, .refl ..,
          .of_insert inserted rfl, fun _ _ there => there⟩
        exact { frame := rfl, addrSpaces := .of_insert inserted ⟨rfl, phys, page, rfl⟩ }
  | threadControlBlock =>
      cases found : before.tcb caller with
      | none =>
          refine Or.inl ⟨.noCaller, ?_⟩
          simp [allocObject, Exec.bind_run, found]
      | some tcb =>
          have same : allocObject caller .threadControlBlock phys before =
              (do
                let created ← allocTcb tcb.capSpace tcb.addrSpace
                let id ← Exec.okOr .objectTableFull created
                return { kind := .threadControlBlock, id } :
                Exec KernelState SyscallError ObjectRef) before := by
            simp [allocObject, Exec.bind_run, found, KernelObjectType.asObjectKind]
          rw [same]
          rcases allocIn_object rfl with
            failed | ⟨id, objects, inserted, ran⟩
          · exact Or.inl ⟨_, failed⟩
          · obtain ⟨absent, present⟩ := isSome_of_insert inserted
            refine Or.inr ⟨_, _, ran, ?_, rfl, absent, present, fun _ => ⟨rfl, rfl⟩,
              .refl .., .refl .., fun _ _ there => there⟩
            exact { frame := rfl, tcbs := .of_insert inserted ⟨_, _, rfl⟩ }
  | endpoint =>
      rcases allocIn_object rfl with failed | ⟨id, objects, inserted, ran⟩
      · exact Or.inl ⟨_, failed⟩
      · obtain ⟨absent, present⟩ := isSome_of_insert inserted
        refine Or.inr ⟨_, _, ran, ?_, rfl, absent, present, fun _ => ⟨rfl, rfl⟩,
          .refl .., .refl .., fun _ _ there => there⟩
        exact { frame := rfl, endpoints := .of_insert inserted rfl }
  | notification =>
      rcases allocIn_object rfl with failed | ⟨id, objects, inserted, ran⟩
      · exact Or.inl ⟨_, failed⟩
      · obtain ⟨absent, present⟩ := isSome_of_insert inserted
        refine Or.inr ⟨_, _, ran, ?_, rfl, absent, present, fun _ => ⟨rfl, rfl⟩,
          .refl .., .refl .., fun _ _ there => there⟩
        exact { frame := rfl, notifications := .of_insert inserted rfl }
  | capabilitySpace =>
      rcases allocIn_object rfl with failed | ⟨id, objects, inserted, ran⟩
      · exact Or.inl ⟨_, failed⟩
      · obtain ⟨absent, present⟩ := isSome_of_insert inserted
        exact Or.inr ⟨_, _, ran, newSpace_creates inserted, rfl, absent, present,
          newSpace_caps inserted, .refl .., .refl ..,
          fun _ _ => Slab.get?_of_insert_of_some inserted⟩
  | sharedRegion =>
      rcases allocIn_object rfl with failed | ⟨id, objects, inserted, ran⟩
      · exact Or.inl ⟨_, failed⟩
      · obtain ⟨absent, present⟩ := isSome_of_insert inserted
        refine Or.inr ⟨_, _, ran, ?_, rfl, absent, present, fun _ => ⟨rfl, rfl⟩,
          .refl .., .refl .., fun _ _ there => there⟩
        exact { frame := rfl, sharedRegions := .of_insert inserted trivial }

/-! ## One capability -/

/-- Calls on tables that exist leave the set of objects as it is. -/
theorem hasObject_withTables {state : KernelState}
    {tables : CapTables capSlotsPerSpace maxCapSpaces}
    (kept : ∀ space, (tables.get? space).isSome = (state.capSpaces.get? space).isSome)
    (object : ObjectRef) :
    { state with capSpaces := tables }.hasObject object = state.hasObject object := by
  unfold KernelState.hasObject
  cases object.kind with
  | capabilitySpace => exact kept object.id
  | _ => rfl

/-- So does updating a thread's record. -/
theorem hasObject_updateTcb (id : ThreadId) (update : Tcb → Tcb) (state : KernelState)
    (object : ObjectRef) :
    (state.updateTcb id update).hasObject object = state.hasObject object := by
  have thread : ∀ other,
      ((state.updateTcb id update).tcbs.get? other).isSome =
        (state.tcbs.get? other).isSome := by
    intro other
    change ((state.updateTcb id update).tcb other).isSome = (state.tcb other).isSome
    rw [tcb_updateTcb]
    split
    · simp
    · rfl
  unfold KernelState.hasObject
  cases object.kind with
  | threadControlBlock => exact thread object.id
  | _ =>
      rw [updateTcb_frame]

/-- Inserting a capability changes nothing but the table of its space. -/
theorem insertNewCap_frame {object : ObjectRef}
    (ended : (insertNewCap csId object before).state? = some after) :
    after = before ∨
      ∃ tables, after = { before with capSpaces := tables } ∧
        (CapTables.onTable csId (CapTable.insertRoot (.full object))
          before.capSpaces).state? = some tables := by
  unfold insertNewCap at ended
  rw [Exec.get_bind_run] at ended
  rcases Exec.bind_state.1 ended with ⟨error, failed⟩ | ⟨table, later, found, ran⟩
  · exact Or.inl (Exec.Reads.okOr _ _ before after (by rw [failed]; rfl))
  · obtain ⟨_, rfl⟩ := Exec.okOr_eq_ok.1 found
    obtain ⟨tables, inner, rfl⟩ := Exec.zoom_state.1 ran
    exact Or.inr ⟨tables, rfl, inner⟩

/-- A new object and the attempt to store a capability to it. -/
theorem Allocates.insertNewCap {object : ObjectRef} {phys : Nat}
    (allocates : Allocates csId targetType grant phys before middle object)
    (ended : (insertNewCap csId object middle).state? = some after) :
    Creates csId targetType grant before after := by
  rcases insertNewCap_frame ended with rfl | ⟨tables, rfl, inserted⟩
  · exact allocates.creates
  · have creates := allocates.creates
    have framed := CapTables.onTable_frame inserted
    refine {
      frame := ?_, untyped := creates.untyped, addrSpaces := creates.addrSpaces
      endpoints := creates.endpoints, notifications := creates.notifications
      sharedRegions := creates.sharedRegions, tcbs := creates.tcbs
      spaces := ?_, tables := ?_, caps := ?_ }
    · rw [creates.frame]
    · intro space ne
      change tables.get? space = _ ∨ _ ∧ tables.get? space = _
      rw [(framed space).1 ne]
      exact creates.spaces space ne
    · intro space present
      change (tables.get? space).isSome
      rw [(framed space).2]
      exact creates.tables space present
    · intro wf
      obtain ⟨⟨forest, represents⟩, _⟩ := creates.caps wf
      cases present : middle.capSpaces.get? csId with
      | none =>
          rw [CapTables.onTable_of_none _ present] at inserted
          simp at inserted
      | some table =>
          have inserts := represents.insertRoot present (.full object)
          refine ⟨inserts.wf represents inserted, fun id => ?_⟩
          obtain ⟨lookups, parents⟩ := allocates.caps id
          rcases inserts.slot represents inserted id with
            ⟨sameLookup, sameParent⟩ | ⟨inSpace, vacant, root, cap, held, rfl⟩
          · exact Or.inl ⟨sameLookup.trans lookups, sameParent.trans parents⟩
          · exact Or.inr ⟨inSpace, lookups ▸ vacant, root, object, held,
              allocates.kind, allocates.absent,
              (hasObject_withTables (fun space => (framed space).2) object).trans
                allocates.present⟩

/-! ## The loop -/

/-- Storing a capability touches neither regions nor address spaces. -/
theorem insertNewCap_memory {object : ObjectRef}
    (ended : (insertNewCap csId object before).state? = some after) :
    after.untyped = before.untyped ∧ after.addrSpaces = before.addrSpaces := by
  rcases insertNewCap_frame ended with rfl | ⟨tables, rfl, _⟩
  · exact ⟨rfl, rfl⟩
  · exact ⟨rfl, rfl⟩

/-- The loop creates objects in the granted pages only, however it ends. -/
theorem createObjects_creates {caller : ThreadId} {i remaining : Nat}
    (bounded : i + remaining ≤ grant.count) {first : Option CapId}
    (ended : (createObjects caller csId targetType grant.physBase i remaining first
      before).state? = some after) :
    Creates csId targetType grant before after := by
  induction remaining generalizing i first before with
  | zero =>
      obtain rfl : before = after := by simpa [createObjects] using ended
      exact Creates.refl ..
  | succ remaining ih =>
      have page : grant.Page (grant.physBase + i * objectSizeBytes targetType) :=
        ⟨i, by omega, by rw [objectSizeBytes_eq]⟩
      rw [createObjects] at ended
      rcases allocObject_spec page caller csId before with
        ⟨error, failed⟩ | ⟨object, middle, ran, allocates⟩
      · rw [Exec.bind_of_err failed] at ended
        obtain rfl : before = after := by simpa using ended
        exact Creates.refl ..
      · rw [Exec.bind_of_ok ran] at ended
        rcases Exec.bind_state.1 ended with ⟨error, failed⟩ | ⟨slot, later, stored, rest⟩
        · exact allocates.insertNewCap (by rw [failed]; rfl)
        · have round : Creates csId targetType grant before later :=
            allocates.insertNewCap (by rw [stored]; rfl)
          exact round.trans (ih (by omega) rest)

/-- The loop puts different objects into different pages. -/
theorem createObjects_newFrom {caller : ThreadId} {physBase i remaining : Nat}
    {first : Option CapId}
    (ended : (createObjects caller csId targetType physBase i remaining first
      before).state? = some after) :
    Slab.NewFrom UntypedMemory.base (physBase + i * pageSize) before.untyped
        after.untyped ∧
      Slab.NewFrom AddressSpace.rootPhys (physBase + i * pageSize) before.addrSpaces
        after.addrSpaces := by
  induction remaining generalizing i first before with
  | zero =>
      obtain rfl : before = after := by simpa [createObjects] using ended
      exact ⟨.refl .., .refl ..⟩
  | succ remaining ih =>
      let grant : RetypeGrant :=
        { kind := targetType, count := i + remaining + 1, physBase, physLen := 0 }
      have page : grant.Page (physBase + i * pageSize) :=
        ⟨i, by change i < i + remaining + 1; omega, rfl⟩
      have below : physBase + i * pageSize < physBase + (i + 1) * pageSize := by
        unfold pageSize
        omega
      rw [createObjects, objectSizeBytes_eq] at ended
      rcases allocObject_spec page caller csId before with
        ⟨error, failed⟩ | ⟨object, middle, ran, allocates⟩
      · rw [Exec.bind_of_err failed] at ended
        obtain rfl : before = after := by simpa using ended
        exact ⟨.refl .., .refl ..⟩
      · rw [Exec.bind_of_ok ran] at ended
        rcases Exec.bind_state.1 ended with ⟨error, failed⟩ | ⟨slot, later, stored, rest⟩
        · obtain ⟨untyped, addrSpaces⟩ := insertNewCap_memory (by rw [failed]; rfl)
          rw [untyped, addrSpaces]
          exact ⟨allocates.region.newFrom below (.refl ..) fun _ _ => id,
            allocates.root.newFrom below (.refl ..) fun _ _ => id⟩
        · obtain ⟨untyped, addrSpaces⟩ := insertNewCap_memory (by rw [stored]; rfl)
          obtain ⟨regions, roots⟩ := ih rest
          have bounded : i + 1 + remaining ≤ grant.count := by
            change _ ≤ i + remaining + 1
            omega
          have grown := createObjects_creates bounded rest
          have regionRound := allocates.region
          have rootRound := allocates.root
          rw [← untyped] at regionRound
          rw [← addrSpaces] at rootRound
          exact ⟨regionRound.newFrom below regions fun _ _ => grown.untyped.get?_of_some,
            rootRound.newFrom below roots fun _ _ => grown.addrSpaces.get?_of_some⟩

theorem createObjects_newPages {caller : ThreadId} {physBase count : Nat}
    {first : Option CapId}
    (ended : (createObjects caller csId targetType physBase 0 count first
      before).state? = some after) : NewPages before after :=
  ⟨(createObjects_newFrom ended).1.distinct, (createObjects_newFrom ended).2.distinct⟩

end KernelState

end Simurgh
