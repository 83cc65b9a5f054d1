import Simurgh.Core.Room

/-!
# Rights over memory

Rights only get fewer along the derivation of a capability.  `Retype` makes new
capabilities to old memory, and gives them every right.  What a capability space can
do with a frame stays within its rights exactly as long as no `Retype` widens them.
-/

namespace Simurgh

/-- Objects of this type stand for memory that can be mapped or retyped, or that the
hardware walks. -/
def KernelObjectType.hasMemory : KernelObjectType → Bool
  | .untyped | .pageTable | .sharedRegion => true
  | _ => false

namespace KernelState

/-! ## Memory of an object -/

/-- The physical memory that an object stands for. -/
def memoryOf (state : KernelState) (object : ObjectRef) : Option Span :=
  match object.kind with
  | .untypedMemory => (state.untyped.get? object.id).map fun region =>
      ⟨region.base, region.base + region.sizeBytes⟩
  | .pageTable => (state.addrSpaces.get? object.id).map fun space =>
      pageSpan space.rootPhys
  | .sharedRegion => (state.sharedRegions.get? object.id).map fun region =>
      ⟨region.physBase, region.physBase + region.size⟩
  | .mmioRegion => (state.mmioRegions.get? object.id).map fun descriptor =>
      ⟨descriptor.physBase, descriptor.physBase + descriptor.size⟩
  | _ => none

/-- The object's memory has the whole frame. -/
def Covers (state : KernelState) (object : ObjectRef) (frame : Nat) : Prop :=
  ∃ span, state.memoryOf object = some span ∧ (pageSpan frame).Within span

/-- No capability of the space carries the rights over an object that covers the
frame. -/
def Withholds (state : KernelState) (csId : CapSpaceId) (needed : CapabilityRights)
    (frame : Nat) : Prop :=
  ∀ cap held, state.capSpaces.lookup { space := csId, cap } = some held →
    held.allows needed = true → ¬ state.Covers held.object frame

/-- The call makes an object of the frame, with a capability to it, through a
capability that lacks the rights. -/
def Amplifies (state : KernelState) (caller : ThreadId) (needed : CapabilityRights)
    (frame : Nat) : SyscallOp → Prop
  | .retype untyped targetType count =>
      targetType.hasMemory = true ∧
        ∃ held grant i, state.lookupCap caller untyped = .ok held ∧
          held.allows needed = false ∧
          state.reserves caller (.retype untyped targetType count) = some grant ∧
          i < grant.count ∧ frame = grant.physBase + i * pageSize ∧
          state.HasRoomFor caller targetType (i + 1)
  | _ => False

/-! ## Steps that confine -/

variable {caller : ThreadId} {nowNs : Nat} {csId : CapSpaceId} {frame : Nat}
variable {needed : CapabilityRights} {targetType : KernelObjectType}
variable {state before middle after : KernelState}

/-- Objects keep their memory and the space gets no new capability. -/
structure Confines (csId : CapSpaceId) (before after : KernelState) : Prop where
  memory : ∀ object, before.hasObject object = true →
    after.memoryOf object = before.memoryOf object
  caps : before.Named → ∀ cap held,
    after.capSpaces.lookup { space := csId, cap } = some held →
      before.capSpaces.lookup { space := csId, cap } = some held

theorem Withholds.confines (withholds : before.Withholds csId needed frame)
    (named : before.Named) (confines : Confines csId before after) :
    after.Withholds csId needed frame := by
  intro cap held present allowed
  have old := confines.caps named cap held present
  have same := confines.memory held.object (named.objects _ held old)
  have absent := withholds cap held old allowed
  unfold Covers at *
  rwa [same]

theorem Confines.of_same (capSpaces : after.capSpaces = before.capSpaces)
    (untyped : after.untyped = before.untyped)
    (addrSpaces : after.addrSpaces = before.addrSpaces)
    (sharedRegions : after.sharedRegions = before.sharedRegions)
    (mmioRegions : after.mmioRegions = before.mmioRegions) : Confines csId before after where
  memory := by
    intro object _
    unfold memoryOf
    rw [untyped, addrSpaces, sharedRegions, mmioRegions]
  caps := by
    intro _ cap held present
    rwa [capSpaces] at present

/-- Calls on the tables leave memory alone. -/
theorem Confines.of_tables {tables : CapTables capSlotsPerSpace maxCapSpaces}
    (caps : before.Named → ∀ cap held,
      tables.lookup { space := csId, cap } = some held →
        before.capSpaces.lookup { space := csId, cap } = some held) :
    Confines csId before { before with capSpaces := tables } where
  memory := fun _ _ => rfl
  caps := caps

theorem Confines.ipc {eid : EndpointId} {endpoint : KEndpoint} {threads : List ThreadId}
    (only : OnlyThreads threads (before.putEndpoint eid endpoint) after) :
    Confines csId before after := by
  refine .of_same ?_ ?_ ?_ ?_ ?_ <;> rw [only.frame] <;> rfl

/-- A new root is no part of a mapping. -/
theorem putAddrSpace_confines {asId : PageTableId} {old new : RootAddressSpace}
    (present : before.addrSpaces.get? asId = some old) (root : new.rootPhys = old.rootPhys) :
    Confines csId before (before.putAddrSpace asId new) where
  memory := by
    intro object _
    unfold memoryOf putAddrSpace
    cases object.kind with
    | pageTable =>
        simp only
        rw [Slab.get?_put_of_some present]
        by_cases same : asId = object.id
        · rw [if_pos same, ← same, present, Option.map_some, Option.map_some, root]
        · rw [if_neg same]
    | _ => rfl
  caps := fun _ _ _ present => present

theorem Effect.confines {op : SyscallOp} {next : Option ThreadId}
    (effect : Effect caller nowNs before op next after)
    (space : before.callerCapSpace caller = .ok csId)
    (notRetype : ∀ untyped targetType count, op ≠ .retype untyped targetType count) :
    Confines csId before after := by
  cases effect with
  | unchanged => exact .of_same rfl rfl rfl rfl rfl
  | yielded => exact .of_same rfl rfl rfl rfl rfl
  | revoked holds ran =>
      exact .of_tables fun named cap held present => named.of_revoke ran present
  | @granted other targetThread cap rights tid dstTcb kind id tables target found source
      ne ran =>
      obtain rfl : csId = other := Except.ok.inj (space.symm.trans target.space)
      refine .of_tables fun _ cap held present => ?_
      have same := CapTables.run_grant_frame ran ne
      unfold CapTables.lookup at *
      rwa [same] at present
  | retyped holds present reserved created newPages => exact absurd rfl (notRetype _ _ _)
  | mapped holds frameHeld allowed resolved present added used =>
      have stored : Confines csId before (before.putAddrSpace _ _) :=
        putAddrSpace_confines present (AddressSpace.map_ok added).rootPhys
      exact ⟨stored.memory, stored.caps⟩
  | rolledBack holds frameHeld allowed resolved present added removed =>
      have root := (AddressSpace.unmap_shrinks removed).1.trans
        (AddressSpace.map_ok added).rootPhys
      exact putAddrSpace_confines present root
  | sent holds present waiting => exact .ipc (onlyThreads_handOver ..)
  | called holds present waiting admitted final chosen =>
      rw [final]
      exact .ipc ((onlyThreads_handOver ..).trans (onlyThreads_block ..))
  | callStuck holds present waiting absent => exact .ipc (onlyThreads_handOver ..)
  | queued isSend holds present noReceiver final chosen =>
      rw [final]
      exact .ipc (onlyThreads_block ..)
  | received holds present waiting => exact .ipc (onlyThreads_release ..)
  | awaiting holds present noSender final chosen =>
      rw [final]
      exact .ipc (onlyThreads_block ..)
  | replied ne awaits admitted chosen =>
      refine .of_same ?_ ?_ ?_ ?_ ?_ <;> rw [storeReply, updateTcb_frame]
  | replyStuck ne awaits absent =>
      refine .of_same ?_ ?_ ?_ ?_ ?_ <;> rw [storeReply, updateTcb_frame]
  | signalled holds present => exact .of_same rfl rfl rfl rfl rfl
  | waiting holds present => exact .of_same rfl rfl rfl rfl rfl
  | taken isRead holds present => exact .of_same rfl rfl rfl rfl rfl
  | bound region found target =>
      refine .of_same ?_ ?_ ?_ ?_ ?_ <;> rw [bindIrq_frame]

/-! ## `Retype` -/

/-- The memory of a new object at `phys`. -/
def newMemory (targetType : KernelObjectType) (phys : Nat) : Option Span :=
  if targetType.hasMemory then some (pageSpan phys) else none

theorem Creates.memoryOf {grant : RetypeGrant}
    (creates : Creates csId targetType grant before after) {object : ObjectRef}
    (present : before.hasObject object = true) :
    after.memoryOf object = before.memoryOf object := by
  have kept : ∀ {α : Type} {n : Nat} {fresh : Nat → α → Prop} {old new : Slab α n},
      old.GrowsBy fresh new → (old.get? object.id).isSome →
        new.get? object.id = old.get? object.id := by
    intro α n fresh old new grows there
    obtain ⟨value, stored⟩ := Option.isSome_iff_exists.1 there
    rw [grows.get?_of_some stored, stored]
  unfold KernelState.memoryOf
  unfold KernelState.hasObject at present
  cases kind : object.kind with
  | untypedMemory => simp only [kept creates.untyped (by simpa [kind] using present)]
  | pageTable => simp only [kept creates.addrSpaces (by simpa [kind] using present)]
  | sharedRegion => simp only [kept creates.sharedRegions (by simpa [kind] using present)]
  | mmioRegion =>
      rw [creates.frame]
  | _ => rfl

private theorem allocIn_stored {α : Type} {n : Nat} {table : KernelState → Slab α n}
    {store : Slab α n → KernelState → KernelState} {make : Nat → α}
    {kind : KernelObjectKind} {object : ObjectRef}
    (ran : (do
      let created ← allocIn table store make
      let id ← Exec.okOr .objectTableFull created
      return { kind, id } : Exec KernelState SyscallError ObjectRef) before =
        .ok object after) :
    ∃ id objects, object = { kind, id } ∧ (table before).insert make = some (id, objects) ∧
      after = store objects before := by
  obtain ⟨created, middle, allocated, ran⟩ := Exec.bind_eq_ok.1 ran
  obtain ⟨id, final, found, ran⟩ := Exec.bind_eq_ok.1 ran
  obtain ⟨rfl, rfl⟩ := Exec.okOr_eq_ok.1 found
  obtain ⟨rfl, rfl⟩ := Outcome.ok.inj ran
  rcases allocIn_eq_ok allocated with ⟨absurdity, _⟩ | ⟨other, objects, same, inserted, stored⟩
  · simp at absurdity
  · obtain rfl := Option.some.inj same
    exact ⟨id, objects, rfl, inserted, stored⟩

/-- A new object has the page it was made of. -/
theorem allocObject_memoryOf {phys : Nat} {object : ObjectRef}
    (ran : allocObject caller targetType phys before = .ok object after) :
    after.memoryOf object = newMemory targetType phys := by
  have self : ∀ {α : Type} {n id : Nat} {old new : Slab α n} {make : Nat → α},
      old.insert make = some (id, new) → new.get? id = some (make id) := by
    intro α n id old new make inserted
    rw [Slab.get?_of_insert inserted, if_pos rfl]
  cases targetType with
  | threadControlBlock =>
      unfold allocObject at ran
      obtain ⟨state, _, _, ran⟩ := Exec.bind_eq_ok.1 ran
      obtain ⟨tcb, _, _, ran⟩ := Exec.bind_eq_ok.1 ran
      obtain ⟨id, objects, rfl, inserted, rfl⟩ := allocIn_stored ran
      rfl
  | untyped =>
      obtain ⟨id, objects, rfl, inserted, rfl⟩ := allocIn_stored ran
      simp [memoryOf, self inserted, newMemory, KernelObjectType.hasMemory,
        KernelObjectType.asObjectKind, UntypedMemory.new, pageSpan, objectSizeBytes]
  | pageTable =>
      obtain ⟨id, objects, rfl, inserted, rfl⟩ := allocIn_stored ran
      simp [memoryOf, self inserted, newMemory, KernelObjectType.hasMemory,
        KernelObjectType.asObjectKind, AddressSpace.new]
  | sharedRegion =>
      obtain ⟨id, objects, rfl, inserted, rfl⟩ := allocIn_stored ran
      simp [memoryOf, self inserted, newMemory, KernelObjectType.hasMemory,
        KernelObjectType.asObjectKind, pageSpan, objectSizeBytes]
  | endpoint =>
      obtain ⟨id, objects, rfl, inserted, rfl⟩ := allocIn_stored ran
      rfl
  | notification =>
      obtain ⟨id, objects, rfl, inserted, rfl⟩ := allocIn_stored ran
      rfl
  | capabilitySpace =>
      obtain ⟨id, objects, rfl, inserted, rfl⟩ := allocIn_stored ran
      rfl

/-- Storing a capability is no change to objects. -/
theorem insertNewCap_objects {object : ObjectRef}
    (ended : (insertNewCap csId object before).state? = some after) (other : ObjectRef) :
    after.hasObject other = before.hasObject other ∧
      after.memoryOf other = before.memoryOf other := by
  rcases insertNewCap_frame ended with rfl | ⟨tables, rfl, inserted⟩
  · exact ⟨rfl, rfl⟩
  · have framed := CapTables.onTable_frame inserted
    exact ⟨hasObject_withTables (fun space => (framed space).2) other, rfl⟩

/-- A stored capability is the only new one. -/
theorem insertNewCap_lookup (wf : before.capSpaces.Wf) {object : ObjectRef}
    (ended : (insertNewCap csId object before).state? = some after) (id : GlobalCapId) :
    after.capSpaces.lookup id = before.capSpaces.lookup id ∨
      after.capSpaces.lookup id = some (.full object) := by
  rcases insertNewCap_frame ended with rfl | ⟨tables, rfl, inserted⟩
  · exact Or.inl rfl
  · obtain ⟨forest, represents⟩ := wf
    cases present : before.capSpaces.get? csId with
    | none =>
        rw [CapTables.onTable_of_none _ present] at inserted
        simp at inserted
    | some table =>
        have inserts := represents.insertRoot present (.full object)
        rcases inserts.slot represents inserted id with
          ⟨same, _⟩ | ⟨_, _, _, new, stored, rfl⟩
        · exact Or.inl same
        · exact Or.inr stored

/-- A new capability of the loop names the object of a round that had room. -/
theorem createObjects_caps {physBase i remaining : Nat} {first : Option CapId}
    (creating : Creating caller csId before)
    (ended : (createObjects caller csId targetType physBase i remaining first
      before).state? = some after) {id : GlobalCapId} {held : Capability}
    (present : after.capSpaces.lookup id = some held) :
    before.capSpaces.lookup id = some held ∨
      ∃ j < remaining, j < before.vacancies targetType ∧ j < before.freeSlots csId ∧
        after.memoryOf held.object =
          newMemory targetType (physBase + (i + j) * pageSize) := by
  induction remaining generalizing i first before with
  | zero =>
      obtain rfl : before = after := by simpa [createObjects] using ended
      exact Or.inl present
  | succ remaining ih =>
      let grant : RetypeGrant :=
        { kind := targetType, count := i + remaining + 1, physBase, physLen := 0 }
      have page : grant.Page (physBase + i * pageSize) :=
        ⟨i, by change i < i + remaining + 1; omega, rfl⟩
      rw [createObjects, objectSizeBytes_eq] at ended
      rcases allocObject_vacancies creating (physBase + i * pageSize) with
        ⟨_, error, failed⟩ | ⟨object, middle, ran, fewer, kept⟩
      · rw [Exec.bind_of_err failed] at ended
        obtain rfl := Option.some.inj ended
        exact Or.inl present
      obtain ⟨creatingMiddle, sameSlots⟩ := creating.allocObject ran kept
      have unchanged : middle.capSpaces.lookup id = before.capSpaces.lookup id ∧
          middle.hasObject object = true := by
        rcases allocObject_spec page caller csId before with
          ⟨error, failed⟩ | ⟨other, same, succeeded, allocates⟩
        · rw [failed] at ran
          cases ran
        · rw [succeeded, Outcome.ok.injEq] at ran
          obtain ⟨rfl, rfl⟩ := ran
          exact ⟨(allocates.caps id).1, allocates.present⟩
      rw [Exec.bind_of_ok ran] at ended
      rcases insertNewCap_freeSlots creatingMiddle object with
        ⟨_, error, failed⟩ | ⟨slot, later, stored, fewerSlots, sameVacancies, creatingLater⟩
      · rw [Exec.bind_of_err failed] at ended
        obtain rfl := Option.some.inj ended
        exact Or.inl (unchanged.1 ▸ present)
      rw [Exec.bind_of_ok stored] at ended
      rw [← sameVacancies] at fewer
      have storing : (insertNewCap csId object middle).state? = some later := by
        rw [stored]
        rfl
      rcases ih creatingLater ended with old | ⟨j, inside, room, slots, memory⟩
      · rcases insertNewCap_lookup creatingMiddle.wf storing id with
          same | created
        · exact Or.inl (by rw [← unchanged.1, ← same, old])
        · obtain rfl : Capability.full object = held :=
            Option.some.inj (created.symm.trans old)
          refine Or.inr ⟨0, by omega, by omega, by omega, ?_⟩
          obtain ⟨exists', sameMemory⟩ := insertNewCap_objects storing object
          have bounded : i + 1 + remaining ≤ grant.count := by
            change _ ≤ i + remaining + 1
            omega
          have creates : Creates csId targetType grant later after :=
            createObjects_creates bounded ended
          calc
            after.memoryOf object = later.memoryOf object :=
              creates.memoryOf (exists'.trans unchanged.2)
            _ = middle.memoryOf object := sameMemory
            _ = newMemory targetType (physBase + (i + 0) * pageSize) :=
              allocObject_memoryOf ran
      · refine Or.inr ⟨j + 1, by omega, by omega, by omega, ?_⟩
        have same : i + 1 + j = i + (j + 1) := by omega
        rw [memory, same]

/-- Memory is handed out of what the region has. -/
theorem Covers.of_grant {uid : UntypedId} {region later : UntypedMemory}
    {grant : RetypeGrant} (present : before.untyped.get? uid = some region)
    (grants : UntypedMemory.Grants region later grant) (page : grant.Page frame) :
    before.Covers { kind := .untypedMemory, id := uid } frame := by
  refine ⟨⟨region.base, region.base + region.sizeBytes⟩, by simp [memoryOf, present], ?_⟩
  obtain ⟨lower, upper⟩ := page.within grants.length
  have above := grants.above
  have watermark := grants.watermark
  have inside := grants.inside
  have base := grants.base
  have size := grants.sizeBytes
  have start : grant.physBase ≤ frame := lower
  have stop : frame + pageSize ≤ grant.physBase + grant.physLen := upper
  unfold Span.Within pageSpan
  simp only
  omega

/-- What boot code adds takes no memory from what is there. -/
theorem Spawns.memoryOf (spawns : Spawns before after) {object : ObjectRef}
    (present : before.hasObject object = true) :
    after.memoryOf object = before.memoryOf object := by
  unfold KernelState.memoryOf
  unfold KernelState.hasObject at present
  cases kind : object.kind with
  | untypedMemory =>
      simp only
      rcases spawns.regions object.id with ⟨vacant, still⟩ | ⟨region, mark, there, later⟩
      · rw [vacant, still]
      · rw [there, later]
        rfl
  | pageTable =>
      simp only [kind] at present
      obtain ⟨space, there⟩ := Option.isSome_iff_exists.1 present
      simp only [spawns.addrSpaces.get?_of_some there, there]
  | _ => rw [spawns.frame]

/-- A watermark is no part of the memory. -/
theorem memoryOf_putUntyped {uid : UntypedId} {region later : UntypedMemory}
    {grant : RetypeGrant} (present : before.untyped.get? uid = some region)
    (grants : UntypedMemory.Grants region later grant) (object : ObjectRef) :
    (before.putUntyped uid later).memoryOf object = before.memoryOf object := by
  unfold memoryOf putUntyped
  cases object.kind with
  | untypedMemory =>
      simp only
      rw [Slab.get?_put_of_some present]
      by_cases same : uid = object.id
      · rw [if_pos same, ← same, present, Option.map_some, Option.map_some, grants.base,
          grants.sizeBytes]
      · rw [if_neg same]
  | _ => rfl

/-- Without amplification `Retype` makes no capability that was withheld. -/
theorem doRetype_withholds {untyped : CapId} {count : Nat} (named : before.Named)
    (space : before.callerCapSpace caller = .ok csId)
    (withholds : before.Withholds csId needed frame)
    (narrow : ¬ before.Amplifies caller needed frame (.retype untyped targetType count))
    (ended : (doRetype caller untyped targetType count before).state? = some after) :
    after.Withholds csId needed frame := by
  unfold doRetype at ended
  rcases reserveRange_spec caller untyped targetType count before with
    ⟨_, error, failed⟩ | panicked | ⟨other, uid, region, grant, later, holds, present, reserved, ran⟩
  · rw [Exec.bind_of_err failed] at ended
    exact Option.some.inj ended ▸ withholds
  · rw [Exec.bind_run, panicked] at ended
    simp at ended
  obtain rfl : csId = other := Except.ok.inj (space.symm.trans holds.space)
  have creating := Creating.of_reserved named holds later
  rw [Exec.bind_of_ok ran, Exec.get_bind_run, creating.space, Exec.ofExcept_ok,
    Exec.pure_bind_run] at ended
  have looped : (createObjects caller csId targetType grant.physBase 0 grant.count none
      (before.putUntyped uid later)).state? = some after := by
    rcases Exec.bind_state.1 ended with ⟨error, failed⟩ | ⟨first, final, made, rest⟩
    · rw [failed]
      rfl
    · have reads : (Exec.okOr (.mm .zeroCount) first >>= fun cap =>
          pure (.newCaps cap grant.count) :
          Exec KernelState SyscallError SyscallReturn).Reads :=
        (Exec.Reads.okOr _ _).bind fun _ => Exec.Reads.pure _
      rw [made, reads final after rest]
      rfl
  obtain ⟨_, sameCount, grants⟩ := UntypedMemory.retype_ok reserved
  have creates : Creates csId targetType grant (before.putUntyped uid later) after :=
    createObjects_creates (by omega) looped
  intro cap held stored allowed covers
  rcases createObjects_caps creating looped stored with old | ⟨j, inside, room, slots, memory⟩
  · have there := named.objects _ held old
    have same : after.memoryOf held.object = before.memoryOf held.object :=
      (creates.memoryOf ((hasObject_putUntyped present later held.object).trans there)).trans
        (memoryOf_putUntyped present grants held.object)
    refine withholds cap held old allowed ?_
    unfold Covers at *
    rwa [same] at covers
  · obtain ⟨span, isSpan, within⟩ := covers
    rw [memory, newMemory] at isSpan
    cases memoryKind : targetType.hasMemory with
    | false => simp [memoryKind] at isSpan
    | true =>
        rw [memoryKind, if_pos rfl, Option.some.injEq, Nat.zero_add] at isSpan
        obtain rfl : frame = grant.physBase + j * pageSize := by
          rw [← isSpan] at within
          obtain ⟨lower, upper⟩ := within
          have start : grant.physBase + j * pageSize ≤ frame := lower
          have stop : frame + pageSize ≤ grant.physBase + j * pageSize + pageSize := upper
          omega
        obtain ⟨used, found, object, _⟩ := holds.held
        cases right : used.allows needed with
        | true =>
            refine withholds untyped used found right ?_
            rw [object]
            exact .of_grant present grants ⟨j, inside, rfl⟩
        | false =>
            refine narrow ⟨memoryKind, used, grant, j, lookupCap_of_held space found, right, ?_,
              inside, rfl, ?_⟩
            · simp [reserves, holds.untypedAt, present, reserved]
            · rw [vacancies_putUntyped present] at room
              refine ⟨room, fun other there => ?_⟩
              obtain rfl : csId = other := Except.ok.inj (space.symm.trans there)
              exact slots

end KernelState

/-! ## Runs -/

namespace Machine

variable {μ : Type} (hal : HalInterface μ)

/-- Syscalls come from threads of the space and widen no rights over the frame, and no
boot code copies capabilities. -/
def Narrow (csId : CapSpaceId) (needed : CapabilityRights) (frame : Nat)
    (machine : Machine μ) : KernelEvent → Prop
  | .syscall caller op _ =>
      machine.kernel.callerCapSpace caller = .ok csId ∧
        ¬ machine.kernel.Amplifies caller needed frame op
  | .grantCapInto _ _ _ _ => False
  | _ => True

/-- What is no syscall and no copy confines every space. -/
theorem moves_confines {csId : CapSpaceId} {event : KernelEvent} {before after : KernelState}
    (moves : Moves before event after) (notSyscall : event.isSyscall = false)
    (notCopy : ∀ src cap dst rights, event ≠ .grantCapInto src cap dst rights) :
    KernelState.Confines csId before after := by
  cases moves with
  | ticked chosen => exact .of_same rfl rfl rfl rfl rfl
  | called effect => simp [KernelEvent.isSyscall] at notSyscall
  | started isStart =>
      refine .of_same ?_ ?_ ?_ ?_ ?_ <;> rw [KernelState.updateTcb_frame]
  | killed isKill chosen =>
      refine .of_same ?_ ?_ ?_ ?_ ?_ <;> rw [KernelState.exited, KernelState.updateTcb_frame]
  | spawned isSpawn spawns =>
      refine ⟨fun object present => spawns.memoryOf present, fun _ cap held there => ?_⟩
      rwa [(spawns.caps _).1] at there
  | grantedInto chosen => exact absurd rfl (notCopy _ _ _ _)

/-- `Retype` names no thread to run next. -/
theorem retype_state {caller : ThreadId} {untyped : CapId} {targetType : KernelObjectType}
    {count nowNs : Nat} {before after : Machine μ}
    (taken : (system hal).Step before
      (.syscall caller (.retype untyped targetType count) nowNs) after) :
    (KernelState.doRetype caller untyped targetType count before.kernel).state? =
      some after.kernel := by
  change (perform hal (.syscall caller (.retype untyped targetType count) nowNs)
    before).state? = some after at taken
  rcases Exec.bind_state.1 taken with ⟨error, failed⟩ | ⟨result, middle, ran, rest⟩
  · have failed : onKernel (KernelState.doRetype caller untyped targetType count) before =
        .err error after := failed
    obtain ⟨kernel, inner, rfl⟩ := Exec.zoom_state.1 (show
      (onKernel (KernelState.doRetype caller untyped targetType count) before :
        Outcome (Machine μ) SyscallError SyscallReturn).state? = some after by rw [failed]; rfl)
    exact inner
  · have ran : onKernel (KernelState.doRetype caller untyped targetType count) before =
        .ok result middle := ran
    obtain ⟨kernel, inner, rfl⟩ := Exec.zoom_eq_ok.1 ran
    obtain ⟨grant, _, _, made⟩ := Exec.bind_eq_ok.1 inner
    obtain ⟨_, _, _, made⟩ := Exec.bind_eq_ok.1 made
    obtain ⟨_, _, _, made⟩ := Exec.bind_eq_ok.1 made
    obtain ⟨_, _, _, made⟩ := Exec.bind_eq_ok.1 made
    obtain ⟨cap, _, _, made⟩ := Exec.bind_eq_ok.1 made
    obtain ⟨rfl, rfl⟩ := Outcome.ok.inj made
    have ended := (onKernel_state rest).1
    rw [inner]
    exact ended

theorem step_withholds {csId : CapSpaceId} {needed : CapabilityRights} {frame : Nat}
    {event : KernelEvent} {before after : Machine μ} (named : before.kernel.Named)
    (narrow : before.Narrow csId needed frame event)
    (withholds : before.kernel.Withholds csId needed frame)
    (taken : (system hal).Step before event after) :
    after.kernel.Withholds csId needed frame := by
  have moves := step_moves hal taken
  cases event with
  | syscall caller op nowNs =>
      obtain ⟨space, narrow⟩ := narrow
      by_cases isRetype : ∃ untyped targetType count, op = .retype untyped targetType count
      · obtain ⟨untyped, targetType, count, rfl⟩ := isRetype
        exact KernelState.doRetype_withholds named space withholds narrow
          (retype_state hal taken)
      · generalize after.kernel = final at moves
        cases moves with
        | @called _ _ _ next kernel effect =>
            have later := withholds.confines named (effect.confines space
              fun untyped targetType count same => isRetype ⟨untyped, targetType, count, same⟩)
            cases next with
            | none => exact later
            | some next => exact later
        | started isStart => simp [KernelEvent.starts] at isStart
        | killed isKill => simp [KernelEvent.kills] at isKill
        | spawned isSpawn => simp [KernelEvent.spawns] at isSpawn
  | grantCapInto src cap dst rights => exact absurd narrow id
  | _ => exact withholds.confines named (moves_confines moves rfl (by simp))

/-- In every run of syscalls of the threads of a space, none of which widens rights
over a frame, the space gets no capability with rights over the frame that it did not
have. -/
theorem withholds_of_run {csId : CapSpaceId} {needed : CapabilityRights} {frame : Nat}
    {start machine : Machine μ}
    (reachable : (system hal).Reachable TransitionSystem.anyStep start)
    (withholds : start.kernel.Withholds csId needed frame)
    (run : (system hal).Reaches
      (fun machine event => machine.Narrow csId needed frame event) start machine) :
    machine.kernel.Withholds csId needed frame := by
  have both : machine.kernel.Named ∧ machine.kernel.Withholds csId needed frame := by
    let invariant (machine : Machine μ) : Prop :=
      machine.kernel.Named ∧ machine.kernel.Withholds csId needed frame
    have initially : invariant start := ⟨named_of_reachable hal reachable, withholds⟩
    exact run.invariant initially fun before event after narrow holds taken =>
      ⟨(step_keeps hal taken).named holds.1, step_withholds hal holds.1 narrow holds.2 taken⟩
  exact both.2

/-! ## Two runs -/

/-- No capability of the space carries the rights. -/
def lacks (kernel : KernelState) (csId : CapSpaceId) (needed : CapabilityRights) : Bool :=
  (List.range capSlotsPerSpace).all fun cap =>
    (kernel.capSpaces.lookup { space := csId, cap }).all fun held => !held.allows needed

theorem withholds_of_lacks {kernel : KernelState} {csId : CapSpaceId}
    {needed : CapabilityRights} (absent : lacks kernel csId needed = true) (frame : Nat) :
    kernel.Withholds csId needed frame := by
  intro cap held found allowed
  obtain ⟨_, inside⟩ := CapTables.bounds_of_lookup found
  have here := List.all_eq_true.1 absent cap (List.mem_range.2 inside)
  rw [found] at here
  simp [allowed] at here

/-- A process that may read and write the first region, and not execute. -/
def lent : List KernelEvent :=
  [.spawn .process [], .grantCapInto 0 0 1 .readWrite]

theorem reachable_lent {start : Machine Unit}
    (ran : runWhile sampleHal (fun _ _ => true) lent sampleMachine = some start) :
    (system sampleHal).Reachable TransitionSystem.anyStep start :=
  ⟨sampleMachine, sampleMachine_boots,
    (reaches_runWhile sampleHal (.refl sampleMachine) ran).mono fun _ _ _ => trivial⟩

theorem withholds_of_run_sample :
    ∃ machine : Machine Unit, machine.kernel.endpoints ≠ .empty ∧
      machine.kernel.Withholds 1 .execute 0x1003000 := by
  have ran : (runWhile sampleHal (fun _ _ => true) lent sampleMachine).any (fun start =>
      lacks start.kernel 1 .execute ∧ start.kernel.callerCapSpace 1 = .ok 1 ∧
        (next sampleHal start (.syscall 1 (.retype 0 .endpoint 1) 1)).any fun machine =>
          machine.kernel.endpoints ≠ .empty) := by
    decide +kernel
  obtain ⟨start, reached, facts⟩ := (Option.any_eq_true _ _).1 ran
  obtain ⟨absent, space, continues⟩ := of_decide_eq_true facts
  obtain ⟨machine, taken, made⟩ := (Option.any_eq_true _ _).1 continues
  have narrow : start.Narrow 1 .execute 0x1003000 (.syscall 1 (.retype 0 .endpoint 1) 1) := by
    refine ⟨space, fun amplifies => ?_⟩
    simp [KernelState.Amplifies, KernelObjectType.hasMemory] at amplifies
  exact ⟨machine, of_decide_eq_true made, withholds_of_run sampleHal (reachable_lent reached)
    (withholds_of_lacks absent _) ((TransitionSystem.Reaches.refl start).step narrow taken)⟩

/-- The process makes untyped memory of its region, which it may then execute. -/
theorem retype_widens :
    ¬ ∀ (start machine : Machine Unit) (csId : CapSpaceId) (frame : Nat),
      (system sampleHal).Reachable TransitionSystem.anyStep start →
      start.kernel.Withholds csId .execute frame →
      (system sampleHal).Reaches (fun machine event => ∃ caller op nowNs,
        event = .syscall caller op nowNs ∧
          machine.kernel.callerCapSpace caller = .ok csId) start machine →
      machine.kernel.Withholds csId .execute frame := by
  intro claimed
  have ran : (runWhile sampleHal (fun _ _ => true) lent sampleMachine).any (fun start =>
      lacks start.kernel 1 .execute ∧ start.kernel.callerCapSpace 1 = .ok 1 ∧
        (next sampleHal start (.syscall 1 (.retype 0 .untyped 1) 1)).any fun machine =>
          machine.kernel.capSpaces.lookup ⟨1, 1⟩ = some (.full ⟨.untypedMemory, 1⟩) ∧
            machine.kernel.memoryOf ⟨.untypedMemory, 1⟩ = some ⟨0x1003000, 0x1004000⟩) := by
    decide +kernel
  obtain ⟨start, reached, facts⟩ := (Option.any_eq_true _ _).1 ran
  obtain ⟨absent, space, continues⟩ := of_decide_eq_true facts
  obtain ⟨machine, taken, made⟩ := (Option.any_eq_true _ _).1 continues
  obtain ⟨held, memory⟩ := of_decide_eq_true made
  have kept := claimed start machine 1 0x1003000 (reachable_lent reached)
    (withholds_of_lacks absent _)
    ((TransitionSystem.Reaches.refl start).step ⟨1, _, _, rfl, space⟩ taken)
  exact kept 1 _ held rfl ⟨_, memory, Nat.le_refl _, Nat.le_refl _⟩

end Machine

end Simurgh
