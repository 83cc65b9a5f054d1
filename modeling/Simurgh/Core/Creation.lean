import Simurgh.Core.Integrity

/-!
# What was made through a capability

`Retype` stores the capabilities to new objects as roots.  A history of what was
made through each capability says what revoking it takes away, and what it leaves.
-/

namespace Simurgh

namespace KernelState

/-! ## Objects stay and slots keep their capability -/

section Objects

variable {state before middle after : KernelState}

theorem hasObject_putEndpoint {eid : EndpointId} {old : KEndpoint}
    (present : state.endpoints.get? eid = some old) (new : KEndpoint) (object : ObjectRef) :
    (state.putEndpoint eid new).hasObject object = state.hasObject object := by
  unfold hasObject
  cases object.kind with
  | endpoint => exact Slab.isSome_get?_put_of_some present object.id new
  | _ => rfl

theorem hasObject_putNotification {nid : NotificationId} {old : KNotification}
    (present : state.notifications.get? nid = some old) (new : KNotification)
    (object : ObjectRef) :
    (state.putNotification nid new).hasObject object = state.hasObject object := by
  unfold hasObject
  cases object.kind with
  | notification => exact Slab.isSome_get?_put_of_some present object.id new
  | _ => rfl

theorem hasObject_putAddrSpace {asId : PageTableId} {old : RootAddressSpace}
    (present : state.addrSpaces.get? asId = some old) (new : RootAddressSpace)
    (object : ObjectRef) :
    (state.putAddrSpace asId new).hasObject object = state.hasObject object := by
  unfold hasObject
  cases object.kind with
  | pageTable => exact Slab.isSome_get?_put_of_some present object.id new
  | _ => rfl

theorem hasObject_putUntyped {uid : UntypedId} {old : UntypedMemory}
    (present : state.untyped.get? uid = some old) (new : UntypedMemory)
    (object : ObjectRef) :
    (state.putUntyped uid new).hasObject object = state.hasObject object := by
  unfold hasObject
  cases object.kind with
  | untypedMemory => exact Slab.isSome_get?_put_of_some present object.id new
  | _ => rfl

/-- No object is lost, every capability still names one, and a slot that stays
occupied keeps its capability. -/
structure Keeps (before after : KernelState) : Prop where
  objects : ∀ object, before.hasObject object = true → after.hasObject object = true
  named : before.Named → after.Named
  slots : before.Named → ∀ id cap later, before.capSpaces.lookup id = some cap →
    after.capSpaces.lookup id = some later → later = cap

theorem Keeps.of_same (caps : after.capSpaces = before.capSpaces)
    (same : ∀ object, after.hasObject object = before.hasObject object) :
    Keeps before after where
  objects := fun object present => (same object).trans present
  named := by
    rintro ⟨wf, objects⟩
    refine ⟨caps ▸ wf, fun id cap held => ?_⟩
    rw [same]
    exact objects id cap (caps ▸ held)
  slots := by
    intro _ id cap later held still
    rw [caps, held] at still
    exact (Option.some.inj still).symm

/-- A call on the capability tables. -/
theorem Keeps.of_call {tables : CapTables capSlotsPerSpace maxCapSpaces} {call : CdtCall}
    (ran : ((CapTables.run call) before.capSpaces).state? = some tables)
    (spaces : ∀ space, (tables.get? space).isSome = (before.capSpaces.get? space).isSome)
    (slots : before.Named → ∀ id later, tables.lookup id = some later →
      before.capSpaces.lookup id = some later ∨
        before.capSpaces.lookup id = none ∧ before.hasObject later.object = true) :
    Keeps before { before with capSpaces := tables } where
  objects := fun object present => (hasObject_withTables spaces object).trans present
  named := by
    intro named
    refine ⟨named.wf.run call ran, fun id cap held => ?_⟩
    rw [hasObject_withTables spaces]
    rcases slots named id cap held with same | ⟨_, there⟩
    · exact named.objects id cap same
    · exact there
  slots := by
    intro named id cap later held still
    rcases slots named id later still with same | ⟨vacant, _⟩
    · rw [held] at same
      exact (Option.some.inj same).symm
    · rw [held] at vacant
      simp at vacant

/-- What a revocation leaves was there before. -/
theorem Named.of_revoke (named : before.Named)
    {tables : CapTables capSlotsPerSpace maxCapSpaces} {target : GlobalCapId}
    (ran : ((CapTables.run (.revokeCrossSpace target)) before.capSpaces).state? =
      some tables) {id : GlobalCapId} {cap : Capability}
    (held : tables.lookup id = some cap) : before.capSpaces.lookup id = some cap := by
  obtain ⟨forest, represents⟩ := named.wf
  cases occupied : before.capSpaces.lookup target with
  | none =>
      rw [CapTables.run, CapTables.revokeCrossSpace_of_vacant occupied] at ran
      obtain rfl : before.capSpaces = tables := by simpa using ran
      exact held
  | some root =>
      obtain ⟨final, revoked, stored⟩ := represents.revoke occupied
      rw [CapTables.run, revoked] at ran
      obtain rfl : final = tables := by simpa using ran
      rw [stored.lookup] at held
      by_cases member : id ∈ forest.subtree target
      · simp [forest.node_revoke_of_mem member] at held
      · rw [forest.node_revoke_of_not_mem member, ← represents.lookup] at held
        exact held

theorem Keeps.revoke {tables : CapTables capSlotsPerSpace maxCapSpaces}
    {target : GlobalCapId}
    (ran : ((CapTables.run (.revokeCrossSpace target)) before.capSpaces).state? =
      some tables) : Keeps before { before with capSpaces := tables } :=
  .of_call ran (CapTables.revokeCrossSpace_spaces ran) fun named _ _ held =>
    Or.inl (named.of_revoke ran held)

theorem Keeps.grant {tables : CapTables capSlotsPerSpace maxCapSpaces}
    {src dst : CapSpaceId} {parent : CapId} {rights : CapabilityRights} {badge : Nat}
    (ran : ((CapTables.run (.deriveChildCrossSpace src dst parent rights badge))
      before.capSpaces).state? = some tables) :
    Keeps before { before with capSpaces := tables } := by
  cases srcPresent : before.capSpaces.get? src with
  | none => simp [CapTables.run, srcPresent] at ran
  | some srcTable =>
      have onTable : (CapTables.onTable dst
          (CapTable.deriveChildCrossSpace srcTable src parent rights badge)
          before.capSpaces).state? = some tables := by
        simpa only [CapTables.run, Exec.get_bind_run, srcPresent, Exec.expect_some,
          Exec.pure_bind_run] using ran
      refine .of_call ran (fun space => (CapTables.onTable_frame onTable space).2) ?_
      intro named id later held
      obtain ⟨forest, represents⟩ := named.wf
      cases present : before.capSpaces.get? dst with
      | none =>
          rw [CapTables.onTable_of_none _ present] at onTable
          simp at onTable
      | some table =>
          have inserts :=
            represents.deriveChildCrossSpace srcPresent present parent rights badge
          rcases inserts.slot represents onTable id with
            ⟨same, _⟩ | ⟨_, vacant, _, cap, stored, parentCap, parentHeld, derived⟩
          · exact Or.inl (same ▸ held)
          · obtain rfl : cap = later := Option.some.inj (stored.symm.trans held)
            rw [derived.object]
            exact Or.inr ⟨vacant, named.objects _ _ parentHeld⟩

theorem Keeps.retype {csId : CapSpaceId} {targetType : KernelObjectType}
    {grant : RetypeGrant} {uid : UntypedId} {region later : UntypedMemory}
    (present : before.untyped.get? uid = some region)
    (created : Creates csId targetType grant (before.putUntyped uid later) after) :
    Keeps before after := by
  have kept : ∀ object, before.hasObject object = true → after.hasObject object = true :=
    fun object there => created.hasObject ((hasObject_putUntyped present later object).trans there)
  have slots : before.Named → after.capSpaces.Wf ∧ ∀ id,
      (after.capSpaces.lookup id = before.capSpaces.lookup id ∧
        after.capSpaces.parentOf id = before.capSpaces.parentOf id) ∨
      NewCap csId targetType (before.putUntyped uid later) after id :=
    fun named => created.caps named.wf
  refine ⟨kept, fun named => ⟨(slots named).1, fun id cap held => ?_⟩, ?_⟩
  · rcases (slots named).2 id with ⟨same, _⟩ | ⟨_, _, _, object, stored, _, _, there⟩
    · exact kept _ (named.objects id cap (same ▸ held))
    · obtain rfl : Capability.full object = cap := Option.some.inj (stored.symm.trans held)
      exact there
  · intro named id cap new held still
    rcases (slots named).2 id with ⟨same, _⟩ | ⟨_, vacant, _⟩
    · rw [same, held] at still
      exact (Option.some.inj still).symm
    · have occupied : (before.putUntyped uid later).capSpaces.lookup id = some cap := held
      rw [occupied] at vacant
      simp at vacant

/-- Boot code adds objects and leaves the capabilities alone. -/
theorem Keeps.spawns (spawns : Spawns before after) : Keeps before after where
  objects := fun _ present => spawns.hasObject present
  named := fun named => ⟨spawns.wf named.wf, fun id cap held =>
    spawns.hasObject (named.objects id cap ((spawns.caps id).1 ▸ held))⟩
  slots := by
    intro _ id cap later held still
    rw [(spawns.caps id).1, held] at still
    exact (Option.some.inj still).symm

/-- IPC changes an endpoint and threads. -/
theorem Keeps.ipc {eid : EndpointId} {ep new : KEndpoint} {threads : List ThreadId}
    (present : before.endpoints.get? eid = some ep)
    (only : OnlyThreads threads (before.putEndpoint eid new) after)
    (records : ∀ object, after.hasObject object = (before.putEndpoint eid new).hasObject object) :
    Keeps before after :=
  .of_same (by rw [only.frame]; rfl) fun object =>
    (records object).trans (hasObject_putEndpoint present new object)

/-- No syscall loses an object or overwrites a capability. -/
theorem Effect.keeps {caller : ThreadId} {nowNs : Nat} {op : SyscallOp}
    {next : Option ThreadId} (effect : Effect caller nowNs before op next after) :
    Keeps before after := by
  cases effect with
  | unchanged => exact .of_same rfl fun _ => rfl
  | yielded => exact .of_same rfl fun _ => rfl
  | revoked holds ran => exact .revoke ran
  | granted target found source ne ran => exact .grant ran
  | retyped holds present reserved created newPages => exact .retype present created
  | mapped holds frameHeld allowed resolved present added used =>
      exact .of_same rfl (hasObject_putAddrSpace present _)
  | rolledBack holds frameHeld allowed resolved present added removed =>
      exact .of_same rfl (hasObject_putAddrSpace present _)
  | sent holds present waiting =>
      exact .ipc present (onlyThreads_handOver ..) (hasObject_updateTcb _ _ _)
  | @called csId endpoint msg eid ep receiver rest after next holds present waiting admitted
      final chosen =>
      subst final
      have delivered := onlyThreads_handOver receiver.thread caller msg nowNs
        (before.putEndpoint eid { ep with receivers := rest, pendingDelivery := none })
      exact .ipc present (delivered.trans (onlyThreads_block ..)) fun object =>
        (hasObject_updateTcb ..).trans (hasObject_updateTcb ..)
  | callStuck holds present waiting absent =>
      exact .ipc present (onlyThreads_handOver ..) (hasObject_updateTcb _ _ _)
  | queued isSend holds present noReceiver final chosen =>
      subst final
      exact .ipc present (onlyThreads_block ..) (hasObject_updateTcb _ _ _)
  | received holds present waiting =>
      exact .ipc present (onlyThreads_release ..) (hasObject_updateTcb _ _ _)
  | awaiting holds present noSender final chosen =>
      subst final
      exact .ipc present (onlyThreads_block ..) (hasObject_updateTcb _ _ _)
  | replied ne awaits admitted chosen =>
      refine .of_same ?_ (hasObject_updateTcb _ _ _)
      rw [(onlyThreads_storeReply ..).frame]
  | replyStuck ne awaits absent =>
      refine .of_same ?_ (hasObject_updateTcb _ _ _)
      rw [(onlyThreads_storeReply ..).frame]
  | signalled holds present => exact .of_same rfl (hasObject_putNotification present _)
  | waiting holds present => exact .of_same rfl (hasObject_putNotification present _)
  | taken isRead holds present => exact .of_same rfl (hasObject_putNotification present _)
  | bound region found target =>
      rw [bindIrq_frame]
      exact .of_same rfl fun _ => rfl

end Objects

/-! ## The history -/

/-- Which objects were made through the capability that a slot holds. -/
abbrev Made := GlobalCapId → ObjectRef → Bool

/-- The slot that a `Retype` names, and the region its capability is for. -/
def retypesThrough (state : KernelState) : KernelEvent → Option (GlobalCapId × UntypedId)
  | .syscall caller (.retype untyped _ _) _ =>
      match state.callerCapSpace caller with
      | .error _ => none
      | .ok csId =>
          let slot := { space := csId, cap := untyped }
          (state.capSpaces.lookup slot).map fun held => (slot, held.object.id)
  | _ => none

/-- The `Retype` at `slot` is made through the capability at `id`, or through one that
was derived from it.  With `children`, a region made through `id` counts as derived
from it. -/
def madeThrough (children : Bool) (state : KernelState) (made : Made) (id slot : GlobalCapId)
    (uid : UntypedId) : Bool :=
  slot == id || state.capSpaces.isDescendantOf slot id ||
    children && made id { kind := .untypedMemory, id := uid }

/-- The history after an event.  What is new was made by it, and a slot that is
vacant has made nothing. -/
def recordMade (children : Bool) (before : KernelState) (event : KernelEvent)
    (after : KernelState) (made : Made) : Made := fun id object =>
  (before.capSpaces.lookup id).isSome && (after.capSpaces.lookup id).isSome &&
    (made id object ||
      !before.hasObject object && after.hasObject object &&
        (before.retypesThrough event).any fun through =>
          madeThrough children before made id through.1 through.2)

/-- No capability names an object that was made through it. -/
structure Tracked (made : Made) (state : KernelState) : Prop where
  named : state.Named
  exist : ∀ id object, made id object = true → state.hasObject object = true
  other : ∀ id object, made id object = true →
    ∃ cap, state.capSpaces.lookup id = some cap ∧ cap.object ≠ object

theorem Tracked.step {children : Bool} {made : Made} {event : KernelEvent}
    {before after : KernelState} (tracked : Tracked made before)
    (keeps : Keeps before after) :
    Tracked (recordMade children before event after made) after := by
  have parts : ∀ id object, recordMade children before event after made id object = true →
      (∃ cap, before.capSpaces.lookup id = some cap) ∧
        (∃ cap, after.capSpaces.lookup id = some cap) ∧
        (made id object = true ∨
          before.hasObject object = false ∧ after.hasObject object = true) := by
    intro id object recorded
    simp only [recordMade, Bool.and_eq_true, Bool.or_eq_true, Bool.not_eq_true',
      Option.isSome_iff_exists] at recorded
    obtain ⟨⟨held, still⟩, old | ⟨new, _⟩⟩ := recorded
    · exact ⟨held, still, Or.inl old⟩
    · exact ⟨held, still, Or.inr new⟩
  refine ⟨keeps.named tracked.named, fun id object recorded => ?_, fun id object recorded => ?_⟩
  · obtain ⟨_, _, old | ⟨_, present⟩⟩ := parts id object recorded
    · exact keeps.objects object (tracked.exist id object old)
    · exact present
  · obtain ⟨⟨cap, held⟩, ⟨later, still⟩, cases⟩ := parts id object recorded
    obtain rfl := keeps.slots tracked.named id cap later held still
    refine ⟨later, still, ?_⟩
    rcases cases with old | ⟨absent, _⟩
    · obtain ⟨found, here, ne⟩ := tracked.other id object old
      rw [held] at here
      exact Option.some.inj here ▸ ne
    · rintro rfl
      rw [tracked.named.objects id later held] at absent
      simp at absent

/-- What was made through a capability survives its revocation. -/
theorem Tracked.revoke {made : Made} {before : KernelState} (tracked : Tracked made before)
    {target : GlobalCapId} {tables : CapTables capSlotsPerSpace maxCapSpaces}
    (ran : ((CapTables.run (.revokeCrossSpace target)) before.capSpaces).state? =
      some tables) {id : GlobalCapId} {cap : Capability}
    (held : before.capSpaces.lookup id = some cap) (wasMade : made target cap.object = true) :
    tables.lookup id = some cap := by
  obtain ⟨forest, represents⟩ := tracked.named.wf
  obtain ⟨root, occupied, ne⟩ := tracked.other target cap.object wasMade
  obtain ⟨final, revoked, stored⟩ := represents.revoke occupied
  rw [CapTables.run, revoked] at ran
  obtain rfl : final = tables := by simpa using ran
  have outside : id ∉ forest.subtree target := by
    rintro (rfl | below)
    · rw [held] at occupied
      exact ne (by rw [Option.some.inj occupied])
    · -- A derivation keeps the object of the capability it starts from.
      obtain ⟨value, upper, here, there, derived⟩ :=
        forest.derives_of_ancestor (fun _ _ _ => Capability.DerivedFrom.trans) below
      rw [← represents.lookup, held] at here
      rw [← represents.lookup, occupied] at there
      obtain rfl := Option.some.inj here
      obtain rfl := Option.some.inj there
      exact ne derived.object.symm
  rw [stored.lookup, forest.node_revoke_of_not_mem outside, ← represents.lookup]
  exact held

end KernelState

/-! ## Runs -/

namespace Machine

variable {μ : Type} (hal : HalInterface μ)

/-- Machines with the history of what was made through each capability. -/
def creations (children : Bool) :
    TransitionSystem (Machine μ × KernelState.Made) KernelEvent :=
  (system hal).recording
    (fun before event after made =>
      KernelState.recordMade children before.kernel event after.kernel made)
    fun _ _ => false

/-- No event loses an object or overwrites a capability. -/
theorem step_keeps {event : KernelEvent} {before after : Machine μ}
    (taken : (system hal).Step before event after) :
    KernelState.Keeps before.kernel after.kernel := by
  have moves := step_moves hal taken
  generalize after.kernel = final at moves
  cases moves with
  | ticked chosen => exact .of_same rfl fun _ => rfl
  | @called caller op nowNs next kernel effect =>
      have keeps := effect.keeps
      cases next with
      | none => exact keeps
      | some next =>
          have named : before.kernel.Named → (committed (some next) nowNs kernel).Named :=
            fun before => ⟨(keeps.named before).wf, (keeps.named before).objects⟩
          exact ⟨keeps.objects, named, keeps.slots⟩
  | started isStart =>
      refine .of_same ?_ (KernelState.hasObject_updateTcb _ _ _)
      rw [KernelState.updateTcb_frame]
  | killed isKill chosen =>
      refine .of_same ?_ (KernelState.hasObject_updateTcb _ _ _)
      rw [KernelState.exited, KernelState.updateTcb_frame]
  | spawned isSpawn spawns => exact .spawns spawns
  | grantedInto chosen =>
      rcases chosen with rfl | ran
      · exact .of_same rfl fun _ => rfl
      · exact .grant ran

theorem Boots.named {machine : Machine μ} (boots : machine.Boots) : machine.kernel.Named := by
  obtain ⟨kernel, fromBoot, same⟩ := boots
  have named := fromBoot.booted.named
  rcases same with rfl | ⟨base, len, installed⟩
  · exact named
  · rw [installed]
    exact ⟨named.wf, named.objects⟩

theorem tracked_of_reachable {children : Bool} {machine : Machine μ}
    {made : KernelState.Made}
    (reachable : (creations hal children).Reachable TransitionSystem.anyStep (machine, made)) :
    KernelState.Tracked made machine.kernel := by
  let invariant (state : Machine μ × KernelState.Made) : Prop :=
    KernelState.Tracked state.2 state.1.kernel
  have holds : invariant (machine, made) := by
    refine reachable.invariant ?_ ?_
    · rintro ⟨start, _⟩ ⟨boots, rfl⟩
      exact ⟨boots.named, by simp, by simp⟩
    · intro before event after _ tracked taken
      obtain ⟨step, history⟩ := taken
      change KernelState.Tracked after.2 after.1.kernel
      rw [history]
      exact KernelState.Tracked.step tracked (step_keeps hal step)
  exact holds

/-- Revoking a capability leaves every capability to an object that was made through
it.  None is left exactly if there was none before. -/
theorem revoke_leaves_made {children : Bool} {machine after : Machine μ}
    {made : KernelState.Made}
    (reachable : (creations hal children).Reachable TransitionSystem.anyStep (machine, made))
    {caller : ThreadId} {csId : CapSpaceId} {cap : CapId} {nowNs freed : Nat}
    (space : machine.kernel.callerCapSpace caller = .ok csId)
    (revoked : dispatch hal caller nowNs (.capRevoke cap) machine =
      .ok (.revoked freed) after) :
    (∀ id other, machine.kernel.capSpaces.lookup id = some other →
      made { space := csId, cap } other.object = true →
      after.kernel.capSpaces.lookup id = some other) ∧
    ((∀ id other, after.kernel.capSpaces.lookup id = some other →
        made { space := csId, cap } other.object = false) ↔
      ∀ id other, machine.kernel.capSpaces.lookup id = some other →
        made { space := csId, cap } other.object = false) := by
  have tracked := tracked_of_reachable hal reachable
  have effect : KernelState.Effect caller nowNs machine.kernel (.capRevoke cap) none
      after.kernel := by
    have ends : EndsIn
        (fun next (final : Machine μ) =>
          KernelState.Effect caller nowNs machine.kernel (.capRevoke cap) next final.kernel)
        (dispatch hal caller nowNs (.capRevoke cap) machine) := dispatch_ends hal _ machine
    rw [revoked] at ends
    exact ends
  obtain ⟨survives, subset⟩ :
      (∀ id other, machine.kernel.capSpaces.lookup id = some other →
        made { space := csId, cap } other.object = true →
        after.kernel.capSpaces.lookup id = some other) ∧
      ∀ id other, after.kernel.capSpaces.lookup id = some other →
        machine.kernel.capSpaces.lookup id = some other := by
    generalize after.kernel = final at effect
    cases effect with
    | unchanged => exact ⟨fun _ _ here _ => here, fun _ _ here => here⟩
    | revoked holds ran =>
        obtain rfl := holds.same_space space
        exact ⟨fun id other here wasMade => tracked.revoke ran here wasMade,
          fun id other here => tracked.named.of_revoke ran here⟩
    | @queued _ _ _ _ _ _ _ isCall _ isSend =>
        cases isCall with
        | false => simp at isSend
        | true => simp at isSend
    | taken isRead => simp at isRead
  refine ⟨survives, fun gone id other here => ?_, fun absent id other here =>
    absent id other (subset id other here)⟩
  by_contra wasMade
  rw [Bool.not_eq_false] at wasMade
  simp [gone id other (survives id other here wasMade)] at wasMade

/-! ## A run -/

/-- The machine after the events, and what was made through each capability. -/
def madeAfter (children : Bool) (events : List KernelEvent) :
    Option (Machine Unit × KernelState.Made) :=
  TransitionSystem.runWhile
    (TransitionSystem.nextRecorded (next sampleHal) fun before event after made =>
      KernelState.recordMade children before.kernel event after.kernel made)
    (fun _ _ => true) events (sampleMachine, fun _ _ => false)

theorem reachable_madeAfter {children : Bool} {events : List KernelEvent}
    {state : Machine Unit × KernelState.Made} (ran : madeAfter children events = some state) :
    (creations sampleHal children).Reachable TransitionSystem.anyStep state := by
  have start : (creations sampleHal children).Initial (sampleMachine, fun _ _ => false) :=
    ⟨sampleMachine_boots, rfl⟩
  have run : (creations sampleHal children).Reaches (fun _ _ => true = true)
      (sampleMachine, fun _ _ => false) state :=
    (TransitionSystem.Reaches.refl _).runWhile
      (fun _ _ _ taken => TransitionSystem.step_of_nextRecorded (fun _ _ _ => id) taken) ran
  exact ⟨_, start, run.mono fun _ _ _ => trivial⟩

/-- The root task makes an endpoint from its memory, and then revokes the memory. -/
private theorem makes_endpoint :
    ∃ machine made after,
      madeAfter false [.syscall 0 (.retype 0 .endpoint 1) 1] = some (machine, made) ∧
        machine.kernel.callerCapSpace 0 = .ok 0 ∧
        machine.kernel.capSpaces.lookup ⟨0, 0⟩ = some (.full ⟨.untypedMemory, 0⟩) ∧
        machine.kernel.capSpaces.lookup ⟨0, 2⟩ = some (.full ⟨.endpoint, 0⟩) ∧
        made ⟨0, 0⟩ ⟨.endpoint, 0⟩ = true ∧
        dispatch sampleHal 0 2 (.capRevoke 0) machine = .ok (.revoked 1) after ∧
        after.kernel.capSpaces.lookup ⟨0, 2⟩ = some (.full ⟨.endpoint, 0⟩) := by
  have ran : (madeAfter false [.syscall 0 (.retype 0 .endpoint 1) 1]).any (fun state =>
      state.1.kernel.tcb 0 = some
          { Tcb.newInactive 0 0 0 with state := .runnable } ∧
        state.1.kernel.capSpaces.lookup ⟨0, 0⟩ = some (.full ⟨.untypedMemory, 0⟩) ∧
        state.1.kernel.capSpaces.lookup ⟨0, 2⟩ = some (.full ⟨.endpoint, 0⟩) ∧
        state.2 ⟨0, 0⟩ ⟨.endpoint, 0⟩ = true ∧
        (dispatch sampleHal 0 2 (.capRevoke 0) state.1).value? = some (.revoked 1) ∧
        ((dispatch sampleHal 0 2 (.capRevoke 0) state.1).state?.any fun after =>
          after.kernel.capSpaces.lookup ⟨0, 2⟩ = some (.full ⟨.endpoint, 0⟩))) := by
    decide +kernel
  obtain ⟨⟨machine, made⟩, reached, facts⟩ := (Option.any_eq_true _ _).1 ran
  obtain ⟨root, memory, endpoint, wasMade, value, stays⟩ := of_decide_eq_true facts
  obtain ⟨after, revoked⟩ := Outcome.eq_ok_of_value? value
  simp only at root
  rw [revoked] at stays
  refine ⟨machine, made, after, reached, ?_, memory, endpoint, wasMade, revoked,
    of_decide_eq_true stays⟩
  rw [KernelState.callerCapSpace, root]
  rfl

theorem revoke_leaves_made_sample :
    ∃ machine after, dispatch sampleHal 0 2 (.capRevoke 0) machine = .ok (.revoked 1) after ∧
      after.kernel.capSpaces.lookup ⟨0, 2⟩ = some (.full ⟨.endpoint, 0⟩) := by
  obtain ⟨machine, made, after, reached, space, _, endpoint, wasMade, revoked, _⟩ :=
    makes_endpoint
  obtain ⟨survives, _⟩ :=
    revoke_leaves_made sampleHal (reachable_madeAfter reached) space revoked
  exact ⟨machine, after, revoked, survives ⟨0, 2⟩ _ endpoint wasMade⟩

/-- The endpoint outlives the capability to the memory it was made from. -/
theorem endpoint_survives_untyped :
    ¬ ∀ (machine after : Machine Unit) (made : KernelState.Made) (caller : ThreadId)
        (csId : CapSpaceId) (cap : CapId) (held : Capability) (nowNs freed : Nat),
      (creations sampleHal false).Reachable TransitionSystem.anyStep (machine, made) →
      machine.kernel.callerCapSpace caller = .ok csId →
      machine.kernel.capSpaces.lookup { space := csId, cap } = some held →
      held.object.kind = .untypedMemory →
      dispatch sampleHal caller nowNs (.capRevoke cap) machine = .ok (.revoked freed) after →
      ∀ id other, after.kernel.capSpaces.lookup id = some other →
        made { space := csId, cap } other.object = false := by
  intro claimed
  obtain ⟨machine, made, after, reached, space, memory, _, wasMade, revoked, stays⟩ :=
    makes_endpoint
  have gone := claimed machine after made 0 0 0 _ 2 1 (reachable_madeAfter reached) space
    memory rfl revoked ⟨0, 2⟩ _ stays
  simp [Capability.full, wasMade] at gone

end Machine

end Simurgh
