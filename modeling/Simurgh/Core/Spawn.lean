import Simurgh.Core.Create

/-!
# New processes

Boot code makes address spaces, capability spaces and threads without a `Retype`.
It takes their frames from the first untyped region, and it copies capabilities into
spaces.  What it writes into the frames is left out: no `Map` reaches the page tables
of a process, since there is no capability to them.
-/

namespace Simurgh

/-- What a new thread has for itself. -/
inductive SpawnKind where
  /-- An address space and a capability space. -/
  | process
  /-- An address space, beside the capabilities of the root task. -/
  | worker
  /-- Nothing. -/
  | thread
  deriving DecidableEq, Repr

namespace KernelState

/-! ## Programs -/

/-- `untyped_mut(0).alloc(4096, 4096 * pages)`. -/
def carve (pages : Nat) : Exec KernelState SyscallError Nat :=
  onUntyped 0 (UntypedMemory.alloc pageSize (pageSize * pages))

def carveAll : List Nat → Exec KernelState SyscallError Unit
  | [] => pure ()
  | pages :: rest => do
      let _ ← carve pages
      carveAll rest

/-- An address space whose root takes three pages.  `sizes` are the page-table pool,
the stack and the segments. -/
def spawnAddrSpace (sizes : List Nat) : Exec KernelState SyscallError PageTableId := do
  let rootPt ← carve 3
  carveAll sizes
  let created ← allocAddrSpace rootPt
  Exec.okOr .objectTableFull created

def spawnTcb (capSpace : CapSpaceId) (addrSpace : PageTableId) :
    Exec KernelState SyscallError ThreadId := do
  let created ← allocTcb capSpace addrSpace
  Exec.okOr .objectTableFull created

/-- A new thread, which is not started yet. -/
def spawn (kind : SpawnKind) (sizes : List Nat) :
    Exec KernelState SyscallError ThreadId :=
  match kind with
  | .process => do
      let addrSpace ← spawnAddrSpace sizes
      let created ← allocCapSpace
      let capSpace ← Exec.okOr .objectTableFull created
      spawnTcb capSpace addrSpace
  | .worker => do
      let addrSpace ← spawnAddrSpace sizes
      let state ← Exec.get
      spawnTcb state.rootCapSpace addrSpace
  | .thread => do
      let state ← Exec.get
      spawnTcb state.rootCapSpace state.rootAddrSpace

/-- Derive a capability into another space, whoever the threads of the spaces are. -/
def grantCapInto (src : CapSpaceId) (cap : CapId) (dst : CapSpaceId)
    (rights : CapabilityRights) : Exec KernelState SyscallError CapId := do
  let state ← Exec.get
  let (srcTable, _) ← Exec.okOr .badCap (state.capSpacePair src dst)
  onCapSpaces (CapTables.onTable dst
    (CapTable.deriveChildCrossSpace srcTable src cap rights 0))

/-! ## What they do -/

/-- Regions hand out memory, and objects appear that no capability names. -/
structure Spawns (before after : KernelState) : Prop where
  frame : after =
    { before with
      capSpaces := after.capSpaces, untyped := after.untyped
      addrSpaces := after.addrSpaces, tcbs := after.tcbs }
  regions : ∀ uid, (before.untyped.get? uid = none ∧ after.untyped.get? uid = none) ∨
    ∃ region watermark, before.untyped.get? uid = some region ∧
      after.untyped.get? uid = some { region with watermark }
  addrSpaces : before.addrSpaces.GrowsBy (fun _ space => ∃ root, space = .new root)
    after.addrSpaces
  tcbs : before.tcbs.GrowsBy
    (fun id tcb => ∃ capSpace addrSpace, tcb = .newInactive id capSpace addrSpace)
    after.tcbs
  spaces : before.capSpaces.GrowsBy (fun space table => table = .new space)
    after.capSpaces
  wf : before.capSpaces.Wf → after.capSpaces.Wf
  caps : ∀ id, after.capSpaces.lookup id = before.capSpaces.lookup id ∧
    after.capSpaces.parentOf id = before.capSpaces.parentOf id

theorem Spawns.refl (state : KernelState) : Spawns state state where
  frame := rfl
  regions := by
    intro uid
    cases present : state.untyped.get? uid with
    | none => exact Or.inl ⟨rfl, rfl⟩
    | some region => exact Or.inr ⟨region, region.watermark, rfl, rfl⟩
  addrSpaces := .refl _
  tcbs := .refl _
  spaces := .refl _
  wf := id
  caps := fun _ => ⟨rfl, rfl⟩

theorem Spawns.trans {before middle after : KernelState} (first : Spawns before middle)
    (second : Spawns middle after) : Spawns before after where
  frame := by rw [second.frame, first.frame]
  regions := by
    intro uid
    rcases first.regions uid with ⟨vacant, still⟩ | ⟨region, mark, present, there⟩
    · rcases second.regions uid with ⟨_, final⟩ | ⟨region, _, present, _⟩
      · exact Or.inl ⟨vacant, final⟩
      · rw [still] at present
        simp at present
    · rcases second.regions uid with ⟨vacant, _⟩ | ⟨other, later, same, final⟩
      · rw [there] at vacant
        simp at vacant
      · rw [there, Option.some.injEq] at same
        exact Or.inr ⟨region, later, present, by rw [final, ← same]⟩
  addrSpaces := first.addrSpaces.trans second.addrSpaces
  tcbs := first.tcbs.trans second.tcbs
  spaces := first.spaces.trans second.spaces
  wf := fun wf => second.wf (first.wf wf)
  caps := fun id => ⟨(second.caps id).1.trans (first.caps id).1,
    (second.caps id).2.trans (first.caps id).2⟩

theorem Spawns.hasObject {before after : KernelState} (spawns : Spawns before after)
    {object : ObjectRef} (present : before.hasObject object = true) :
    after.hasObject object = true := by
  unfold KernelState.hasObject at *
  cases kind : object.kind with
  | untypedMemory =>
      simp only [kind] at present
      rcases spawns.regions object.id with ⟨vacant, _⟩ | ⟨_, _, _, there⟩
      · simp [vacant] at present
      · simp [there]
  | pageTable => exact spawns.addrSpaces.isSome_get? (by simpa [kind] using present)
  | threadControlBlock => exact spawns.tcbs.isSome_get? (by simpa [kind] using present)
  | capabilitySpace => exact spawns.spaces.isSome_get? (by simpa [kind] using present)
  | _ =>
      rw [spawns.frame]
      simpa [kind] using present

section Spec

variable {before after : KernelState}

theorem carve_spawns (pages : Nat) : (carve pages).Steps Spawns := by
  intro before after ended
  unfold carve onUntyped onObject at ended
  rw [Exec.get_bind_run] at ended
  cases present : before.untyped.get? 0 with
  | none =>
      simp only [present, Exec.okOr_none, Exec.throw_bind_run, Outcome.state?_err,
        Option.some.injEq] at ended
      exact ended ▸ .refl before
  | some region =>
      simp only [present, Exec.okOr_some, Exec.pure_bind_run] at ended
      obtain ⟨later, ran, rfl⟩ := Exec.zoom_state.1 ended
      obtain ⟨watermark, rfl⟩ : ∃ watermark, later = { region with watermark } := by
        cases result : UntypedMemory.alloc pageSize (pageSize * pages) region with
        | ok base final =>
            rw [result] at ran
            obtain rfl := Option.some.inj ran
            exact ⟨_, (UntypedMemory.alloc_ok result).1⟩
        | err error final =>
            rw [result] at ran
            obtain rfl := Option.some.inj ran
            exact ⟨region.watermark, UntypedMemory.alloc_err result⟩
        | panic => simp [result] at ran
      refine { Spawns.refl before with frame := rfl, regions := fun uid => ?_ }
      rw [Slab.get?_put_of_some present]
      by_cases same : 0 = uid
      · rw [if_pos same, ← same]
        exact Or.inr ⟨region, watermark, present, rfl⟩
      · rw [if_neg same]
        exact (Spawns.refl before).regions uid

theorem carveAll_spawns (sizes : List Nat) : (carveAll sizes).Steps Spawns := by
  induction sizes with
  | nil => exact (Exec.Reads.pure ()).steps .refl
  | cons pages rest ih =>
      exact (carve_spawns pages).bind .trans fun _ => ih

/-- A program that adds one object to a table, or finds the table full. -/
private theorem allocIn_steps {α : Type} {n : Nat} {table : KernelState → Slab α n}
    {store : Slab α n → KernelState → KernelState} {make : Nat → α}
    (adds : ∀ state id objects, (table state).insert make = some (id, objects) →
      Spawns state (store objects state)) :
    (allocIn table store make : Exec KernelState SyscallError (Option Nat)).Steps Spawns := by
  intro before after ended
  unfold allocIn at ended
  rw [Exec.get_bind_run] at ended
  cases inserted : (table before).insert make with
  | none =>
      simp only [inserted, Exec.pure_run, Outcome.state?_ok, Option.some.injEq] at ended
      exact ended ▸ .refl before
  | some pair =>
      obtain ⟨id, objects⟩ := pair
      simp only [inserted, Exec.modify_bind_run, Exec.pure_run, Outcome.state?_ok,
        Option.some.injEq] at ended
      exact ended ▸ adds before id objects inserted

theorem spawnAddrSpace_spawns (sizes : List Nat) : (spawnAddrSpace sizes).Steps Spawns := by
  refine (carve_spawns 3).bind .trans fun rootPt => ?_
  refine (carveAll_spawns sizes).bind .trans fun _ => ?_
  refine Exec.Steps.bind .trans (allocIn_steps ?_) fun created => ?_
  · intro state id objects inserted
    exact { Spawns.refl state with
      frame := rfl, addrSpaces := .of_insert inserted ⟨rootPt, rfl⟩ }
  · exact (Exec.Reads.okOr _ _).steps .refl

theorem spawnTcb_spawns (capSpace : CapSpaceId) (addrSpace : PageTableId) :
    (spawnTcb capSpace addrSpace).Steps Spawns := by
  refine Exec.Steps.bind .trans (allocIn_steps ?_) fun created => ?_
  · intro state id objects inserted
    exact { Spawns.refl state with
      frame := rfl, tcbs := .of_insert inserted ⟨capSpace, addrSpace, rfl⟩ }
  · exact (Exec.Reads.okOr _ _).steps .refl

theorem allocCapSpace_spawns :
    (allocCapSpace : Exec KernelState SyscallError (Option CapSpaceId)).Steps Spawns := by
  refine allocIn_steps fun state id tables inserted => ?_
  refine { Spawns.refl state with
    frame := rfl, spaces := .of_insert inserted rfl, wf := ?_, caps := newSpace_caps inserted }
  rintro ⟨forest, represents⟩
  obtain ⟨_, absent, stored⟩ := Slab.insert_spec inserted
  exact ⟨forest, stored ▸ represents.create absent⟩

/-- A new process takes memory and makes objects. -/
theorem spawn_spawns (kind : SpawnKind) (sizes : List Nat) :
    (spawn kind sizes).Steps Spawns := by
  cases kind with
  | process =>
      refine (spawnAddrSpace_spawns sizes).bind .trans fun addrSpace => ?_
      refine allocCapSpace_spawns.bind .trans fun created => ?_
      refine Exec.Steps.bind .trans ((Exec.Reads.okOr _ _).steps .refl) fun capSpace => ?_
      exact spawnTcb_spawns capSpace addrSpace
  | worker =>
      refine (spawnAddrSpace_spawns sizes).bind .trans fun addrSpace => ?_
      refine Exec.Steps.bind .trans (Exec.Reads.get.steps .refl) fun state => ?_
      exact spawnTcb_spawns state.rootCapSpace addrSpace
  | thread =>
      refine Exec.Steps.bind .trans (Exec.Reads.get.steps .refl) fun state => ?_
      exact spawnTcb_spawns state.rootCapSpace state.rootAddrSpace

theorem spawnTcb_fresh {capSpace : CapSpaceId} {addrSpace : PageTableId} {tid : ThreadId}
    (ran : spawnTcb capSpace addrSpace before = .ok tid after) :
    before.tcb tid = none ∧ (after.tcb tid).isSome := by
  obtain ⟨created, middle, allocated, found⟩ := Exec.bind_eq_ok.1 ran
  obtain ⟨rfl, rfl⟩ := Exec.okOr_eq_ok.1 found
  unfold allocTcb allocIn at allocated
  rw [Exec.get_bind_run] at allocated
  cases inserted : before.tcbs.insert fun id => Tcb.newInactive id capSpace addrSpace with
  | none =>
      rw [inserted] at allocated
      cases allocated
  | some pair =>
      obtain ⟨id, objects⟩ := pair
      rw [inserted] at allocated
      obtain ⟨same, rfl⟩ := Outcome.ok.inj allocated
      obtain rfl := Option.some.inj same
      have absent := (Slab.insert_spec inserted).2.1
      have stored : objects.get? id = _ := Slab.get?_of_insert inserted id
      rw [if_pos rfl] at stored
      exact ⟨absent, Option.isSome_iff_exists.2 ⟨_, stored⟩⟩

/-- The thread of a new process had no record before. -/
theorem spawn_fresh {kind : SpawnKind} {sizes : List Nat} {tid : ThreadId}
    (ran : spawn kind sizes before = .ok tid after) :
    before.tcb tid = none ∧ (after.tcb tid).isSome := by
  have absent : ∀ {middle : KernelState}, Spawns before middle → middle.tcb tid = none →
      before.tcb tid = none := by
    intro middle spawned vacant
    by_contra present
    obtain ⟨tcb, there⟩ := Option.ne_none_iff_exists'.1 present
    have stays : middle.tcb tid = some tcb := spawned.tcbs.get?_of_some there
    rw [vacant] at stays
    cases stays
  cases kind with
  | process =>
      obtain ⟨addrSpace, first, made, ran⟩ := Exec.bind_eq_ok.1 ran
      obtain ⟨created, second, allocated, ran⟩ := Exec.bind_eq_ok.1 ran
      obtain ⟨capSpace, third, found, ran⟩ := Exec.bind_eq_ok.1 ran
      obtain ⟨_, rfl⟩ := Exec.okOr_eq_ok.1 found
      have spawned := (spawnAddrSpace_spawns sizes before first (by rw [made]; rfl)).trans
        (allocCapSpace_spawns first second (by rw [allocated]; rfl))
      obtain ⟨vacant, present⟩ := spawnTcb_fresh ran
      exact ⟨absent spawned vacant, present⟩
  | worker =>
      obtain ⟨addrSpace, first, made, ran⟩ := Exec.bind_eq_ok.1 ran
      have spawned := spawnAddrSpace_spawns sizes before first (by rw [made]; rfl)
      obtain ⟨vacant, present⟩ := spawnTcb_fresh ran
      exact ⟨absent spawned vacant, present⟩
  | thread => exact spawnTcb_fresh ran

/-- A copied capability is a call on the tables, or nothing happens. -/
theorem grantCapInto_state {src dst : CapSpaceId} {cap : CapId} {rights : CapabilityRights}
    (ended : (grantCapInto src cap dst rights before).state? = some after) :
    after = before ∨ ∃ tables,
      ((CapTables.run (.deriveChildCrossSpace src dst cap rights 0))
        before.capSpaces).state? = some tables ∧
        after = { before with capSpaces := tables } := by
  unfold grantCapInto at ended
  rw [Exec.get_bind_run] at ended
  rcases Exec.bind_state.1 ended with ⟨error, failed⟩ | ⟨⟨srcTable, dstTable⟩, later, found, ran⟩
  · exact Or.inl (Exec.Reads.okOr _ _ before after (by rw [failed]; rfl))
  · obtain ⟨paired, same⟩ := Exec.okOr_eq_ok.1 found
    obtain rfl : before = later := same
    obtain ⟨tables, inner, rfl⟩ := Exec.zoom_state.1 ran
    have present : before.capSpaces.get? src = some srcTable :=
      (capSpacePair_eq_some paired).1
    exact Or.inr ⟨tables, by simpa [CapTables.run, present] using inner, rfl⟩

end Spec

end KernelState

end Simurgh
