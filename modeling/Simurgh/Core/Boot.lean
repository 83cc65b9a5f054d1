import Simurgh.Core.Create

/-!
# Boot

The first kernel state is built from what the hardware layer found: one thread
with one capability space and one address space, and capabilities to all memory
that nothing else occupies.
-/

namespace Simurgh

/-! ## The handoff -/

inductive MemoryRegionKind where
  | usable
  | reserved
  | acpiReclaimable
  | acpiNvs
  | mmio
  | kernelImage
  | bootReserved
  deriving DecidableEq, Repr

structure MemoryRegion where
  baseAddr : Nat
  lengthBytes : Nat
  kind : MemoryRegionKind
  deriving DecidableEq, Repr

inductive PeripheralKind where
  | unknown
  | block
  | network
  | gpu
  | console
  deriving DecidableEq, Repr

structure PeripheralDevice where
  kind : PeripheralKind
  mmioBase : Nat
  mmioSize : Nat
  irq : Nat
  configSpaceBase : Nat
  deriving DecidableEq, Repr

/-- `"HALBOOT1"`. -/
def bootInfoMagic : Nat := 0x48414C424F4F5431

def bootInfoVersion : Nat := 1

/-- What the hardware layer hands to the kernel. -/
structure BootInfo where
  magic : Nat
  version : Nat
  memoryRegions : List MemoryRegion
  peripheralDevices : List PeripheralDevice
  timerFrequencyHz : Nat
  initialPageTablePhys : Nat
  kernelImagePhysStart : Nat
  kernelImagePhysEnd : Nat
  bootReservedPhysStart : Nat
  bootReservedPhysEnd : Nat
  deriving DecidableEq, Repr

def BootInfo.validate (boot : BootInfo) : Bool :=
  boot.magic == bootInfoMagic && boot.version == bootInfoVersion
    && boot.kernelImagePhysStart ≤ boot.kernelImagePhysEnd
    && boot.bootReservedPhysStart ≤ boot.bootReservedPhysEnd
    && !boot.memoryRegions.isEmpty
    && boot.timerFrequencyHz != 0

inductive KernelInitError where
  | badBootInfo
  | noUsableMemory
  | capacityExhausted
  deriving DecidableEq, Repr

/-! ## Usable memory -/

/-- Insert a hole behind those that start no later. -/
def insertHole (hole : Nat × Nat) : List (Nat × Nat) → List (Nat × Nat)
  | [] => [hole]
  | other :: rest =>
      if hole.1 < other.1 then hole :: other :: rest
      else other :: insertHole hole rest

/-- The holes clamped to `[start, stop)` and sorted by their start. -/
def sortHoles (start stop : Nat) (holes : List (Nat × Nat)) : List (Nat × Nat) :=
  holes.foldl
    (fun sorted hole =>
      let clamped := (max hole.1 start, min hole.2 stop)
      if clamped.2 ≤ clamped.1 then sorted else insertHole clamped sorted)
    []

/-- The parts of `[cur, stop)` between the holes. -/
def gaps (stop : Nat) : (cur : Nat) → List (Nat × Nat) → List (Nat × Nat)
  | cur, [] => if cur < stop then [(cur, stop)] else []
  | cur, hole :: rest =>
      let later := gaps stop (max cur hole.2) rest
      if cur < hole.1 then (cur, hole.1) :: later else later

/-- The parts of `[start, stop)` that no hole covers. -/
def subtractHoles (start stop : Nat) (holes : List (Nat × Nat)) : List (Nat × Nat) :=
  gaps stop start (sortHoles start stop holes)

/-- The kernel image, the boot data, and everything below the kernel image. -/
def BootInfo.holes (boot : BootInfo) : List (Nat × Nat) :=
  [ (boot.kernelImagePhysStart, boot.kernelImagePhysEnd),
    (boot.bootReservedPhysStart, boot.bootReservedPhysEnd),
    (0, boot.kernelImagePhysStart) ]

/-- The ranges that become untyped memory, in the order in which they are tried. -/
def BootInfo.fragments (boot : BootInfo) : List (Nat × Nat) :=
  boot.memoryRegions.flatMap fun region =>
    if region.kind ≠ .usable ∨ region.lengthBytes < pageSize then []
    else
      (subtractHoles region.baseAddr
        (saturatingAdd region.baseAddr region.lengthBytes) boot.holes).filter
          fun fragment => pageSize ≤ fragment.2 - fragment.1

namespace KernelState

/-! ## Building the state -/

/-- `cap_space_mut(space).expect(..).insert_root(full(object)).ok()`. -/
def insertRootCap (space : CapSpaceId) (object : ObjectRef) :
    Exec KernelState KernelInitError (Option CapId) :=
  Exec.asOption <| Exec.zoom capSpaces
    (fun objects state => { state with capSpaces := objects }) id
    (CapTables.onTable space (CapTable.insertRoot (.full object)))

/-- Make untyped memory of the fragments until a table is full.  It returns how
many objects were made. -/
def seedUntyped (space : CapSpaceId) :
    List (Nat × Nat) → (made : Nat) → Exec KernelState KernelInitError Nat
  | [], made => pure made
  | fragment :: rest, made => do
      let created ← allocUntyped fragment.1 (fragment.2 - fragment.1)
      match created with
      | none => return made
      | some uid => do
          let inserted ← insertRootCap space { kind := .untypedMemory, id := uid }
          match inserted with
          | some _ => seedUntyped space rest (made + 1)
          | none => return made

/-- A capability to the first device of a kind, or `u32Max`. -/
def seedMmio (space : CapSpaceId) (kind : PeripheralKind)
    (devices : List PeripheralDevice) : Exec KernelState KernelInitError CapId :=
  match devices.find? fun device => device.kind = kind with
  | none => return u32Max
  | some device => do
      let created ← allocMmioRegionDirect
        { physBase := device.mmioBase, size := device.mmioSize, irq := device.irq
          configSpaceBase := device.configSpaceBase }
      match created with
      | none => return u32Max
      | some mid => do
          let inserted ← insertRootCap space { kind := .mmioRegion, id := mid }
          return inserted.getD u32Max

/-- The capability space, address space and record of the root task. -/
def allocRoot (boot : BootInfo) :
    Exec KernelState KernelInitError (CapSpaceId × PageTableId × ThreadId) := do
  let createdCs ← allocCapSpace
  let rootCs ← Exec.okOr .capacityExhausted createdCs
  let createdAs ← allocAddrSpace boot.initialPageTablePhys
  let rootAs ← Exec.okOr .capacityExhausted createdAs
  let createdTcb ← allocTcb rootCs rootAs
  let rootTid ← Exec.okOr .capacityExhausted createdTcb
  return (rootCs, rootAs, rootTid)

/-- The root capabilities: memory, the root page table, and two devices. -/
def seedCaps (boot : BootInfo) (rootCs : CapSpaceId) (rootAs : PageTableId) :
    Exec KernelState KernelInitError (Nat × CapId × CapId × CapId) := do
  let made ← seedUntyped rootCs boot.fragments 0
  Exec.guard (made != 0) .noUsableMemory
  let inserted ← insertRootCap rootCs { kind := .pageTable, id := rootAs }
  let blk ← seedMmio rootCs .block boot.peripheralDevices
  let net ← seedMmio rootCs .network boot.peripheralDevices
  return (made, inserted.getD u32Max, blk, net)

/-- Admit the root task and make it ready. -/
def scheduleRoot (rootTid : ThreadId) : Exec KernelState KernelInitError Unit := do
  Exec.zoom sched (fun part state => { state with sched := part })
    (fun _ => KernelInitError.capacityExhausted) do
      Scheduler.admitThread rootTid .interactive maxPriority none
      Scheduler.noteReady rootTid 0
  Exec.modify <| updateTcb rootTid fun tcb => { tcb with entry := 0, state := .runnable }

/-- Fill an empty kernel state. -/
def populateFromBootInfo (boot : BootInfo) : Exec KernelState KernelInitError Unit := do
  Exec.guard boot.validate .badBootInfo
  let (rootCs, rootAs, rootTid) ← allocRoot boot
  let (made, rootPageTableCap, rootMmioBlkCap, rootMmioNetCap) ←
    seedCaps boot rootCs rootAs
  scheduleRoot rootTid
  Exec.modify fun state =>
    { state with
      rootThread := rootTid, rootCapSpace := rootCs, rootAddrSpace := rootAs
      rootPageTableCap, rootMmioBlkCap, rootMmioNetCap, untypedCount := made }

/-- `state` is what `from_boot_info` returns for some handoff. -/
def FromBootInfo (state : KernelState) : Prop :=
  ∃ boot, populateFromBootInfo boot .empty = .ok () state

/-! ## The state after boot -/

/-- The tables hold a derivation forest and every capability names an object. -/
structure Named (state : KernelState) : Prop where
  wf : state.capSpaces.Wf
  objects : ∀ id cap, state.capSpaces.lookup id = some cap →
    state.hasObject cap.object = true

/-- Handing out root capabilities changes three tables, and keeps every
capability naming an object. -/
structure Seeds (before after : KernelState) : Prop where
  frame : after =
    { before with
      capSpaces := after.capSpaces, untyped := after.untyped
      mmioRegions := after.mmioRegions }
  named : before.Named → after.Named

theorem Seeds.refl (state : KernelState) : Seeds state state :=
  ⟨rfl, id⟩

theorem Seeds.trans {before middle after : KernelState} (first : Seeds before middle)
    (second : Seeds middle after) : Seeds before after where
  frame := by rw [second.frame, first.frame]
  named := fun named => second.named (first.named named)

section Spec

variable {before after : KernelState}

theorem allocIn_eq_ok {ε α : Type} {n : Nat} {table : KernelState → Slab α n}
    {store : Slab α n → KernelState → KernelState} {make : Nat → α}
    {created : Option Nat}
    (ran : (allocIn table store make : Exec KernelState ε (Option Nat)) before =
      .ok created after) :
    (created = none ∧ after = before) ∨
      ∃ id objects, created = some id ∧ (table before).insert make = some (id, objects) ∧
        after = store objects before := by
  unfold allocIn at ran
  rw [Exec.get_bind_run] at ran
  cases inserted : (table before).insert make with
  | none =>
      simp only [inserted, Exec.pure_run, Outcome.ok.injEq] at ran
      exact Or.inl ⟨ran.1.symm, ran.2.symm⟩
  | some pair =>
      obtain ⟨id, objects⟩ := pair
      simp only [inserted, Exec.modify_bind_run, Exec.pure_run, Outcome.ok.injEq] at ran
      exact Or.inr ⟨id, objects, ran.1.symm, rfl, ran.2.symm⟩

/-- Objects are only added and the capabilities stay. -/
private theorem Named.grow (named : before.Named)
    (same : after.capSpaces = before.capSpaces)
    (grows : ∀ object, before.hasObject object = true → after.hasObject object = true) :
    after.Named where
  wf := same ▸ named.wf
  objects := fun id cap held => grows _ (named.objects id cap (same ▸ held))

/-- A root capability to an object that exists. -/
theorem insertRootCap_seeds {space : CapSpaceId} {object : ObjectRef}
    {inserted : Option CapId} (exists' : before.hasObject object = true)
    (ran : insertRootCap space object before = .ok inserted after) :
    Seeds before after := by
  have ended : ((insertRootCap space object) before).state? = some after := by
    rw [ran]
    rfl
  unfold insertRootCap at ended
  rw [Exec.asOption_state] at ended
  obtain ⟨tables, inner, rfl⟩ := Exec.zoom_state.1 ended
  refine ⟨rfl, fun named => ?_⟩
  obtain ⟨forest, represents⟩ := named.wf
  cases present : before.capSpaces.get? space with
  | none =>
      rw [CapTables.onTable_of_none _ present] at inner
      simp at inner
  | some table =>
      have inserts := represents.insertRoot present (.full object)
      have framed := CapTables.onTable_frame inner
      refine ⟨inserts.wf represents inner, fun id cap held => ?_⟩
      rw [hasObject_withTables fun other => (framed other).2]
      rcases inserts.slot represents inner id with ⟨same, _⟩ | ⟨_, _, _, new, stored, rfl⟩
      · exact named.objects id cap (same ▸ held)
      · obtain rfl : Capability.full object = cap :=
          Option.some.inj (stored.symm.trans held)
        exact exists'

/-- A new object of one kind, whose name is then taken. -/
theorem allocIn_seeds {ε α : Type} {n : Nat} {table : KernelState → Slab α n}
    {store : Slab α n → KernelState → KernelState} {make : Nat → α} {kind : KernelObjectKind}
    {created : Option Nat}
    (frame : ∀ objects, store objects before =
      { before with
        capSpaces := before.capSpaces, untyped := (store objects before).untyped
        mmioRegions := (store objects before).mmioRegions })
    (held : ∀ id, before.hasObject { kind, id } = ((table before).get? id).isSome)
    (stored : ∀ objects id, (store objects before).hasObject { kind, id } =
      (objects.get? id).isSome)
    (others : ∀ objects object, object.kind ≠ kind →
      (store objects before).hasObject object = before.hasObject object)
    (ran : (allocIn table store make : Exec KernelState ε (Option Nat)) before =
      .ok created after) :
    Seeds before after ∧ ∀ id, created = some id → after.hasObject { kind, id } = true := by
  rcases allocIn_eq_ok ran with ⟨rfl, rfl⟩ | ⟨id, objects, rfl, inserted, rfl⟩
  · exact ⟨Seeds.refl _, by simp⟩
  · have spaces : (store objects before).capSpaces = before.capSpaces := by rw [frame objects]
    refine ⟨⟨by rw [spaces]; exact frame objects, fun named => named.grow spaces ?_⟩, ?_⟩
    · rintro ⟨other, name⟩ there
      by_cases same : other = kind
      · subst same
        rw [held] at there
        obtain ⟨object, present⟩ := Option.isSome_iff_exists.1 there
        rw [stored, Slab.get?_of_insert_of_some inserted present]
        rfl
      · rwa [others objects _ same]
    · rintro _ ⟨⟩
      rw [stored, Slab.get?_of_insert inserted, if_pos rfl]
      rfl

theorem allocUntyped_seeds {base size : Nat} {created : Option UntypedId}
    (ran : (allocUntyped base size : Exec KernelState KernelInitError _) before =
      .ok created after) :
    Seeds before after ∧ ∀ uid, created = some uid →
      after.hasObject { kind := .untypedMemory, id := uid } = true := by
  refine allocIn_seeds (fun _ => rfl) (fun _ => rfl) (fun _ _ => rfl) ?_ ran
  rintro objects ⟨kind, id⟩ other
  cases kind with
  | untypedMemory => exact absurd rfl other
  | _ => rfl

theorem allocMmioRegionDirect_seeds {descriptor : MmioRegionDescriptor}
    {created : Option MmioRegionId}
    (ran : (allocMmioRegionDirect descriptor : Exec KernelState KernelInitError _) before =
      .ok created after) :
    Seeds before after ∧ ∀ mid, created = some mid →
      after.hasObject { kind := .mmioRegion, id := mid } = true := by
  refine allocIn_seeds (fun _ => rfl) (fun _ => rfl) (fun _ _ => rfl) ?_ ran
  rintro objects ⟨kind, id⟩ other
  cases kind with
  | mmioRegion => exact absurd rfl other
  | _ => rfl

theorem seedUntyped_seeds {space : CapSpaceId} {fragments : List (Nat × Nat)}
    {made total : Nat} (ran : seedUntyped space fragments made before = .ok total after) :
    Seeds before after := by
  induction fragments generalizing made before with
  | nil =>
      obtain ⟨_, rfl⟩ : made = total ∧ before = after := by simpa [seedUntyped] using ran
      exact Seeds.refl _
  | cons fragment rest ih =>
      rw [seedUntyped] at ran
      obtain ⟨created, middle, allocated, ran⟩ := Exec.bind_eq_ok.1 ran
      obtain ⟨first, present⟩ := allocUntyped_seeds allocated
      cases created with
      | none =>
          obtain ⟨_, rfl⟩ : made = total ∧ middle = after := by simpa using ran
          exact first
      | some uid =>
          obtain ⟨inserted, later, stored, ran⟩ := Exec.bind_eq_ok.1 ran
          have second := first.trans (insertRootCap_seeds (present uid rfl) stored)
          cases inserted with
          | none =>
              obtain ⟨_, rfl⟩ : made = total ∧ later = after := by simpa using ran
              exact second
          | some cap => exact second.trans (ih ran)

/-- A capability to a device is stored, or less is done. -/
theorem seedMmio_cases {space : CapSpaceId} {kind : PeripheralKind}
    {devices : List PeripheralDevice} {cap : CapId}
    (ran : seedMmio space kind devices before = .ok cap after) :
    after = before ∨
      ∃ device ∈ devices, ∃ created middle,
        (allocMmioRegionDirect
          { physBase := device.mmioBase, size := device.mmioSize, irq := device.irq
            configSpaceBase := device.configSpaceBase } : Exec KernelState KernelInitError _)
          before = .ok created middle ∧
        (after = middle ∨
          ∃ mid inserted, created = some mid ∧
            insertRootCap space { kind := .mmioRegion, id := mid } middle =
              .ok inserted after) := by
  unfold seedMmio at ran
  cases found : devices.find? fun device => device.kind = kind with
  | none =>
      obtain ⟨_, rfl⟩ : u32Max = cap ∧ before = after := by simpa [found] using ran
      exact .inl rfl
  | some device =>
      simp only [found] at ran
      obtain ⟨created, middle, allocated, ran⟩ := Exec.bind_eq_ok.1 ran
      refine .inr ⟨device, List.mem_of_find?_eq_some found, created, middle, allocated, ?_⟩
      cases created with
      | none =>
          obtain ⟨_, rfl⟩ : u32Max = cap ∧ middle = after := by simpa using ran
          exact .inl rfl
      | some mid =>
          obtain ⟨inserted, later, stored, ran⟩ := Exec.bind_eq_ok.1 ran
          obtain ⟨_, rfl⟩ : inserted.getD u32Max = cap ∧ later = after := by
            simpa using ran
          exact .inr ⟨mid, inserted, rfl, stored⟩

theorem seedMmio_seeds {space : CapSpaceId} {kind : PeripheralKind}
    {devices : List PeripheralDevice} {cap : CapId}
    (ran : seedMmio space kind devices before = .ok cap after) : Seeds before after := by
  rcases seedMmio_cases ran with rfl | ⟨device, _, created, middle, allocated, ends⟩
  · exact Seeds.refl _
  · obtain ⟨first, present⟩ := allocMmioRegionDirect_seeds allocated
    rcases ends with rfl | ⟨mid, inserted, rfl, stored⟩
    · exact first
    · exact first.trans (insertRootCap_seeds (present mid rfl) stored)

/-- The four steps of `seedCaps`. -/
theorem seedCaps_eq_ok {boot : BootInfo} {rootCs : CapSpaceId} {rootAs : PageTableId}
    {result : Nat × CapId × CapId × CapId}
    (ran : seedCaps boot rootCs rootAs before = .ok result after) :
    ∃ made first inserted second blk third net,
      seedUntyped rootCs boot.fragments 0 before = .ok made first ∧
        insertRootCap rootCs { kind := .pageTable, id := rootAs } first = .ok inserted second ∧
        seedMmio rootCs .block boot.peripheralDevices second = .ok blk third ∧
        seedMmio rootCs .network boot.peripheralDevices third = .ok net after := by
  unfold seedCaps at ran
  obtain ⟨made, first, seeded, ran⟩ := Exec.bind_eq_ok.1 ran
  obtain ⟨_, _, guarded, ran⟩ := Exec.bind_eq_ok.1 ran
  obtain ⟨_, rfl⟩ := Exec.guard_eq_ok.1 guarded
  obtain ⟨inserted, second, stored, ran⟩ := Exec.bind_eq_ok.1 ran
  obtain ⟨blk, third, seededBlk, ran⟩ := Exec.bind_eq_ok.1 ran
  obtain ⟨net, fourth, seededNet, ran⟩ := Exec.bind_eq_ok.1 ran
  obtain ⟨_, rfl⟩ : (made, inserted.getD u32Max, blk, net) = result ∧ fourth = after := by
    simpa using ran
  exact ⟨made, first, inserted, second, blk, third, net, seeded, stored, seededBlk, seededNet⟩

theorem seedCaps_seeds {boot : BootInfo} {rootCs : CapSpaceId} {rootAs : PageTableId}
    {result : Nat × CapId × CapId × CapId}
    (present : before.hasObject { kind := .pageTable, id := rootAs } = true)
    (ran : seedCaps boot rootCs rootAs before = .ok result after) : Seeds before after := by
  obtain ⟨made, first, inserted, second, blk, third, net, seeded, stored, seededBlk,
    seededNet⟩ := seedCaps_eq_ok ran
  have untyped := seedUntyped_seeds seeded
  have still : first.hasObject { kind := .pageTable, id := rootAs } = true := by
    rw [untyped.frame]
    exact present
  exact ((untyped.trans (insertRootCap_seeds still stored)).trans
    (seedMmio_seeds seededBlk)).trans (seedMmio_seeds seededNet)

/-- The root task takes one object of each of three tables. -/
theorem allocRoot_inserts {boot : BootInfo} {rootCs : CapSpaceId} {rootAs : PageTableId}
    {rootTid : ThreadId}
    (ran : allocRoot boot .empty = .ok (rootCs, rootAs, rootTid) after) :
    ∃ tables spaces tcbs,
      (empty.capSpaces).insert .new = some (rootCs, tables) ∧
        (empty.addrSpaces).insert (fun _ => .new boot.initialPageTablePhys) =
          some (rootAs, spaces) ∧
        (empty.tcbs).insert (fun id => .newInactive id rootCs rootAs) = some (rootTid, tcbs) ∧
        after = { empty with capSpaces := tables, addrSpaces := spaces, tcbs } := by
  unfold allocRoot at ran
  obtain ⟨createdCs, _, allocatedCs, ran⟩ := Exec.bind_eq_ok.1 ran
  obtain ⟨cs, _, foundCs, ran⟩ := Exec.bind_eq_ok.1 ran
  obtain ⟨rfl, rfl⟩ := Exec.okOr_eq_ok.1 foundCs
  obtain ⟨createdAs, _, allocatedAs, ran⟩ := Exec.bind_eq_ok.1 ran
  obtain ⟨as, _, foundAs, ran⟩ := Exec.bind_eq_ok.1 ran
  obtain ⟨rfl, rfl⟩ := Exec.okOr_eq_ok.1 foundAs
  obtain ⟨createdTcb, _, allocatedTcb, ran⟩ := Exec.bind_eq_ok.1 ran
  obtain ⟨tid, _, foundTcb, ran⟩ := Exec.bind_eq_ok.1 ran
  obtain ⟨rfl, rfl⟩ := Exec.okOr_eq_ok.1 foundTcb
  simp only [Exec.pure_run, Outcome.ok.injEq, Prod.mk.injEq] at ran
  obtain ⟨⟨rfl, rfl, rfl⟩, rfl⟩ := ran
  rcases allocIn_eq_ok allocatedCs with ⟨absurdity, _⟩ | ⟨_, tables, same, insertedCs, rfl⟩
  · simp at absurdity
  obtain rfl := Option.some.inj same
  rcases allocIn_eq_ok allocatedAs with ⟨absurdity, _⟩ | ⟨_, spaces, same, insertedAs, rfl⟩
  · simp at absurdity
  obtain rfl := Option.some.inj same
  rcases allocIn_eq_ok allocatedTcb with ⟨absurdity, _⟩ | ⟨_, tcbs, same, insertedTcb, rfl⟩
  · simp at absurdity
  obtain rfl := Option.some.inj same
  exact ⟨tables, spaces, tcbs, insertedCs, insertedAs, insertedTcb, rfl⟩

/-- The root task exists, in a space without capabilities. -/
theorem allocRoot_ok {boot : BootInfo} {rootCs : CapSpaceId} {rootAs : PageTableId}
    {rootTid : ThreadId}
    (ran : allocRoot boot .empty = .ok (rootCs, rootAs, rootTid) after) :
    ∃ tables spaces tcbs,
      after = { empty with capSpaces := tables, addrSpaces := spaces, tcbs } ∧
        after.Named ∧ after.hasObject { kind := .pageTable, id := rootAs } = true ∧
        (∀ id space, spaces.get? id = some space →
          space = .new boot.initialPageTablePhys) ∧
        rootTid < maxThreads ∧
        ∀ tid, tcbs.get? tid =
          if tid = rootTid then some (.newInactive tid rootCs rootAs) else none := by
  obtain ⟨tables, spaces, tcbs, insertedCs, insertedAs, insertedTcb, rfl⟩ :=
    allocRoot_inserts ran
  refine ⟨tables, spaces, tcbs, rfl, ⟨?_, ?_⟩, ?_, ?_, ?_, ?_⟩
  · have fresh : (empty.capSpaces).Fresh := by
      intro space table present
      simp [empty] at present
    obtain ⟨forest, represents⟩ := fresh.wf
    obtain ⟨_, absent, stored⟩ := Slab.insert_spec insertedCs
    exact ⟨forest, stored ▸ represents.create absent⟩
  · intro id cap held
    have vacant : CapTables.lookup tables id = none := by
      rw [(newSpace_caps insertedCs id).1]
      simp [CapTables.lookup, empty]
    change CapTables.lookup tables id = some cap at held
    rw [vacant] at held
    simp at held
  · change (spaces.get? rootAs).isSome = true
    rw [Slab.get?_of_insert insertedAs, if_pos rfl]
    rfl
  · intro id space present
    rw [Slab.get?_of_insert insertedAs] at present
    by_cases same : rootAs = id
    · rw [if_pos same, Option.some.injEq] at present
      exact present.symm
    · simp [same, empty] at present
  · exact (Slab.insert_spec insertedTcb).1
  · intro other
    rw [Slab.get?_of_insert insertedTcb]
    by_cases same : other = rootTid
    · subst same
      simp
    · simp [same, Ne.symm same, empty]

/-- The scheduler once the root task was admitted. -/
def schedWithRoot (rootTid : ThreadId) (sched : KScheduler) : KScheduler :=
  (sched.setAdmitted rootTid .interactive maxPriority none).setReady rootTid 0

theorem scheduleRoot_ok {rootTid : ThreadId} (inside : rootTid < maxThreads)
    (ran : scheduleRoot rootTid before = .ok () after) :
    after =
      { before.updateTcb rootTid fun tcb => { tcb with entry := 0, state := .runnable } with
        sched := schedWithRoot rootTid before.sched } := by
  have admitted : (Scheduler.admitThread rootTid .interactive maxPriority none : Exec KScheduler _ _)
      before.sched =
        .ok () (before.sched.setAdmitted rootTid .interactive maxPriority none) := by
    simp [Scheduler.admitThread, Exec.guard, inside, Scheduler.setAdmitted]
  have present : ((before.sched.setAdmitted rootTid .interactive maxPriority none).entity
      rootTid).isSome := by
    rw [Scheduler.entity_setAdmitted inside, if_pos rfl]
    rfl
  unfold scheduleRoot at ran
  obtain ⟨_, middle, scheduled, ran⟩ := Exec.bind_eq_ok.1 ran
  obtain ⟨sched, inner, rfl⟩ := Exec.zoom_eq_ok.1 scheduled
  rw [Exec.bind_of_ok admitted, Scheduler.noteReady_of_some present,
    Outcome.ok.injEq] at inner
  obtain ⟨_, rfl⟩ := inner
  rw [Exec.modify_run, Outcome.ok.injEq] at ran
  rw [← ran.2]
  unfold updateTcb tcb
  cases before.tcbs.get? rootTid with
  | none => rfl
  | some tcb => rfl

/-- What holds of the first kernel state. -/
structure Booted (state : KernelState) : Prop where
  named : state.Named
  endpoints : state.endpoints = .empty
  notifications : state.notifications = .empty
  unmapped : ∀ id space, state.addrSpaces.get? id = some space →
    ∃ root, space = .new root
  runnable : ∀ tid tcb, state.tcb tid = some tcb → tcb.state = .runnable
  unpending : ∀ tid tcb, state.tcb tid = some tcb →
    tcb.pendingFrom = none ∧ tcb.pendingMsg = none
  rootRecorded : (state.tcb state.rootThread).isSome
  admitted : ∀ tid, (state.sched.entity tid).isSome → (state.tcb tid).isSome
  threadsMatch : state.sched.ThreadsMatch
  idle : state.sched.running = none
  scheduled : ∃ rootTid, state.sched = schedWithRoot rootTid (.new interactiveQuantumNs)
  mapPool : state.mapPoolBase = 0 ∧ state.mapPoolLen = 0 ∧ state.mapPoolUsed = 0

/-- The steps that fill a kernel state. -/
theorem populateFromBootInfo_eq_ok {boot : BootInfo} {before state : KernelState}
    (ran : populateFromBootInfo boot before = .ok () state) :
    ∃ rootCs rootAs rootTid first made ptCap blkCap netCap second third,
      allocRoot boot before = .ok (rootCs, rootAs, rootTid) first ∧
        seedCaps boot rootCs rootAs first = .ok (made, ptCap, blkCap, netCap) second ∧
        scheduleRoot rootTid second = .ok () third ∧
        state = { third with
          rootThread := rootTid, rootCapSpace := rootCs, rootAddrSpace := rootAs
          rootPageTableCap := ptCap, rootMmioBlkCap := blkCap, rootMmioNetCap := netCap
          untypedCount := made } := by
  unfold populateFromBootInfo at ran
  obtain ⟨_, _, guarded, ran⟩ := Exec.bind_eq_ok.1 ran
  obtain ⟨_, rfl⟩ := Exec.guard_eq_ok.1 guarded
  obtain ⟨⟨rootCs, rootAs, rootTid⟩, first, allocated, ran⟩ := Exec.bind_eq_ok.1 ran
  obtain ⟨⟨made, ptCap, blkCap, netCap⟩, second, seeded, ran⟩ := Exec.bind_eq_ok.1 ran
  obtain ⟨_, third, scheduled, stored⟩ := Exec.bind_eq_ok.1 ran
  rw [Exec.modify_run, Outcome.ok.injEq] at stored
  exact ⟨rootCs, rootAs, rootTid, first, made, ptCap, blkCap, netCap, second, third, allocated,
    seeded, scheduled, stored.2.symm⟩

theorem FromBootInfo.booted {state : KernelState} (fromBoot : state.FromBootInfo) :
    state.Booted := by
  obtain ⟨boot, ran⟩ := fromBoot
  obtain ⟨rootCs, rootAs, rootTid, first, made, ptCap, blkCap, netCap, second, third, allocated,
    seeded, scheduled, stored⟩ := populateFromBootInfo_eq_ok ran
  obtain ⟨tables, spaces, tcbs, rfl, named, present, roots, inside, threads⟩ :=
    allocRoot_ok allocated
  have seeds := seedCaps_seeds present seeded
  have final := scheduleRoot_ok inside scheduled
  have secondNamed := seeds.named named
  have secondSched : second.sched = .new interactiveQuantumNs := by
    rw [seeds.frame]
    rfl
  have thirdSched :
      third.sched = schedWithRoot rootTid (.new interactiveQuantumNs) := by
    rw [final, ← secondSched]
  have entities : ∀ tid, (third.sched.entity tid).isSome → tid = rootTid := by
    intro tid there
    by_contra ne
    rw [thirdSched, schedWithRoot, Scheduler.setReady, Scheduler.entity_updateEntity,
      if_neg ne, Scheduler.entity_setAdmitted inside, if_neg ne] at there
    simp [Scheduler.entity, Scheduler.new] at there
  have threadsOf : ∀ tid, third.tcb tid =
      if tid = rootTid then
        some { Tcb.newInactive tid rootCs rootAs with state := .runnable }
      else none := by
    intro tid
    have secondTcb : second.tcb tid = tcbs.get? tid := by
      rw [seeds.frame]
      rfl
    rw [final]
    change (second.updateTcb rootTid _).tcb tid = _
    rw [tcb_updateTcb, secondTcb, threads]
    by_cases same : tid = rootTid
    · simp [same, Tcb.newInactive]
    · simp [same]
  have frame : third =
      { second with tcbs := third.tcbs, sched := third.sched } := by
    rw [final, updateTcb_frame]
  have thirdNamed : third.Named := by
    refine ⟨?_, fun id cap held => ?_⟩
    · rw [frame]
      exact secondNamed.wf
    · rw [frame] at held
      rw [final]
      exact (hasObject_updateTcb ..).trans (secondNamed.objects id cap held)
  rw [stored]
  exact {
    named := ⟨thirdNamed.wf, thirdNamed.objects⟩
    endpoints := by
      change third.endpoints = _
      rw [frame, seeds.frame]
      rfl
    notifications := by
      change third.notifications = _
      rw [frame, seeds.frame]
      rfl
    unmapped := by
      intro id space there
      change third.addrSpaces.get? id = _ at there
      rw [frame, seeds.frame] at there
      exact ⟨_, roots id space there⟩
    runnable := by
      intro tid tcb there
      change third.tcb tid = _ at there
      rw [threadsOf] at there
      by_cases same : tid = rootTid
      · rw [if_pos same, Option.some.injEq] at there
        rw [← there]
      · simp [same] at there
    unpending := by
      intro tid tcb there
      change third.tcb tid = _ at there
      rw [threadsOf] at there
      by_cases same : tid = rootTid
      · rw [if_pos same, Option.some.injEq] at there
        rw [← there]
        exact ⟨rfl, rfl⟩
      · simp [same] at there
    rootRecorded := by
      change (third.tcb rootTid).isSome
      rw [threadsOf, if_pos rfl]
      rfl
    admitted := by
      intro tid there
      change (third.tcb tid).isSome
      rw [threadsOf, if_pos (entities tid there)]
      rfl
    threadsMatch := by
      change third.sched.ThreadsMatch
      rw [thirdSched]
      refine Scheduler.ThreadsMatch.setReady ?_ _ _
      refine Scheduler.ThreadsMatch.setAdmitted ?_ inside _ _ _
      intro i entity present
      simp [Scheduler.entity, Scheduler.new] at present
    idle := by
      change third.sched.running = none
      rw [thirdSched]
      exact Scheduler.running_setReady ..
    scheduled := ⟨rootTid, thirdSched⟩
    mapPool := by
      change third.mapPoolBase = 0 ∧ third.mapPoolLen = 0 ∧ third.mapPoolUsed = 0
      rw [frame, seeds.frame]
      exact ⟨rfl, rfl, rfl⟩ }

end Spec

end KernelState

end Simurgh
