import Simurgh.Cap.Revoke
import Simurgh.Lib.TransitionSystem

/-!
# Reachable families of capability tables

A family starts with fresh tables, each stamped with its own index, and evolves
by the public calls and by creating further tables.  A call counts whether it
succeeds or fails.
-/

namespace Simurgh

/-- A call on a family of tables. -/
inductive CdtCall where
  | insertRoot (space : CapSpaceId) (cap : Capability)
  | deriveChild (space : CapSpaceId) (parent : CapId) (rights : CapabilityRights)
      (badge : Nat)
  | deriveChildCrossSpace (src dst : CapSpaceId) (parent : CapId)
      (rights : CapabilityRights) (badge : Nat)
  | revokeCrossSpace (target : GlobalCapId)
  deriving DecidableEq, Repr

/-- What may happen to a family of tables. -/
inductive TablesEvent where
  | create (space : CapSpaceId)
  | call (call : CdtCall)
  deriving DecidableEq, Repr

namespace CapTables

variable {N M : Nat}

/-- Run a call.  Its result is the id of the new capability, or the number of
slots that were freed. -/
def run : CdtCall → Exec (CapTables N M) CapTableError Nat
  | .insertRoot space cap => onTable space (CapTable.insertRoot cap)
  | .deriveChild space parent rights badge =>
      onTable space (CapTable.deriveChild parent rights badge)
  | .deriveChildCrossSpace src dst parent rights badge => do
      let tables ← Exec.get
      let srcTable ← Exec.expect (tables.get? src)
      onTable dst (CapTable.deriveChildCrossSpace srcTable src parent rights badge)
  | .revokeCrossSpace target => revokeCrossSpace target

/-- A grant touches only the table it goes to. -/
theorem run_grant_frame {tables final : CapTables N M} {src dst other : CapSpaceId}
    {parent : CapId} {rights : CapabilityRights} {badge : Nat}
    (ended : (run (.deriveChildCrossSpace src dst parent rights badge) tables).state? =
      some final) (ne : other ≠ dst) : final.get? other = tables.get? other := by
  cases srcPresent : tables.get? src with
  | none => simp [run, srcPresent] at ended
  | some srcTable =>
      simp only [run, Exec.get_bind_run, srcPresent, Exec.expect_some,
        Exec.pure_bind_run] at ended
      exact (onTable_frame ended other).1 ne

/-- Every table of the family is as `CapTable.new` leaves it. -/
def Fresh (tables : CapTables N M) : Prop :=
  ∀ space table, tables.get? space = some table → table = CapTable.new space

/-- Creation fills an empty entry.  A call may succeed or fail. -/
def Event (tables : CapTables N M) (event : TablesEvent) (final : CapTables N M) :
    Prop :=
  match event with
  | .create space =>
      tables.get? space = none ∧ final = tables.put space (CapTable.new space)
  | .call call => (run call tables).state? = some final

/-- The families of tables and the calls on them. -/
def system (N M : Nat) : TransitionSystem (CapTables N M) TablesEvent where
  Initial := Fresh
  Step := Event

/-- Reachable by any sequence of calls. -/
def Reachable : CapTables N M → Prop :=
  (system N M).Reachable TransitionSystem.anyStep

/-! ## The invariant of every run -/

theorem Fresh.wf {tables : CapTables N M} (fresh : tables.Fresh) : tables.Wf := by
  refine ⟨.empty, ?_, ?_, ?_, ?_⟩
  · intro space table present
    rw [fresh space table present]
    rfl
  · intro space table present
    rw [fresh space table present]
    exact CapTable.wf_new space
  · intro id
    cases present : tables.get? id.space with
    | none => simp [CapTables.lookup, present, DerivationForest.empty]
    | some table =>
        simp [CapTables.lookup, present, fresh id.space table present,
          DerivationForest.empty]
  · intro id
    cases present : tables.get? id.space with
    | none => simp [CapTables.parentOf, present, DerivationForest.empty]
    | some table =>
        simp [CapTables.parentOf, present, fresh id.space table present,
          DerivationForest.empty]

/-- Every call preserves the invariant, whether it succeeds or fails. -/
theorem Wf.run {tables final : CapTables N M} (wf : tables.Wf) (call : CdtCall)
    (ended : (run call tables).state? = some final) : final.Wf := by
  obtain ⟨forest, represents⟩ := wf
  cases call with
  | insertRoot space cap =>
      cases present : tables.get? space with
      | none =>
          simp [CapTables.run, onTable_of_none _ present] at ended
      | some table =>
          exact (represents.insertRoot present cap).wf represents ended
  | deriveChild space parent rights badge =>
      cases present : tables.get? space with
      | none =>
          simp [CapTables.run, onTable_of_none _ present] at ended
      | some table =>
          exact (represents.deriveChild present parent rights badge).wf represents ended
  | deriveChildCrossSpace src dst parent rights badge =>
      cases srcPresent : tables.get? src with
      | none =>
          simp [CapTables.run, srcPresent] at ended
      | some srcTable =>
          simp only [CapTables.run, Exec.get_bind_run, srcPresent, Exec.expect_some,
            Exec.pure_bind_run] at ended
          cases present : tables.get? dst with
          | none =>
              simp [onTable_of_none _ present] at ended
          | some table =>
              exact (represents.deriveChildCrossSpace srcPresent present parent rights
                badge).wf represents ended
  | revokeCrossSpace target =>
      cases occupied : tables.lookup target with
      | none =>
          rw [CapTables.run, revokeCrossSpace_of_vacant occupied] at ended
          obtain rfl : tables = final := by simpa using ended
          exact ⟨forest, represents⟩
      | some cap =>
          obtain ⟨later, ran, stored⟩ := represents.revoke occupied
          rw [CapTables.run, ran] at ended
          obtain rfl : later = final := by simpa using ended
          exact ⟨_, stored⟩

theorem Wf.event {tables final : CapTables N M} (wf : tables.Wf)
    {event : TablesEvent} (taken : Event tables event final) : final.Wf := by
  cases event with
  | create space =>
      obtain ⟨absent, rfl⟩ := taken
      obtain ⟨forest, represents⟩ := wf
      exact ⟨forest, represents.create absent⟩
  | call call =>
      exact wf.run call taken

/-- Every reachable family of tables satisfies the invariant. -/
theorem Reachable.wf {tables : CapTables N M} (reachable : tables.Reachable) :
    tables.Wf :=
  TransitionSystem.Reachable.invariant reachable (fun _ fresh => Fresh.wf fresh)
    fun _ _ _ _ wf taken => wf.event taken

/-! ## A small family -/

/-- Run calls one after another, up to one that panics. -/
def runAll : List CdtCall → CapTables N M → CapTables N M
  | [], tables => tables
  | call :: rest, tables =>
      match (run call tables).state? with
      | some later => runAll rest later
      | none => tables

theorem Reachable.runAll {tables : CapTables N M} (reachable : tables.Reachable)
    (calls : List CdtCall) : (runAll calls tables).Reachable := by
  induction calls generalizing tables with
  | nil => exact reachable
  | cons call rest ih =>
      rw [CapTables.runAll]
      cases ended : (run call tables).state? with
      | none => exact reachable
      | some later =>
          have taken : (system N M).Step tables (.call call) later := ended
          exact ih
            (TransitionSystem.Reachable.step reachable trivial taken)

/-- Two spaces of four slots.  A root is copied within its space, and the copy
is granted to the other space with a badge. -/
def sampleTables : CapTables 4 2 :=
  runAll
    [ .insertRoot 0 (Capability.full { kind := .endpoint, id := 7 }),
      .deriveChild 0 0 .all 0,
      .deriveChildCrossSpace 0 1 1 .write 5,
      .insertRoot 1 (Capability.full { kind := .endpoint, id := 8 }) ]
    ((Slab.empty.put 0 (CapTable.new 0)).put 1 (CapTable.new 1))

theorem sampleTables_reachable : sampleTables.Reachable := by
  refine Reachable.runAll ⟨_, ?_, .refl _⟩ _
  intro space table present
  simp only [Slab.get?_put, Slab.get?_empty] at present
  split at present
  · rename_i here
    rw [← here.1]
    exact (Option.some.inj present).symm
  · split at present
    · rename_i here
      rw [← here.1]
      exact (Option.some.inj present).symm
    · simp at present

/-! ## Main results -/

/-- In every reachable family the free lists are exact, parent links name
occupied slots and have no cycles, and along every chain of ancestors the object
stays, rights only shrink and a badge is inherited. -/
theorem cdt_invariants {tables : CapTables N M} (reachable : tables.Reachable) :
    (∀ space table, tables.get? space = some table →
      ∃ free : List CapId,
        LinkedChain (fun id => (table.slot id).freeNext) table.freeHead free ∧
          free.Nodup ∧
          (∀ id, id ∈ free ↔ id < N ∧ table.lookup id = none) ∧
          table.occupied + free.length = N) ∧
      (∀ id link, tables.parentOf id = some link →
        (tables.lookup link).isSome) ∧
      Acyclic tables.parentOf ∧
      ∀ id ancestor, Ancestor tables.parentOf id ancestor →
        ∃ cap ancestorCap,
          tables.lookup id = some cap ∧
            tables.lookup ancestor = some ancestorCap ∧
            cap.object = ancestorCap.object ∧
            cap.rights.isSubsetOf ancestorCap.rights ∧
            (ancestorCap.badge ≠ 0 → cap.badge = ancestorCap.badge) := by
  obtain ⟨forest, represents⟩ := reachable.wf
  have links : tables.parentOf = forest.parent := funext represents.parentOf
  refine ⟨?_, ?_, ?_, ?_⟩
  · intro space table present
    obtain ⟨free, list⟩ := (represents.wf space table present).freeList
    exact ⟨free, list.chain, list.nodup, list.covers, list.count⟩
  · intro id link edge
    obtain ⟨_, above, _, present, _⟩ := forest.linked id link (links ▸ edge)
    rw [represents.lookup, present]
    rfl
  · rw [links]
    exact forest.acyclic
  · intro id ancestor above
    obtain ⟨cap, ancestorCap, here, there, derived⟩ :=
      forest.derives_of_ancestor (fun _ _ _ => Capability.DerivedFrom.trans)
        (links ▸ above)
    exact ⟨cap, ancestorCap, (represents.lookup id).trans here,
      (represents.lookup ancestor).trans there, derived.object, derived.rights,
      derived.badge⟩

theorem cdt_invariants_sample :
    Acyclic sampleTables.parentOf ∧
      ∀ id link, sampleTables.parentOf id = some link →
        (sampleTables.lookup link).isSome :=
  have invariants := cdt_invariants sampleTables_reachable
  ⟨invariants.2.2.1, invariants.2.1⟩

/-- Revoking an occupied slot of a reachable family frees that slot and all that
descends from it, returns how many slots that was, and touches nothing else.  No
link into a free slot is left. -/
theorem revokeCrossSpace_frees_subtree {tables : CapTables N M}
    (reachable : tables.Reachable) (target : GlobalCapId)
    (occupied : (tables.lookup target).isSome) :
    ∃ final freed,
      revokeCrossSpace target tables = .ok freed final ∧
        { id | (tables.lookup id).isSome ∧ final.lookup id = none } =
          { id | id = target ∨ Ancestor tables.parentOf id target } ∧
        freed = { id | id = target ∨ Ancestor tables.parentOf id target }.ncard ∧
        (∀ id, ¬ (id = target ∨ Ancestor tables.parentOf id target) →
          final.lookup id = tables.lookup id ∧
            final.parentOf id = tables.parentOf id) ∧
        ∀ id link, final.parentOf id = some link → (final.lookup link).isSome := by
  obtain ⟨forest, represents⟩ := reachable.wf
  obtain ⟨cap, held⟩ := Option.isSome_iff_exists.1 occupied
  obtain ⟨final, ran, stored⟩ := represents.revoke held
  have links : tables.parentOf = forest.parent := funext represents.parentOf
  refine ⟨final, _, ran, ?_, ?_, ?_, ?_⟩
  · rw [links]
    ext id
    simp only [Set.mem_ofPred_eq]
    constructor
    · rintro ⟨present, gone⟩
      by_contra outside
      rw [stored.lookup, forest.node_revoke_of_not_mem outside,
        ← represents.lookup] at gone
      simp [gone] at present
    · intro member
      rw [represents.lookup] at held
      obtain ⟨value, present⟩ := forest.occupied_of_mem_subtree held member
      refine ⟨by simp [represents.lookup, present], ?_⟩
      rw [stored.lookup, forest.node_revoke_of_mem member]
  · rw [links]
    rfl
  · intro id outside
    rw [links] at outside
    rw [stored.lookup, stored.parentOf, forest.node_revoke_of_not_mem outside,
      forest.parent_revoke_of_not_mem outside]
    exact ⟨(represents.lookup id).symm, (represents.parentOf id).symm⟩
  · intro id link edge
    rw [stored.parentOf] at edge
    obtain ⟨_, above, _, present, _⟩ := (forest.revoke target).linked id link edge
    rw [stored.lookup, present]
    rfl

theorem revokeCrossSpace_frees_subtree_sample :
    ∃ final freed,
      revokeCrossSpace { space := 0, cap := 0 } sampleTables = .ok freed final ∧
        { id | (sampleTables.lookup id).isSome ∧ final.lookup id = none } =
          { id | id = { space := 0, cap := 0 } ∨
            Ancestor sampleTables.parentOf id { space := 0, cap := 0 } } := by
  obtain ⟨final, freed, ran, gone, _⟩ :=
    revokeCrossSpace_frees_subtree sampleTables_reachable
      { space := 0, cap := 0 } (by decide)
  exact ⟨final, freed, ran, gone⟩

/-- The grant in the other space goes with the root, the unrelated root stays. -/
example :
    (revokeCrossSpace { space := 0, cap := 0 } sampleTables).value? = some 3 := by
  decide

end CapTables

end Simurgh
