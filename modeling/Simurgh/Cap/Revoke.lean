import Simurgh.Cap.Forest
import Mathlib.Data.List.ProdSigma

/-!
# Revocation

`revokeCrossSpace` walks the parent links of every slot to find the subtree of
its target, then frees the slots it found.  Below, both passes are tied to
`DerivationForest.revoke`, and the reachable families of tables are defined.
-/

namespace Simurgh

namespace CapTables

variable {N M : Nat}

/-! ## The first pass -/

theorem bounds_of_parentOf {tables : CapTables N M} {child link : GlobalCapId}
    (edge : tables.parentOf child = some link) : child.space < M ∧ child.cap < N := by
  obtain ⟨table, present, stored⟩ := Option.bind_eq_some_iff.1 edge
  refine ⟨Slab.lt_of_get? present, ?_⟩
  by_contra outside
  rw [CapTable.parentOf, CapTable.slot_of_le table (Nat.le_of_not_lt outside)] at stored
  simp [CapSlot.empty] at stored

theorem bounds_of_lookup {tables : CapTables N M} {id : GlobalCapId}
    {cap : Capability} (occupied : tables.lookup id = some cap) :
    id.space < M ∧ id.cap < N := by
  obtain ⟨table, present, held⟩ := exists_of_lookup occupied
  exact ⟨Slab.lt_of_get? present, CapTable.lt_of_lookup held⟩

/-- Every slot of every space. -/
private def allSlots (N M : Nat) : Finset GlobalCapId :=
  (Finset.range M ×ˢ Finset.range N).image fun slot =>
    { space := slot.1, cap := slot.2 }

private theorem card_allSlots_le (N M : Nat) : (allSlots N M).card ≤ M * N + 1 := by
  calc
    (allSlots N M).card
        ≤ (Finset.range M ×ˢ Finset.range N).card := Finset.card_image_le
    _ = M * N := by rw [Finset.card_product, Finset.card_range, Finset.card_range]
    _ ≤ M * N + 1 := Nat.le_succ _

/-- The bounded walk finds every ancestor, for a chain visits no slot twice. -/
theorem isDescendantOf_iff {tables : CapTables N M} {forest : CapForest}
    (represents : tables.Represents forest) (cur target : GlobalCapId) :
    tables.isDescendantOf cur target = true ↔ Ancestor forest.parent cur target := by
  have links : tables.parentOf = forest.parent := funext represents.parentOf
  rw [isDescendantOf, links]
  apply walk_eq_true_iff forest.acyclic _ (card_allSlots_le N M)
  intro child link edge
  obtain ⟨spaceInside, capInside⟩ := bounds_of_parentOf (links ▸ edge)
  exact Finset.mem_image.2 ⟨(child.space, child.cap), by simp [spaceInside, capInside], rfl⟩

theorem marked_iff {tables : CapTables N M} {forest : CapForest}
    (represents : tables.Represents forest) {target : GlobalCapId} {cap : Capability}
    (occupied : tables.lookup target = some cap) (cand : GlobalCapId) :
    tables.marked target cand = true ↔ cand ∈ forest.subtree target := by
  rw [marked, Bool.and_eq_true, Bool.or_eq_true, beq_iff_eq,
    isDescendantOf_iff represents]
  constructor
  · rintro ⟨_, member⟩
    exact member
  · intro member
    rw [represents.lookup] at occupied
    obtain ⟨held, present⟩ := forest.occupied_of_mem_subtree occupied member
    exact ⟨by simp [represents.lookup, present], member⟩

/-! ## The second pass -/

/-- The slots of some spaces, in the order in which they are scanned. -/
private def slotsOf (N : Nat) (spaces : List CapSpaceId) : List GlobalCapId :=
  (spaces ×ˢ List.range N).map fun slot => { space := slot.1, cap := slot.2 }

private theorem mem_slotsOf {spaces : List CapSpaceId} {id : GlobalCapId} :
    id ∈ slotsOf N spaces ↔ id.space ∈ spaces ∧ id.cap < N := by
  unfold slotsOf
  constructor
  · intro member
    obtain ⟨slot, inside, rfl⟩ := List.mem_map.1 member
    simpa using List.mem_product.1 inside
  · intro inside
    exact List.mem_map.2
      ⟨(id.space, id.cap), List.mem_product.2 (by simpa using inside), rfl⟩

private theorem nodup_slotsOf {spaces : List CapSpaceId} (nodup : spaces.Nodup) :
    (slotsOf N spaces).Nodup := by
  refine List.Nodup.map ?_ (nodup.product List.nodup_range)
  rintro ⟨space, cap⟩ ⟨otherSpace, otherCap⟩ same
  simpa using same

private theorem filter_slotsOf_cons (marks : GlobalCapId → Bool) (space : CapSpaceId)
    (rest : List CapSpaceId) :
    ((slotsOf N (space :: rest)).filter marks).length =
      ((List.range N).filter fun cap => marks { space, cap }).length +
        ((slotsOf N rest).filter marks).length := by
  unfold slotsOf
  rw [List.product_cons, List.map_append, List.filter_append, List.length_append,
    List.map_map, List.filter_map, List.length_map]
  rfl

/-- The second pass frees the marked slots of the spaces it scans. -/
private theorem freeMarked_run {tables : CapTables N M}
    (stamped : ∀ space table, tables.get? space = some table → table.spaceId = space)
    (wf : ∀ space table, tables.get? space = some table → table.Wf)
    (marks : GlobalCapId → Bool) (spaces : List CapSpaceId) (nodup : spaces.Nodup)
    (occupied : ∀ id, id.space ∈ spaces → marks id →
      ∃ cap, tables.lookup id = some cap) :
    ∃ final,
      freeMarked marks spaces tables =
        .ok ((slotsOf N spaces).filter marks).length final ∧
      (∀ space table, final.get? space = some table → table.spaceId = space) ∧
      (∀ space table, final.get? space = some table → table.Wf) ∧
      (∀ id, final.lookup id =
        if id.space ∈ spaces ∧ marks id then none else tables.lookup id) ∧
      ∀ id, final.parentOf id =
        if id.space ∈ spaces ∧ marks id then none else tables.parentOf id := by
  induction spaces generalizing tables with
  | nil =>
      exact ⟨tables, rfl, stamped, wf, by simp, by simp⟩
  | cons space rest ih =>
      obtain ⟨notInRest, restNodup⟩ := List.nodup_cons.1 nodup
      cases present : tables.get? space with
      | none =>
          -- Nothing is marked in a space that does not exist.
          have unmarked : ∀ cap, marks { space, cap } = false := by
            intro cap
            by_contra mark
            obtain ⟨held, there⟩ := occupied { space, cap }
              (List.mem_cons_self ..) (by simpa using mark)
            simp [CapTables.lookup, present] at there
          have skip : ∀ id : GlobalCapId,
              (id.space ∈ space :: rest ∧ marks id = true) ↔
                id.space ∈ rest ∧ marks id = true := by
            rintro ⟨otherSpace, otherCap⟩
            by_cases same : otherSpace = space
            · subst same
              simp [unmarked]
            · simp [same]
          obtain ⟨final, ran, finalStamped, finalWf, finalLookup, finalParent⟩ :=
            ih stamped wf restNodup
              fun id member => occupied id (List.mem_cons_of_mem _ member)
          refine ⟨final, ?_, finalStamped, finalWf, ?_, ?_⟩
          · rw [freeMarked, Exec.get_bind_run, present, filter_slotsOf_cons]
            simpa [unmarked] using ran
          · intro id
            rw [finalLookup]
            simp only [skip]
          · intro id
            rw [finalParent]
            simp only [skip]
      | some table =>
          have inTable : ∀ cap, marks { space, cap } = true →
              ∃ held, table.lookup cap = some held := by
            intro cap mark
            obtain ⟨held, there⟩ :=
              occupied { space, cap } (List.mem_cons_self ..) mark
            exact ⟨held, (lookup_of_get? present cap).symm.trans there⟩
          have inRange : ∀ cap,
              (cap ∈ List.range N ∧ marks { space, cap } = true) ↔
                marks { space, cap } = true := by
            intro cap
            rw [List.mem_range, and_iff_right_iff_imp]
            intro mark
            obtain ⟨held, there⟩ := inTable cap mark
            exact CapTable.lt_of_lookup there
          have isSome : ∀ cap ∈ List.range N, marks { space, cap } = true →
              (table.lookup cap).isSome := by
            intro cap _ mark
            obtain ⟨held, there⟩ := inTable cap mark
            simp [there]
          obtain ⟨later, ranHere, laterWf, stamp, laterLookup, laterParent⟩ :=
            CapTable.freeMarked_run (wf space table present)
              (fun cap => marks { space, cap }) _ List.nodup_range isSome
          simp only [inRange] at laterLookup laterParent
          have laterStamped : ∀ other otherTable,
              (tables.put space later).get? other = some otherTable →
                otherTable.spaceId = other := by
            intro other otherTable there
            rw [Slab.get?_put_of_some present] at there
            by_cases same : space = other
            · rw [if_pos same, Option.some.injEq] at there
              rw [← there, stamp, ← same]
              exact stamped space table present
            · exact stamped other otherTable (by simpa [same] using there)
          have laterTablesWf : ∀ other otherTable,
              (tables.put space later).get? other = some otherTable →
                otherTable.Wf := by
            intro other otherTable there
            rw [Slab.get?_put_of_some present] at there
            by_cases same : space = other
            · rw [if_pos same, Option.some.injEq] at there
              exact there ▸ laterWf
            · exact wf other otherTable (by simpa [same] using there)
          have stillOccupied : ∀ id : GlobalCapId, id.space ∈ rest → marks id = true →
              ∃ cap, CapTables.lookup (tables.put space later) id = some cap := by
            intro id member mark
            have ne : space ≠ id.space := fun same => notInRest (same ▸ member)
            obtain ⟨held, there⟩ := occupied id (List.mem_cons_of_mem _ member) mark
            exact ⟨held, by simpa [lookup_put present, ne] using there⟩
          obtain ⟨final, ranThere, finalStamped, finalWf, finalLookup, finalParent⟩ :=
            ih laterStamped laterTablesWf restNodup stillOccupied
          refine ⟨final, ?_, finalStamped, finalWf, ?_, ?_⟩
          · rw [freeMarked, Exec.get_bind_run, present, filter_slotsOf_cons]
            simp only
            rw [Exec.bind_of_ok (onTable_of_ok present ranHere),
              Exec.bind_of_ok ranThere]
            rfl
          · rintro ⟨otherSpace, otherCap⟩
            rw [finalLookup, lookup_put present]
            by_cases same : space = otherSpace
            · subst same
              simp [notInRest, laterLookup, lookup_of_get? present]
            · simp [same, Ne.symm same]
          · rintro ⟨otherSpace, otherCap⟩
            rw [finalParent, parentOf_put present]
            by_cases same : space = otherSpace
            · subst same
              simp [notInRest, laterParent, parentOf_of_get? present]
            · simp [same, Ne.symm same]

/-! ## Both passes -/

/-- Revoking an occupied slot succeeds, returns the size of its subtree, and
removes this subtree from the forest. -/
theorem Represents.revoke {tables : CapTables N M} {forest : CapForest}
    (represents : tables.Represents forest) {target : GlobalCapId}
    {cap : Capability} (occupied : tables.lookup target = some cap) :
    ∃ final,
      revokeCrossSpace target tables = .ok (forest.subtree target).ncard final ∧
        final.Represents (forest.revoke target) := by
  obtain ⟨table, present, held⟩ := exists_of_lookup occupied
  have marks := marked_iff represents occupied
  have inside : ∀ id, id ∈ forest.subtree target → id.space < M ∧ id.cap < N := by
    intro id member
    rw [represents.lookup] at occupied
    obtain ⟨value, there⟩ := forest.occupied_of_mem_subtree occupied member
    exact bounds_of_lookup ((represents.lookup id).trans there)
  have markedOccupied : ∀ id : GlobalCapId, id.space ∈ List.range M →
      tables.marked target id = true → ∃ held, tables.lookup id = some held := by
    intro id _ mark
    rw [represents.lookup] at occupied ⊢
    exact forest.occupied_of_mem_subtree occupied ((marks id).1 mark)
  obtain ⟨final, ran, stamped, wf, lookups, parents⟩ :=
    freeMarked_run represents.stamped represents.wf (tables.marked target) _
      List.nodup_range markedOccupied
  have everywhere : ∀ id : GlobalCapId,
      (id.space ∈ List.range M ∧ tables.marked target id = true) ↔
        id ∈ forest.subtree target := by
    intro id
    rw [marks, List.mem_range, and_iff_right_iff_imp]
    exact fun member => (inside id member).1
  have counted :
      ((slotsOf N (List.range M)).filter (tables.marked target)).length =
        (forest.subtree target).ncard := by
    have listed : forest.subtree target =
        ((slotsOf N (List.range M)).filter (tables.marked target)).toFinset := by
      ext id
      simp only [Finset.mem_coe, List.mem_toFinset, List.mem_filter, mem_slotsOf,
        List.mem_range, marks]
      exact ⟨fun member => ⟨inside id member, member⟩, fun member => member.2⟩
    rw [listed, Set.ncard_coe_finset, List.toFinset_card_of_nodup]
    exact (nodup_slotsOf List.nodup_range).filter _
  refine ⟨final, ?_, stamped, wf, ?_, ?_⟩
  · simp only [revokeCrossSpace, Exec.get_bind_run, present, Exec.okOr_some,
      Exec.pure_bind_run, held, Option.isSome_some, Exec.guard, if_true]
    rw [ran, counted]
  · intro id
    rw [lookups id]
    by_cases member : id ∈ forest.subtree target
    · rw [if_pos ((everywhere id).2 member), forest.node_revoke_of_mem member]
    · rw [if_neg (mt (everywhere id).1 member), forest.node_revoke_of_not_mem member]
      exact represents.lookup id
  · intro id
    rw [parents id]
    by_cases member : id ∈ forest.subtree target
    · rw [if_pos ((everywhere id).2 member), forest.parent_revoke_of_mem member]
    · rw [if_neg (mt (everywhere id).1 member), forest.parent_revoke_of_not_mem member]
      exact represents.parentOf id

/-- Revoking a vacant slot fails and changes nothing. -/
theorem revokeCrossSpace_of_vacant {tables : CapTables N M} {target : GlobalCapId}
    (vacant : tables.lookup target = none) :
    revokeCrossSpace target tables = .err .emptySlot tables := by
  cases present : tables.get? target.space with
  | none =>
      simp [revokeCrossSpace, present]
  | some table =>
      have absent : table.lookup target.cap = none :=
        (lookup_of_get? present target.cap).symm.trans vacant
      simp [revokeCrossSpace, present, Exec.guard, absent]

/-! ## What a revocation leaves alone -/

/-- The slot at a global id, with its links. -/
def slotAt (tables : CapTables N M) (id : GlobalCapId) : Option CapSlot :=
  (tables.get? id.space).bind fun table => table.slots[id.cap]?

theorem slotAt_congr {tables later : CapTables N M} {id : GlobalCapId}
    (same : later.get? id.space = tables.get? id.space) :
    later.slotAt id = tables.slotAt id := by
  rw [slotAt, slotAt, same]

end CapTables

theorem CapTable.freeSlot_frame {N : Nat} {id other : CapId} {table final : CapTable N}
    (ended : (freeSlot id table).state? = some final) (ne : other ≠ id) :
    final.slots[other]? = table.slots[other]? := by
  have kept : ∀ slot, (table.setSlot id slot).slots[other]? = table.slots[other]? :=
    fun slot => Vector.getElem?_setIfInBounds_ne ne.symm
  unfold freeSlot at ended
  rw [Exec.get_bind_run] at ended
  cases found : table.slots[id]? with
  | none => simp [found] at ended
  | some slot =>
      rw [found, Exec.expect_some, Exec.pure_bind_run] at ended
      by_cases counted : 0 < table.occupied
      · simp only [Exec.ensure, counted, decide_true, if_true, Exec.pure_bind_run,
          Exec.modify_run, Outcome.state?_ok, Option.some.injEq] at ended
        rw [← ended]
        exact kept _
      · simp [Exec.ensure, counted] at ended

theorem CapTable.freeMarked_frame {N : Nat} {marked : CapId → Bool} {ids : List CapId}
    {table final : CapTable N} (ended : (freeMarked marked ids table).state? = some final)
    {other : CapId} (unmarked : marked other = false) :
    final.slots[other]? = table.slots[other]? := by
  induction ids generalizing table with
  | nil =>
      obtain rfl : table = final := by simpa [freeMarked] using ended
      rfl
  | cons id rest ih =>
      rw [freeMarked] at ended
      by_cases mark : marked id = true
      · have ne : other ≠ id := by
          intro same
          simp [same, mark] at unmarked
        rw [if_pos mark] at ended
        rcases Exec.bind_state.1 ended with ⟨error, failed⟩ | ⟨_, middle, freed, ended⟩
        · exact freeSlot_frame (by rw [failed]; rfl) ne
        · have here := freeSlot_frame (by rw [freed]; rfl) ne
          rcases Exec.bind_state.1 ended with ⟨error, failed⟩ | ⟨_, later, ran, ended⟩
          · exact (ih (by rw [failed]; rfl)).trans here
          · obtain rfl : later = final := by simpa using ended
            exact (ih (by rw [ran]; rfl)).trans here
      · rw [if_neg mark] at ended
        exact ih ended

namespace CapTables

variable {N M : Nat} {tables final : CapTables N M}

/-- The second pass runs on one table after another, in any state of the tables and
however it ends. -/
theorem freeMarked_relates {marked : GlobalCapId → Bool}
    (relates : CapTables N M → CapTables N M → Prop) (refl : ∀ tables, relates tables tables)
    (trans : ∀ first second third, relates first second → relates second third →
      relates first third)
    (onOne : ∀ space before after, (onTable space
      (CapTable.freeMarked (fun cap => marked { space, cap }) (List.range N))
      before).state? = some after → relates before after)
    {spaces : List CapSpaceId}
    (ended : (freeMarked marked spaces tables).state? = some final) :
    relates tables final := by
  induction spaces generalizing tables with
  | nil =>
      obtain rfl : tables = final := by simpa [freeMarked] using ended
      exact refl tables
  | cons space rest ih =>
      rw [freeMarked, Exec.get_bind_run] at ended
      cases present : tables.get? space with
      | none =>
          rw [present] at ended
          exact ih ended
      | some table =>
          rw [present] at ended
          rcases Exec.bind_state.1 ended with ⟨error, failed⟩ | ⟨_, middle, freed, ended⟩
          · exact onOne space tables final (by rw [failed]; rfl)
          · have first := onOne space tables middle (by rw [freed]; rfl)
            rcases Exec.bind_state.1 ended with ⟨error, failed⟩ | ⟨_, later, ran, ended⟩
            · exact trans _ _ _ first (ih (by rw [failed]; rfl))
            · obtain rfl : later = final := by simpa using ended
              exact trans _ _ _ first (ih (by rw [ran]; rfl))

/-- The second pass changes only slots that the first pass marked. -/
theorem freeMarked_frame {marked : GlobalCapId → Bool} {spaces : List CapSpaceId}
    (ended : (freeMarked marked spaces tables).state? = some final) {other : GlobalCapId}
    (unmarked : marked other = false) : final.slotAt other = tables.slotAt other := by
  let relates (before after : CapTables N M) : Prop :=
    after.slotAt other = before.slotAt other
  have trans : ∀ first second third, relates first second → relates second third →
      relates first third := fun _ _ _ first second => Eq.trans second first
  refine freeMarked_relates relates (fun _ => rfl) trans ?_ ended
  intro space before after ran
  cases present : before.get? space with
  | none => simp [onTable, present] at ran
  | some table =>
      simp only [onTable, Exec.get_bind_run, present, Exec.expect_some,
        Exec.pure_bind_run] at ran
      obtain ⟨freed, inner, rfl⟩ := Exec.zoom_state.1 ran
      by_cases same : space = other.space
      · subst same
        change slotAt _ other = slotAt _ other
        rw [slotAt, slotAt, Slab.get?_put_of_some present, if_pos rfl, present]
        exact CapTable.freeMarked_frame inner unmarked
      · exact slotAt_congr (Slab.get?_put_of_ne same freed)

/-- What a revocation did, in any state of the tables and however it ended. -/
theorem revokeCrossSpace_cases {target : GlobalCapId}
    (ended : (revokeCrossSpace target tables).state? = some final) :
    final = tables ∨
      (freeMarked (tables.marked target) (List.range M) tables).state? = some final := by
  unfold revokeCrossSpace at ended
  rw [Exec.get_bind_run] at ended
  rcases Exec.bind_state.1 ended with ⟨error, failed⟩ | ⟨table, middle, found, ended⟩
  · exact Or.inl (Exec.Reads.okOr _ _ tables final (by rw [failed]; rfl))
  · obtain ⟨_, rfl⟩ := Exec.okOr_eq_ok.1 found
    rcases Exec.bind_state.1 ended with ⟨error, failed⟩ | ⟨_, later, allowed, ended⟩
    · exact Or.inl (Exec.Reads.guard _ _ tables final (by rw [failed]; rfl))
    · obtain ⟨_, rfl⟩ := Exec.guard_eq_ok.1 allowed
      exact Or.inr ended

/-- Revocation removes no table. -/
theorem revokeCrossSpace_spaces {target : GlobalCapId}
    (ended : (revokeCrossSpace target tables).state? = some final) (space : CapSpaceId) :
    (final.get? space).isSome = (tables.get? space).isSome := by
  rcases revokeCrossSpace_cases ended with rfl | ran
  · rfl
  · let relates (before after : CapTables N M) : Prop :=
      (after.get? space).isSome = (before.get? space).isSome
    have trans : ∀ first second third, relates first second → relates second third →
        relates first third := fun _ _ _ first second => Eq.trans second first
    exact freeMarked_relates relates (fun _ => rfl) trans
      (fun _ _ _ ran => (onTable_frame ran space).2) ran

/-- Revocation changes the target and what is derived from it. -/
theorem revokeCrossSpace_frame {target id : GlobalCapId}
    (ended : (revokeCrossSpace target tables).state? = some final)
    (changed : final.slotAt id ≠ tables.slotAt id) :
    id = target ∨ Ancestor tables.parentOf id target := by
  rcases revokeCrossSpace_cases ended with rfl | ran
  · exact absurd rfl changed
  · have mark : tables.marked target id = true := by
      by_contra unmarked
      exact changed (freeMarked_frame ran (by simpa using unmarked))
    rw [marked, Bool.and_eq_true, Bool.or_eq_true, beq_iff_eq] at mark
    rcases mark.2 with same | below
    · exact Or.inl same
    · exact Or.inr (ancestor_of_walk below)

end CapTables

end Simurgh
