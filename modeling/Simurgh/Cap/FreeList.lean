import Simurgh.Cap.Cdt
import Simurgh.Lib.LinkedChain

/-!
# Allocation in one capability table

Between calls the free list visits every free slot once and no occupied slot.
With this invariant `allocSlot` and `freeSlot` never panic, and each operation on
a table is one of two state changes, `occupy` and `release`.
-/

namespace Simurgh

namespace CapTable

variable {N : Nat}

/-- `free` is the free list of the table. -/
structure FreeList (table : CapTable N) (free : List CapId) : Prop where
  chain : LinkedChain (fun id => (table.slot id).freeNext) table.freeHead free
  nodup : free.Nodup
  covers : ∀ id, id ∈ free ↔ id < N ∧ table.lookup id = none
  count : table.occupied + free.length = N

/-- The invariants of one table between calls. -/
structure Wf (table : CapTable N) : Prop where
  freeList : ∃ free, table.FreeList free
  parentless : ∀ id, table.lookup id = none → table.parentOf id = none

/-! ## Reading slots back -/

theorem slot_of_le (table : CapTable N) {id : CapId} (outside : N ≤ id) :
    table.slot id = .empty := by
  unfold slot
  rw [Vector.getElem?_eq_none outside]
  rfl

theorem getElem?_slots (table : CapTable N) {id : CapId} (inside : id < N) :
    table.slots[id]? = some (table.slot id) := by
  unfold slot
  rw [Vector.getElem?_eq_getElem inside]
  rfl

theorem lt_of_lookup {table : CapTable N} {id : CapId} {cap : Capability}
    (present : table.lookup id = some cap) : id < N := by
  by_contra outside
  rw [lookup, slot_of_le table (Nat.le_of_not_lt outside)] at present
  simp [CapSlot.empty] at present

theorem slot_setSlot (table : CapTable N) (id other : CapId) (new : CapSlot) :
    (table.setSlot id new).slot other =
      if id = other ∧ other < N then new else table.slot other := by
  unfold slot setSlot
  rw [Vector.getElem?_setIfInBounds]
  by_cases same : id = other
  · subst same
    by_cases inside : id < N
    · simp [inside]
    · simp [inside]
  · simp [same]

theorem slot_new (spaceId : CapSpaceId) (id : CapId) :
    (new spaceId : CapTable N).slot id =
      if id + 1 < N then { CapSlot.empty with freeNext := some (id + 1) }
      else .empty := by
  by_cases inside : id < N
  · unfold slot new
    rw [Vector.getElem?_eq_getElem inside, Vector.getElem_ofFn]
    by_cases more : id + 1 < N
    · simp [more]
    · simp [more, CapSlot.empty]
  · rw [slot_of_le _ (Nat.le_of_not_lt inside)]
    have : ¬ id + 1 < N := fun more => inside (Nat.lt_of_succ_lt more)
    simp [this]

@[simp]
theorem lookup_new (spaceId : CapSpaceId) (id : CapId) :
    (new spaceId : CapTable N).lookup id = none := by
  rw [lookup, slot_new]
  split
  · rfl
  · rfl

@[simp]
theorem parentOf_new (spaceId : CapSpaceId) (id : CapId) :
    (new spaceId : CapTable N).parentOf id = none := by
  rw [parentOf, slot_new]
  split
  · rfl
  · rfl

theorem wf_new (spaceId : CapSpaceId) : (new spaceId : CapTable N).Wf where
  freeList := by
    refine ⟨List.range' 0 N, ?_, List.nodup_range', ?_, ?_⟩
    · apply LinkedChain.range'
      · intro id inside
        rw [slot_new]
        split
        · rfl
        · rfl
      · omega
    · intro id
      simp [List.mem_range'_1]
    · simp [new]
  parentless := by
    intro id _
    exact parentOf_new spaceId id

/-! ## Taking a slot -/

/-- The table after `allocSlot` took `id` off the free list. -/
def taken (table : CapTable N) (id : CapId) : CapTable N :=
  { table.setSlot id .empty with
    freeHead := (table.slot id).freeNext
    occupied := table.occupied + 1 }

/-- The table after the free slot `id` at the head of the list was filled. -/
def occupy (table : CapTable N) (id : CapId) (cap : Capability)
    (parent : Option GlobalCapId) : CapTable N :=
  (table.taken id).setSlot id
    { cap := some cap, parent := parent, freeNext := none }

theorem slot_taken (table : CapTable N) {id : CapId} (inside : id < N)
    (other : CapId) :
    (table.taken id).slot other =
      if id = other then .empty else table.slot other := by
  have : (table.taken id).slot other = (table.setSlot id .empty).slot other := rfl
  rw [this, slot_setSlot]
  by_cases same : id = other
  · subst same
    simp [inside]
  · simp [same]

/-- A new capability goes into the slot at the head of the free list. -/
theorem Wf.freeHead_spec {table : CapTable N} (wf : table.Wf) {id : CapId}
    (head : table.freeHead = some id) : id < N ∧ table.lookup id = none := by
  obtain ⟨free, list⟩ := wf.freeList
  have chain := list.chain
  rw [head] at chain
  obtain ⟨rest, rfl, _⟩ := chain.exists_of_head
  exact (list.covers id).1 (List.mem_cons_self ..)

/-- The free list is empty exactly if every slot is counted as occupied. -/
theorem Wf.freeHead_eq_none_iff {table : CapTable N} (wf : table.Wf) :
    table.freeHead = none ↔ N - table.occupied = 0 := by
  obtain ⟨free, list⟩ := wf.freeList
  have counted := list.count
  have chain := list.chain
  cases head : table.freeHead with
  | none =>
      rw [head] at chain
      obtain rfl : free = [] := chain.unique (LinkedChain.nil_iff.2 rfl)
      rw [List.length_nil] at counted
      exact iff_of_true rfl (by omega)
  | some id =>
      rw [head] at chain
      obtain ⟨rest, rfl, _⟩ := chain.exists_of_head
      rw [List.length_cons] at counted
      exact iff_of_false (Option.some_ne_none id) (by omega)

theorem slot_occupy {table : CapTable N} {id : CapId} (inside : id < N)
    (cap : Capability) (parent : Option GlobalCapId) (other : CapId) :
    (table.occupy id cap parent).slot other =
      if id = other then { cap := some cap, parent := parent, freeNext := none }
      else table.slot other := by
  rw [occupy, slot_setSlot, slot_taken table inside]
  by_cases same : id = other
  · subst same
    simp [inside]
  · simp [same]

theorem lookup_occupy {table : CapTable N} {id : CapId} (inside : id < N)
    (cap : Capability) (parent : Option GlobalCapId) (other : CapId) :
    (table.occupy id cap parent).lookup other =
      if id = other then some cap else table.lookup other := by
  rw [lookup, slot_occupy inside]
  split
  · rfl
  · rfl

theorem parentOf_occupy {table : CapTable N} {id : CapId} (inside : id < N)
    (cap : Capability) (parent : Option GlobalCapId) (other : CapId) :
    (table.occupy id cap parent).parentOf other =
      if id = other then parent else table.parentOf other := by
  rw [parentOf, slot_occupy inside]
  split
  · rfl
  · rfl

/-- Filling the head of the free list leaves the rest of the list. -/
theorem FreeList.occupy {table : CapTable N} {id : CapId} {rest : List CapId}
    (list : table.FreeList (id :: rest)) (cap : Capability) (parent : Option GlobalCapId) :
    (table.occupy id cap parent).FreeList rest := by
  obtain ⟨_, restChain⟩ := list.chain
  obtain ⟨notInRest, restNodup⟩ := List.nodup_cons.1 list.nodup
  have inside : id < N := ((list.covers id).1 (List.mem_cons_self ..)).1
  refine ⟨?_, restNodup, ?_, ?_⟩
  · apply restChain.congr
    intro other member
    have ne : id ≠ other := fun same => notInRest (same ▸ member)
    simp [slot_occupy inside, ne]
  · intro other
    rw [lookup_occupy inside]
    by_cases same : id = other
    · subst same
      simp [notInRest]
    · have covered := list.covers other
      simp only [List.mem_cons, Ne.symm same, false_or] at covered
      simpa [same] using covered
  · have counted := list.count
    simp only [List.length_cons] at counted
    change table.occupied + 1 + rest.length = N
    omega

theorem Wf.occupy {table : CapTable N} (wf : table.Wf) {id : CapId}
    (head : table.freeHead = some id)
    (cap : Capability) (parent : Option GlobalCapId) :
    (table.occupy id cap parent).Wf where
  freeList := by
    obtain ⟨free, list⟩ := wf.freeList
    have chain := list.chain
    rw [head] at chain
    obtain ⟨rest, rfl, _⟩ := chain.exists_of_head
    exact ⟨rest, list.occupy cap parent⟩
  parentless := by
    have inside : id < N := (wf.freeHead_spec head).1
    intro other
    rw [lookup_occupy inside, parentOf_occupy inside]
    by_cases same : id = other
    · simp [same]
    · simpa [same] using wf.parentless other

/-- `allocSlot` takes the head of the free list. -/
theorem allocSlot_run {table : CapTable N} (wf : table.Wf) :
    (table.freeHead = none ∧ allocSlot table = .err .full table) ∨
      ∃ id, table.freeHead = some id ∧
        allocSlot table = .ok id (table.taken id) := by
  cases head : table.freeHead with
  | none =>
      refine Or.inl ⟨rfl, ?_⟩
      simp [allocSlot, head]
  | some id =>
      refine Or.inr ⟨id, rfl, ?_⟩
      have inside : id < N := (wf.freeHead_spec head).1
      simp only [allocSlot, Exec.get_bind_run, head, Exec.okOr_some,
        Exec.pure_bind_run, getElem?_slots table inside, Exec.expect_some,
        Exec.modify_bind_run, Exec.pure_run]
      rfl

theorem effectiveBadge_ok {parentCap : Capability} {badge finalBadge : Nat}
    (chosen : effectiveBadge parentCap badge = .ok finalBadge) :
    parentCap.badge ≠ 0 → finalBadge = parentCap.badge := by
  intro badged
  unfold effectiveBadge at chosen
  rw [if_pos badged] at chosen
  split at chosen
  · simp at chosen
  · simpa using chosen.symm

theorem insertRoot_run {table : CapTable N} (wf : table.Wf) (cap : Capability) :
    (table.freeHead = none ∧ insertRoot cap table = .err .full table) ∨
      ∃ id, table.freeHead = some id ∧
        insertRoot cap table = .ok id (table.occupy id cap none) := by
  rcases allocSlot_run wf with ⟨head, failed⟩ | ⟨id, head, ran⟩
  · exact Or.inl ⟨head, Exec.bind_of_err failed _⟩
  · refine Or.inr ⟨id, head, ?_⟩
    have inside : id < N := (wf.freeHead_spec head).1
    rw [insertRoot, Exec.bind_of_ok ran, Exec.modify_bind_run, Exec.pure_run,
      slot_taken table inside, if_pos rfl]
    rfl

/-- What a derivation does: it fails and changes nothing, or it fills the head
of the free list with a capability derived from `parentCap`. -/
theorem insertDerived_run {table : CapTable N} (wf : table.Wf)
    (parentCap : Capability) (parentGlobal : GlobalCapId)
    (rights : CapabilityRights) (badge : Nat) :
    (∃ error,
        insertDerived parentCap parentGlobal rights badge table = .err error table) ∨
      ∃ id cap, table.freeHead = some id ∧ cap.DerivedFrom parentCap ∧
        insertDerived parentCap parentGlobal rights badge table =
          .ok id (table.occupy id cap (some parentGlobal)) := by
  unfold insertDerived
  by_cases subset : rights.isSubsetOf parentCap.rights = true
  · cases badgeChoice : effectiveBadge parentCap badge with
    | error error =>
        refine Or.inl ⟨error, ?_⟩
        simp [Exec.guard, subset]
    | ok finalBadge =>
        have badged := effectiveBadge_ok badgeChoice
        simp only [Exec.guard, subset, if_true, Exec.pure_bind_run, Exec.ofExcept_ok]
        rcases allocSlot_run wf with ⟨_, failed⟩ | ⟨id, head, ran⟩
        · exact Or.inl ⟨.full, Exec.bind_of_err failed _⟩
        · refine Or.inr
            ⟨id, { object := parentCap.object, rights, badge := finalBadge }, head,
              { object := rfl, rights := subset, badge := badged }, ?_⟩
          have inside : id < N := (wf.freeHead_spec head).1
          rw [Exec.bind_of_ok ran, Exec.modify_bind_run, Exec.pure_run,
            slot_taken table inside, if_pos rfl]
          rfl
  · refine Or.inl ⟨.rightsEscalation, ?_⟩
    simp [Exec.guard, subset]

/-! ## Giving a slot back -/

/-- The table after the occupied slot `id` was freed. -/
def release (table : CapTable N) (id : CapId) : CapTable N :=
  { table.setSlot id { CapSlot.empty with freeNext := table.freeHead } with
    freeHead := some id
    occupied := table.occupied - 1 }

theorem slot_release {table : CapTable N} {id : CapId} (inside : id < N)
    (other : CapId) :
    (table.release id).slot other =
      if id = other then { CapSlot.empty with freeNext := table.freeHead }
      else table.slot other := by
  have : (table.release id).slot other =
      (table.setSlot id
        { CapSlot.empty with freeNext := table.freeHead }).slot other := rfl
  rw [this, slot_setSlot]
  by_cases same : id = other
  · subst same
    simp [inside]
  · simp [same]

theorem lookup_release {table : CapTable N} {id : CapId} (inside : id < N)
    (other : CapId) :
    (table.release id).lookup other =
      if id = other then none else table.lookup other := by
  rw [lookup, slot_release inside]
  split
  · rfl
  · rfl

theorem parentOf_release {table : CapTable N} {id : CapId} (inside : id < N)
    (other : CapId) :
    (table.release id).parentOf other =
      if id = other then none else table.parentOf other := by
  rw [parentOf, slot_release inside]
  split
  · rfl
  · rfl

/-- An occupied slot leaves room in the count of free ones. -/
theorem FreeList.occupied_pos {table : CapTable N} {free : List CapId}
    (list : table.FreeList free) {id : CapId} {cap : Capability}
    (present : table.lookup id = some cap) : 0 < table.occupied := by
  -- Otherwise the free list holds all `N` slots, `id` among them.
  have inside : id < N := lt_of_lookup present
  have notFree : id ∉ free := by
    intro member
    have := ((list.covers id).1 member).2
    rw [present] at this
    simp at this
  have bounded : (id :: free).Subperm (List.range N) := by
    apply List.Nodup.subperm (List.nodup_cons.2 ⟨notFree, list.nodup⟩)
    intro other member
    rcases List.mem_cons.1 member with rfl | member
    · exact List.mem_range.2 inside
    · exact List.mem_range.2 ((list.covers other).1 member).1
  have shorter := bounded.length_le
  have counted := list.count
  simp only [List.length_cons, List.length_range] at shorter
  omega

theorem Wf.release {table : CapTable N} (wf : table.Wf) {id : CapId}
    {cap : Capability} (present : table.lookup id = some cap) :
    (table.release id).Wf where
  freeList := by
    obtain ⟨free, list⟩ := wf.freeList
    have inside : id < N := lt_of_lookup present
    have notFree : id ∉ free := by
      intro member
      have := ((list.covers id).1 member).2
      rw [present] at this
      simp at this
    refine ⟨id :: free, ?_, List.nodup_cons.2 ⟨notFree, list.nodup⟩, ?_, ?_⟩
    · apply list.chain.push
      · simp [slot_release inside]
      · intro other member
        have ne : id ≠ other := fun same => notFree (same ▸ member)
        simp [slot_release inside, ne]
    · intro other
      rw [lookup_release inside]
      by_cases same : id = other
      · subst same
        simp [inside]
      · simpa [same, Ne.symm same] using list.covers other
    · have counted := list.count
      have positive := list.occupied_pos present
      change table.occupied - 1 + (id :: free).length = N
      simp only [List.length_cons]
      omega
  parentless := by
    have inside : id < N := lt_of_lookup present
    intro other
    rw [lookup_release inside, parentOf_release inside]
    by_cases same : id = other
    · simp [same]
    · simpa [same] using wf.parentless other

theorem freeSlot_run {table : CapTable N} (wf : table.Wf) {id : CapId}
    {cap : Capability} (present : table.lookup id = some cap) :
    freeSlot id table = .ok () (table.release id) := by
  obtain ⟨free, list⟩ := wf.freeList
  have positive := list.occupied_pos present
  simp only [freeSlot, Exec.get_bind_run, getElem?_slots table (lt_of_lookup present),
    Exec.expect_some, Exec.pure_bind_run, Exec.ensure, positive, decide_true, if_true,
    Exec.modify_run]
  rfl

/-- The inner loop of the second pass frees what is marked, and nothing else. -/
theorem freeMarked_run {table : CapTable N} (wf : table.Wf)
    (marked : CapId → Bool) (ids : List CapId) (nodup : ids.Nodup)
    (occupied : ∀ id ∈ ids, marked id → (table.lookup id).isSome) :
    ∃ final, freeMarked marked ids table = .ok (ids.filter marked).length final ∧
      final.Wf ∧ final.spaceId = table.spaceId ∧
      (∀ id, final.lookup id =
        if id ∈ ids ∧ marked id then none else table.lookup id) ∧
      ∀ id, final.parentOf id =
        if id ∈ ids ∧ marked id then none else table.parentOf id := by
  induction ids generalizing table with
  | nil =>
      exact ⟨table, rfl, wf, rfl, by simp, by simp⟩
  | cons id rest ih =>
      obtain ⟨notInRest, restNodup⟩ := List.nodup_cons.1 nodup
      by_cases mark : marked id = true
      · obtain ⟨cap, present⟩ :=
          Option.isSome_iff_exists.1 (occupied id (List.mem_cons_self ..) mark)
        have inside : id < N := lt_of_lookup present
        obtain ⟨final, ran, finalWf, stamp, finalLookup, finalParent⟩ :=
          ih (wf.release present) restNodup (by
            intro other member otherMark
            have ne : id ≠ other := fun same => notInRest (same ▸ member)
            rw [lookup_release inside]
            simpa [ne] using
              occupied other (List.mem_cons_of_mem _ member) otherMark)
        refine ⟨final, ?_, finalWf, stamp, ?_, ?_⟩
        · rw [freeMarked, if_pos mark, Exec.bind_of_ok (freeSlot_run wf present),
            Exec.bind_of_ok ran]
          simp [mark]
        · intro other
          rw [finalLookup, lookup_release inside]
          by_cases same : id = other
          · subst same
            simp [mark]
          · simp [same, Ne.symm same]
        · intro other
          rw [finalParent, parentOf_release inside]
          by_cases same : id = other
          · subst same
            simp [mark]
          · simp [same, Ne.symm same]
      · obtain ⟨final, ran, finalWf, stamp, finalLookup, finalParent⟩ :=
          ih wf restNodup
            fun other member => occupied other (List.mem_cons_of_mem _ member)
        have skip : ∀ other,
            (other ∈ id :: rest ∧ marked other) ↔ other ∈ rest ∧ marked other := by
          intro other
          by_cases same : other = id
          · subst same
            simp [mark]
          · simp [same]
        refine ⟨final, ?_, finalWf, stamp, ?_, ?_⟩
        · rw [freeMarked, if_neg mark, ran]
          simp [mark]
        · intro other
          rw [finalLookup]
          simp only [skip]
        · intro other
          rw [finalParent]
          simp only [skip]

end CapTable

end Simurgh
