import Simurgh.Mm.Untyped
import Simurgh.Lib.Slab

/-!
# Address spaces

The software model of a page table: a bounded set of mappings that do not
overlap and are never both writable and executable.  Sums of addresses are
checked at run time.
-/

namespace Simurgh

structure MapPermissions where
  readable : Bool
  writable : Bool
  executable : Bool
  deviceUncached : Bool
  deriving DecidableEq, Repr

/-- One mapping of `len` bytes. -/
structure Mapping where
  vaddr : Nat
  paddr : Nat
  len : Nat
  perms : MapPermissions
  deriving DecidableEq, Repr

/-- Up to `M` mappings below one page-table root. -/
structure AddressSpace (M : Nat) where
  rootPhys : Nat
  mappings : Slab Mapping M
  count : Nat
  deriving DecidableEq, Repr

/-- Does a mapping overlap `[vaddr, vaddr + len)`?  There is no answer when one of
the two ends is not an address. -/
def Mapping.overlaps (mapping : Mapping) (vaddr len : Nat) : Option Bool := do
  let stop ← checkedAdd mapping.vaddr mapping.len
  let otherStop ← checkedAdd vaddr len
  return decide (mapping.vaddr < otherStop ∧ vaddr < stop)

namespace AddressSpace

variable {M : Nat}

/-- An address space without mappings. -/
def new (rootPhys : Nat) : AddressSpace M :=
  { rootPhys, mappings := .empty, count := 0 }

/-- The overlap check of `map` against each existing mapping. -/
def checkOverlaps (vaddr len : Nat) :
    List Mapping → Exec (AddressSpace M) MmError Unit
  | [] => pure ()
  | mapping :: rest => do
      let overlap ← Exec.expect (mapping.overlaps vaddr len)
      Exec.guard (!overlap) .mappingOverlap
      checkOverlaps vaddr len rest

/-- Add a mapping of `[vaddr, vaddr + len)` to `[paddr, paddr + len)`. -/
def map (vaddr paddr len : Nat) (perms : MapPermissions) :
    Exec (AddressSpace M) MmError Unit := do
  Exec.guard
    (!(len == 0 || vaddr % pageSize != 0 || paddr % pageSize != 0
      || len % pageSize != 0)) .unaligned
  Exec.guard (!(perms.writable && perms.executable)) .writeExecute
  let space ← Exec.get
  checkOverlaps vaddr len space.mappings.objects
  let (_, mappings) ← Exec.okOr .addressSpaceFull
    (space.mappings.insert fun _ => { vaddr, paddr, len, perms })
  Exec.modify fun space => { space with mappings, count := space.count + 1 }

/-- Remove the mapping that starts at `vaddr`. -/
def unmap (vaddr : Nat) : Exec (AddressSpace M) MmError Mapping := do
  let space ← Exec.get
  let (slot, mapping) ← Exec.okOr .notMapped
    (space.mappings.find? fun mapping => mapping.vaddr == vaddr)
  Exec.modify fun space => { space with mappings := space.mappings.clear slot }
  Exec.ensure (0 < space.count)
  Exec.modify fun space => { space with count := space.count - 1 }
  return mapping

/-- Walk the mappings for the one that contains `vaddr`. -/
def translateIn (vaddr : Nat) :
    List Mapping → Exec (AddressSpace M) MmError (Option (Nat × MapPermissions))
  | [] => pure none
  | mapping :: rest => do
      if mapping.vaddr ≤ vaddr then
        let stop ← Exec.expect (checkedAdd mapping.vaddr mapping.len)
        if vaddr < stop then
          let paddr ← Exec.expect (checkedAdd mapping.paddr (vaddr - mapping.vaddr))
          return some (paddr, mapping.perms)
        else
          translateIn vaddr rest
      else
        translateIn vaddr rest

/-- The physical address and permissions of `vaddr`. -/
def translate (vaddr : Nat) :
    Exec (AddressSpace M) MmError (Option (Nat × MapPermissions)) := do
  let space ← Exec.get
  translateIn vaddr space.mappings.objects

/-! ## What the calls do -/

theorem checkOverlaps_reads (vaddr len : Nat) (mappings : List Mapping) :
    (checkOverlaps vaddr len mappings : Exec (AddressSpace M) MmError Unit).Reads := by
  induction mappings with
  | nil => exact Exec.Reads.pure ()
  | cons mapping rest ih =>
      refine (Exec.Reads.expect _).bind fun overlap => ?_
      exact (Exec.Reads.guard _ _).bind fun _ => ih

theorem checkOverlaps_ok {vaddr len : Nat} {mappings : List Mapping}
    {space later : AddressSpace M}
    (ran : checkOverlaps vaddr len mappings space = .ok () later) :
    ∀ mapping ∈ mappings, mapping.overlaps vaddr len = some false := by
  induction mappings generalizing space with
  | nil => simp
  | cons mapping rest ih =>
      obtain ⟨overlap, _, found, ran⟩ := Exec.bind_eq_ok.1 ran
      obtain ⟨answer, rfl⟩ := Exec.expect_eq_ok.1 found
      obtain ⟨_, _, guarded, ran⟩ := Exec.bind_eq_ok.1 ran
      obtain ⟨isFree, rfl⟩ := Exec.guard_eq_ok.1 guarded
      have noOverlap : overlap = false := by simpa using isFree
      rw [List.forall_mem_cons]
      exact ⟨noOverlap ▸ answer, ih ran⟩

/-- Going from `before` to `after`, the mapping `mapping` was added. -/
structure Adds (before after : AddressSpace M) (mapping : Mapping) : Prop where
  nonempty : mapping.len ≠ 0
  aligned : mapping.vaddr % pageSize = 0 ∧ mapping.paddr % pageSize = 0
  exclusive : (mapping.perms.writable && mapping.perms.executable) = false
  separate : ∀ other ∈ before.mappings.objects,
    other.overlaps mapping.vaddr mapping.len = some false
  stored : ∃ slot mappings,
    before.mappings.insert (fun _ => mapping) = some (slot, mappings) ∧
      after = { before with mappings, count := before.count + 1 }

theorem map_ok {vaddr paddr len : Nat} {perms : MapPermissions}
    {space later : AddressSpace M}
    (ran : map vaddr paddr len perms space = .ok () later) :
    Adds space later { vaddr, paddr, len, perms } := by
  unfold map at ran
  obtain ⟨_, _, guarded, ran⟩ := Exec.bind_eq_ok.1 ran
  obtain ⟨aligned, rfl⟩ := Exec.guard_eq_ok.1 guarded
  obtain ⟨_, _, guarded, ran⟩ := Exec.bind_eq_ok.1 ran
  obtain ⟨exclusive, rfl⟩ := Exec.guard_eq_ok.1 guarded
  rw [Exec.get_bind_run] at ran
  obtain ⟨_, _, checked, ran⟩ := Exec.bind_eq_ok.1 ran
  have separate := checkOverlaps_ok checked
  obtain rfl := (checkOverlaps_reads vaddr len space.mappings.objects).of_ok checked
  obtain ⟨⟨slot, mappings⟩, _, found, ran⟩ := Exec.bind_eq_ok.1 ran
  obtain ⟨inserted, rfl⟩ := Exec.okOr_eq_ok.1 found
  simp only [Exec.modify_run, Outcome.ok.injEq, true_and] at ran
  simp only [Bool.not_or, Bool.and_eq_true, Bool.not_eq_true', beq_eq_false_iff_ne,
    bne_eq_false_iff_eq] at aligned
  exact {
    nonempty := aligned.1.1.1
    aligned := ⟨aligned.1.1.2, aligned.1.2⟩
    exclusive := by rwa [Bool.not_eq_true'] at exclusive
    separate := separate
    stored := ⟨slot, mappings, inserted, ran.symm⟩ }

/-- A mapping that is refused leaves the address space as it was. -/
theorem map_err {vaddr paddr len : Nat} {perms : MapPermissions}
    {space final : AddressSpace M} {error : MmError}
    (failed : map vaddr paddr len perms space = .err error final) : final = space := by
  unfold map at failed
  rcases (Exec.Reads.guard _ _).bind_eq_err failed with same | ⟨_, failed⟩
  · exact same
  rcases (Exec.Reads.guard _ _).bind_eq_err failed with same | ⟨_, failed⟩
  · exact same
  rw [Exec.get_bind_run] at failed
  rcases (checkOverlaps_reads vaddr len _).bind_eq_err failed with same | ⟨_, failed⟩
  · exact same
  rcases (Exec.Reads.okOr _ _).bind_eq_err failed with same | ⟨_, failed⟩
  · exact same
  simp at failed

/-- `unmap` takes one mapping out, or changes nothing. -/
theorem unmap_state {vaddr : Nat} {space final : AddressSpace M}
    (ended : (unmap vaddr space).state? = some final) :
    (space.mappings.find? (fun mapping => mapping.vaddr == vaddr) = none ∧ final = space) ∨
      ∃ slot mapping,
      space.mappings.find? (fun mapping => mapping.vaddr == vaddr) =
          some (slot, mapping) ∧
        final =
          { space with mappings := space.mappings.clear slot, count := space.count - 1 } := by
  unfold unmap at ended
  rw [Exec.get_bind_run] at ended
  cases found : space.mappings.find? (fun mapping => mapping.vaddr == vaddr) with
  | none =>
      simp only [found, Exec.okOr_none, Exec.throw_bind_run, Outcome.state?_err,
        Option.some.injEq] at ended
      exact Or.inl ⟨rfl, ended.symm⟩
  | some located =>
      obtain ⟨slot, mapping⟩ := located
      simp only [found, Exec.okOr_some, Exec.pure_bind_run, Exec.modify_bind_run] at ended
      rcases Exec.bind_state.1 ended with ⟨error, failed⟩ | ⟨_, later, ensured, ended⟩
      · by_cases positive : 0 < space.count
        · simp [Exec.ensure, positive] at failed
        · simp [Exec.ensure, positive] at failed
      · obtain ⟨_, rfl⟩ := Exec.ensure_eq_ok.1 ensured
        simp only [Exec.modify_bind_run, Exec.pure_run, Outcome.state?_ok,
          Option.some.injEq] at ended
        exact Or.inr ⟨slot, mapping, rfl, ended.symm⟩

/-- The mappings after `map`: those before, and the new one. -/
theorem Adds.mem_objects {before after : AddressSpace M} {mapping : Mapping}
    (adds : Adds before after mapping) (other : Mapping) :
    other ∈ after.mappings.objects ↔ other ∈ before.mappings.objects ∨ other = mapping := by
  obtain ⟨slot, mappings, inserted, rfl⟩ := adds.stored
  have here := Slab.get?_of_insert inserted
  have vacant := (Slab.insert_spec inserted).2.1
  simp only [Slab.mem_objects, here]
  constructor
  · rintro ⟨i, present⟩
    by_cases same : slot = i
    · rw [if_pos same, Option.some.injEq] at present
      exact Or.inr present.symm
    · rw [if_neg same] at present
      exact Or.inl ⟨i, present⟩
  · rintro (⟨i, present⟩ | rfl)
    · have ne : slot ≠ i := by
        rintro rfl
        rw [vacant] at present
        simp at present
      exact ⟨i, by rw [if_neg ne, present]⟩
    · exact ⟨slot, if_pos rfl⟩

theorem Adds.rootPhys {before after : AddressSpace M} {mapping : Mapping}
    (adds : Adds before after mapping) : after.rootPhys = before.rootPhys := by
  obtain ⟨_, _, _, rfl⟩ := adds.stored
  rfl

/-- `unmap` adds nothing. -/
theorem unmap_shrinks {vaddr : Nat} {space final : AddressSpace M}
    (ended : (unmap vaddr space).state? = some final) :
    final.rootPhys = space.rootPhys ∧
      ∀ mapping ∈ final.mappings.objects, mapping ∈ space.mappings.objects := by
  rcases unmap_state ended with ⟨_, rfl⟩ | ⟨slot, mapping, _, rfl⟩
  · exact ⟨rfl, fun _ => id⟩
  · refine ⟨rfl, fun other member => ?_⟩
    obtain ⟨i, present⟩ := Slab.mem_objects.1 member
    rw [Slab.get?_clear] at present
    by_cases same : slot = i
    · simp [same] at present
    · rw [if_neg same] at present
      exact Slab.mem_objects.2 ⟨i, present⟩

/-! ## Counting -/

/-- `count` is the number of mappings. -/
def Counted (space : AddressSpace M) : Prop := space.count = space.mappings.objects.length

theorem new_objects (rootPhys : Nat) :
    (new rootPhys : AddressSpace M).mappings.objects = [] := by
  rw [List.eq_nil_iff_forall_not_mem]
  intro mapping member
  obtain ⟨i, present⟩ := Slab.mem_objects.1 member
  simp [new] at present

theorem counted_new (rootPhys : Nat) : (new rootPhys : AddressSpace M).Counted := by
  rw [Counted, new_objects]
  rfl

theorem Adds.counted {before after : AddressSpace M} {mapping : Mapping}
    (adds : Adds before after mapping) (counted : before.Counted) : after.Counted := by
  obtain ⟨slot, mappings, inserted, rfl⟩ := adds.stored
  rw [Counted, Slab.length_objects_of_insert inserted, counted]

theorem unmap_counted {vaddr : Nat} {space final : AddressSpace M} (counted : space.Counted)
    (ended : (unmap vaddr space).state? = some final) : final.Counted := by
  rcases unmap_state ended with ⟨_, rfl⟩ | ⟨slot, mapping, found, rfl⟩
  · exact counted
  · have fewer := Slab.length_objects_clear (Slab.find?_spec found).1
    unfold Counted at *
    simp only
    omega

/-! ## Sums that overflow -/

theorem overlaps_eq_none_iff {mapping : Mapping} {vaddr len : Nat} :
    mapping.overlaps vaddr len = none ↔
      0x10000000000000000 ≤ mapping.vaddr + mapping.len ∨
        0x10000000000000000 ≤ vaddr + len := by
  unfold Mapping.overlaps checkedAdd
  by_cases stop : mapping.vaddr + mapping.len < 0x10000000000000000
  · by_cases otherStop : vaddr + len < 0x10000000000000000
    · rw [if_pos stop, if_pos otherStop]
      exact iff_of_false (by simp) (by omega)
    · rw [if_pos stop, if_neg otherStop]
      exact iff_of_true rfl (Or.inr (Nat.le_of_not_lt otherStop))
  · rw [if_neg stop]
    exact iff_of_true rfl (Or.inl (Nat.le_of_not_lt stop))

/-- The overlap check of `[vaddr, vaddr + len)` comes to a mapping for which one of
the two ends is no address. -/
def HitsTop (mappings : List Mapping) (vaddr len : Nat) : Prop :=
  ∃ earlier mapping later, mappings = earlier ++ mapping :: later ∧
    (∀ other ∈ earlier, other.overlaps vaddr len = some false) ∧
      (0x10000000000000000 ≤ mapping.vaddr + mapping.len ∨
        0x10000000000000000 ≤ vaddr + len)

theorem hitsTop_cons {mapping : Mapping} {rest : List Mapping} {vaddr len : Nat} :
    HitsTop (mapping :: rest) vaddr len ↔
      mapping.overlaps vaddr len = none ∨
        mapping.overlaps vaddr len = some false ∧ HitsTop rest vaddr len := by
  rw [overlaps_eq_none_iff]
  constructor
  · rintro ⟨earlier, other, later, split, free, top⟩
    cases earlier with
    | nil =>
        obtain ⟨rfl, rfl⟩ := List.cons.inj split
        exact Or.inl top
    | cons first before =>
        obtain ⟨rfl, rfl⟩ := List.cons.inj split
        obtain ⟨freeFirst, freeBefore⟩ := List.forall_mem_cons.1 free
        exact Or.inr ⟨freeFirst, before, other, later, rfl, freeBefore, top⟩
  · rintro (top | ⟨free, earlier, other, later, rfl, freeBefore, top⟩)
    · exact ⟨[], mapping, rest, rfl, by simp, top⟩
    · exact ⟨mapping :: earlier, other, later, rfl,
        List.forall_mem_cons.2 ⟨free, freeBefore⟩, top⟩

theorem checkOverlaps_panic_iff {vaddr len : Nat} {mappings : List Mapping}
    {space : AddressSpace M} :
    checkOverlaps vaddr len mappings space = .panic ↔ HitsTop mappings vaddr len := by
  induction mappings with
  | nil =>
      refine iff_of_false (by simp [checkOverlaps]) ?_
      rintro ⟨earlier, mapping, later, split, _⟩
      simp at split
  | cons mapping rest ih =>
      rw [hitsTop_cons, checkOverlaps]
      cases answer : mapping.overlaps vaddr len with
      | none => exact iff_of_true rfl (Or.inl rfl)
      | some overlap =>
          cases overlap with
          | true => exact iff_of_false (by simp [Exec.guard]) (by simp)
          | false =>
              have passed : (do
                  let overlap ← Exec.expect (some false)
                  Exec.guard (!overlap) .mappingOverlap
                  checkOverlaps vaddr len rest : Exec (AddressSpace M) MmError Unit) space =
                  checkOverlaps vaddr len rest space := by
                simp [Exec.guard]
              rw [passed, ih]
              simp

/-- The checks of `map` that come before the overlap check. -/
def AllowsMap (vaddr paddr len : Nat) (perms : MapPermissions) : Prop :=
  len ≠ 0 ∧ vaddr % pageSize = 0 ∧ paddr % pageSize = 0 ∧ len % pageSize = 0 ∧
    (perms.writable && perms.executable) = false

/-- `map` panics exactly if the overlap check does. -/
theorem map_panic_iff {vaddr paddr len : Nat} {perms : MapPermissions}
    {space : AddressSpace M} :
    map vaddr paddr len perms space = .panic ↔
      AllowsMap vaddr paddr len perms ∧ HitsTop space.mappings.objects vaddr len := by
  unfold map
  by_cases aligned : (!(len == 0 || vaddr % pageSize != 0 || paddr % pageSize != 0
      || len % pageSize != 0)) = true
  · have parts := aligned
    simp only [Bool.not_or, Bool.and_eq_true, Bool.not_eq_true', beq_eq_false_iff_ne,
      bne_eq_false_iff_eq] at parts
    by_cases exclusive : (!(perms.writable && perms.executable)) = true
    · have allows : AllowsMap vaddr paddr len perms :=
        ⟨parts.1.1.1, parts.1.1.2, parts.1.2, parts.2, by rwa [Bool.not_eq_true'] at exclusive⟩
      rw [← @checkOverlaps_panic_iff _ _ _ _ space]
      simp only [Exec.guard, aligned, exclusive, if_true, Exec.pure_bind_run,
        Exec.get_bind_run, allows, true_and]
      rw [Exec.bind_run]
      cases ran : checkOverlaps vaddr len space.mappings.objects space with
      | ok value later =>
          cases space.mappings.insert fun _ => { vaddr, paddr, len, perms } with
          | none => simp
          | some stored => simp
      | err error later => simp
      | panic => simp
    · refine iff_of_false ?_ fun both => exclusive (by simp [both.1.2.2.2.2])
      simp only [Exec.guard, aligned, if_true, Exec.pure_bind_run]
      simp [exclusive]
  · refine iff_of_false ?_ fun both => aligned ?_
    · simp [Exec.guard, aligned]
    · obtain ⟨⟨positive, virtual, physical, pages, _⟩, _⟩ := both
      simp [positive, virtual, physical, pages]

/-- Taking a mapping out of a space that counts one. -/
theorem unmap_returns (vaddr : Nat) {space : AddressSpace M} (counted : 0 < space.count) :
    unmap vaddr space ≠ .panic := by
  unfold unmap
  rw [Exec.get_bind_run]
  cases found : space.mappings.find? fun mapping => mapping.vaddr == vaddr with
  | none => simp
  | some located => simp [Exec.ensure, counted]

end AddressSpace

end Simurgh
