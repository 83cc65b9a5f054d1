import Simurgh.Mm.AddressSpace
import Simurgh.Lib.TransitionSystem

/-!
# Address spaces over whole runs

`mappingCalls M` is the transition system of `map` and `unmap` calls on one
address space, with any 64-bit arguments.  In every state that calls reach the
mappings are `Sound`.  That `translate` answers from them needs more: no mapping
may touch the top of the address space, where `base + len` is no address.
-/

namespace Simurgh

/-- The addresses that the mapping covers. -/
def Mapping.Contains (mapping : Mapping) (v : Nat) : Prop :=
  mapping.vaddr ≤ v ∧ v < mapping.vaddr + mapping.len

instance (mapping : Mapping) (v : Nat) : Decidable (mapping.Contains v) :=
  inferInstanceAs (Decidable (_ ∧ _))

/-- No address is in both mappings. -/
def Mapping.Disjoint (first second : Mapping) : Prop :=
  ∀ v, ¬(first.Contains v ∧ second.Contains v)

theorem Mapping.Disjoint.symm {first second : Mapping}
    (disjoint : first.Disjoint second) : second.Disjoint first :=
  fun v both => disjoint v ⟨both.2, both.1⟩

/-- The ends of the two ranges are 64-bit addresses, and every frame is at one. -/
def Mapping.EndsBelowTop (mapping : Mapping) : Prop :=
  mapping.vaddr + mapping.len < 0x10000000000000000 ∧
    mapping.paddr + mapping.len ≤ 0x10000000000000000

/-- An overlap check that says no is right. -/
theorem Mapping.disjoint_of_overlaps {first second : Mapping}
    (free : first.overlaps second.vaddr second.len = some false) :
    first.Disjoint second := by
  unfold Mapping.overlaps at free
  cases stopped : checkedAdd first.vaddr first.len with
  | none => simp [stopped] at free
  | some stop =>
      cases otherStopped : checkedAdd second.vaddr second.len with
      | none => simp [stopped, otherStopped] at free
      | some otherStop =>
          obtain ⟨_, rfl⟩ := checkedAdd_eq_some.1 stopped
          obtain ⟨_, rfl⟩ := checkedAdd_eq_some.1 otherStopped
          simp only [stopped, otherStopped, Option.bind_eq_bind, Option.bind_some,
            Option.pure_def, Option.some.injEq, decide_eq_false_iff_not] at free
          rintro v ⟨inFirst, inSecond⟩
          exact free ⟨by have := inFirst.1; have := inSecond.2; omega,
            by have := inSecond.1; have := inFirst.2; omega⟩

namespace AddressSpace

variable {M : Nat}

/-- What the mappings of an address space are to be like. -/
structure Sound (space : AddressSpace M) : Prop where
  disjoint : space.mappings.objects.Pairwise Mapping.Disjoint
  aligned : ∀ mapping ∈ space.mappings.objects,
    mapping.vaddr % pageSize = 0 ∧ mapping.paddr % pageSize = 0 ∧
      mapping.len % pageSize = 0
  nonempty : ∀ mapping ∈ space.mappings.objects, mapping.len ≠ 0
  exclusive : ∀ mapping ∈ space.mappings.objects,
    (mapping.perms.writable && mapping.perms.executable) = false
  counted : space.count = space.mappings.objects.length

/-- `translate` answers for every address from the mapping that contains it. -/
def TranslatesExactly (space : AddressSpace M) : Prop :=
  ∀ v < 0x10000000000000000,
    (∀ paddr perms, translate v space = .ok (some (paddr, perms)) space ↔
      ∃ mapping ∈ space.mappings.objects, mapping.Contains v ∧
        paddr = mapping.paddr + (v - mapping.vaddr) ∧ perms = mapping.perms) ∧
    (translate v space = .ok none space ↔
      ∀ mapping ∈ space.mappings.objects, ¬mapping.Contains v)

/-- The calls on one address space. -/
inductive MappingCall where
  | map (vaddr paddr len : BitVec 64) (perms : MapPermissions)
  | unmap (vaddr : BitVec 64)

/-- The state that a call leaves behind, unless it panics. -/
def next (space : AddressSpace M) : MappingCall → Option (AddressSpace M)
  | .map vaddr paddr len perms => (map vaddr.toNat paddr.toNat len.toNat perms space).state?
  | .unmap vaddr => (unmap vaddr.toNat space).state?

/-- Runs of calls on a new address space. -/
def mappingCalls (M : Nat) : TransitionSystem (AddressSpace M) MappingCall where
  Initial space := ∃ rootPhys, space = new rootPhys
  Step before call after := before.next call = some after

/-- The call asks for ranges that stay below the top. -/
def AsksBelowTop : MappingCall → Prop
  | .map vaddr paddr len _ =>
      vaddr.toNat + len.toNat < 0x10000000000000000 ∧
        paddr.toNat + len.toNat ≤ 0x10000000000000000
  | .unmap _ => True

/-! ## What the calls preserve -/

theorem sound_new (rootPhys : Nat) : Sound (new rootPhys : AddressSpace M) := by
  have none := new_objects (M := M) rootPhys
  exact {
    disjoint := by rw [none]; exact List.Pairwise.nil
    aligned := by simp [none]
    nonempty := by simp [none]
    exclusive := by simp [none]
    counted := counted_new rootPhys }

/-- `map` only takes whole pages. -/
theorem map_ok_aligned {vaddr paddr len : Nat} {perms : MapPermissions}
    {space later : AddressSpace M}
    (ran : map vaddr paddr len perms space = .ok () later) : len % pageSize = 0 := by
  unfold map at ran
  obtain ⟨_, _, guarded, _⟩ := Exec.bind_eq_ok.1 ran
  obtain ⟨aligned, _⟩ := Exec.guard_eq_ok.1 guarded
  simp only [Bool.not_or, Bool.and_eq_true, Bool.not_eq_true', bne_eq_false_iff_eq]
    at aligned
  exact aligned.2

theorem Sound.adds {before after : AddressSpace M} {mapping : Mapping}
    (sound : Sound before) (adds : Adds before after mapping)
    (wholePages : mapping.len % pageSize = 0) : Sound after := by
  have members := adds.mem_objects
  have counted := adds.counted sound.counted
  obtain ⟨slot, mappings, inserted, rfl⟩ := adds.stored
  refine {
    disjoint := ?_
    aligned := ?_
    nonempty := ?_
    exclusive := ?_
    counted := counted }
  · rw [Slab.pairwise_objects Mapping.Disjoint.symm]
    intro i j first second ne here there
    rw [Slab.get?_of_insert inserted] at here there
    have apart := (Slab.pairwise_objects Mapping.Disjoint.symm).1 sound.disjoint
    have separate : ∀ other k, before.mappings.get? k = some other →
        other.Disjoint mapping := fun other k present =>
      Mapping.disjoint_of_overlaps (adds.separate other (Slab.mem_objects.2 ⟨k, present⟩))
    by_cases newFirst : slot = i
    · have older : slot ≠ j := fun same => ne (newFirst.symm.trans same)
      rw [if_pos newFirst, Option.some.injEq] at here
      rw [if_neg older] at there
      exact here ▸ (separate second j there).symm
    · rw [if_neg newFirst] at here
      by_cases newSecond : slot = j
      · rw [if_pos newSecond, Option.some.injEq] at there
        exact there ▸ separate first i here
      · rw [if_neg newSecond] at there
        exact apart i j first second ne here there
  · intro other member
    rcases (members other).1 member with old | rfl
    · exact sound.aligned other old
    · exact ⟨adds.aligned.1, adds.aligned.2, wholePages⟩
  · intro other member
    rcases (members other).1 member with old | rfl
    · exact sound.nonempty other old
    · exact adds.nonempty
  · intro other member
    rcases (members other).1 member with old | rfl
    · exact sound.exclusive other old
    · exact adds.exclusive

theorem Sound.unmap {vaddr : Nat} {before after : AddressSpace M} (sound : Sound before)
    (ended : (unmap vaddr before).state? = some after) : Sound after := by
  have subset := (unmap_shrinks ended).2
  have counted := unmap_counted sound.counted ended
  rcases unmap_state ended with ⟨_, rfl⟩ | ⟨slot, mapping, found, rfl⟩
  · exact sound
  · refine {
      disjoint := ?_
      aligned := fun other member => sound.aligned other (subset other member)
      nonempty := fun other member => sound.nonempty other (subset other member)
      exclusive := fun other member => sound.exclusive other (subset other member)
      counted := counted }
    rw [Slab.pairwise_objects Mapping.Disjoint.symm]
    intro i j first second ne here there
    rw [Slab.get?_clear] at here there
    have apart := (Slab.pairwise_objects Mapping.Disjoint.symm).1 sound.disjoint
    by_cases goneFirst : slot = i
    · simp [goneFirst] at here
    · by_cases goneSecond : slot = j
      · simp [goneSecond] at there
      · rw [if_neg goneFirst] at here
        rw [if_neg goneSecond] at there
        exact apart i j first second ne here there

/-- A call adds the mapping it asks for, or adds none. -/
theorem next_cases {before after : AddressSpace M} {call : MappingCall}
    (taken : before.next call = some after) :
    after = before ∨
      (∃ vaddr paddr len perms, call = .map vaddr paddr len perms ∧
        len.toNat % pageSize = 0 ∧ Adds before after
          { vaddr := vaddr.toNat, paddr := paddr.toNat, len := len.toNat, perms }) ∨
      ∃ vaddr, call = .unmap vaddr ∧ (unmap vaddr.toNat before).state? = some after := by
  cases call with
  | map vaddr paddr len perms =>
      rw [next] at taken
      cases ran : map vaddr.toNat paddr.toNat len.toNat perms before with
      | ok result later =>
          rw [ran, Outcome.state?_ok, Option.some.injEq] at taken
          rw [taken] at ran
          exact Or.inr (Or.inl ⟨vaddr, paddr, len, perms, rfl, map_ok_aligned ran, map_ok ran⟩)
      | err error later =>
          rw [ran, Outcome.state?_err, Option.some.injEq] at taken
          rw [taken] at ran
          exact Or.inl (map_err ran)
      | panic => simp [ran] at taken
  | unmap vaddr => exact Or.inr (Or.inr ⟨vaddr, rfl, taken⟩)

theorem Sound.next {before after : AddressSpace M} {call : MappingCall}
    (sound : Sound before) (taken : before.next call = some after) : Sound after := by
  rcases next_cases taken with rfl | ⟨_, _, _, _, _, wholePages, adds⟩ | ⟨_, _, ended⟩
  · exact sound
  · exact sound.adds adds wholePages
  · exact sound.unmap ended

/-- A property that the mappings asked for have stays true of all mappings. -/
theorem forall_mapping_next {property : Mapping → Prop} {before after : AddressSpace M}
    {call : MappingCall} (holds : ∀ mapping ∈ before.mappings.objects, property mapping)
    (asked : ∀ vaddr paddr len perms, call = .map vaddr paddr len perms →
      property { vaddr := vaddr.toNat, paddr := paddr.toNat, len := len.toNat, perms })
    (taken : before.next call = some after) :
    ∀ mapping ∈ after.mappings.objects, property mapping := by
  rcases next_cases taken with rfl | ⟨_, _, _, _, rfl, _, adds⟩ | ⟨_, _, ended⟩
  · exact holds
  · intro mapping member
    rcases (adds.mem_objects mapping).1 member with old | rfl
    · exact holds mapping old
    · exact asked _ _ _ _ rfl
  · exact fun mapping member => holds mapping ((unmap_shrinks ended).2 mapping member)

/-! ## Translating -/

/-- An answer comes from a mapping whose end could be computed. -/
theorem translateIn_some {v paddr : Nat} {perms : MapPermissions} {mappings : List Mapping}
    {space later : AddressSpace M}
    (ran : translateIn v mappings space = .ok (some (paddr, perms)) later) :
    ∃ mapping ∈ mappings, mapping.Contains v ∧
      mapping.vaddr + mapping.len < 0x10000000000000000 ∧
      mapping.paddr + (v - mapping.vaddr) < 0x10000000000000000 ∧
      paddr = mapping.paddr + (v - mapping.vaddr) ∧ perms = mapping.perms := by
  induction mappings with
  | nil => simp [translateIn] at ran
  | cons mapping rest ih =>
      have later : translateIn v rest space = .ok (some (paddr, perms)) later →
          ∃ other ∈ mapping :: rest, other.Contains v ∧
            other.vaddr + other.len < 0x10000000000000000 ∧
            other.paddr + (v - other.vaddr) < 0x10000000000000000 ∧
            paddr = other.paddr + (v - other.vaddr) ∧ perms = other.perms := by
        intro ran
        obtain ⟨other, member, found⟩ := ih ran
        exact ⟨other, List.mem_cons_of_mem mapping member, found⟩
      rw [translateIn] at ran
      by_cases above : mapping.vaddr ≤ v
      · rw [if_pos above] at ran
        obtain ⟨stop, _, stopped, ran⟩ := Exec.bind_eq_ok.1 ran
        obtain ⟨ends, rfl⟩ := Exec.expect_eq_ok.1 stopped
        obtain ⟨fits, rfl⟩ := checkedAdd_eq_some.1 ends
        by_cases below : v < mapping.vaddr + mapping.len
        · rw [if_pos below] at ran
          obtain ⟨physical, _, added, ran⟩ := Exec.bind_eq_ok.1 ran
          obtain ⟨sum, rfl⟩ := Exec.expect_eq_ok.1 added
          obtain ⟨physicalFits, rfl⟩ := checkedAdd_eq_some.1 sum
          rw [Exec.pure_run, Outcome.ok.injEq, Option.some.injEq, Prod.mk.injEq] at ran
          exact ⟨mapping, List.mem_cons_self, ⟨above, below⟩, fits, physicalFits,
            ran.1.1.symm, ran.1.2.symm⟩
        · rw [if_neg below] at ran
          exact later ran
      · rw [if_neg above] at ran
        exact later ran

/-- Below the top there is always an answer, and none means that no mapping
contains the address. -/
theorem translateIn_of_endsBelowTop {v : Nat} {mappings : List Mapping}
    (space : AddressSpace M) (fits : ∀ mapping ∈ mappings, mapping.EndsBelowTop) :
    (∃ paddr perms, translateIn v mappings space = .ok (some (paddr, perms)) space) ∨
      translateIn v mappings space = .ok none space ∧
        ∀ mapping ∈ mappings, ¬mapping.Contains v := by
  induction mappings with
  | nil => exact Or.inr ⟨rfl, by simp⟩
  | cons mapping rest ih =>
      obtain ⟨⟨stopFits, physicalFits⟩, restFits⟩ := List.forall_mem_cons.1 fits
      rw [translateIn]
      by_cases inside : mapping.Contains v
      · obtain ⟨above, below⟩ := inside
        have frame : mapping.paddr + (v - mapping.vaddr) < 0x10000000000000000 := by omega
        have stop := checkedAdd_eq_some.2 ⟨stopFits, rfl⟩
        have physical := checkedAdd_eq_some.2 ⟨frame, rfl⟩
        rw [if_pos above, stop, Exec.expect_some, Exec.pure_bind_run, if_pos below, physical]
        exact Or.inl ⟨_, _, rfl⟩
      · have passed : (if mapping.vaddr ≤ v then do
              let stop ← Exec.expect (checkedAdd mapping.vaddr mapping.len)
              if v < stop then
                let paddr ← Exec.expect (checkedAdd mapping.paddr (v - mapping.vaddr))
                return some (paddr, mapping.perms)
              else
                translateIn v rest
            else
              translateIn v rest : Exec (AddressSpace M) MmError _) space =
            translateIn v rest space := by
          by_cases above : mapping.vaddr ≤ v
          · have notBelow : ¬v < mapping.vaddr + mapping.len :=
              fun below => inside ⟨above, below⟩
            rw [if_pos above, checkedAdd_eq_some.2 ⟨stopFits, rfl⟩, Exec.expect_some,
              Exec.pure_bind_run, if_neg notBelow]
          · rw [if_neg above]
        rw [passed]
        rcases ih restFits with found | ⟨ran, outside⟩
        · exact Or.inl found
        · exact Or.inr ⟨ran, List.forall_mem_cons.2 ⟨inside, outside⟩⟩

/-- Two mappings that contain one address are the same. -/
theorem Sound.unique {space : AddressSpace M} (sound : Sound space) {first second : Mapping}
    {v : Nat} (memberFirst : first ∈ space.mappings.objects)
    (memberSecond : second ∈ space.mappings.objects)
    (inFirst : first.Contains v) (inSecond : second.Contains v) : first = second := by
  obtain ⟨i, here⟩ := Slab.mem_objects.1 memberFirst
  obtain ⟨j, there⟩ := Slab.mem_objects.1 memberSecond
  by_cases same : i = j
  · rw [same, there, Option.some.injEq] at here
    exact here.symm
  · have apart := (Slab.pairwise_objects Mapping.Disjoint.symm).1 sound.disjoint
    exact absurd ⟨inFirst, inSecond⟩ (apart i j first second same here there v)

theorem Sound.translatesExactly {space : AddressSpace M} (sound : Sound space)
    (fits : ∀ mapping ∈ space.mappings.objects, mapping.EndsBelowTop) :
    TranslatesExactly space := by
  intro v _
  have answer := translateIn_of_endsBelowTop (v := v) space fits
  change ((∃ paddr perms, translate v space = .ok (some (paddr, perms)) space) ∨
    translate v space = .ok none space ∧ _) at answer
  have fromMapping : ∀ {paddr perms}, translate v space = .ok (some (paddr, perms)) space →
      ∃ mapping ∈ space.mappings.objects, mapping.Contains v ∧
        paddr = mapping.paddr + (v - mapping.vaddr) ∧ perms = mapping.perms := by
    intro paddr perms ran
    obtain ⟨mapping, member, inside, _, _, same⟩ := translateIn_some ran
    exact ⟨mapping, member, inside, same⟩
  constructor
  · refine fun paddr perms => ⟨fromMapping, ?_⟩
    rintro ⟨mapping, member, inside, rfl, rfl⟩
    rcases answer with ⟨paddr, perms, ran⟩ | ⟨_, outside⟩
    · obtain ⟨other, otherMember, otherInside, rfl, rfl⟩ := fromMapping ran
      obtain rfl := sound.unique member otherMember inside otherInside
      exact ran
    · exact absurd inside (outside mapping member)
  · rcases answer with ⟨paddr, perms, ran⟩ | ⟨ran, outside⟩
    · obtain ⟨mapping, member, inside, _⟩ := fromMapping ran
      rw [ran]
      refine iff_of_false (by simp) fun outside => outside mapping member inside
    · exact iff_of_true ran outside

/-- A mapping at the top makes `translate` fail inside it. -/
theorem Sound.endsBelowTop {space : AddressSpace M} (sound : Sound space)
    (starts : ∀ mapping ∈ space.mappings.objects, mapping.vaddr < 0x10000000000000000)
    (exact : TranslatesExactly space) :
    ∀ mapping ∈ space.mappings.objects, mapping.EndsBelowTop := by
  intro mapping member
  have positive := Nat.pos_of_ne_zero (sound.nonempty mapping member)
  have computed : ∀ v, mapping.Contains v → v < 0x10000000000000000 →
      mapping.vaddr + mapping.len < 0x10000000000000000 ∧
        mapping.paddr + (v - mapping.vaddr) < 0x10000000000000000 := by
    intro v inside isAddress
    have ran := ((exact v isAddress).1 _ _).2 ⟨mapping, member, inside, rfl, rfl⟩
    obtain ⟨other, otherMember, otherInside, stop, frame, _⟩ := translateIn_some ran
    obtain rfl := sound.unique member otherMember inside otherInside
    exact ⟨stop, frame⟩
  have first : mapping.Contains mapping.vaddr := ⟨Nat.le_refl _, by omega⟩
  have stop := (computed mapping.vaddr first (starts mapping member)).1
  have last : mapping.Contains (mapping.vaddr + mapping.len - 1) := ⟨by omega, by omega⟩
  have frame := (computed _ last (by omega)).2
  exact ⟨stop, by omega⟩

/-! ## Runs -/

theorem sound_of_reachable {admits : AddressSpace M → MappingCall → Prop}
    {space : AddressSpace M} (reachable : (mappingCalls M).Reachable admits space) :
    Sound space := by
  refine reachable.invariant ?_ fun before call after _ sound taken => sound.next taken
  rintro start ⟨rootPhys, rfl⟩
  exact sound_new rootPhys

/-- A property of all mappings that are asked for is one of all mappings. -/
theorem forall_mapping_of_reachable {admits : AddressSpace M → MappingCall → Prop}
    {property : Mapping → Prop}
    (asked : ∀ space vaddr paddr len perms, admits space (.map vaddr paddr len perms) →
      property { vaddr := vaddr.toNat, paddr := paddr.toNat, len := len.toNat, perms })
    {space : AddressSpace M} (reachable : (mappingCalls M).Reachable admits space) :
    ∀ mapping ∈ space.mappings.objects, property mapping := by
  obtain ⟨start, ⟨rootPhys, rfl⟩, run⟩ := reachable
  induction run with
  | refl => simp [new_objects]
  | step _ admitted taken ih =>
      refine forall_mapping_next ih (fun _ _ _ _ same => ?_) taken
      subst same
      exact asked _ _ _ _ _ admitted

/-- In every run the mappings are sound, and `translate` answers from them for
every address exactly if no mapping touches the top of the address space.  That is
so if no call asks for one. -/
theorem mappings_sound_and_translate (space : AddressSpace M)
    (reachable : (mappingCalls M).Reachable TransitionSystem.anyStep space) :
    Sound space ∧
      (TranslatesExactly space ↔
        ∀ mapping ∈ space.mappings.objects, mapping.EndsBelowTop) ∧
      ((mappingCalls M).Reachable (fun _ call => AsksBelowTop call) space →
        TranslatesExactly space) := by
  have sound := sound_of_reachable reachable
  have starts : ∀ mapping ∈ space.mappings.objects,
      mapping.vaddr < 0x10000000000000000 :=
    forall_mapping_of_reachable (fun _ vaddr _ _ _ _ => vaddr.isLt) reachable
  refine ⟨sound, ⟨sound.endsBelowTop starts, sound.translatesExactly⟩, fun below => ?_⟩
  exact sound.translatesExactly
    (forall_mapping_of_reachable (fun _ _ _ _ _ asks => asks) below)

/-- A page mapped, a page behind it mapped, the first one taken out. -/
def sampleCalls : List MappingCall :=
  [.map 0x400000 0x1000 0x1000 ⟨true, true, false, false⟩,
   .map 0x401000 0x2000 0x2000 ⟨true, false, true, false⟩,
   .unmap 0x400000]

theorem mappings_sound_and_translate_sample :
    ∃ space : AddressSpace 4, space.mappings.objects.length = 1 ∧
      Sound space ∧
      (TranslatesExactly space ↔
        ∀ mapping ∈ space.mappings.objects, mapping.EndsBelowTop) ∧
      ((mappingCalls 4).Reachable (fun _ call => AsksBelowTop call) space →
        TranslatesExactly space) := by
  have ran : ((TransitionSystem.runWhile next (fun _ _ => true) sampleCalls
      (new 0x8000 : AddressSpace 4)).map fun space => space.mappings.objects.length) =
      some 1 := by
    decide +kernel
  obtain ⟨space, taken, length⟩ := Option.map_eq_some_iff.1 ran
  have run : (mappingCalls 4).Reaches (fun _ _ => true = true) (new 0x8000) space :=
    TransitionSystem.Reaches.runWhile (fun _ _ _ taken => taken) (.refl _) taken
  have reachable : (mappingCalls 4).Reachable TransitionSystem.anyStep space :=
    ⟨new 0x8000, ⟨0x8000, rfl⟩, run.mono fun _ _ _ => trivial⟩
  exact ⟨space, length, mappings_sound_and_translate space reachable⟩

/-- The last page of the address space is mapped, and translating in it panics. -/
theorem top_page_untranslatable :
    ∃ space : AddressSpace 4,
      (mappingCalls 4).Reachable TransitionSystem.anyStep space ∧
        translate 0xFFFFFFFFFFFFF000 space = .panic ∧ ¬TranslatesExactly space := by
  have ran : ((next (new 0x8000 : AddressSpace 4)
      (.map 0xFFFFFFFFFFFFF000 0x1000 0x1000 ⟨true, true, false, false⟩)).map
      fun space => (space.mappings.objects, translate 0xFFFFFFFFFFFFF000 space)) =
      some ([⟨0xFFFFFFFFFFFFF000, 0x1000, 0x1000, ⟨true, true, false, false⟩⟩], .panic) := by
    decide +kernel
  obtain ⟨space, taken, result⟩ := Option.map_eq_some_iff.1 ran
  obtain ⟨objects, panics⟩ := Prod.mk.injEq .. ▸ result
  refine ⟨space, ?_, panics, fun exact => ?_⟩
  · exact ⟨new 0x8000, ⟨0x8000, rfl⟩, (TransitionSystem.Reaches.refl _).step trivial taken⟩
  · have answer := ((exact 0xFFFFFFFFFFFFF000 (by decide)).1 0x1000
      ⟨true, true, false, false⟩).2
      ⟨_, by rw [objects]; exact List.mem_singleton_self _, ⟨by decide, by decide⟩, rfl, rfl⟩
    rw [panics] at answer
    cases answer

end AddressSpace

end Simurgh
