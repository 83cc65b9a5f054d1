import Mathlib.Tactic.Common

/-!
# Fixed-capacity object tables

`Slab α n` is an array of `n` cells, each empty or holding one object.  An
object is named by the index of its cell.  Reading outside the table gives
`none`, as `slice.get` does, and a new object goes to the first empty cell.
-/

/-- An array of `n` optional objects. -/
structure Slab (α : Type) (n : Nat) where
  cells : Vector (Option α) n
  deriving DecidableEq, Repr

namespace Slab

variable {α : Type} {n : Nat}

/-- Every cell is empty. -/
def empty : Slab α n := ⟨Vector.replicate n none⟩

/-- The object at index `i`, if the cell exists and is occupied. -/
def get? (slab : Slab α n) (i : Nat) : Option α := slab.cells[i]?.join

/-- Store an object at index `i`. -/
def put (slab : Slab α n) (i : Nat) (object : α) : Slab α n :=
  ⟨slab.cells.setIfInBounds i (some object)⟩

/-- Empty the cell at index `i`. -/
def clear (slab : Slab α n) (i : Nat) : Slab α n :=
  ⟨slab.cells.setIfInBounds i none⟩

/-- The first empty cell. -/
def firstFree (slab : Slab α n) : Option Nat :=
  slab.cells.toList.findIdx? Option.isNone

/-- Put `make i` into the first empty cell `i`. -/
def insert (slab : Slab α n) (make : Nat → α) : Option (Nat × Slab α n) :=
  match slab.firstFree with
  | some i => some (i, slab.put i (make i))
  | none => none

/-- The first object that satisfies `holds`, with its index. -/
def find? (slab : Slab α n) (holds : α → Bool) : Option (Nat × α) :=
  match slab.cells.toList.findIdx? fun cell => cell.any holds with
  | some i => (slab.get? i).map fun object => (i, object)
  | none => none

/-- The occupied cells in index order. -/
def objects (slab : Slab α n) : List α := slab.cells.toList.filterMap id

/-! ## Reading back -/

@[simp]
theorem get?_empty (i : Nat) : (empty : Slab α n).get? i = none := by
  unfold get? empty
  rw [Vector.getElem?_replicate]
  split
  · rfl
  · rfl

theorem lt_of_get? {slab : Slab α n} {i : Nat} {object : α}
    (present : slab.get? i = some object) : i < n := by
  unfold get? at present
  by_contra outside
  rw [Vector.getElem?_eq_none (Nat.le_of_not_lt outside)] at present
  simp at present

theorem get?_eq_none_of_le {slab : Slab α n} {i : Nat} (outside : n ≤ i) :
    slab.get? i = none := by
  unfold get?
  rw [Vector.getElem?_eq_none outside]
  rfl

theorem get?_put (slab : Slab α n) (i j : Nat) (object : α) :
    (slab.put i object).get? j =
      if i = j ∧ j < n then some object else slab.get? j := by
  unfold get? put
  rw [Vector.getElem?_setIfInBounds]
  by_cases same : i = j
  · subst same
    by_cases inside : i < n
    · simp [inside]
    · simp [inside]
  · simp [same]

theorem get?_put_self {slab : Slab α n} {i : Nat} (inside : i < n) (object : α) :
    (slab.put i object).get? i = some object := by
  rw [get?_put]
  simp [inside]

@[simp]
theorem get?_put_of_ne {slab : Slab α n} {i j : Nat} (ne : i ≠ j)
    (object : α) : (slab.put i object).get? j = slab.get? j := by
  rw [get?_put]
  simp [ne]

/-- Overwriting an occupied cell. -/
theorem get?_put_of_some {slab : Slab α n} {i : Nat} {old : α}
    (present : slab.get? i = some old) (j : Nat) (object : α) :
    (slab.put i object).get? j = if i = j then some object else slab.get? j := by
  rw [get?_put]
  have inside := lt_of_get? present
  by_cases same : i = j
  · subst same
    simp [inside]
  · simp [same]

theorem isSome_get?_put_of_some {slab : Slab α n} {i : Nat} {old : α}
    (present : slab.get? i = some old) (j : Nat) (object : α) :
    ((slab.put i object).get? j).isSome = (slab.get? j).isSome := by
  rw [get?_put_of_some present]
  by_cases same : i = j
  · subst same
    simp [present]
  · simp [same]

/-- Writing back the object that is already there changes nothing. -/
theorem put_self {slab : Slab α n} {i : Nat} {object : α}
    (present : slab.get? i = some object) : slab.put i object = slab := by
  have inside := lt_of_get? present
  unfold put get? at *
  rw [Vector.getElem?_eq_getElem inside] at present
  have cell : slab.cells[i] = some object := by simpa using present
  obtain ⟨cells⟩ := slab
  simp only at cell
  rw [mk.injEq, ← cell]
  ext j insideJ
  rw [Vector.getElem_setIfInBounds]
  split
  · rename_i same
    subst same
    rfl
  · rfl

/-- Emptying a cell that was empty before. -/
theorem clear_put {slab : Slab α n} {i : Nat} (vacant : slab.get? i = none) (object : α) :
    (slab.put i object).clear i = slab := by
  unfold put clear get? at *
  obtain ⟨cells⟩ := slab
  simp only at vacant ⊢
  rw [mk.injEq]
  refine Vector.ext fun j insideJ => ?_
  rw [Vector.getElem_setIfInBounds, Vector.getElem_setIfInBounds]
  split
  · rename_i same
    subst same
    rw [Vector.getElem?_eq_getElem insideJ] at vacant
    simpa using vacant.symm
  · rfl

@[simp]
theorem put_put (slab : Slab α n) (i : Nat) (old new : α) :
    (slab.put i old).put i new = slab.put i new := by
  unfold put
  simp

theorem get?_clear (slab : Slab α n) (i j : Nat) :
    (slab.clear i).get? j = if i = j then none else slab.get? j := by
  unfold get? clear
  rw [Vector.getElem?_setIfInBounds]
  by_cases same : i = j
  · subst same
    by_cases inside : i < n
    · simp [inside]
    · simp [inside]
  · simp [same]

/-- `find?` finds something if there is something to find. -/
theorem find?_ne_none {slab : Slab α n} {holds : α → Bool} {i : Nat} {object : α}
    (present : slab.get? i = some object) (satisfied : holds object = true) :
    slab.find? holds ≠ none := by
  have inside := lt_of_get? present
  unfold find?
  cases located : slab.cells.toList.findIdx? fun cell => cell.any holds with
  | some j =>
      obtain ⟨insideJ, full, _⟩ := List.findIdx?_eq_some_iff_getElem.1 located
      have insideN : j < n := by simpa using insideJ
      simp only [get?, Vector.getElem?_eq_getElem insideN]
      cases cell : slab.cells[j] with
      | some found => simp
      | none => simp [cell] at full
  | none =>
      have cell : slab.cells[i] = some object := by
        unfold get? at present
        rw [Vector.getElem?_eq_getElem inside] at present
        simpa using present
      have missing := List.findIdx?_eq_none_iff.1 located slab.cells[i]
        (Vector.mem_toList_iff.2 (Vector.getElem_mem inside))
      rw [cell] at missing
      simp [satisfied] at missing

/-- The object that `find?` returns is in the table and satisfies the test. -/
theorem find?_spec {slab : Slab α n} {holds : α → Bool} {i : Nat} {object : α}
    (found : slab.find? holds = some (i, object)) :
    slab.get? i = some object ∧ holds object = true := by
  unfold find? at found
  split at found
  · rename_i index located
    obtain ⟨inside, satisfied, _⟩ := List.findIdx?_eq_some_iff_getElem.1 located
    have insideN : index < n := by simpa using inside
    obtain ⟨stored, present, pair⟩ := Option.map_eq_some_iff.1 found
    obtain ⟨rfl, rfl⟩ := Prod.mk.injEq .. ▸ pair
    refine ⟨present, ?_⟩
    unfold get? at present
    rw [Vector.getElem?_eq_getElem insideN] at present
    have cell : slab.cells[index] = some stored := by simpa using present
    simpa [cell] using satisfied
  · simp at found

/-! ## Inserting -/

theorem firstFree_spec {slab : Slab α n} {i : Nat}
    (found : slab.firstFree = some i) : i < n ∧ slab.get? i = none := by
  unfold firstFree at found
  obtain ⟨inside, isEmpty, _⟩ := List.findIdx?_eq_some_iff_getElem.1 found
  have insideN : i < n := by simpa using inside
  refine ⟨insideN, ?_⟩
  unfold get?
  rw [Vector.getElem?_eq_getElem insideN]
  simpa using isEmpty

theorem insert_spec {slab later : Slab α n} {make : Nat → α} {i : Nat}
    (inserted : slab.insert make = some (i, later)) :
    i < n ∧ slab.get? i = none ∧ later = slab.put i (make i) := by
  unfold insert at inserted
  cases found : slab.firstFree with
  | none =>
      simp [found] at inserted
  | some free =>
      simp only [found, Option.some.injEq, Prod.mk.injEq] at inserted
      obtain ⟨rfl, rfl⟩ := inserted
      obtain ⟨inside, isEmpty⟩ := firstFree_spec found
      exact ⟨inside, isEmpty, rfl⟩

/-- What is in the table after an insertion. -/
theorem get?_of_insert {slab later : Slab α n} {make : Nat → α} {i : Nat}
    (inserted : slab.insert make = some (i, later)) (j : Nat) :
    later.get? j = if i = j then some (make i) else slab.get? j := by
  obtain ⟨inside, _, rfl⟩ := insert_spec inserted
  rw [get?_put]
  by_cases same : i = j
  · subst same
    simp [inside]
  · simp [same]

/-- An insertion never disturbs an object that is already there. -/
theorem get?_of_insert_of_some {slab later : Slab α n} {make : Nat → α} {i : Nat}
    (inserted : slab.insert make = some (i, later)) {j : Nat} {object : α}
    (present : slab.get? j = some object) : later.get? j = some object := by
  obtain ⟨_, isEmpty, _⟩ := insert_spec inserted
  rw [get?_of_insert inserted]
  have ne : i ≠ j := by
    intro same
    rw [same, present] at isEmpty
    simp at isEmpty
  simpa [ne] using present

theorem mem_objects {slab : Slab α n} {object : α} :
    object ∈ slab.objects ↔ ∃ i, slab.get? i = some object := by
  unfold objects get?
  simp only [List.mem_filterMap, id_eq, exists_eq_right]
  constructor
  · intro member
    obtain ⟨i, inside, cell⟩ := List.getElem_of_mem member
    refine ⟨i, ?_⟩
    have insideN : i < n := by simpa using inside
    rw [Vector.getElem?_eq_getElem insideN]
    simpa using cell
  · rintro ⟨i, cell⟩
    by_cases inside : i < n
    · rw [Vector.getElem?_eq_getElem inside] at cell
      have here : slab.cells[i] = some object := by simpa using cell
      rw [← here, Vector.mem_toList_iff]
      exact Vector.getElem_mem inside
    · rw [Vector.getElem?_eq_none (Nat.le_of_not_lt inside)] at cell
      simp at cell

/-- The objects relate pairwise exactly if those at two different indices do. -/
theorem pairwise_objects {relation : α → α → Prop}
    (symmetric : ∀ {first second}, relation first second → relation second first)
    {slab : Slab α n} :
    slab.objects.Pairwise relation ↔
      ∀ i j first second, i ≠ j → slab.get? i = some first →
        slab.get? j = some second → relation first second := by
  unfold objects
  rw [List.pairwise_filterMap, List.pairwise_iff_getElem]
  have cell : ∀ {i : Nat} (inside : i < slab.cells.toList.length) {object : α},
      slab.cells.toList[i] = some object ↔ slab.get? i = some object := by
    intro i inside object
    have insideN : i < n := by simpa using inside
    unfold get?
    rw [Vector.getElem?_eq_getElem insideN]
    simp
  have size : slab.cells.toList.length = n := Vector.length_toList
  constructor
  · intro pairwise i j first second ne here there
    have insideI := size ▸ lt_of_get? here
    have insideJ := size ▸ lt_of_get? there
    rcases Nat.lt_or_gt_of_ne ne with less | greater
    · exact pairwise i j insideI insideJ less first ((cell insideI).2 here) second
        ((cell insideJ).2 there)
    · exact symmetric (pairwise j i insideJ insideI greater second ((cell insideJ).2 there)
        first ((cell insideI).2 here))
  · intro pairwise i j insideI insideJ less first here second there
    exact pairwise i j first second (Nat.ne_of_lt less) ((cell insideI).1 here)
      ((cell insideJ).1 there)

/-! ## Counting -/

theorem length_objects (slab : Slab α n) :
    slab.objects.length = slab.cells.toList.countP Option.isSome := by
  simp [objects, List.length_filterMap_eq_countP]

private theorem toList_setIfInBounds (slab : Slab α n) (i : Nat) (cell : Option α) :
    (slab.cells.setIfInBounds i cell).toList = slab.cells.toList.set i cell := by
  simp

private theorem isSome_getElem (slab : Slab α n) {i : Nat}
    (inside : i < slab.cells.toList.length) :
    slab.cells.toList[i].isSome = (slab.get? i).isSome := by
  have insideN : i < n := by simpa using inside
  unfold get?
  rw [Vector.getElem?_eq_getElem insideN]
  simp

/-- Filling an empty entry. -/
theorem length_objects_put {slab : Slab α n} {i : Nat} (inside : i < n)
    (vacant : slab.get? i = none) (object : α) :
    (slab.put i object).objects.length = slab.objects.length + 1 := by
  have here : i < slab.cells.toList.length := by simpa using inside
  have empty : slab.cells.toList[i].isSome = false := by
    rw [isSome_getElem, vacant]
    rfl
  rw [length_objects, length_objects, put, toList_setIfInBounds, List.countP_set here, empty]
  simp

/-- Emptying an entry. -/
theorem length_objects_clear {slab : Slab α n} {i : Nat} {object : α}
    (present : slab.get? i = some object) :
    (slab.clear i).objects.length + 1 = slab.objects.length := by
  have here : i < slab.cells.toList.length := by simpa using lt_of_get? present
  have full : slab.cells.toList[i].isSome = true := by
    rw [isSome_getElem, present]
    rfl
  have positive : 0 < slab.cells.toList.countP Option.isSome :=
    List.countP_pos_iff.2 ⟨_, List.getElem_mem here, full⟩
  rw [length_objects, length_objects, clear, toList_setIfInBounds, List.countP_set here, full]
  rw [if_pos rfl, Option.isSome_none, if_neg Bool.false_ne_true]
  omega

theorem length_objects_of_insert {slab later : Slab α n} {make : Nat → α} {i : Nat}
    (inserted : slab.insert make = some (i, later)) :
    later.objects.length = slab.objects.length + 1 := by
  obtain ⟨inside, vacant, rfl⟩ := insert_spec inserted
  exact length_objects_put inside vacant (make i)

/-- How many entries are empty. -/
def vacancies (slab : Slab α n) : Nat := n - slab.objects.length

theorem length_objects_le (slab : Slab α n) : slab.objects.length ≤ n := by
  have size : slab.cells.toList.length = n := Vector.length_toList
  have bounded := @List.countP_le_length _ Option.isSome slab.cells.toList
  rw [size] at bounded
  rw [length_objects]
  exact bounded

/-- An insertion fails exactly if no entry is empty. -/
theorem insert_eq_none_iff {slab : Slab α n} {make : Nat → α} :
    slab.insert make = none ↔ slab.vacancies = 0 := by
  have size : slab.cells.toList.length = n := Vector.length_toList
  have bounded := slab.length_objects_le
  unfold insert firstFree vacancies
  rw [length_objects] at *
  cases found : slab.cells.toList.findIdx? Option.isNone with
  | some i =>
      obtain ⟨inside, isEmpty, _⟩ := List.findIdx?_eq_some_iff_getElem.1 found
      have notAll : slab.cells.toList.countP Option.isSome ≠ slab.cells.toList.length := by
        intro all
        have full := List.countP_eq_length.1 all _ (List.getElem_mem inside)
        rw [Option.isNone_iff_eq_none] at isEmpty
        rw [isEmpty] at full
        exact Bool.false_ne_true full
      rw [size] at notAll
      exact iff_of_false (Option.some_ne_none _) (by omega)
  | none =>
      have full : slab.cells.toList.countP Option.isSome = slab.cells.toList.length := by
        refine List.countP_eq_length.2 fun cell member => ?_
        have notEmpty := List.findIdx?_eq_none_iff.1 found cell member
        simpa using notEmpty
      rw [size] at full
      exact iff_of_true rfl (by omega)

theorem vacancies_of_insert {slab later : Slab α n} {make : Nat → α} {i : Nat}
    (inserted : slab.insert make = some (i, later)) :
    later.vacancies + 1 = slab.vacancies := by
  have grown := length_objects_of_insert inserted
  have bounded := later.length_objects_le
  unfold vacancies
  omega

/-- Overwriting an object takes no entry. -/
theorem vacancies_put_of_some {slab : Slab α n} {i : Nat} {old : α}
    (present : slab.get? i = some old) (object : α) :
    (slab.put i object).vacancies = slab.vacancies := by
  have here : i < slab.cells.toList.length := by simpa using lt_of_get? present
  have full : slab.cells.toList[i].isSome = true := by
    rw [isSome_getElem, present]
    rfl
  have positive : 0 < slab.cells.toList.countP Option.isSome :=
    List.countP_pos_iff.2 ⟨_, List.getElem_mem here, full⟩
  unfold vacancies
  rw [length_objects, length_objects, put, toList_setIfInBounds, List.countP_set here, full]
  rw [if_pos rfl, Option.isSome_some, if_pos rfl]
  omega

/-! ## Filling from the front -/

/-- The table holds the images of a list, in order and nothing else. -/
def FilledBy {β : Type} (slab : Slab α n) (make : β → α) (parts : List β) : Prop :=
  ∀ i, slab.get? i = parts[i]?.map make

theorem filledBy_empty {β : Type} (make : β → α) : (empty : Slab α n).FilledBy make [] := by
  intro i
  rw [get?_empty]
  rfl

namespace FilledBy

variable {β : Type} {make : β → α} {slab : Slab α n} {parts : List β}

theorem length_le (filled : slab.FilledBy make parts) : parts.length ≤ n := by
  by_contra more
  have inside : n < parts.length := Nat.lt_of_not_le more
  have beyond := filled n
  rw [get?_eq_none_of_le (Nat.le_refl n), List.getElem?_eq_getElem inside] at beyond
  cases beyond

/-- The next object goes behind the others. -/
theorem insert (filled : slab.FilledBy make parts) {part : β} {i : Nat} {later : Slab α n}
    (inserted : slab.insert (fun _ => make part) = some (i, later)) :
    i = parts.length ∧ later.FilledBy make (parts ++ [part]) := by
  obtain ⟨inside, vacant, stored⟩ := insert_spec inserted
  have behind : parts.length ≤ i := by
    by_contra before
    rw [filled i, List.getElem?_eq_getElem (Nat.lt_of_not_le before)] at vacant
    cases vacant
  -- No earlier cell is empty, for the search would have found it.
  have first : i = parts.length := by
    unfold Slab.insert at inserted
    cases found : slab.firstFree with
    | none => simp [found] at inserted
    | some free =>
        simp only [found, Option.some.injEq, Prod.mk.injEq] at inserted
        obtain ⟨rfl, _⟩ := inserted
        unfold firstFree at found
        obtain ⟨_, _, before⟩ := List.findIdx?_eq_some_iff_getElem.1 found
        by_contra ne
        have less : parts.length < free := by omega
        have full := before parts.length less
        have absent := filled parts.length
        rw [List.getElem?_eq_none (Nat.le_refl _)] at absent
        unfold get? at absent
        rw [Vector.getElem?_eq_getElem (by omega)] at absent
        simp only [Option.map_none, Option.join_some] at absent
        simp [absent] at full
  refine ⟨first, fun j => ?_⟩
  rw [get?_of_insert inserted, filled j]
  by_cases here : i = j
  · rw [if_pos here, ← here, first]
    simp
  · rw [if_neg here]
    by_cases early : j < parts.length
    · rw [List.getElem?_append_left early]
    · rw [List.getElem?_eq_none (Nat.le_of_not_lt early), List.getElem?_eq_none]
      rw [List.length_append, List.length_singleton]
      omega

end FilledBy

/-! ## Gathering -/

section Gather

variable {β : Type} (parts : α → List β)

/-- What the objects hold, in index order. -/
def gather (slab : Slab α n) : List β := slab.objects.flatMap parts

variable {parts}

theorem mem_gather {slab : Slab α n} {part : β} :
    part ∈ slab.gather parts ↔
      ∃ i object, slab.get? i = some object ∧ part ∈ parts object := by
  unfold gather
  rw [List.mem_flatMap]
  constructor
  · rintro ⟨object, stored, member⟩
    obtain ⟨i, present⟩ := mem_objects.1 stored
    exact ⟨i, object, present, member⟩
  · rintro ⟨i, object, present, member⟩
    exact ⟨object, mem_objects.2 ⟨i, present⟩, member⟩

/-- Overwriting an object exchanges its parts and no others. -/
theorem gather_put {slab : Slab α n} {i : Nat} {old : α}
    (present : slab.get? i = some old) :
    ∃ others, (slab.gather parts).Perm (parts old ++ others) ∧
      ∀ new, ((slab.put i new).gather parts).Perm (parts new ++ others) := by
  have inside : i < slab.cells.toList.length := by simpa using lt_of_get? present
  have cell : slab.cells.toList[i] = some old := by
    unfold get? at present
    rw [Vector.getElem?_eq_getElem (lt_of_get? present)] at present
    simpa using present
  let front := (slab.cells.toList.take i).filterMap id
  let back := (slab.cells.toList.drop (i + 1)).filterMap id
  have here : slab.objects = front ++ old :: back := by
    have split : slab.cells.toList =
        slab.cells.toList.take i ++ some old :: slab.cells.toList.drop (i + 1) := by
      rw [← cell, List.getElem_cons_drop, List.take_append_drop]
    unfold objects
    rw [split, List.filterMap_append]
    rfl
  have there : ∀ new, (slab.put i new).objects = front ++ new :: back := by
    intro new
    unfold objects put
    rw [toList_setIfInBounds, List.set_eq_take_append_cons_drop, if_pos inside,
      List.filterMap_append]
    rfl
  have moved : ∀ object, ((front ++ object :: back).flatMap parts).Perm
      (parts object ++ (front.flatMap parts ++ back.flatMap parts)) := by
    intro object
    rw [List.flatMap_append, List.flatMap_cons]
    exact List.perm_append_comm_assoc ..
  refine ⟨front.flatMap parts ++ back.flatMap parts, ?_, fun new => ?_⟩
  · unfold gather
    rw [here]
    exact moved old
  · unfold gather
    rw [there]
    exact moved new

end Gather

/-! ## Growing -/

/-- Every object stays as it was, and each new one satisfies `fresh`. -/
def GrowsBy (fresh : Nat → α → Prop) (before after : Slab α n) : Prop :=
  ∀ i, after.get? i = before.get? i ∨
    before.get? i = none ∧ ∃ object, after.get? i = some object ∧ fresh i object

namespace GrowsBy

variable {fresh : Nat → α → Prop} {before middle after : Slab α n}

theorem refl (slab : Slab α n) : GrowsBy fresh slab slab :=
  fun _ => Or.inl rfl

theorem trans (first : GrowsBy fresh before middle)
    (second : GrowsBy fresh middle after) : GrowsBy fresh before after := by
  intro i
  rcases first i with kept | ⟨vacant, object, created, isFresh⟩
  · rw [← kept]
    exact second i
  · rcases second i with kept | ⟨stillVacant, _⟩
    · exact Or.inr ⟨vacant, object, kept.trans created, isFresh⟩
    · rw [created] at stillVacant
      simp at stillVacant

theorem get?_of_some (grows : GrowsBy fresh before after) {i : Nat} {object : α}
    (present : before.get? i = some object) : after.get? i = some object := by
  rcases grows i with kept | ⟨vacant, _⟩
  · exact kept.trans present
  · rw [present] at vacant
    simp at vacant

theorem isSome_get? (grows : GrowsBy fresh before after) {i : Nat}
    (there : (before.get? i).isSome) : (after.get? i).isSome := by
  obtain ⟨object, stored⟩ := Option.isSome_iff_exists.1 there
  rw [grows.get?_of_some stored]
  rfl

/-- An object of the grown table is an old one or a fresh one. -/
theorem cases_of_some (grows : GrowsBy fresh before after) {i : Nat} {object : α}
    (present : after.get? i = some object) :
    before.get? i = some object ∨ before.get? i = none ∧ fresh i object := by
  rcases grows i with kept | ⟨vacant, created, there, isFresh⟩
  · exact Or.inl (kept.symm.trans present)
  · rw [present, Option.some.injEq] at there
    exact Or.inr ⟨vacant, there ▸ isFresh⟩

theorem of_insert {make : Nat → α} {i : Nat}
    (inserted : before.insert make = some (i, after)) (isFresh : fresh i (make i)) :
    GrowsBy fresh before after := by
  intro j
  rw [get?_of_insert inserted]
  by_cases same : i = j
  · subst same
    exact Or.inr ⟨(insert_spec inserted).2.1, make i, by simp, isFresh⟩
  · exact Or.inl (if_neg same)

/-- Objects without parts are not seen in what the table holds. -/
theorem gather {β : Type} {parts : α → List β} (grows : GrowsBy fresh before after)
    (nothing : ∀ i object, fresh i object → parts object = []) :
    after.gather parts = before.gather parts := by
  have cells : ∀ slab : Slab α n, slab.gather parts =
      slab.cells.toList.flatMap fun cell => (cell.map parts).getD [] := by
    intro slab
    unfold Slab.gather objects
    induction slab.cells.toList with
    | nil => rfl
    | cons cell rest ih =>
        cases cell with
        | none => simpa using ih
        | some object => simpa using ih
  have same : after.cells.toList.map (fun cell => (cell.map parts).getD []) =
      before.cells.toList.map fun cell => (cell.map parts).getD [] := by
    refine List.ext_getElem (by simp) fun i insideAfter insideBefore => ?_
    have inside : i < n := by simpa using insideAfter
    have entry := grows i
    unfold get? at entry
    rw [Vector.getElem?_eq_getElem inside, Vector.getElem?_eq_getElem inside] at entry
    simp only [Option.join_some] at entry
    simp only [List.getElem_map, Vector.getElem_toList]
    rcases entry with kept | ⟨vacant, object, created, isFresh⟩
    · rw [kept]
    · rw [vacant, created]
      exact nothing i object isFresh
  rw [cells, cells, List.flatMap_def, List.flatMap_def, same]

end GrowsBy

/-! ## New objects and their keys -/

section Keys

variable {key : α → Nat} {low next : Nat} {before middle after : Slab α n}

/-- At most one object is new, and its key is `value`. -/
def NewAt (key : α → Nat) (value : Nat) (before after : Slab α n) : Prop :=
  ∃ slot, ∀ i object, before.get? i = none → after.get? i = some object →
    i = slot ∧ key object = value

theorem NewAt.refl (value : Nat) (slab : Slab α n) : NewAt key value slab slab := by
  refine ⟨0, fun i object vacant present => ?_⟩
  rw [vacant] at present
  simp at present

theorem NewAt.of_insert {make : Nat → α} {i value : Nat}
    (inserted : before.insert make = some (i, after)) (here : key (make i) = value) :
    NewAt key value before after := by
  refine ⟨i, fun j object vacant present => ?_⟩
  rw [get?_of_insert inserted] at present
  by_cases same : i = j
  · rw [if_pos same, Option.some.injEq] at present
    exact ⟨same.symm, present ▸ here⟩
  · rw [if_neg same, vacant] at present
    simp at present

/-- New objects have different keys, none below `low`. -/
structure NewFrom (key : α → Nat) (low : Nat) (before after : Slab α n) : Prop where
  above : ∀ i object, before.get? i = none → after.get? i = some object → low ≤ key object
  distinct : ∀ i j first second, before.get? i = none → before.get? j = none →
    after.get? i = some first → after.get? j = some second → key first = key second → i = j

theorem NewFrom.refl (low : Nat) (slab : Slab α n) : NewFrom key low slab slab where
  above := by
    intro i object vacant present
    rw [vacant] at present
    simp at present
  distinct := by
    intro i j first second vacant _ present
    rw [vacant] at present
    simp at present

/-- One object first, and the others behind it. -/
theorem NewAt.newFrom (one : NewAt key low before middle) (below : low < next)
    (others : NewFrom key next middle after)
    (kept : ∀ i object, middle.get? i = some object → after.get? i = some object) :
    NewFrom key low before after := by
  obtain ⟨slot, one⟩ := one
  have cases : ∀ i object, before.get? i = none → after.get? i = some object →
      (i = slot ∧ key object = low) ∨ (middle.get? i = none ∧ next ≤ key object) := by
    intro i object vacant present
    cases there : middle.get? i with
    | none => exact Or.inr ⟨rfl, others.above i object there present⟩
    | some old =>
        obtain rfl := Option.some.inj ((kept i old there).symm.trans present)
        exact Or.inl (one i old vacant there)
  constructor
  · intro i object vacant present
    rcases cases i object vacant present with ⟨_, here⟩ | ⟨_, above⟩
    · omega
    · omega
  · intro i j first second iVacant jVacant iPresent jPresent same
    rcases cases i first iVacant iPresent with ⟨iSlot, iKey⟩ | ⟨iNew, iKey⟩
    · rcases cases j second jVacant jPresent with ⟨jSlot, jKey⟩ | ⟨jNew, jKey⟩
      · exact iSlot.trans jSlot.symm
      · omega
    · rcases cases j second jVacant jPresent with ⟨jSlot, jKey⟩ | ⟨jNew, jKey⟩
      · omega
      · exact others.distinct i j first second iNew jNew iPresent jPresent same

end Keys

end Slab
