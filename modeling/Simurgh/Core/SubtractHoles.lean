import Simurgh.Core.FreeMemory
import Simurgh.Lib.ShiftInsert

/-!
# Holes in the buffers of the caller

`subtract_holes` sorts the holes in a table of eight cells and writes the parts between
them into a buffer.  With room in both it computes the list of `subtractHoles`.
-/

namespace Simurgh

/-! ## The code -/

/-- The table of clamped holes, and how many of its cells are filled. -/
structure HoleTable where
  hs : List (Nat × Nat)
  n : Nat
  deriving DecidableEq, Repr

def HoleTable.empty : HoleTable where
  hs := List.replicate 8 (0, 0)
  n := 0

/-- One round of the loop over the holes.  An empty hole is skipped, and so is every hole
when the table is full. -/
def HoleTable.add (start stop : Nat) (table : HoleTable) (hole : Nat × Nat) :
    Option HoleTable :=
  let clamped := (max hole.1 start, min hole.2 stop)
  if clamped.2 ≤ clamped.1 ∨ table.hs.length ≤ table.n then some table
  else do
    let hs ← ShiftInsert.insertFrom (fun held => clamped.1 < held.1) clamped table.n table.hs
    return { hs, n := table.n + 1 }

/-- `&hs[..n]`. -/
def HoleTable.filled (table : HoleTable) : Option (List (Nat × Nat)) :=
  if table.n ≤ table.hs.length then some (table.hs.take table.n) else none

/-- Where the sweep is, and what it has written. -/
structure Sweep where
  cur : Nat
  k : Nat
  out : List (Nat × Nat)
  deriving DecidableEq, Repr

/-- `if from < to && k < out.len() { out[k] = (from, to); k += 1 }`. -/
def Sweep.emit (sweep : Sweep) (stop : Nat) : Sweep :=
  if sweep.cur < stop ∧ sweep.k < sweep.out.length then
    { sweep with out := sweep.out.set sweep.k (sweep.cur, stop), k := sweep.k + 1 }
  else sweep

/-- One round of the loop over the sorted holes. -/
def Sweep.pass (sweep : Sweep) (hole : Nat × Nat) : Sweep :=
  let emitted := sweep.emit hole.1
  if emitted.cur < hole.2 then { emitted with cur := hole.2 } else emitted

/-- The buffer afterwards, and how many of its entries were written. -/
def subtractHolesInto (start stop : Nat) (holes out : List (Nat × Nat)) :
    Option (Nat × List (Nat × Nat)) := do
  let table ← holes.foldlM (HoleTable.add start stop) .empty
  let sorted ← table.filled
  let swept := (sorted.foldl Sweep.pass { cur := start, k := 0, out }).emit stop
  return (swept.k, swept.out)

/-! ## The table -/

theorem insertHole_eq_orderedInsert (hole : Nat × Nat) (sorted : List (Nat × Nat)) :
    insertHole hole sorted =
      sorted.orderedInsert (fun left right => left.1 < right.1) hole := by
  induction sorted with
  | nil => rfl
  | cons other rest ih =>
      rw [insertHole, List.orderedInsert_cons, ih]

/-- The holes among `done` are in the table, in order. -/
structure HoleTable.Holding (table : HoleTable) (start stop : Nat) (done : List (Nat × Nat)) :
    Prop where
  length : table.hs.length = 8
  few : table.n ≤ done.length
  filled : table.hs.take table.n = sortHoles start stop done

theorem sortHoles_append (start stop : Nat) (done : List (Nat × Nat)) (hole : Nat × Nat) :
    sortHoles start stop (done ++ [hole]) =
      if min hole.2 stop ≤ max hole.1 start then sortHoles start stop done
      else insertHole (max hole.1 start, min hole.2 stop) (sortHoles start stop done) := by
  rw [sortHoles, List.foldl_append]
  rfl

theorem HoleTable.holding_empty (start stop : Nat) :
    HoleTable.empty.Holding start stop [] where
  length := List.length_replicate
  few := Nat.le_refl 0
  filled := rfl

/-- A round of the loop, as long as there is room. -/
theorem HoleTable.Holding.add {table : HoleTable} {start stop : Nat} {done : List (Nat × Nat)}
    (holding : table.Holding start stop done) (room : done.length < 8) (hole : Nat × Nat) :
    ∃ later, table.add start stop hole = some later ∧
      later.Holding start stop (done ++ [hole]) := by
  have free : table.n < table.hs.length := by
    rw [holding.length]
    exact Nat.lt_of_le_of_lt holding.few room
  have longer : (done ++ [hole]).length = done.length + 1 := by simp
  unfold HoleTable.add
  by_cases vacant : min hole.2 stop ≤ max hole.1 start
  · refine ⟨table, if_pos (Or.inl vacant), holding.length, ?_, ?_⟩
    · rw [longer]
      exact Nat.le_succ_of_le holding.few
    · rw [holding.filled, sortHoles_append, if_pos vacant]
  · have ordered := (sortHoles_swept start stop done).sorted
    have upward : (table.hs.take table.n).Pairwise fun first second =>
        (max hole.1 start, min hole.2 stop).1 < first.1 →
          (max hole.1 start, min hole.2 stop).1 < second.1 := by
      rw [holding.filled]
      apply ordered.imp
      intro first second before above
      exact Nat.lt_of_lt_of_le above before
    have inserted := ShiftInsert.insertFrom_of_sorted
      (fun left right : Nat × Nat => left.1 < right.1) free upward
    have length : (insertHole (max hole.1 start, min hole.2 stop)
        (sortHoles start stop done)).length = table.n + 1 := by
      rw [insertHole_eq_orderedInsert, List.orderedInsert_length, ← holding.filled,
        List.length_take, Nat.min_eq_left (Nat.le_of_lt free)]
    rw [holding.filled, ← insertHole_eq_orderedInsert] at inserted
    rw [if_neg (not_or.2 ⟨vacant, Nat.not_le.2 free⟩), inserted]
    refine ⟨_, rfl, ?_, ?_, ?_⟩
    · rw [List.length_append, length, List.length_drop, holding.length]
      have := holding.length
      omega
    · rw [longer]
      exact Nat.succ_le_succ holding.few
    · rw [sortHoles_append, if_neg vacant]
      exact List.take_left' length

/-- The loop sorts the holes, if there are at most eight. -/
theorem HoleTable.foldlM_add {start stop : Nat} (holes : List (Nat × Nat)) {table : HoleTable}
    {done : List (Nat × Nat)} (holding : table.Holding start stop done)
    (few : done.length + holes.length ≤ 8) :
    ∃ later, holes.foldlM (HoleTable.add start stop) table = some later ∧
      later.Holding start stop (done ++ holes) := by
  induction holes generalizing table done with
  | nil =>
      rw [List.append_nil]
      exact ⟨table, rfl, holding⟩
  | cons hole rest ih =>
      rw [List.length_cons] at few
      obtain ⟨next, added, held⟩ := holding.add (by omega) hole
      have fewer : (done ++ [hole]).length + rest.length ≤ 8 := by
        rw [List.length_append, List.length_singleton]
        omega
      obtain ⟨later, ran, final⟩ := ih held fewer
      rw [List.foldlM_cons, added]
      rw [List.append_assoc] at final
      exact ⟨later, ran, final⟩

/-! ## The sweep -/

/-- The parts were written behind what is there, and nothing else was. -/
structure Sweep.Adds (sweep : Sweep) (parts : List (Nat × Nat)) (later : Sweep) : Prop where
  length : later.out.length = sweep.out.length
  k : later.k = sweep.k + parts.length
  written : later.out.take later.k = sweep.out.take sweep.k ++ parts
  behind : later.out.drop later.k = sweep.out.drop later.k

namespace Sweep

variable {sweep middle later : Sweep} {first second : List (Nat × Nat)} {stop : Nat}

theorem Adds.refl (sweep : Sweep) : sweep.Adds [] sweep where
  length := rfl
  k := rfl
  written := (List.append_nil _).symm
  behind := rfl

theorem Adds.trans (left : sweep.Adds first middle) (right : middle.Adds second later) :
    sweep.Adds (first ++ second) later where
  length := right.length.trans left.length
  k := by
    rw [right.k, left.k, List.length_append, Nat.add_assoc]
  written := by
    rw [right.written, left.written, List.append_assoc]
  behind := by
    have more : later.k = middle.k + second.length := right.k
    rw [right.behind, more, ← List.drop_drop, left.behind, List.drop_drop]

/-- The part up to `stop`, if there is one. -/
def part (sweep : Sweep) (stop : Nat) : List (Nat × Nat) :=
  if sweep.cur < stop then [(sweep.cur, stop)] else []

theorem length_part_le (sweep : Sweep) (stop : Nat) : (sweep.part stop).length ≤ 1 := by
  unfold part
  split
  · exact Nat.le_refl 1
  · exact Nat.zero_le 1

theorem adds_emit (room : sweep.k < sweep.out.length) (stop : Nat) :
    sweep.Adds (sweep.part stop) (sweep.emit stop) := by
  unfold emit part
  by_cases more : sweep.cur < stop
  · rw [if_pos more, if_pos ⟨more, room⟩]
    have inside : sweep.k < (sweep.out.set sweep.k (sweep.cur, stop)).length := by
      rw [List.length_set]
      exact room
    constructor
    · exact List.length_set
    · rfl
    · rw [List.take_succ_eq_append_getElem inside, List.getElem_set_self,
        List.take_set_of_le (Nat.le_refl _)]
    · exact List.drop_set_of_lt (Nat.lt_succ_self _)
  · rw [if_neg more, if_neg (fun both => more both.1)]
    exact .refl sweep

@[simp]
theorem cur_emit (sweep : Sweep) (stop : Nat) : (sweep.emit stop).cur = sweep.cur := by
  unfold emit
  split
  · rfl
  · rfl

theorem adds_pass (room : sweep.k < sweep.out.length) (hole : Nat × Nat) :
    sweep.Adds (sweep.part hole.1) (sweep.pass hole) := by
  have adds := adds_emit room hole.1
  unfold pass
  simp only
  split
  · exact ⟨adds.length, adds.k, adds.written, adds.behind⟩
  · exact adds

theorem cur_pass (sweep : Sweep) (hole : Nat × Nat) :
    (sweep.pass hole).cur = max sweep.cur hole.2 := by
  unfold pass
  simp only [cur_emit]
  split
  · next further => exact (Nat.max_eq_right (Nat.le_of_lt further)).symm
  · next behind =>
      rw [cur_emit]
      exact (Nat.max_eq_left (Nat.le_of_not_lt behind)).symm

/-- The sweep writes the gaps between the holes. -/
theorem adds_foldl_pass (holes : List (Nat × Nat)) {sweep : Sweep}
    (room : sweep.k + holes.length < sweep.out.length) (stop : Nat) :
    sweep.Adds (gaps stop sweep.cur holes) ((holes.foldl pass sweep).emit stop) := by
  induction holes generalizing sweep with
  | nil => exact adds_emit room stop
  | cons hole rest ih =>
      rw [List.length_cons] at room
      have here : sweep.Adds (sweep.part hole.1) (sweep.pass hole) := adds_pass (by omega) hole
      have small := sweep.length_part_le hole.1
      have next : (sweep.pass hole).k + rest.length < (sweep.pass hole).out.length := by
        rw [here.length, here.k]
        omega
      have whole := here.trans (ih next)
      rw [cur_pass] at whole
      have split_ : sweep.part hole.1 ++ gaps stop (max sweep.cur hole.2) rest =
          gaps stop sweep.cur (hole :: rest) := by
        unfold part
        rw [gaps]
        by_cases before : sweep.cur < hole.1
        · rw [if_pos before, if_pos before]
          rfl
        · rw [if_neg before, if_neg before]
          rfl
      rw [split_] at whole
      exact whole

end Sweep

/-! ## The whole function -/

theorem length_insertHole (hole : Nat × Nat) (sorted : List (Nat × Nat)) :
    (insertHole hole sorted).length = sorted.length + 1 := by
  rw [insertHole_eq_orderedInsert, List.orderedInsert_length]

theorem length_sortHoles_le (start stop : Nat) (holes : List (Nat × Nat)) :
    (sortHoles start stop holes).length ≤ holes.length := by
  induction holes using List.reverseRecOn with
  | nil => exact Nat.le_refl 0
  | append_singleton holes hole ih =>
      rw [sortHoles_append, List.length_append, List.length_singleton]
      split
      · exact Nat.le_succ_of_le ih
      · rw [length_insertHole]
        exact Nat.succ_le_succ ih

/-- With room for the holes and the parts, the buffer starts with the parts afterwards. -/
theorem subtractHolesInto_eq {holes out : List (Nat × Nat)} (few : holes.length ≤ 8)
    (room : holes.length + 1 ≤ out.length) (start stop : Nat) :
    ∃ k later, subtractHolesInto start stop holes out = some (k, later) ∧
      later.length = out.length ∧
      k = (subtractHoles start stop holes).length ∧
      later.take k = subtractHoles start stop holes ∧
      later.drop k = out.drop k := by
  obtain ⟨table, ran, holding⟩ :=
    HoleTable.foldlM_add holes (HoleTable.holding_empty start stop) (by simpa using few)
  rw [List.nil_append] at holding
  have filled : table.filled = some (sortHoles start stop holes) := by
    rw [HoleTable.filled, if_pos, holding.filled]
    rw [holding.length]
    exact Nat.le_trans holding.few few
  have sorted := length_sortHoles_le start stop holes
  let begin : Sweep := { cur := start, k := 0, out }
  have fits : begin.k + (sortHoles start stop holes).length < begin.out.length := by
    change 0 + _ < out.length
    omega
  have adds := Sweep.adds_foldl_pass (sortHoles start stop holes) fits stop
  refine ⟨_, _, ?_, adds.length, ?_, ?_, adds.behind⟩
  · rw [subtractHolesInto, ran, Option.bind_eq_bind, Option.bind_some, filled,
      Option.bind_eq_bind, Option.bind_some]
    rfl
  · rw [adds.k]
    exact Nat.zero_add _
  · exact adds.written

/-- The address is in the range and in no hole. -/
def Uncovered (start stop : Nat) (holes : List (Nat × Nat)) (addr : Nat) : Prop :=
  start ≤ addr ∧ addr < stop ∧ ∀ hole ∈ holes, ¬ Holds hole addr

/-- The parts together are the range without the holes. -/
theorem exists_part_iff {start stop : Nat} {holes : List (Nat × Nat)} {addr : Nat} :
    (∃ part ∈ subtractHoles start stop holes, Holds part addr) ↔
      Uncovered start stop holes addr := by
  constructor
  · rintro ⟨part, member, inside⟩
    obtain ⟨starts, _, stops, free⟩ := subtractHoles_spec member
    refine ⟨Nat.le_trans starts inside.1, Nat.lt_of_lt_of_le inside.2 stops, ?_⟩
    intro hole among
    exact free hole among addr inside
  · rintro ⟨starts, stops, free⟩
    have alone : HoleFree holes (addr, addr + 1) := by
      intro hole among other inside
      have same : other = addr := by
        have := inside.1
        have := inside.2
        omega
      rw [same]
      exact free hole among
    have nonempty : (addr, addr + 1).1 < (addr, addr + 1).2 := Nat.lt_succ_self addr
    obtain ⟨part, member, lower, upper⟩ := exists_part nonempty starts stops alone
    exact ⟨part, member, lower, upper⟩

/-- The code fills the front of the buffer with the parts of the range that no hole covers:
in ascending order, none empty, none overlapping another, and none missing. -/
theorem subtractHolesInto_exact {holes out : List (Nat × Nat)} (few : holes.length ≤ 8)
    (room : holes.length + 1 ≤ out.length) (start stop : Nat) :
    ∃ k later, subtractHolesInto start stop holes out = some (k, later) ∧
      later.length = out.length ∧ k ≤ later.length ∧
      ((later.take k).Pairwise fun first second =>
        first.1 < second.1 ∧ ∀ addr, Holds first addr → ¬ Holds second addr) ∧
      (∀ part ∈ later.take k, part.1 < part.2) ∧
      (∀ addr, (∃ part ∈ later.take k, Holds part addr) ↔ Uncovered start stop holes addr) ∧
      later.drop k = out.drop k := by
  obtain ⟨k, later, ran, length, count, parts, behind⟩ :=
    subtractHolesInto_eq few room start stop
  refine ⟨k, later, ran, length, ?_, ?_, ?_, ?_, behind⟩
  · have taken := congrArg List.length parts
    rw [List.length_take, ← count] at taken
    omega
  · rw [parts]
    apply subtractHoles_pairwise.imp_of_mem
    intro first second member _ before
    have more := (subtractHoles_spec member).2.1
    constructor
    · exact Nat.lt_of_lt_of_le more before
    · intro addr inFirst inSecond
      have upper := inFirst.2
      have lower := inSecond.1
      omega
  · rw [parts]
    intro part member
    exact (subtractHoles_spec member).2.1
  · rw [parts]
    intro addr
    exact exists_part_iff

theorem subtractHolesInto_exact_sample :
    subtractHolesInto 0 100 [(60, 70), (20, 30)] [(0, 0), (0, 0), (0, 0)] =
        some (3, [(0, 20), (30, 60), (70, 100)]) ∧
      ∀ addr, (∃ part ∈ [(0, 20), (30, 60), (70, 100)], Holds part addr) ↔
        Uncovered 0 100 [(60, 70), (20, 30)] addr := by
  have result : subtractHolesInto 0 100 [(60, 70), (20, 30)] [(0, 0), (0, 0), (0, 0)] =
      some (3, [(0, 20), (30, 60), (70, 100)]) := by decide
  have few : [(60, 70), (20, 30)].length ≤ 8 := by decide
  have room : [(60, 70), (20, 30)].length + 1 ≤ [(0, 0), (0, 0), (0, 0)].length := by decide
  obtain ⟨k, later, ran, _, _, _, _, covered, _⟩ := subtractHolesInto_exact few room 0 100
  rw [result, Option.some.injEq, Prod.mk.injEq] at ran
  rw [← ran.1, ← ran.2] at covered
  exact ⟨result, covered⟩

end Simurgh
