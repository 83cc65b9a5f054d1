import Mathlib.Data.List.Basic

/-!
# Queues that shift

A bounded queue in an array with a count.  The head is in the first cell, and when it is
taken all others move down by one cell.
-/

namespace Simurgh

/-- The cells of a queue, and how many of them are filled. -/
structure ShiftQueue (α : Type) (capacity : Nat) where
  cells : List (Option α)
  len : Nat

namespace ShiftQueue

variable {α : Type} {capacity : Nat}

def empty : ShiftQueue α capacity :=
  { cells := List.replicate capacity none, len := 0 }

/-- Fill the next cell, if there is one. -/
def push (queue : ShiftQueue α capacity) (item : α) : Option (ShiftQueue α capacity) :=
  if capacity ≤ queue.len then none
  else some { cells := queue.cells.set queue.len (some item), len := queue.len + 1 }

/-- `for i in i..i + count { cells[i - 1] = cells[i].take() }`. -/
def shiftDown : (count i : Nat) → List (Option α) → List (Option α)
  | 0, _, cells => cells
  | count + 1, i, cells =>
      shiftDown count (i + 1) ((cells.set (i - 1) cells[i]?.join).set i none)

/-- Take the first cell and move the others. -/
def popFront (queue : ShiftQueue α capacity) : Option α × ShiftQueue α capacity :=
  if queue.len = 0 then (none, queue)
  else
    (queue.cells[0]?.join,
      { cells := shiftDown (queue.len - 1) 1 (queue.cells.set 0 none)
        len := queue.len - 1 })

/-! ## The contents -/

/-- The filled cells are the first ones. -/
structure Holds (contents : List α) (queue : ShiftQueue α capacity) : Prop where
  len : queue.len = contents.length
  fits : contents.length ≤ capacity
  cells : queue.cells =
    contents.map some ++ List.replicate (capacity - contents.length) none

theorem Holds.empty : Holds [] (ShiftQueue.empty : ShiftQueue α capacity) where
  len := rfl
  fits := Nat.zero_le capacity
  cells := rfl

variable {contents : List α} {queue : ShiftQueue α capacity}

theorem Holds.push_of_full (holds : Holds contents queue) (full : capacity ≤ contents.length)
    (item : α) : queue.push item = none := by
  unfold push
  rw [holds.len, if_pos full]

theorem Holds.push_of_room (holds : Holds contents queue) (room : contents.length < capacity)
    (item : α) :
    ∃ later, queue.push item = some later ∧ Holds (contents ++ [item]) later := by
  refine ⟨{ cells := queue.cells.set queue.len (some item), len := queue.len + 1 },
    ?_, ?_, ?_, ?_⟩
  · unfold push
    rw [holds.len, if_neg (Nat.not_le_of_lt room)]
  · rw [List.length_append, holds.len]
    rfl
  · rw [List.length_append]
    exact room
  · obtain ⟨rest, free⟩ : ∃ rest, capacity - contents.length = rest + 1 :=
      ⟨capacity - contents.length - 1, by omega⟩
    have left : capacity - (contents ++ [item]).length = rest := by
      rw [List.length_append, List.length_singleton]
      omega
    rw [left]
    simp [holds.len, holds.cells, free, List.replicate_succ]

/-- The empty cell moves behind the cells that are moved. -/
theorem shiftDown_eq (moved : List α) (before rest : List (Option α)) :
    shiftDown moved.length (before.length + 1)
        (before ++ none :: (moved.map some ++ rest)) =
      before ++ (moved.map some ++ none :: rest) := by
  induction moved generalizing before with
  | nil => rfl
  | cons item tail ih =>
      have next := ih (before ++ [some item])
      rw [List.length_append, List.length_singleton] at next
      rw [List.length_cons, shiftDown]
      have swapped : ((before ++ none :: ((item :: tail).map some ++ rest)).set
          (before.length + 1 - 1)
          (before ++ none :: ((item :: tail).map some ++ rest))[before.length + 1]?.join).set
            (before.length + 1) none =
          (before ++ [some item]) ++ none :: (tail.map some ++ rest) := by
        simp [List.set_append_right]
      rw [swapped, next]
      simp

theorem Holds.popFront_nil (holds : Holds [] queue) : queue.popFront = (none, queue) := by
  unfold popFront
  rw [holds.len]
  rfl

/-- The head is taken, and the others are kept in their order. -/
theorem Holds.popFront_cons {item : α} {tail : List α} (holds : Holds (item :: tail) queue) :
    ∃ later, queue.popFront = (some item, later) ∧ Holds tail later := by
  have cells := holds.cells
  rw [List.map_cons, List.cons_append] at cells
  refine ⟨{ cells := shiftDown tail.length 1 (queue.cells.set 0 none), len := tail.length },
    ?_, rfl, ?_, ?_⟩
  · unfold popFront
    have filled : queue.len = tail.length + 1 := holds.len
    rw [filled, if_neg (Nat.succ_ne_zero _), cells]
    rfl
  · exact Nat.le_of_succ_le holds.fits
  · have moves := shiftDown_eq tail []
      (List.replicate (capacity - (item :: tail).length) none)
    rw [List.nil_append] at moves
    change shiftDown tail.length 1 (queue.cells.set 0 none) = _
    rw [cells, List.set_cons_zero]
    refine moves.trans ?_
    have fits := holds.fits
    rw [List.length_cons] at fits ⊢
    obtain ⟨rest, free⟩ : ∃ rest, capacity - tail.length = rest + 1 :=
      ⟨capacity - tail.length - 1, by omega⟩
    have left : capacity - (tail.length + 1) = rest := by omega
    rw [free, left, List.replicate_succ]
    rfl

end ShiftQueue

end Simurgh
