import Mathlib.Data.List.DropRight
import Mathlib.Data.List.Sort

/-!
# Insertion into the sorted front of an array

The cells before `n` are filled.  A new item goes in from behind: the items that come after
it move up by one cell, and it is stored in the cell that becomes free.  Reading or writing
outside the array is a failure.
-/

namespace ShiftInsert

variable {α : Type}

/-- `cells[i] = item`. -/
def store (cells : List α) (i : Nat) (item : α) : Option (List α) :=
  if i < cells.length then some (cells.set i item) else none

/-- `while i > 0 && moves(cells[i - 1]) { cells[i] = cells[i - 1]; i -= 1 }; cells[i] = item`. -/
def insertFrom (moves : α → Bool) (item : α) : Nat → List α → Option (List α)
  | 0, cells => store cells 0 item
  | i + 1, cells => do
      let below ← cells[i]?
      if moves below then
        let shifted ← store cells (i + 1) below
        insertFrom moves item i shifted
      else store cells (i + 1) item

variable {moves : α → Bool} {item : α}

theorem store_of_lt {cells : List α} {i : Nat} (inside : i < cells.length) (item : α) :
    store cells i item = some (cells.take i ++ item :: cells.drop (i + 1)) := by
  rw [store, if_pos inside, List.set_eq_take_append_cons_drop, if_pos inside]

/-- The items at the end of the front that come after the new one are above it now. -/
theorem insertFrom_eq (i : Nat) {cells : List α} (inside : i < cells.length) :
    insertFrom moves item i cells =
      some ((cells.take i).rdropWhile moves ++
        item :: ((cells.take i).rtakeWhile moves ++ cells.drop (i + 1))) := by
  induction i generalizing cells with
  | zero =>
      rw [insertFrom, store_of_lt inside]
      rfl
  | succ i ih =>
      have below : i < cells.length := Nat.lt_of_succ_lt inside
      have front : cells.take (i + 1) = cells.take i ++ [cells[i]] :=
        (List.take_append_getElem below).symm
      rw [insertFrom, List.getElem?_eq_getElem below, front, List.rdropWhile_concat,
        List.rtakeWhile_concat, Option.bind_eq_bind, Option.bind_some]
      cases moved : moves cells[i] with
      | true =>
          have stored := store_of_lt inside cells[i]
          have length : i < (cells.take (i + 1) ++ cells[i] :: cells.drop (i + 2)).length := by
            rw [List.length_append, List.length_take]
            omega
          rw [if_pos rfl, stored, Option.bind_eq_bind, Option.bind_some,
            ih length, if_pos rfl, if_pos rfl]
          have prefix_ : (cells.take (i + 1) ++ cells[i] :: cells.drop (i + 2)).take i =
              cells.take i := by
            rw [List.take_append_of_le_length (by rw [List.length_take]; omega), List.take_take,
              Nat.min_eq_left (Nat.le_succ i)]
          have suffix : (cells.take (i + 1) ++ cells[i] :: cells.drop (i + 2)).drop (i + 1) =
              cells[i] :: cells.drop (i + 2) := by
            apply List.drop_left'
            rw [List.length_take]
            omega
          rw [prefix_, suffix, List.append_assoc]
          rfl
      | false =>
          rw [if_neg Bool.false_ne_true, store_of_lt inside, front, if_neg Bool.false_ne_true,
            if_neg Bool.false_ne_true]
          rfl

/-- Of a front that is in order, the items that move are the end. -/
theorem rdropWhile_append {front moved : List α} (stay : ∀ held ∈ front, moves held = false)
    (move : ∀ held ∈ moved, moves held = true) :
    (front ++ moved).rdropWhile moves = front ∧ (front ++ moved).rtakeWhile moves = moved := by
  induction moved using List.reverseRecOn with
  | nil =>
      have last : ∀ nonempty : front ≠ [], ¬ moves (front.getLast nonempty) := by
        intro nonempty moves
        rw [stay _ (List.getLast_mem nonempty)] at moves
        cases moves
      rw [List.append_nil]
      exact ⟨List.rdropWhile_eq_self_iff.2 last, List.rtakeWhile_eq_nil_iff.2 last⟩
  | append_singleton moved held ih =>
      have here : moves held = true := move held (by simp)
      obtain ⟨dropped, taken⟩ := ih fun other among =>
        move other (List.mem_append_left _ among)
      rw [← List.append_assoc]
      constructor
      · rw [List.rdropWhile_concat_pos _ _ _ here]
        exact dropped
      · rw [List.rtakeWhile_concat_pos _ _ _ here, taken]

/-- Insertion from behind into a front that is in order is insertion in order. -/
theorem insertFrom_of_sorted (relation : α → α → Prop) [DecidableRel relation]
    {cells : List α} {n : Nat} (inside : n < cells.length)
    (sorted : (cells.take n).Pairwise fun first second =>
      relation item first → relation item second) :
    insertFrom (fun held => relation item held) item n cells =
      some ((cells.take n).orderedInsert relation item ++ cells.drop (n + 1)) := by
  generalize held : cells.take n = front at sorted
  have stay : ∀ held ∈ front.takeWhile fun held => ¬ relation item held,
      decide (relation item held) = false := by
    intro held member
    simpa using List.mem_takeWhile_imp member
  have move : ∀ held ∈ front.dropWhile fun held => ¬ relation item held,
      decide (relation item held) = true := by
    intro held member
    cases rest : front.dropWhile fun held => ¬ relation item held with
    | nil =>
        rw [rest] at member
        cases member
    | cons first others =>
        have starts : relation item first := by
          have head := List.head?_dropWhile_not (fun held => ¬ relation item held) front
          rw [rest] at head
          simpa using head
        have ordered := sorted.sublist
          (List.dropWhile_sublist fun held => decide (¬ relation item held))
        rw [rest, List.pairwise_cons] at ordered
        rw [rest] at member
        rcases List.mem_cons.1 member with rfl | later
        · exact decide_eq_true starts
        · exact decide_eq_true (ordered.1 held later starts)
  have parts := rdropWhile_append stay move
  rw [List.takeWhile_append_dropWhile] at parts
  rw [insertFrom_eq n inside, held, parts.1, parts.2, List.orderedInsert_eq_take_drop,
    List.append_assoc]
  rfl

end ShiftInsert
