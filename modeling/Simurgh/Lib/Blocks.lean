import Mathlib.Tactic.Common

/-!
# Blocks of a list with limited room

Every item of a list stands for a block of results, and a program that takes one result of an
item at most goes through the list until there is no more room.  It finds what the blocks say, up
to the room, if every block that it gets to is the result it takes.  The converse takes that the
results of different items differ, as a wrong result may otherwise stand for a missed one.
-/

namespace Blocks

variable {ι α : Type} (single : ι → Option α) (block : ι → List α)

/-- As long as there is room, the block of an item is the result of the item. -/
def AgreeWithin (room : Nat) (items : List ι) : Prop :=
  ∀ before item rest, items = before ++ item :: rest → (before.filterMap single).length < room →
    (block item).take (room - (before.filterMap single).length) = (single item).toList

/-- The results of different items differ. -/
def Apart (items : List ι) : Prop :=
  items.Pairwise fun first second =>
    ∀ left ∈ (single first).toList ++ block first,
      ∀ right ∈ (single second).toList ++ block second, left ≠ right

variable {single block} {room : Nat} {item : ι} {items rest : List ι}

theorem agreeWithin_cons :
    AgreeWithin single block room (item :: rest) ↔
      (0 < room → (block item).take room = (single item).toList) ∧
        AgreeWithin single block (room - (single item).toList.length) rest := by
  have one : ∀ before, ((item :: before).filterMap single).length =
      (single item).toList.length + (before.filterMap single).length := by
    intro before
    cases found : single item with
    | none =>
        rw [List.filterMap_cons_none found]
        exact (Nat.zero_add _).symm
    | some result =>
        rw [List.filterMap_cons_some found]
        exact Nat.add_comm _ 1
  constructor
  · intro agree
    constructor
    · exact agree [] item rest rfl
    · intro before other others same small
      have here := agree (item :: before) other others (by rw [same, List.cons_append])
        (by rw [one]; omega)
      rw [one, ← Nat.sub_sub] at here
      exact here
  · rintro ⟨first, agree⟩ before other others same small
    cases before with
    | nil =>
        obtain ⟨rfl, rfl⟩ := List.cons.inj same
        exact first small
    | cons head before =>
        obtain ⟨rfl, shape⟩ := List.cons.inj same
        rw [one] at small ⊢
        rw [← Nat.sub_sub]
        exact agree before other others shape (by omega)

theorem take_eq_of_agree (agree : AgreeWithin single block room items) :
    (items.filterMap single).take room = (items.flatMap block).take room := by
  induction items generalizing room with
  | nil => rfl
  | cons item rest ih =>
      cases room with
      | zero => rw [List.take_zero, List.take_zero]
      | succ room =>
          obtain ⟨first, others⟩ := agreeWithin_cons.1 agree
          have later := ih others
          have here := first (Nat.succ_pos room)
          rw [List.flatMap_cons, List.take_append, here]
          cases found : single item with
          | none =>
              rw [found] at here later
              have empty : block item = [] := by
                cases shape : block item with
                | nil => rfl
                | cons result others =>
                    rw [shape, List.take_succ_cons] at here
                    cases here
              rw [List.filterMap_cons_none found, empty]
              exact later
          | some result =>
              rw [found] at here later
              rw [List.filterMap_cons_some found, List.take_succ_cons]
              have one : (block item).length = 1 ∨ room = 0 := by
                have length := congrArg List.length here
                rw [List.length_take] at length
                change _ = 1 at length
                omega
              rcases one with one | full
              · rw [one]
                exact congrArg (List.cons result) later
              · rw [full, List.take_zero, Nat.sub_eq_zero_of_le, List.take_zero]
                · rfl
                · have length := congrArg List.length here
                  rw [List.length_take, full] at length
                  change _ = 1 at length
                  omega

/-- The first item, if its results are none of the other items'. -/
theorem first_of_take_eq
    (noBlock : ∀ result ∈ (single item).toList ++ block item, result ∉ rest.flatMap block)
    (noSingle : ∀ result ∈ (single item).toList ++ block item, result ∉ rest.filterMap single)
    (same : ((item :: rest).filterMap single).take room =
      ((item :: rest).flatMap block).take room) :
    (0 < room → (block item).take room = (single item).toList) ∧
      (rest.filterMap single).take (room - (single item).toList.length) =
        (rest.flatMap block).take (room - (single item).toList.length) := by
  cases room with
  | zero =>
      rw [Nat.zero_sub, List.take_zero, List.take_zero]
      exact ⟨fun positive => absurd positive (Nat.lt_irrefl 0), rfl⟩
  | succ room =>
      rw [List.flatMap_cons] at same
      cases found : single item with
      | none =>
          rw [List.filterMap_cons_none found] at same
          cases shape : block item with
          | nil =>
              rw [shape] at same
              exact ⟨fun _ => rfl, same⟩
          | cons result more =>
              rw [shape, List.cons_append, List.take_succ_cons] at same
              have member : result ∈ rest.filterMap single := by
                apply List.mem_of_mem_take
                rw [same]
                exact List.mem_cons_self
              refine absurd member (noSingle result (List.mem_append_right _ ?_))
              rw [shape]
              exact List.mem_cons_self
      | some result =>
          rw [List.filterMap_cons_some found, List.take_succ_cons] at same
          cases shape : block item with
          | nil =>
              rw [shape, List.nil_append] at same
              have member : result ∈ rest.flatMap block := by
                apply List.mem_of_mem_take
                rw [← same]
                exact List.mem_cons_self
              refine absurd member (noBlock result (List.mem_append_left _ ?_))
              rw [found]
              exact List.mem_singleton_self result
          | cons first more =>
              rw [shape, List.cons_append, List.take_succ_cons] at same
              obtain ⟨isFirst, onward⟩ := List.cons.inj same
              rw [isFirst, List.take_succ_cons]
              cases more with
              | nil => exact ⟨fun _ => by rw [List.take_nil]; rfl, onward⟩
              | cons second more =>
                  cases room with
                  | zero => exact ⟨fun _ => rfl, onward⟩
                  | succ room =>
                      rw [List.cons_append, List.take_succ_cons] at onward
                      have member : second ∈ rest.filterMap single := by
                        apply List.mem_of_mem_take
                        rw [onward]
                        exact List.mem_cons_self
                      refine absurd member (noSingle second (List.mem_append_right _ ?_))
                      rw [shape]
                      exact List.mem_cons_of_mem _ List.mem_cons_self

/-- If the results of different items differ, a wrong result is not made up for. -/
theorem agree_of_take_eq (apart : Apart single block items)
    (same : (items.filterMap single).take room = (items.flatMap block).take room) :
    AgreeWithin single block room items := by
  induction items generalizing room with
  | nil =>
      intro before item rest shape _
      cases before <;> cases shape
  | cons item rest ih =>
      obtain ⟨differs, others⟩ := List.pairwise_cons.1 apart
      have noBlock : ∀ result ∈ (single item).toList ++ block item,
          result ∉ rest.flatMap block := by
        intro result mine theirs
        obtain ⟨other, member, inBlock⟩ := List.mem_flatMap.1 theirs
        exact differs other member result mine result (List.mem_append_right _ inBlock) rfl
      have noSingle : ∀ result ∈ (single item).toList ++ block item,
          result ∉ rest.filterMap single := by
        intro result mine theirs
        obtain ⟨other, member, found⟩ := List.mem_filterMap.1 theirs
        refine differs other member result mine result (List.mem_append_left _ ?_) rfl
        rw [found]
        exact List.mem_singleton_self result
      obtain ⟨first, onward⟩ := first_of_take_eq noBlock noSingle same
      exact agreeWithin_cons.2 ⟨first, ih others onward⟩

end Blocks
