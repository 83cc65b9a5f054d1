import Mathlib.Tactic.Common

/-!
# The pieces of a list between separators

A list is cut at every separator, so that two separators in a row have an empty piece between
them.  The pieces determine the list, and the pieces of one list begin those of another exactly
if the second list goes on behind the first one with a separator.
-/

namespace Pieces

variable {α : Type} [DecidableEq α] (separator : α)

/-- What stands between the separators. -/
def pieces : List α → List (List α)
  | [] => [[]]
  | item :: rest =>
      if item = separator then [] :: pieces rest else (pieces rest).modifyHead (item :: ·)

variable {separator} {item : α} {list longer rest : List α} {more : List (List α)}

theorem pieces_cons_self : pieces separator (separator :: rest) = [] :: pieces separator rest := by
  rw [pieces, if_pos rfl]

theorem pieces_cons_of_ne (other : item ≠ separator) :
    pieces separator (item :: rest) = (pieces separator rest).modifyHead (item :: ·) := by
  rw [pieces, if_neg other]

/-- There is a first piece, also of the empty list. -/
theorem exists_pieces (separator : α) (list : List α) :
    ∃ first others, pieces separator list = first :: others := by
  induction list with
  | nil => exact ⟨[], [], rfl⟩
  | cons item rest ih =>
      by_cases same : item = separator
      · rw [same, pieces_cons_self]
        exact ⟨[], _, rfl⟩
      · obtain ⟨first, others, shape⟩ := ih
        rw [pieces_cons_of_ne same, shape]
        exact ⟨item :: first, others, rfl⟩

theorem pieces_ne_nil : pieces separator list ≠ [] := by
  obtain ⟨first, others, shape⟩ := exists_pieces separator list
  rw [shape]
  exact List.cons_ne_nil _ _

theorem pieces_append (list rest : List α) :
    pieces separator (list ++ separator :: rest) =
      pieces separator list ++ pieces separator rest := by
  induction list with
  | nil => exact pieces_cons_self
  | cons item others ih =>
      by_cases same : item = separator
      · rw [same, List.cons_append, pieces_cons_self, pieces_cons_self, ih]
        rfl
      · obtain ⟨first, more, shape⟩ := exists_pieces separator others
        rw [List.cons_append, pieces_cons_of_ne same, pieces_cons_of_ne same,
          ih, shape]
        rfl

/-- The first piece is empty if nothing is there or a separator comes first. -/
theorem eq_of_pieces_eq_nil_cons (begins : pieces separator list = [] :: more) :
    (list = [] ∧ more = []) ∨ ∃ rest, list = separator :: rest ∧ pieces separator rest = more := by
  cases list with
  | nil => exact .inl ⟨rfl, (List.cons.inj begins).2.symm⟩
  | cons item rest =>
      by_cases same : item = separator
      · right
        rw [same, pieces_cons_self] at begins
        exact ⟨rest, by rw [same], (List.cons.inj begins).2⟩
      · obtain ⟨first, others, shape⟩ := exists_pieces separator rest
        rw [pieces_cons_of_ne same, shape] at begins
        cases begins

theorem eq_of_pieces_eq_cons_cons {first : List α}
    (begins : pieces separator list = (item :: first) :: more) :
    item ≠ separator ∧ ∃ rest, list = item :: rest ∧ pieces separator rest = first :: more := by
  cases list with
  | nil => cases begins
  | cons head rest =>
      by_cases same : head = separator
      · rw [same, pieces_cons_self] at begins
        cases begins
      · obtain ⟨front, others, shape⟩ := exists_pieces separator rest
        rw [pieces_cons_of_ne same, shape] at begins
        obtain ⟨heads, rfl⟩ := List.cons.inj begins
        obtain ⟨rfl, rfl⟩ := List.cons.inj heads
        exact ⟨same, rest, rfl, shape⟩

/-- More pieces come from more of the list. -/
theorem eq_of_pieces_eq_append
    (extended : pieces separator longer = pieces separator list ++ more) :
    (longer = list ∧ more = []) ∨
      ∃ rest, longer = list ++ separator :: rest ∧ pieces separator rest = more := by
  induction list generalizing longer with
  | nil => exact eq_of_pieces_eq_nil_cons extended
  | cons item others ih =>
      by_cases same : item = separator
      · rw [same, pieces_cons_self, List.cons_append] at extended
        rcases eq_of_pieces_eq_nil_cons extended with ⟨_, nothing⟩ | ⟨tail, rfl, shape⟩
        · exact absurd (List.append_eq_nil_iff.1 nothing).1 pieces_ne_nil
        · rcases ih shape with ⟨rfl, nothing⟩ | ⟨rest, rfl, goesOn⟩
          · exact .inl ⟨by rw [same], nothing⟩
          · exact .inr ⟨rest, by rw [same]; rfl, goesOn⟩
      · obtain ⟨first, remaining, shape⟩ := exists_pieces separator others
        rw [pieces_cons_of_ne same, shape] at extended
        obtain ⟨_, tail, rfl, there⟩ := eq_of_pieces_eq_cons_cons extended
        rw [shape] at ih
        rcases ih there with ⟨rfl, nothing⟩ | ⟨rest, rfl, goesOn⟩
        · exact .inl ⟨rfl, nothing⟩
        · exact .inr ⟨rest, rfl, goesOn⟩

theorem pieces_prefix_iff :
    pieces separator list <+: pieces separator longer ↔
      longer = list ∨ ∃ rest, longer = list ++ separator :: rest := by
  constructor
  · rintro ⟨more, extended⟩
    rcases eq_of_pieces_eq_append extended.symm with ⟨same, _⟩ | ⟨rest, same, _⟩
    · exact .inl same
    · exact .inr ⟨rest, same⟩
  · rintro (rfl | ⟨rest, rfl⟩)
    · exact List.prefix_refl _
    · rw [pieces_append]
      exact List.prefix_append _ _

theorem pieces_injective (same : pieces separator list = pieces separator longer) :
    longer = list := by
  rw [← List.append_nil (pieces separator list)] at same
  rcases eq_of_pieces_eq_append same.symm with ⟨equal, _⟩ | ⟨rest, _, nothing⟩
  · exact equal
  · exact absurd nothing pieces_ne_nil

end Pieces
