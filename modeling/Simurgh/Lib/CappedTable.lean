import Mathlib.Data.List.TakeDrop
import Mathlib.Tactic.Common

/-!
# Tables that count what they lose

A table has room for so many entries.  An entry for which there is no room is lost, and the table
counts it in a number of fixed width.
-/

namespace Simurgh

/-- The first entries that were offered, and how many were lost. -/
structure CappedTable (α : Type) (capacity width : Nat) where
  entries : List α
  truncated : BitVec width
  within : entries.length ≤ capacity

namespace CappedTable

variable {α ι : Type} {capacity width : Nat}

def empty : CappedTable α capacity width where
  entries := []
  truncated := 0
  within := Nat.zero_le capacity

/-- An entry is made from its position. -/
def push (table : CappedTable α capacity width) (make : Nat → α) :
    Except Unit Unit × CappedTable α capacity width :=
  if room : table.entries.length < capacity then
    (.ok (), {
      entries := table.entries ++ [make table.entries.length]
      truncated := table.truncated
      within := by
        rw [List.length_append]
        exact room })
  else (.error (), { table with truncated := table.truncated + 1 })

/-- `for item in items`, whatever each push returns. -/
def pushAll (make : ι → Nat → α) (table : CappedTable α capacity width) (items : List ι) :
    CappedTable α capacity width :=
  items.foldl (fun table item => (table.push (make item)).2) table

section Push

variable {table : CappedTable α capacity width}

theorem push_of_room (make : Nat → α) (room : table.entries.length < capacity) :
    (table.push make).1 = .ok () ∧
      (table.push make).2.entries = table.entries ++ [make table.entries.length] ∧
      (table.push make).2.truncated = table.truncated := by
  rw [push, dif_pos room]
  exact ⟨rfl, rfl, rfl⟩

theorem push_of_full (make : Nat → α) (full : capacity ≤ table.entries.length) :
    (table.push make).1 = .error () ∧ (table.push make).2.entries = table.entries ∧
      (table.push make).2.truncated = table.truncated + 1 := by
  rw [push, dif_neg (Nat.not_lt_of_le full)]
  exact ⟨rfl, rfl, rfl⟩

theorem pushAll_cons (make : ι → Nat → α) (item : ι) (items : List ι) :
    table.pushAll make (item :: items) = (table.push (make item)).2.pushAll make items := rfl

/-- The entries for which there was room. -/
theorem entries_pushAll (make : ι → Nat → α) (items : List ι) :
    (table.pushAll make items).entries =
      table.entries ++ (items.take (capacity - table.entries.length)).mapIdx
        (fun position item => make item (table.entries.length + position)) := by
  induction items generalizing table with
  | nil =>
      rw [List.take_nil, List.mapIdx_nil, List.append_nil]
      rfl
  | cons item items ih =>
      rw [pushAll_cons, ih]
      rcases Nat.lt_or_ge table.entries.length capacity with room | full
      · obtain ⟨_, grown, _⟩ := push_of_room (make item) room
        have one : capacity - table.entries.length =
            capacity - (table.entries.length + 1) + 1 := by omega
        rw [grown, List.length_append, List.length_singleton, one, List.take_succ_cons,
          List.mapIdx_cons, List.append_assoc, List.singleton_append]
        simp only [Nat.add_assoc, Nat.add_comm 1, Nat.add_zero]
      · obtain ⟨_, same, _⟩ := push_of_full (make item) full
        simp only [same, Nat.sub_eq_zero_of_le full, List.take_zero, List.mapIdx_nil]

/-- The count of the others. -/
theorem truncated_pushAll (make : ι → Nat → α) (items : List ι) :
    (table.pushAll make items).truncated =
      table.truncated +
        BitVec.ofNat width (items.length - (capacity - table.entries.length)) := by
  induction items generalizing table with
  | nil =>
      rw [List.length_nil, Nat.zero_sub, BitVec.add_zero]
      rfl
  | cons item items ih =>
      rw [pushAll_cons, ih, List.length_cons]
      rcases Nat.lt_or_ge table.entries.length capacity with room | full
      · obtain ⟨_, grown, kept⟩ := push_of_room (make item) room
        have fewer : items.length - (capacity - (table.entries.length + 1)) =
            items.length + 1 - (capacity - table.entries.length) := by omega
        rw [grown, kept, List.length_append, List.length_singleton, fewer]
      · obtain ⟨_, same, counted⟩ := push_of_full (make item) full
        rw [same, counted, Nat.sub_eq_zero_of_le full, Nat.sub_zero, Nat.sub_zero,
          BitVec.add_assoc, Nat.add_comm items.length, BitVec.ofNat_add]
        rfl

end Push

/-- A loop over a record that has the table as a field. -/
theorem foldl_field {σ : Type} (field : σ → CappedTable α capacity width)
    (store : CappedTable α capacity width → σ → σ) (make : ι → Nat → α)
    (stored : ∀ table state, field (store table state) = table)
    (again : ∀ table other state, store table (store other state) = store table state)
    (same : ∀ state, store (field state) state = state) (items : List ι) (state : σ) :
    items.foldl (fun state item => store ((field state).push (make item)).2 state) state =
      store ((field state).pushAll make items) state := by
  induction items generalizing state with
  | nil => exact (same state).symm
  | cons item items ih =>
      rw [List.foldl_cons, ih, stored, again]
      rfl

/-! ## From nothing -/

theorem entries_pushAll_empty (make : ι → Nat → α) (items : List ι) :
    ((empty : CappedTable α capacity width).pushAll make items).entries =
      (items.take capacity).mapIdx fun position item => make item position := by
  rw [entries_pushAll]
  simp only [empty, List.nil_append, List.length_nil, Nat.sub_zero, Nat.zero_add]

theorem truncated_pushAll_empty (make : ι → Nat → α) (items : List ι) :
    ((empty : CappedTable α capacity width).pushAll make items).truncated =
      BitVec.ofNat width (items.length - capacity) := by
  rw [truncated_pushAll]
  simp only [empty, List.length_nil, Nat.sub_zero]
  exact BitVec.zero_add _

end CappedTable

end Simurgh
