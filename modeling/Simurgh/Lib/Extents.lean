import Mathlib.Data.List.GetD
import Mathlib.Tactic.Common

/-!
# Contents given by writes

A file is described by the writes that were made to it, newest first.  Its contents are
the newest data at every position, and a blank where nothing was ever written.  An array
that is grown with blanks and overwritten in place holds these contents.
-/

/-- Data written to consecutive positions. -/
structure Extent (β : Type) where
  start : Nat
  data : List β
  deriving DecidableEq, Repr

namespace Extent

variable {β : Type}

/-- The position after the last one. -/
def stop (extent : Extent β) : Nat := extent.start + extent.data.length

def Covers (extent : Extent β) (position : Nat) : Prop :=
  extent.start ≤ position ∧ position < extent.stop

instance (extent : Extent β) (position : Nat) : Decidable (extent.Covers position) :=
  inferInstanceAs (Decidable (_ ∧ _))

/-! ## The contents of a list of writes -/

/-- The end of the file. -/
def size : List (Extent β) → Nat
  | [] => 0
  | extent :: older => max (size older) extent.stop

/-- What was written last at a position. -/
def valueAt (blank : β) : List (Extent β) → Nat → β
  | [], _ => blank
  | extent :: older, position =>
      if extent.Covers position then extent.data.getD (position - extent.start) blank
      else valueAt blank older position

def contents (blank : β) (writes : List (Extent β)) : List β :=
  (List.range (size writes)).map (valueAt blank writes)

variable {blank : β} {writes older : List (Extent β)} {extent : Extent β} {position : Nat}

@[simp]
theorem contents_nil : contents blank ([] : List (Extent β)) = [] := rfl

@[simp]
theorem length_contents : (contents blank writes).length = size writes := by
  simp [contents]

theorem getElem?_contents (inside : position < size writes) :
    (contents blank writes)[position]? = some (valueAt blank writes position) := by
  simp [contents, inside]

/-- Nothing was written at the end or after it. -/
theorem valueAt_of_size_le (outside : size writes ≤ position) :
    valueAt blank writes position = blank := by
  induction writes with
  | nil => rfl
  | cons extent older ih =>
      rw [size, Nat.max_le] at outside
      rw [valueAt, if_neg (fun covers => by
        have := covers.2
        omega), ih outside.1]

theorem getD_contents : (contents blank writes).getD position blank =
    valueAt blank writes position := by
  by_cases inside : position < size writes
  · rw [List.getD_eq_getElem?_getD, getElem?_contents inside]
    rfl
  · rw [List.getD_eq_default, valueAt_of_size_le (Nat.le_of_not_lt inside)]
    rw [length_contents]
    exact Nat.le_of_not_lt inside

/-- A write changes nothing outside of its data. -/
theorem valueAt_cons_of_not_covers (outside : ¬ extent.Covers position) :
    valueAt blank (extent :: older) position = valueAt blank older position := by
  rw [valueAt, if_neg outside]

/-! ## Arrays that are overwritten in place -/

/-- Fill up with blanks to a length. -/
def grow (blank : β) (length : Nat) (data : List β) : List β :=
  data ++ List.replicate (length - data.length) blank

/-- Replace the data from a position on. -/
def splice (data : List β) (extent : Extent β) : List β :=
  data.take extent.start ++ extent.data ++ data.drop extent.stop

theorem grow_of_le {length : Nat} {data : List β} (long : length ≤ data.length) :
    grow blank length data = data := by
  rw [grow, Nat.sub_eq_zero_of_le long, List.replicate_zero, List.append_nil]

theorem length_grow {length : Nat} {data : List β} :
    (grow blank length data).length = max data.length length := by
  simp only [grow, List.length_append, List.length_replicate]
  omega

theorem getElem?_grow {length : Nat} {data : List β} (inside : position < max data.length length) :
    (grow blank length data)[position]? = some (data.getD position blank) := by
  unfold grow
  by_cases old : position < data.length
  · rw [List.getElem?_append_left old, List.getD_eq_getElem _ _ old, List.getElem?_eq_getElem old]
  · have passed := Nat.le_of_not_lt old
    rw [List.getElem?_append_right passed, List.getD_eq_default _ _ passed,
      List.getElem?_replicate, if_pos (by omega)]

theorem length_splice {data : List β} (fits : extent.stop ≤ data.length) :
    (splice data extent).length = data.length := by
  unfold stop at fits
  simp only [splice, stop, List.length_append, List.length_take, List.length_drop]
  omega

theorem getElem?_splice_of_covers {data : List β} (fits : extent.stop ≤ data.length)
    (covers : extent.Covers position) :
    (splice data extent)[position]? = extent.data[position - extent.start]? := by
  obtain ⟨after, before⟩ := covers
  have start : (data.take extent.start).length = extent.start := by
    rw [List.length_take]
    unfold stop at fits
    omega
  unfold splice
  unfold stop at before
  rw [List.append_assoc, List.getElem?_append_right (by omega), start,
    List.getElem?_append_left (by omega)]

theorem getElem?_splice_of_not_covers {data : List β} (fits : extent.stop ≤ data.length)
    (outside : ¬ extent.Covers position) :
    (splice data extent)[position]? = data[position]? := by
  have start : (data.take extent.start).length = extent.start := by
    rw [List.length_take]
    unfold stop at fits
    omega
  unfold splice
  by_cases before : position < extent.start
  · rw [List.append_assoc, List.getElem?_append_left (by omega), List.getElem?_take,
      if_pos before]
  · have after : extent.stop ≤ position := by
      by_contra inside
      exact outside ⟨Nat.le_of_not_lt before, Nat.lt_of_not_le inside⟩
    have stop : (data.take extent.start ++ extent.data).length = extent.stop := by
      rw [List.length_append, start, Extent.stop]
    rw [List.getElem?_append_right (by omega), stop, List.getElem?_drop]
    congr 1
    omega

theorem length_splice_grow (extent : Extent β) (data : List β) :
    (splice (grow blank extent.stop data) extent).length = max data.length extent.stop := by
  rw [length_splice, length_grow]
  rw [length_grow]
  exact Nat.le_max_right _ _

/-- Growing and overwriting appends if it starts at the end. -/
theorem splice_grow_eq_append_iff (extent : Extent β) (data : List β) :
    splice (grow blank extent.stop data) extent = data ++ extent.data ↔
      extent.start = data.length ∨ (extent.data = [] ∧ extent.start ≤ data.length) := by
  constructor
  · intro same
    have length := congrArg List.length same
    rw [length_splice_grow, List.length_append, stop] at length
    by_cases none : extent.data.length = 0
    · exact .inr ⟨List.length_eq_zero_iff.1 none, by omega⟩
    · left
      omega
  · intro atEnd
    cases atEnd with
    | inl start =>
        have long : data.length ≤ extent.stop := by
          rw [stop, start]
          exact Nat.le_add_right _ _
        have short : (grow blank extent.stop data).length ≤ extent.stop := by
          rw [length_grow]
          exact Nat.max_le.2 ⟨long, Nat.le_refl _⟩
        rw [splice, List.drop_eq_nil_of_le short, List.append_nil, start, grow,
          List.take_left]
    | inr empty =>
        obtain ⟨nothing, inside⟩ := empty
        have stop : extent.stop = extent.start := by
          rw [stop, nothing]
          rfl
        rw [stop, grow_of_le inside, splice, stop, nothing, List.append_nil, List.append_nil,
          List.take_append_drop]

/-- Growing and overwriting the contents adds a write. -/
theorem splice_grow_contents (blank : β) (extent : Extent β) (writes : List (Extent β)) :
    splice (grow blank extent.stop (contents blank writes)) extent =
      contents blank (extent :: writes) := by
  have long : (grow blank extent.stop (contents blank writes)).length =
      size (extent :: writes) := by
    rw [length_grow, length_contents, size]
  have fits : extent.stop ≤ (grow blank extent.stop (contents blank writes)).length := by
    rw [long, size]
    exact Nat.le_max_right _ _
  refine List.ext_getElem? fun position => ?_
  by_cases inside : position < size (extent :: writes)
  · rw [getElem?_contents inside, valueAt]
    by_cases covers : extent.Covers position
    · have within : position - extent.start < extent.data.length := by
        obtain ⟨after, before⟩ := covers
        unfold stop at before
        omega
      rw [getElem?_splice_of_covers fits covers, if_pos covers,
        List.getD_eq_getElem _ _ within, List.getElem?_eq_getElem within]
    · rw [getElem?_splice_of_not_covers fits covers, if_neg covers,
        getElem?_grow (by rw [length_contents]; exact inside), getD_contents]
  · have passed := Nat.le_of_not_lt inside
    rw [List.getElem?_eq_none (by rw [length_splice fits, long]; exact passed),
      List.getElem?_eq_none (by rw [length_contents]; exact passed)]

end Extent
