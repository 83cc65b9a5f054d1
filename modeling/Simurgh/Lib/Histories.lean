import Mathlib.Tactic.Common

/-!
# What holds at every entry of a history

A history lists what a program took in, the newest entry first.  A statement about a run is
often one about each entry and what came before it.  Two such statements agree on a run if
they agree at every entry before which both held throughout.
-/

variable {α : Type} {holds condition : List α → α → Prop} {history : List α}

/-- It holds of each entry with the entries before it. -/
def AtEveryEntry (holds : List α → α → Prop) : List α → Prop
  | [] => True
  | entry :: older => AtEveryEntry holds older ∧ holds older entry

/-- The entries decide one after another. -/
theorem atEveryEntry_congr
    (step : ∀ older entry, AtEveryEntry holds older → AtEveryEntry condition older →
      (holds older entry ↔ condition older entry)) :
    AtEveryEntry holds history ↔ AtEveryEntry condition history := by
  induction history with
  | nil => exact Iff.rfl
  | cons entry older ih =>
      rw [AtEveryEntry, AtEveryEntry, ih]
      apply and_congr_right
      intro allowed
      exact step older entry (ih.2 allowed) allowed

theorem atEveryEntry_and :
    AtEveryEntry (fun older entry => holds older entry ∧ condition older entry) history ↔
      AtEveryEntry holds history ∧ AtEveryEntry condition history := by
  induction history with
  | nil => exact (and_iff_left trivial).symm
  | cons entry older ih =>
      rw [AtEveryEntry, AtEveryEntry, AtEveryEntry, ih]
      exact and_and_and_comm
