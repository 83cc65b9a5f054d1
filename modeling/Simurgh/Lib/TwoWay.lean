import Mathlib.Data.List.Nodup
import Mathlib.Logic.Function.Basic

/-!
# Membership that is stored on both sides

A group has a list of its members, and a member knows the group it is in.  `TwoWay` says
that both tell the same.  An update of one side alone keeps them in agreement only if it
changes nothing.
-/

variable {α γ : Type}

/-- The lists of the groups agree with the homes of the members. -/
structure TwoWay (members : γ → List α) (home : α → Option γ) : Prop where
  agree : ∀ member group, member ∈ members group ↔ home member = some group
  nodup : ∀ group, (members group).Nodup

namespace TwoWay

variable {members : γ → List α} {home : α → Option γ}

/-- Nobody is in any group. -/
theorem empty : TwoWay (fun _ : γ => ([] : List α)) fun _ => none where
  agree member group := by simp
  nodup _ := List.nodup_nil

/-- Only the home of one member is written. -/
theorem setHome_iff [DecidableEq α] (twoWay : TwoWay members home) (member : α) (group : Option γ) :
    TwoWay members (Function.update home member group) ↔ home member = group := by
  constructor
  · intro later
    cases group with
    | none =>
        by_contra elsewhere
        obtain ⟨other, there⟩ := Option.ne_none_iff_exists'.1 elsewhere
        have listed := (twoWay.agree member other).2 there
        have moved := (later.agree member other).1 listed
        rw [Function.update_self] at moved
        cases moved
    | some group =>
        apply (twoWay.agree member group).1
        apply (later.agree member group).2
        rw [Function.update_self]
  · intro same
    rw [← same, Function.update_eq_self]
    exact twoWay

/-- Only the list of one group is emptied. -/
theorem clear_iff [DecidableEq γ] (twoWay : TwoWay members home) (group : γ) :
    TwoWay (Function.update members group []) home ↔ members group = [] := by
  constructor
  · intro later
    apply List.eq_nil_iff_forall_not_mem.2
    intro member listed
    have kept := (later.agree member group).2 ((twoWay.agree member group).1 listed)
    rw [Function.update_self] at kept
    exact List.not_mem_nil kept
  · intro vacant
    rw [← vacant, Function.update_eq_self]
    exact twoWay

/-- Only the list of one group gets a new member. -/
theorem not_of_append [DecidableEq γ] (twoWay : TwoWay members home) {member : α}
    {group : γ} (absent : member ∉ members group) :
    ¬ TwoWay (Function.update members group (members group ++ [member])) home := by
  intro later
  apply absent
  apply (twoWay.agree member group).2
  apply (later.agree member group).1
  rw [Function.update_self]
  simp

/-- Both sides are written when a member comes in.  It must not have been elsewhere. -/
theorem join_iff [DecidableEq α] [DecidableEq γ] (twoWay : TwoWay members home)
    {member : α} {group : γ} (absent : member ∉ members group) :
    TwoWay (Function.update members group (members group ++ [member]))
        (Function.update home member (some group)) ↔ home member = none := by
  constructor
  · intro later
    by_contra elsewhere
    obtain ⟨other, there⟩ := Option.ne_none_iff_exists'.1 elsewhere
    have listed := (twoWay.agree member other).2 there
    by_cases same : other = group
    · exact absent (same ▸ listed)
    · have moved := (later.agree member other).1
        (by rw [Function.update_of_ne same]; exact listed)
      rw [Function.update_self, Option.some.injEq] at moved
      exact same moved.symm
  · intro homeless
    constructor
    · intro other place
      by_cases here : place = group
      · subst here
        rw [Function.update_self, List.mem_append, List.mem_singleton]
        by_cases same : other = member
        · simp [same]
        · rw [Function.update_of_ne same, twoWay.agree]
          simp [same]
      · rw [Function.update_of_ne here, twoWay.agree]
        by_cases same : other = member
        · subst same
          rw [Function.update_self, homeless, Option.some.injEq]
          simp [Ne.symm here]
        · rw [Function.update_of_ne same]
    · intro place
      by_cases here : place = group
      · subst here
        rw [Function.update_self, ← List.concat_eq_append]
        exact (twoWay.nodup place).concat absent
      · rw [Function.update_of_ne here]
        exact twoWay.nodup place

/-- Both sides are written when a member goes out. -/
theorem leave [DecidableEq α] [DecidableEq γ] (twoWay : TwoWay members home)
    {member : α} {group : γ} (belongs : home member = some group) :
    TwoWay (Function.update members group ((members group).erase member))
      (Function.update home member none) := by
  constructor
  · intro other place
    by_cases same : other = member
    · subst same
      rw [Function.update_self]
      by_cases here : place = group
      · subst here
        rw [Function.update_self]
        simp [(twoWay.nodup place).not_mem_erase]
      · rw [Function.update_of_ne here, twoWay.agree, belongs]
        simp [Ne.symm here]
    · rw [Function.update_of_ne same]
      by_cases here : place = group
      · subst here
        rw [Function.update_self, List.mem_erase_of_ne same]
        exact twoWay.agree other place
      · rw [Function.update_of_ne here]
        exact twoWay.agree other place
  · intro place
    by_cases here : place = group
    · subst here
      rw [Function.update_self]
      exact (twoWay.nodup place).erase member
    · rw [Function.update_of_ne here]
      exact twoWay.nodup place

end TwoWay
