import Mathlib.Algebra.BigOperators.Finprod
import Mathlib.Data.List.Nodup
import Mathlib.Order.Defs.LinearOrder
import Mathlib.Tactic.Common

/-!
# Lists with one entry for each key

A registry is a list in which an entry is replaced where it stands, and a new one goes to the
end.  The order of the entries depends on the calls that were made.  The entries themselves
depend on the last call for each key only, and so does every choice by a rank that tells
entries of different keys apart.
-/

namespace KeyedList

variable {α κ ρ : Type} [DecidableEq κ] (key : α → κ)

/-- Replace the first entry with the same key, or add the entry at the end. -/
def upsert (entry : α) : List α → List α
  | [] => [entry]
  | first :: rest => if key first = key entry then entry :: rest else first :: upsert entry rest

/-- `retain` what has another key. -/
def remove (removed : κ) (entries : List α) : List α :=
  entries.filter fun entry => key entry ≠ removed

/-- What can be done to a registry. -/
inductive Call (α κ : Type) where
  | upsert (entry : α)
  | remove (key : κ)
  deriving DecidableEq, Repr

/-- The newest call comes first. -/
abbrev History (α κ : Type) := List (Call α κ)

/-- The registry that the calls lead to. -/
def entries : History α κ → List α
  | [] => []
  | .upsert entry :: older => upsert key entry (entries older)
  | .remove removed :: older => remove key removed (entries older)

/-- The entry of a key, if the last call for the key was an `upsert`. -/
def registered : History α κ → κ → Option α
  | [], _ => none
  | .upsert entry :: older, wanted =>
      if key entry = wanted then some entry else registered older wanted
  | .remove removed :: older, wanted =>
      if removed = wanted then none else registered older wanted

variable {key} {entry found : α} {removed wanted : κ} {list : List α} {history : History α κ}

/-! ## One entry for each key -/

theorem mem_upsert_of_ne (other : key found ≠ key entry) :
    found ∈ upsert key entry list ↔ found ∈ list := by
  induction list with
  | nil =>
      rw [upsert, List.mem_singleton]
      refine iff_of_false ?_ List.not_mem_nil
      rintro rfl
      exact other rfl
  | cons first rest ih =>
      rw [upsert]
      by_cases same : key first = key entry
      · have notFirst : found ≠ first := by
          rintro rfl
          exact other same
        have notEntry : found ≠ entry := by
          rintro rfl
          exact other rfl
        rw [if_pos same, List.mem_cons, List.mem_cons, or_iff_right notEntry,
          or_iff_right notFirst]
      · rw [if_neg same, List.mem_cons, List.mem_cons, ih]

theorem mem_upsert_self : entry ∈ upsert key entry list := by
  induction list with
  | nil => exact List.mem_singleton.2 rfl
  | cons first rest ih =>
      rw [upsert]
      by_cases same : key first = key entry
      · rw [if_pos same]
        exact List.mem_cons_self
      · rw [if_neg same]
        exact List.mem_cons_of_mem _ ih

/-- The keys stay as they are, or a new one is added. -/
theorem map_key_upsert :
    (upsert key entry list).map key =
      if key entry ∈ list.map key then list.map key else list.map key ++ [key entry] := by
  induction list with
  | nil => rfl
  | cons first rest ih =>
      rw [upsert]
      by_cases same : key first = key entry
      · rw [if_pos same, List.map_cons, List.map_cons, same, if_pos List.mem_cons_self]
      · rw [if_neg same, List.map_cons, List.map_cons, ih]
        by_cases known : key entry ∈ rest.map key
        · rw [if_pos known, if_pos (List.mem_cons_of_mem _ known)]
        · have unknown : key entry ∉ key first :: rest.map key :=
            List.not_mem_cons_of_ne_of_not_mem (Ne.symm same) known
          rw [if_neg known, if_neg unknown, List.cons_append]

theorem nodup_upsert (distinct : (list.map key).Nodup) :
    ((upsert key entry list).map key).Nodup := by
  rw [map_key_upsert]
  by_cases known : key entry ∈ list.map key
  · rw [if_pos known]
    exact distinct
  · rw [if_neg known]
    exact List.nodup_append'.2 ⟨distinct, List.nodup_singleton _, by simpa using known⟩

theorem nodup_entries (history : History α κ) : ((entries key history).map key).Nodup := by
  induction history with
  | nil => exact List.nodup_nil
  | cons call older ih =>
      cases call with
      | upsert entry => exact nodup_upsert ih
      | remove removed => exact ih.sublist (List.filter_sublist.map key)

omit [DecidableEq κ] in
theorem eq_of_key_eq (distinct : (list.map key).Nodup) {left right : α} (here : left ∈ list)
    (there : right ∈ list) (same : key left = key right) : left = right :=
  List.inj_on_of_nodup_map distinct here there same

/-- What is in a registry depends on the last call for each key. -/
theorem mem_entries :
    found ∈ entries key history ↔ registered key history (key found) = some found := by
  induction history with
  | nil =>
      exact iff_of_false List.not_mem_nil (Option.some_ne_none _).symm
  | cons call older ih =>
      cases call with
      | upsert entry =>
          rw [entries, registered]
          by_cases same : key entry = key found
          · rw [if_pos same, Option.some.injEq]
            constructor
            · intro member
              exact eq_of_key_eq (nodup_upsert (nodup_entries older)) mem_upsert_self member same
            · rintro rfl
              exact mem_upsert_self
          · rw [if_neg same, mem_upsert_of_ne (Ne.symm same), ih]
      | remove removed =>
          rw [entries, registered, remove, List.mem_filter, decide_eq_true_iff]
          by_cases same : removed = key found
          · rw [if_pos same]
            exact iff_of_false (fun member => member.2 same.symm) (Option.some_ne_none _).symm
          · rw [if_neg same, ih]
            exact and_iff_left (Ne.symm same)

/-! ## Choosing an entry -/

/-- `iter().reduce(pick)`. -/
def reduce (pick : α → α → α) : List α → Option α
  | [] => none
  | first :: rest => some (rest.foldl pick first)

/-- The entry is in the list, and none in the list has a lower rank. -/
structure Least [LE ρ] (rank : α → ρ) (list : List α) (entry : α) : Prop where
  member : entry ∈ list
  least : ∀ other ∈ list, rank entry ≤ rank other

section Order

variable [LinearOrder ρ] {rank : α → ρ}

/-- A closure that prefers the lower rank finds an entry of least rank. -/
theorem least_foldl {pick : α → α → α}
    (picks : ∀ best next, pick best next = if rank next < rank best then next else best)
    (first : α) (rest : List α) : Least rank (first :: rest) (rest.foldl pick first) := by
  induction rest generalizing first with
  | nil =>
      refine ⟨List.mem_cons_self, fun other member => ?_⟩
      rw [List.mem_singleton.1 member]
      exact le_refl _
  | cons next rest ih =>
      rw [List.foldl_cons]
      have ends := ih (pick first next)
      have picked := picks first next
      by_cases lower : rank next < rank first
      · rw [if_pos lower] at picked
        rw [picked] at ends ⊢
        refine ⟨List.mem_cons_of_mem _ ends.member, List.forall_mem_cons.2 ⟨?_, ends.least⟩⟩
        exact le_trans (ends.least next List.mem_cons_self) (le_of_lt lower)
      · rw [if_neg lower] at picked
        rw [picked] at ends ⊢
        constructor
        · cases List.mem_cons.1 ends.member with
          | inl same =>
              rw [same]
              exact List.mem_cons_self
          | inr later => exact List.mem_cons_of_mem _ (List.mem_cons_of_mem _ later)
        · have first := ends.least first List.mem_cons_self
          refine List.forall_mem_cons.2 ⟨first, List.forall_mem_cons.2 ⟨?_, fun other member => ?_⟩⟩
          · exact le_trans first (not_lt.1 lower)
          · exact ends.least other (List.mem_cons_of_mem _ member)

theorem reduce_eq_none {pick : α → α → α} : reduce pick list = none ↔ list = [] := by
  cases list with
  | nil => exact iff_of_true rfl rfl
  | cons first rest => exact iff_of_false (Option.some_ne_none _) (List.cons_ne_nil _ _)

theorem least_of_reduce {pick : α → α → α}
    (picks : ∀ best next, pick best next = if rank next < rank best then next else best)
    (reduced : reduce pick list = some entry) : Least rank list entry := by
  cases list with
  | nil => cases reduced
  | cons first rest =>
      obtain rfl := Option.some.inj reduced
      exact least_foldl picks first rest

end Order

/-! ## Answers -/

/-- The answer names the qualified entry that has a lower rank than all others. -/
inductive Chooses [LT ρ] (key : α → κ) (rank : α → ρ) (history : History α κ)
    (qualifies : α → Prop) : Option κ → Prop where
  | absent (nothing : ∀ wanted entry, registered key history wanted = some entry →
      ¬ qualifies entry) : Chooses key rank history qualifies none
  | found (chosen : κ) (entry : α) (here : registered key history chosen = some entry)
      (qualified : qualifies entry)
      (least : ∀ wanted other, registered key history wanted = some other → qualifies other →
        wanted ≠ chosen → rank entry < rank other) :
      Chooses key rank history qualifies (some chosen)

theorem key_of_registered (here : registered key history wanted = some entry) :
    key entry = wanted := by
  induction history with
  | nil => cases here
  | cons call older ih =>
      cases call with
      | upsert first =>
          rw [registered] at here
          by_cases same : key first = wanted
          · rw [if_pos same, Option.some.injEq] at here
            rw [← here]
            exact same
          · rw [if_neg same] at here
            exact ih here
      | remove removed =>
          rw [registered] at here
          by_cases same : removed = wanted
          · rw [if_pos same] at here
            cases here
          · rw [if_neg same] at here
            exact ih here

theorem mem_of_registered (here : registered key history wanted = some entry) :
    entry ∈ entries key history := by
  rw [mem_entries, key_of_registered here]
  exact here

section Answers

variable [LinearOrder ρ] {rank : α → ρ} {qualifies : α → Prop}

/-- A least entry of those that qualify is an answer. -/
theorem Chooses.of_least [DecidablePred qualifies]
    (separates : ∀ left right, rank left = rank right → key left = key right)
    (least : Least rank ((entries key history).filter fun entry => qualifies entry) entry) :
    Chooses key rank history qualifies (some (key entry)) := by
  obtain ⟨member, qualified⟩ := List.mem_filter.1 least.member
  apply Chooses.found _ entry (mem_entries.1 member) (of_decide_eq_true qualified)
  intro wanted other there alsoQualified ne
  have lower := least.least other
    (List.mem_filter.2 ⟨mem_of_registered there, decide_eq_true alsoQualified⟩)
  apply lt_of_le_of_ne lower
  intro same
  apply ne
  rw [← key_of_registered there]
  exact (separates entry other same).symm

theorem Chooses.of_nothing [DecidablePred qualifies]
    (nothing : (entries key history).filter (fun entry => qualifies entry) = []) :
    Chooses key rank history qualifies none := by
  apply Chooses.absent
  intro wanted entry here qualified
  have member : entry ∈ (entries key history).filter fun entry => qualifies entry :=
    List.mem_filter.2 ⟨mem_of_registered here, decide_eq_true qualified⟩
  rw [nothing] at member
  exact List.not_mem_nil member

theorem Chooses.eq_none_iff {answer : Option κ}
    (chooses : Chooses key rank history qualifies answer) :
    answer = none ↔ ∀ wanted entry, registered key history wanted = some entry →
      ¬ qualifies entry := by
  cases chooses with
  | absent nothing => exact iff_of_true rfl nothing
  | found chosen entry here qualified least =>
      exact iff_of_false (Option.some_ne_none _) fun nothing =>
        nothing chosen entry here qualified

/-- Histories with the same registered entries have the same answer. -/
theorem Chooses.eq {other : History α κ} {answer otherAnswer : Option κ}
    (chooses : Chooses key rank history qualifies answer)
    (alsoChooses : Chooses key rank other qualifies otherAnswer)
    (same : ∀ wanted, registered key history wanted = registered key other wanted) :
    answer = otherAnswer := by
  cases chooses with
  | absent nothing =>
      apply (alsoChooses.eq_none_iff.2 ?_).symm
      intro wanted entry here
      exact nothing wanted entry ((same wanted).trans here)
  | found chosen entry here qualified least =>
      cases alsoChooses with
      | absent nothing =>
          exact absurd qualified (nothing chosen entry ((same chosen).symm.trans here))
      | found otherChosen otherEntry there alsoQualified alsoLeast =>
          by_contra ne
          have apart : otherChosen ≠ chosen := fun equal => ne (congrArg some equal.symm)
          have first := least otherChosen otherEntry ((same otherChosen).trans there)
            alsoQualified apart
          have second := alsoLeast chosen entry ((same chosen).symm.trans here) qualified
            (Ne.symm apart)
          exact lt_asymm first second

/-- Decisions that histories lead to are decisions about the registered entries: where those
are the same, the answer is the same, it names the entry that goes before all others that
qualify, and there is no answer exactly if none qualifies. -/
structure DecidesByEntries {η : Type} (run : η → List α) (decision : η → Option κ)
    (calls : η → History α κ) (key : α → κ) (rank : α → ρ) (qualifies : α → Prop) : Prop where
  same : ∀ first second, (∀ entry, entry ∈ run first ↔ entry ∈ run second) →
    decision first = decision second
  chooses : ∀ history, Chooses key rank (calls history) qualifies (decision history)
  nothing : ∀ history, decision history = none ↔ ∀ entry ∈ run history, ¬ qualifies entry

theorem registered_eq_some_iff :
    registered key history wanted = some entry ↔
      entry ∈ entries key history ∧ key entry = wanted := by
  constructor
  · intro here
    exact ⟨mem_of_registered here, key_of_registered here⟩
  · rintro ⟨member, rfl⟩
    exact mem_entries.1 member

theorem DecidesByEntries.of_chooses {η : Type} {run : η → List α} {decision : η → Option κ}
    {calls : η → History α κ} (runs : ∀ history, run history = entries key (calls history))
    (chooses : ∀ history, Chooses key rank (calls history) qualifies (decision history)) :
    DecidesByEntries run decision calls key rank qualifies where
  same := by
    intro first second members
    apply (chooses first).eq (chooses second)
    intro wanted
    apply Option.ext
    intro entry
    rw [registered_eq_some_iff, registered_eq_some_iff, ← runs, ← runs, members]
  chooses := chooses
  nothing := by
    intro history
    rw [(chooses history).eq_none_iff, runs]
    constructor
    · intro nothing entry member
      exact nothing (key entry) entry (mem_entries.1 member)
    · intro nothing wanted entry here
      exact nothing entry (mem_of_registered here)

/-! ## Answers with a value for nothing -/

/-- The reply names an entry that qualifies exactly if there is one, and it is the value for
nothing exactly if there is none. -/
structure Names (key : α → κ) (history : History α κ) (qualifies : α → Prop)
    (nothing reply : κ) : Prop where
  found : (∃ entry, registered key history reply = some entry ∧ qualifies entry) ↔
    ∃ wanted entry, registered key history wanted = some entry ∧ qualifies entry
  notFound : reply = nothing ↔
    ¬ ∃ wanted entry, registered key history wanted = some entry ∧ qualifies entry

/-- A reply that puts a value for nothing in place of no answer is ambiguous exactly if that
value is the answer. -/
theorem Chooses.names_iff {answer : Option κ} {nothing : κ}
    (chooses : Chooses key rank history qualifies answer) :
    Names key history qualifies nothing (answer.getD nothing) ↔
      ¬ Chooses key rank history qualifies (some nothing) := by
  constructor
  · intro names chosen
    rw [chooses.eq chosen fun _ => rfl] at names
    cases chosen with
    | found chosen entry here qualified least =>
        exact names.notFound.1 rfl ⟨_, entry, here, qualified⟩
  · intro other
    cases chooses with
    | absent none =>
        have nowhere : ¬ ∃ wanted entry,
            registered key history wanted = some entry ∧ qualifies entry := by
          rintro ⟨wanted, entry, here, qualified⟩
          exact none wanted entry here qualified
        constructor
        · exact iff_of_false (fun named => nowhere ⟨_, named⟩) nowhere
        · exact iff_of_true rfl nowhere
    | found chosen entry here qualified least =>
        have somewhere : ∃ wanted entry,
            registered key history wanted = some entry ∧ qualifies entry :=
          ⟨chosen, entry, here, qualified⟩
        constructor
        · exact iff_of_true ⟨entry, here, qualified⟩ somewhere
        · apply iff_of_false _ (not_not_intro somewhere)
          intro same
          obtain rfl : chosen = nothing := same
          exact other (.found _ entry here qualified least)

end Answers

/-! ## Totals -/

/-- The sum of a number over all keys that have an entry. -/
noncomputable def total (key : α → κ) (size : α → Nat) (history : History α κ) : Nat :=
  ∑ᶠ wanted, ((registered key history wanted).map size).getD 0

theorem registered_eq_none (absent : wanted ∉ (entries key history).map key) :
    registered key history wanted = none := by
  cases here : registered key history wanted with
  | none => rfl
  | some entry =>
      have member := List.mem_map_of_mem (f := key) (mem_of_registered here)
      rw [key_of_registered here] at member
      exact absurd member absent

/-- The sum over the keys is the sum over the list. -/
theorem total_eq_sum (size : α → Nat) (history : History α κ) :
    total key size history = ((entries key history).map size).sum := by
  have support : (Function.support fun wanted =>
      ((registered key history wanted).map size).getD 0) ⊆
        ((entries key history).map key).toFinset := by
    intro wanted counted
    by_contra absent
    rw [List.coe_toFinset] at absent
    apply counted
    change ((registered key history wanted).map size).getD 0 = 0
    rw [registered_eq_none absent]
    rfl
  rw [total, finsum_eq_sum_of_support_subset _ support,
    List.sum_toFinset _ (nodup_entries history), List.map_map]
  apply congrArg
  apply List.map_congr_left
  intro entry member
  rw [Function.comp_apply, mem_entries.1 member]
  rfl

end KeyedList
