import Simurgh.Lib.RadixTree
import Mathlib.Data.Finset.Card
import Mathlib.Data.List.Infix

/-!
# Tables that paths lack

A path is built by linking tables into the words on the way down that are still empty.  The
starts of paths that lead to no table yet are counted here.  Each link makes them one fewer,
and the paths can be built one after another.
-/

namespace RadixTree

variable {φ κ ω τ : Type} [DecidableEq κ]

/-- There is a table at the end of the path. -/
def Reached (read : Reading φ ω τ) (store : φ → κ → ω) (root : φ) (path : List κ) : Prop :=
  (follow read store path root).isSome = true

instance (read : Reading φ ω τ) (store : φ → κ → ω) (root : φ) (path : List κ) :
    Decidable (Reached read store root path) :=
  inferInstanceAs (Decidable (_ = true))

/-- The starts of the paths at whose end there is no table. -/
def lacking (read : Reading φ ω τ) (store : φ → κ → ω) (root : φ) (paths : List (List κ)) :
    Finset (List κ) :=
  (paths.flatMap List.inits).toFinset.filter fun start => ¬ Reached read store root start

variable {read : Reading φ ω τ} {store later : φ → κ → ω} {root : φ} {depth : Nat}
  {path start : List κ} {paths : List (List κ)}

theorem mem_lacking :
    start ∈ lacking read store root paths ↔
      (∃ path ∈ paths, start <+: path) ∧ ¬ Reached read store root start := by
  rw [lacking, Finset.mem_filter, List.mem_toFinset, List.mem_flatMap]
  simp only [List.mem_inits]

theorem mem_lacking_singleton :
    start ∈ lacking read store root [path] ↔
      start <+: path ∧ ¬ Reached read store root start := by
  rw [mem_lacking]
  simp

omit [DecidableEq κ] in
/-- The tables on the way down are there. -/
theorem Reached.of_prefix (reached : Reached read store root path) (starts : start <+: path) :
    Reached read store root start := by
  obtain ⟨rest, rfl⟩ := starts
  rw [Reached, follow_append] at reached
  rw [Reached]
  cases there : follow read store start root with
  | none =>
      rw [there] at reached
      exact reached
  | some table => rfl

/-- Nothing is missing on the way to a table. -/
theorem lacking_of_reached (reached : Reached read store root path) :
    lacking read store root [path] = ∅ := by
  apply Finset.eq_empty_of_forall_notMem
  intro start member
  rw [mem_lacking_singleton] at member
  exact member.2 (reached.of_prefix member.1)

/-- A table was linked at the end of one path. -/
theorem card_lacking_link (bounded : ∀ path ∈ paths, path.length ≤ depth)
    (adds : ∀ start, start.length ≤ depth →
      (Reached read later root start ↔ Reached read store root start ∨ start = path))
    (missing : path ∈ lacking read store root paths) :
    (lacking read store root paths).card = (lacking read later root paths).card + 1 := by
  have split : lacking read store root paths = insert path (lacking read later root paths) := by
    ext start
    rw [Finset.mem_insert, mem_lacking, mem_lacking]
    by_cases same : start = path
    · rw [same]
      exact iff_of_true (mem_lacking.1 missing) (Or.inl rfl)
    · constructor
      · rintro ⟨⟨whole, member, starts⟩, absent⟩
        have short := Nat.le_trans starts.length_le (bounded whole member)
        refine Or.inr ⟨⟨whole, member, starts⟩, ?_⟩
        rw [adds start short]
        exact not_or.2 ⟨absent, same⟩
      · rintro (equal | ⟨⟨whole, member, starts⟩, absent⟩)
        · exact absurd equal same
        · have short := Nat.le_trans starts.length_le (bounded whole member)
          rw [adds start short] at absent
          exact ⟨⟨whole, member, starts⟩, (not_or.1 absent).1⟩
  have fresh : path ∉ lacking read later root paths := by
    intro member
    obtain ⟨⟨whole, inside, starts⟩, absent⟩ := mem_lacking.1 member
    have short := Nat.le_trans starts.length_le (bounded whole inside)
    exact absent ((adds path short).2 (Or.inr rfl))
  rw [split, Finset.card_insert_of_notMem fresh]

/-- Once a path is built, the tables that it lacked are not missing any more. -/
theorem card_lacking_cons (short : path.length ≤ depth)
    (bounded : ∀ path ∈ paths, path.length ≤ depth)
    (adds : ∀ start, start.length ≤ depth →
      (Reached read later root start ↔ Reached read store root start ∨ start <+: path)) :
    (lacking read store root (path :: paths)).card =
      (lacking read store root [path]).card + (lacking read later root paths).card := by
  have split : lacking read store root (path :: paths) =
      lacking read store root [path] ∪ lacking read later root paths := by
    ext start
    rw [Finset.mem_union, mem_lacking_singleton, mem_lacking, mem_lacking, List.exists_mem_cons_iff]
    constructor
    · rintro ⟨here | ⟨whole, member, starts⟩, absent⟩
      · exact Or.inl ⟨here, absent⟩
      · by_cases here : start <+: path
        · exact Or.inl ⟨here, absent⟩
        · have inside := Nat.le_trans starts.length_le (bounded whole member)
          refine Or.inr ⟨⟨whole, member, starts⟩, ?_⟩
          rw [adds start inside]
          exact not_or.2 ⟨absent, here⟩
    · rintro (⟨here, absent⟩ | ⟨⟨whole, member, starts⟩, absent⟩)
      · exact ⟨Or.inl here, absent⟩
      · have inside := Nat.le_trans starts.length_le (bounded whole member)
        rw [adds start inside] at absent
        exact ⟨Or.inr ⟨whole, member, starts⟩, (not_or.1 absent).1⟩
  rw [split]
  apply Finset.card_union_of_disjoint
  apply Finset.disjoint_left.2
  intro start first second
  obtain ⟨here, _⟩ := mem_lacking_singleton.1 first
  obtain ⟨_, absent⟩ := mem_lacking.1 second
  exact absent ((adds start (Nat.le_trans here.length_le short)).2 (Or.inr here))

end RadixTree
