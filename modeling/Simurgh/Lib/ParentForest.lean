import Mathlib.Logic.Relation
import Mathlib.Data.Finset.Card

/-!
# Forests given by parent links

A forest is a function `parent : α → Option α`.  The ancestors of a node are
what one reaches by following one or more links.  The main result is
`walk_eq_true_iff`.  In an acyclic forest a walk with as many steps as there
are nodes with a parent meets every ancestor.
-/

variable {α : Type}

/-- `ancestor` is reached from `node` by following one or more links. -/
def Ancestor (parent : α → Option α) : α → α → Prop :=
  Relation.TransGen fun child link => parent child = some link

/-- No node is its own ancestor. -/
def Acyclic (parent : α → Option α) : Prop :=
  ∀ node, ¬ Ancestor parent node node

/-- Follow at most `fuel` links from `cur` and report whether one of them leads
to `target`. -/
def walk [DecidableEq α] (parent : α → Option α) (target : α) : Nat → α → Bool
  | 0, _ => false
  | fuel + 1, cur =>
      match parent cur with
      | some link => if link = target then true else walk parent target fuel link
      | none => false

namespace Ancestor

variable {parent parent' : α → Option α} {node link other : α}

theorem of_parent (edge : parent node = some link) : Ancestor parent node link :=
  Relation.TransGen.single edge

theorem head (edge : parent node = some link) (above : Ancestor parent link other) :
    Ancestor parent node other :=
  Relation.TransGen.head edge above

theorem trans (lower : Ancestor parent node link) (upper : Ancestor parent link other) :
    Ancestor parent node other :=
  Relation.TransGen.trans lower upper

/-- The first link of a chain of ancestors. -/
theorem cases_head (above : Ancestor parent node other) :
    ∃ link, parent node = some link ∧ (link = other ∨ Ancestor parent link other) := by
  rcases Relation.TransGen.head'_iff.1 above with ⟨link, edge, rest⟩
  refine ⟨link, edge, ?_⟩
  rcases Relation.reflTransGen_iff_eq_or_transGen.1 rest with same | further
  · exact Or.inl same.symm
  · exact Or.inr further

theorem exists_parent (above : Ancestor parent node other) :
    ∃ link, parent node = some link := by
  obtain ⟨link, edge, _⟩ := above.cases_head
  exact ⟨link, edge⟩

/-- Every ancestor is some node's parent. -/
theorem exists_child (above : Ancestor parent node other) :
    ∃ child, parent child = some other := by
  obtain ⟨child, _, edge⟩ := Relation.TransGen.tail'_iff.1 above
  exact ⟨child, edge⟩

/-- A transitive relation that holds along links holds along ancestors. -/
theorem lift (relation : α → α → Prop) (above : Ancestor parent node other)
    (edges : ∀ child link, parent child = some link → relation child link)
    (transitive : ∀ lower middle upper,
      relation lower middle → relation middle upper → relation lower upper) :
    relation node other := by
  induction above with
  | single edge => exact edges _ _ edge
  | tail _ edge ih =>
      exact transitive _ _ _ ih (edges _ _ edge)

/-- Adding links adds ancestors. -/
theorem mono (above : Ancestor parent node other)
    (links : ∀ child link, parent child = some link → parent' child = some link) :
    Ancestor parent' node other :=
  above.lift _ (fun child link edge => of_parent (links child link edge))
    fun _ _ _ lower upper => lower.trans upper

end Ancestor

/-! ## Changing a forest -/

/-- Removing links keeps a forest acyclic. -/
theorem Acyclic.of_subforest {parent parent' : α → Option α}
    (acyclic : Acyclic parent)
    (links : ∀ child link, parent' child = some link → parent child = some link) :
    Acyclic parent' :=
  fun node loop => acyclic node (loop.mono links)

/-- The ancestors after hanging `fresh`, which nothing points at, below the
forest. -/
theorem ancestor_of_fresh {parent parent' : α → Option α} {fresh : α}
    (isolated : ∀ child, parent' child ≠ some fresh)
    (others : ∀ child, child ≠ fresh → parent' child = parent child)
    {node other : α} (above : Ancestor parent' node other)
    (ne : node ≠ fresh) : Ancestor parent node other := by
  induction above using Relation.TransGen.head_induction_on with
  | single edge =>
      rw [others _ ne] at edge
      exact Ancestor.of_parent edge
  | @head child link edge _ ih =>
      have linkDifferent : link ≠ fresh := by
        intro same
        exact isolated child (same ▸ edge)
      rw [others _ ne] at edge
      exact Ancestor.head edge (ih linkDifferent)

/-- Hanging a node that nothing points at below the forest makes no cycle. -/
theorem Acyclic.insert {parent parent' : α → Option α} {fresh : α}
    (acyclic : Acyclic parent)
    (isolated : ∀ child, parent' child ≠ some fresh)
    (others : ∀ child, child ≠ fresh → parent' child = parent child) :
    Acyclic parent' := by
  intro node loop
  by_cases same : node = fresh
  · obtain ⟨child, edge⟩ := loop.exists_child
    exact isolated child (same ▸ edge)
  · exact acyclic node (ancestor_of_fresh isolated others loop same)

/-! ## The bounded walk -/

section Walk

variable [DecidableEq α] {parent : α → Option α} {target : α}

theorem ancestor_of_walk {fuel : Nat} {cur : α}
    (found : walk parent target fuel cur = true) : Ancestor parent cur target := by
  induction fuel generalizing cur with
  | zero =>
      simp [walk] at found
  | succ fuel ih =>
      cases edge : parent cur with
      | none =>
          simp [walk, edge] at found
      | some link =>
          by_cases same : link = target
          · exact Ancestor.of_parent (same ▸ edge)
          · simp only [walk, edge, same, if_false] at found
            exact Ancestor.head edge (ih found)

/-- The nodes of `nodes` that a walk from `cur` can still visit. -/
private noncomputable def reachable (parent : α → Option α) (nodes : Finset α)
    (cur : α) : Finset α :=
  open Classical in nodes.filter fun node => cur = node ∨ Ancestor parent cur node

private theorem mem_reachable {nodes : Finset α} {cur node : α} :
    node ∈ reachable parent nodes cur ↔
      node ∈ nodes ∧ (cur = node ∨ Ancestor parent cur node) := by
  simp only [reachable, Finset.mem_filter]

private theorem reachable_card_lt {nodes : Finset α} {cur link : α}
    (acyclic : Acyclic parent) (member : cur ∈ nodes)
    (edge : parent cur = some link) :
    (reachable parent nodes link).card < (reachable parent nodes cur).card := by
  apply Finset.card_lt_card
  rw [Finset.ssubset_iff_of_subset]
  · refine ⟨cur, by simp [mem_reachable, member], ?_⟩
    simp only [mem_reachable, not_and, not_or]
    intro _
    constructor
    · rintro rfl
      exact acyclic _ (Ancestor.of_parent edge)
    · intro above
      exact acyclic cur (Ancestor.head edge above)
  · intro node
    simp only [mem_reachable]
    rintro ⟨inside, rfl | above⟩
    · exact ⟨inside, Or.inr (Ancestor.of_parent edge)⟩
    · exact ⟨inside, Or.inr (Ancestor.head edge above)⟩

private theorem walk_of_reachable {nodes : Finset α} (acyclic : Acyclic parent)
    (sources : ∀ child link, parent child = some link → child ∈ nodes)
    {fuel : Nat} {cur : α} (enough : (reachable parent nodes cur).card ≤ fuel)
    (above : Ancestor parent cur target) : walk parent target fuel cur = true := by
  induction fuel generalizing cur with
  | zero =>
      -- `cur` itself has a parent, so a step is left.
      obtain ⟨link, edge, _⟩ := above.cases_head
      have smaller := reachable_card_lt acyclic (sources cur link edge) edge
      omega
  | succ fuel ih =>
      obtain ⟨link, edge, rest⟩ := above.cases_head
      have smaller := reachable_card_lt acyclic (sources cur link edge) edge
      rcases rest with rfl | further
      · simp [walk, edge]
      · by_cases same : link = target
        · simp [walk, edge, same]
        · simp only [walk, edge, same, if_false]
          exact ih (by omega) further

/-- In an acyclic forest with at most `fuel` nodes that have a parent, `fuel`
steps decide whether `target` is an ancestor. -/
theorem walk_eq_true_iff {nodes : Finset α} (acyclic : Acyclic parent)
    (sources : ∀ child link, parent child = some link → child ∈ nodes)
    {fuel : Nat} (enough : nodes.card ≤ fuel) (cur : α) :
    walk parent target fuel cur = true ↔ Ancestor parent cur target := by
  constructor
  · exact ancestor_of_walk
  · intro above
    have fits : (reachable parent nodes cur).card ≤ nodes.card :=
      Finset.card_le_card fun node member => (mem_reachable.1 member).1
    exact walk_of_reachable acyclic sources (by omega) above

end Walk
