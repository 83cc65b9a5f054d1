import Simurgh.Lib.ParentForest
import Mathlib.Data.Set.Card

/-!
# Derivation forests

A derivation forest holds values at some of its nodes.  A value is a root, or it
was derived from the value at another node.  The two operations are inserting a
value at a vacant node and revoking a node together with all that descends from
it.  A node can never be derived from a vacant one.
-/

/-- Nodes `ι` with values in `κ`, where `derives child parent` is what a
derivation guarantees. -/
structure DerivationForest (ι κ : Type) (derives : κ → κ → Prop) where
  node : ι → Option κ
  parent : ι → Option ι
  linked : ∀ child link, parent child = some link →
    ∃ value above, node child = some value ∧ node link = some above ∧
      derives value above
  acyclic : Acyclic parent

namespace DerivationForest

variable {ι κ : Type} {derives : κ → κ → Prop}

/-- No node holds a value. -/
def empty : DerivationForest ι κ derives where
  node := fun _ => none
  parent := fun _ => none
  linked := by
    intro child link edge
    simp at edge
  acyclic := by
    intro node loop
    obtain ⟨link, edge⟩ := loop.exists_parent
    simp at edge

/-- `value` may be inserted below `link`, or as a root. -/
def Fits (forest : DerivationForest ι κ derives) (value : κ) (link : Option ι) : Prop :=
  ∀ upper, link = some upper →
    ∃ above, forest.node upper = some above ∧ derives value above

theorem fits_root (forest : DerivationForest ι κ derives) (value : κ) :
    forest.Fits value none := by
  intro upper edge
  simp at edge

section Insert

variable [DecidableEq ι]

/-- Put `value` at the vacant node `fresh`. -/
def insert (forest : DerivationForest ι κ derives) (fresh : ι) (value : κ)
    (link : Option ι) (vacant : forest.node fresh = none)
    (fits : forest.Fits value link) : DerivationForest ι κ derives where
  node := Function.update forest.node fresh (some value)
  parent := Function.update forest.parent fresh link
  linked := by
    intro child upper edge
    have upperOccupied : ∀ above, forest.node upper = some above → upper ≠ fresh := by
      intro above present same
      rw [same, vacant] at present
      simp at present
    by_cases same : child = fresh
    · subst same
      rw [Function.update_self] at edge
      obtain ⟨above, present, derived⟩ := fits upper edge
      refine ⟨value, above, Function.update_self .., ?_, derived⟩
      rwa [Function.update_of_ne (upperOccupied above present)]
    · rw [Function.update_of_ne same] at edge
      obtain ⟨old, above, here, present, derived⟩ := forest.linked child upper edge
      refine ⟨old, above, ?_, ?_, derived⟩
      · rwa [Function.update_of_ne same]
      · rwa [Function.update_of_ne (upperOccupied above present)]
  acyclic := by
    have notOccupied : ∀ above, forest.node fresh ≠ some above := by
      simp [vacant]
    have isolated : ∀ child,
        Function.update forest.parent fresh link child ≠ some fresh := by
      intro child edge
      by_cases same : child = fresh
      · subst same
        rw [Function.update_self] at edge
        obtain ⟨above, present, _⟩ := fits child edge
        exact notOccupied above present
      · rw [Function.update_of_ne same] at edge
        obtain ⟨_, above, _, present, _⟩ := forest.linked child fresh edge
        exact notOccupied above present
    exact forest.acyclic.insert isolated
      fun child ne => Function.update_of_ne ne ..

theorem node_insert (forest : DerivationForest ι κ derives) {fresh : ι} {value : κ}
    {link : Option ι} (vacant : forest.node fresh = none)
    (fits : forest.Fits value link) (other : ι) :
    (forest.insert fresh value link vacant fits).node other =
      if other = fresh then some value else forest.node other :=
  Function.update_apply ..

theorem parent_insert (forest : DerivationForest ι κ derives) {fresh : ι} {value : κ}
    {link : Option ι} (vacant : forest.node fresh = none)
    (fits : forest.Fits value link) (other : ι) :
    (forest.insert fresh value link vacant fits).parent other =
      if other = fresh then link else forest.parent other :=
  Function.update_apply ..

end Insert

/-! ## Revocation -/

/-- `target` and everything derived from it. -/
def subtree (forest : DerivationForest ι κ derives) (target : ι) : Set ι :=
  { node | node = target ∨ Ancestor forest.parent node target }

theorem mem_subtree_of_parent (forest : DerivationForest ι κ derives)
    {target child link : ι} (edge : forest.parent child = some link)
    (member : link ∈ forest.subtree target) : child ∈ forest.subtree target := by
  rcases member with same | above
  · exact Or.inr (Ancestor.of_parent (same ▸ edge))
  · exact Or.inr (Ancestor.head edge above)

/-- Every node of the subtree of an occupied node is occupied. -/
theorem occupied_of_mem_subtree (forest : DerivationForest ι κ derives)
    {target node : ι} {value : κ} (occupied : forest.node target = some value)
    (member : node ∈ forest.subtree target) : ∃ held, forest.node node = some held := by
  rcases member with same | above
  · exact ⟨value, same ▸ occupied⟩
  · obtain ⟨link, edge⟩ := above.exists_parent
    obtain ⟨held, _, present, _⟩ := forest.linked node link edge
    exact ⟨held, present⟩

open Classical in
/-- Remove the subtree of `target`. -/
noncomputable def revoke (forest : DerivationForest ι κ derives) (target : ι) :
    DerivationForest ι κ derives where
  node := fun node => if node ∈ forest.subtree target then none else forest.node node
  parent := fun node =>
    if node ∈ forest.subtree target then none else forest.parent node
  linked := by
    intro child link edge
    by_cases member : child ∈ forest.subtree target
    · simp [member] at edge
    · simp only [member, if_false] at edge
      obtain ⟨value, above, here, present, derived⟩ := forest.linked child link edge
      have linkOutside : link ∉ forest.subtree target :=
        fun inside => member (forest.mem_subtree_of_parent edge inside)
      exact ⟨value, above, by simpa [member] using here,
        by simpa [linkOutside] using present, derived⟩
  acyclic := by
    apply forest.acyclic.of_subforest
    intro child link edge
    by_cases member : child ∈ forest.subtree target
    · simp [member] at edge
    · simpa [member] using edge

theorem node_revoke_of_mem (forest : DerivationForest ι κ derives) {target node : ι}
    (member : node ∈ forest.subtree target) :
    (forest.revoke target).node node = none :=
  if_pos member

theorem node_revoke_of_not_mem (forest : DerivationForest ι κ derives)
    {target node : ι} (outside : node ∉ forest.subtree target) :
    (forest.revoke target).node node = forest.node node :=
  if_neg outside

theorem parent_revoke_of_mem (forest : DerivationForest ι κ derives)
    {target node : ι} (member : node ∈ forest.subtree target) :
    (forest.revoke target).parent node = none :=
  if_pos member

theorem parent_revoke_of_not_mem (forest : DerivationForest ι κ derives)
    {target node : ι} (outside : node ∉ forest.subtree target) :
    (forest.revoke target).parent node = forest.parent node :=
  if_neg outside

/-! ## Along chains of ancestors -/

/-- What every derivation guarantees holds between a value and the values of all
its ancestors. -/
theorem derives_of_ancestor (forest : DerivationForest ι κ derives)
    (transitive : ∀ lower middle upper,
      derives lower middle → derives middle upper → derives lower upper)
    {node other : ι} (above : Ancestor forest.parent node other) :
    ∃ value upper, forest.node node = some value ∧
      forest.node other = some upper ∧ derives value upper := by
  apply above.lift fun lower upper =>
    ∃ value higher, forest.node lower = some value ∧
      forest.node upper = some higher ∧ derives value higher
  · exact forest.linked
  · rintro lower middle upper ⟨value, between, here, there, derived⟩
      ⟨between', higher, there', top, derived'⟩
    rw [there] at there'
    obtain rfl := Option.some.inj there'
    exact ⟨value, higher, here, top, transitive _ _ _ derived derived'⟩

end DerivationForest
