import Mathlib.Tactic.Common
import Mathlib.Data.List.Nodup

/-!
# Intrusive singly linked lists

A list is threaded through an array by storing in each node the index of the
next one.  `LinkedChain next head nodes` says that following `next` from `head`
visits exactly `nodes`, in this order, and then stops.
-/

variable {α : Type}

/-- Following `next` from `head` visits `nodes` in order and stops there. -/
def LinkedChain (next : α → Option α) : Option α → List α → Prop
  | head, [] => head = none
  | head, node :: rest => head = some node ∧ LinkedChain next (next node) rest

namespace LinkedChain

@[simp]
theorem nil_iff {next : α → Option α} {head : Option α} :
    LinkedChain next head [] ↔ head = none :=
  Iff.rfl

@[simp]
theorem cons_iff
    {next : α → Option α} {head : Option α} {node : α} {rest : List α} :
    LinkedChain next head (node :: rest) ↔
      head = some node ∧ LinkedChain next (next node) rest :=
  Iff.rfl

/-- A nonempty chain starts with its head. -/
theorem exists_of_head
    {next : α → Option α} {node : α} {nodes : List α}
    (chain : LinkedChain next (some node) nodes) :
    ∃ rest, nodes = node :: rest ∧ LinkedChain next (next node) rest := by
  cases nodes with
  | nil =>
      simp at chain
  | cons first rest =>
      obtain ⟨headEquality, restChain⟩ := chain
      obtain rfl : node = first := by simpa using headEquality
      exact ⟨rest, rfl, restChain⟩

/-- Only the links stored in the nodes of the chain matter. -/
theorem congr
    {next next' : α → Option α} {head : Option α} {nodes : List α}
    (chain : LinkedChain next head nodes)
    (agree : ∀ node ∈ nodes, next' node = next node) :
    LinkedChain next' head nodes := by
  induction nodes generalizing head with
  | nil =>
      exact chain
  | cons node rest ih =>
      obtain ⟨headEquality, restChain⟩ := chain
      refine ⟨headEquality, ?_⟩
      rw [agree node (List.mem_cons_self ..)]
      exact ih restChain
        fun other member => agree other (List.mem_cons_of_mem _ member)

/-- Pushing a node that points at the old head. -/
theorem push
    {next next' : α → Option α} {head : Option α} {nodes : List α} {node : α}
    (chain : LinkedChain next head nodes)
    (link : next' node = head)
    (agree : ∀ other ∈ nodes, next' other = next other) :
    LinkedChain next' (some node) (node :: nodes) := by
  refine ⟨rfl, ?_⟩
  rw [link]
  exact chain.congr agree

/-- The links determine the chain. -/
theorem unique
    {next : α → Option α} {head : Option α} {left right : List α}
    (leftChain : LinkedChain next head left)
    (rightChain : LinkedChain next head right) :
    left = right := by
  induction left generalizing head right with
  | nil =>
      obtain rfl : head = none := leftChain
      cases right with
      | nil => rfl
      | cons node rest => simp at rightChain
  | cons node rest ih =>
      obtain ⟨rfl, restChain⟩ := leftChain
      obtain ⟨others, rfl, othersChain⟩ := rightChain.exists_of_head
      rw [ih restChain othersChain]

/-- The chain `i, i + 1, …` that ends just before `n`. -/
theorem range'
    {next : Nat → Option Nat} {n : Nat}
    (links : ∀ i < n, next i = if i + 1 < n then some (i + 1) else none)
    (start length : Nat) (ends : start + length = n) :
    LinkedChain next (if start < n then some start else none)
      (List.range' start length) := by
  induction length generalizing start with
  | zero =>
      have : ¬ start < n := by omega
      simp [this]
  | succ length ih =>
      have inside : start < n := by omega
      rw [List.range'_succ, cons_iff, links start inside]
      exact ⟨if_pos inside, ih (start + 1) (by omega)⟩

end LinkedChain
