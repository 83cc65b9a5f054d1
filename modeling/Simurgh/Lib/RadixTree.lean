import Mathlib.Tactic.Common

/-!
# Trees of tables

A store holds tables of words, and a word can lead to another table.  A walk follows the
words along a path of indices.  The tables below a root form a tree if no two paths lead to
the same table.  Two updates keep this: a blank table is linked into an empty word, and a
word of the last level is replaced.
-/

namespace RadixTree

/-- What a walk makes of a word. -/
structure Reading (φ ω τ : Type) where
  /-- The table that a word above the last level leads to. -/
  next : ω → Option φ
  /-- What a word that leads on does to the result below it. -/
  through : ω → τ → τ
  /-- The result of a walk that ends with the word, so many levels above the last. -/
  stop : Nat → ω → Option τ

variable {φ κ ω τ : Type} (read : Reading φ ω τ)

/-- The table at the end of a path. -/
def follow (store : φ → κ → ω) : List κ → φ → Option φ
  | [], table => some table
  | i :: rest, table => (read.next (store table i)).bind (follow store rest)

/-- What the words of a path do to a result below them. -/
def limits (store : φ → κ → ω) : List κ → φ → τ → τ
  | [], _ => id
  | i :: rest, table =>
      match read.next (store table i) with
      | none => id
      | some next => read.through (store table i) ∘ limits store rest next

/-- The result of a walk along a path, with the index in the table at its end. -/
def walk (store : φ → κ → ω) : List κ → κ → φ → Option τ
  | [], last, table => read.stop 0 (store table last)
  | i :: rest, last, table =>
      match read.next (store table i) with
      | none => read.stop (rest.length + 1) (store table i)
      | some next => (walk store rest last next).map (read.through (store table i))

/-- No two paths lead to one table. -/
def IsTree (store : φ → κ → ω) (root : φ) (depth : Nat) : Prop :=
  ∀ p q table, p.length ≤ depth → q.length ≤ depth →
    follow read store p root = some table → follow read store q root = some table → p = q

/-- A table below the root. -/
def Node (store : φ → κ → ω) (root : φ) (depth : Nat) (table : φ) : Prop :=
  ∃ p, p.length ≤ depth ∧ follow read store p root = some table

/-- Replace one word. -/
def put [DecidableEq φ] [DecidableEq κ] (store : φ → κ → ω) (table : φ) (i : κ) (word : ω) :
    φ → κ → ω :=
  fun other j => if other = table ∧ j = i then word else store other j

/-- The table leads nowhere and holds nothing. -/
def Blank (store : φ → κ → ω) (table : φ) : Prop :=
  ∀ i, read.next (store table i) = none ∧ ∀ level, read.stop level (store table i) = none

variable {read}

/-! ## Paths in two parts -/

section Append

variable {store : φ → κ → ω} {p : List κ} {root table : φ}

theorem follow_append (p q : List κ) (root : φ) :
    follow read store (p ++ q) root =
      (follow read store p root).bind (follow read store q) := by
  induction p generalizing root with
  | nil => rfl
  | cons i rest ih =>
      change (read.next (store root i)).bind (follow read store (rest ++ q)) =
        ((read.next (store root i)).bind (follow read store rest)).bind (follow read store q)
      cases read.next (store root i) with
      | none => rfl
      | some next => exact ih next

theorem follow_append_of_some (here : follow read store p root = some table) (q : List κ) :
    follow read store (p ++ q) root = follow read store q table := by
  rw [follow_append, here]
  rfl

theorem limits_append_of_some (here : follow read store p root = some table) (q : List κ) :
    limits read store (p ++ q) root =
      limits read store p root ∘ limits read store q table := by
  induction p generalizing root with
  | nil =>
      obtain rfl := Option.some.inj here
      rfl
  | cons i rest ih =>
      rw [follow] at here
      rw [List.cons_append, limits, limits]
      cases leads : read.next (store root i) with
      | none =>
          rw [leads] at here
          cases here
      | some next =>
          rw [leads] at here
          change read.through (store root i) ∘ limits read store (rest ++ q) next = _
          rw [ih here]
          rfl

theorem walk_append_of_some (here : follow read store p root = some table) (q : List κ)
    (last : κ) :
    walk read store (p ++ q) last root =
      (walk read store q last table).map (limits read store p root) := by
  induction p generalizing root with
  | nil =>
      obtain rfl := Option.some.inj here
      exact Option.map_id_apply.symm
  | cons i rest ih =>
      rw [follow] at here
      rw [List.cons_append, walk, limits]
      cases leads : read.next (store root i) with
      | none =>
          rw [leads] at here
          cases here
      | some next =>
          rw [leads] at here
          change (walk read store (rest ++ q) last next).map (read.through (store root i)) = _
          rw [ih here, Option.map_map]

/-- What every word gives and every word on the way keeps, a walk gives. -/
theorem walk_invariant {invariant : τ → Prop}
    (stops : ∀ level word result, read.stop level word = some result → invariant result)
    (keeps : ∀ word result, invariant result → invariant (read.through word result))
    {path : List κ} {last : κ} {result : τ}
    (walked : walk read store path last table = some result) : invariant result := by
  induction path generalizing table result with
  | nil => exact stops 0 _ result walked
  | cons i rest ih =>
      rw [walk] at walked
      cases leads : read.next (store table i) with
      | none =>
          rw [leads] at walked
          exact stops _ _ result walked
      | some next =>
          rw [leads] at walked
          obtain ⟨below, found, rfl⟩ := Option.map_eq_some_iff.1 walked
          exact keeps _ _ (ih found)

end Append

/-! ## Walks that see the same words -/

section Agree

variable {store later : φ → κ → ω} {path : List κ} {table : φ}

/-- The two stores hold the same words along the path. -/
def AgreeAlong (read : Reading φ ω τ) (store later : φ → κ → ω) (path : List κ) (root : φ) :
    Prop :=
  ∀ done i rest table, path = done ++ i :: rest → follow read store done root = some table →
    later table i = store table i

theorem AgreeAlong.head {i : κ} {rest : List κ}
    (agree : AgreeAlong read store later (i :: rest) table) :
    later table i = store table i :=
  agree [] i rest table rfl rfl

theorem AgreeAlong.tail {i : κ} {rest : List κ} {next : φ}
    (agree : AgreeAlong read store later (i :: rest) table)
    (leads : read.next (store table i) = some next) :
    AgreeAlong read store later rest next := by
  intro done j others other split here
  apply agree (i :: done) j others other
  · rw [split]
    rfl
  · rw [follow, leads]
    exact here

theorem follow_congr (agree : AgreeAlong read store later path table) :
    follow read later path table = follow read store path table := by
  induction path generalizing table with
  | nil => rfl
  | cons i rest ih =>
      rw [follow, follow, agree.head]
      cases leads : read.next (store table i) with
      | none => rfl
      | some next => exact ih (agree.tail leads)

theorem limits_congr (agree : AgreeAlong read store later path table) :
    limits read later path table = limits read store path table := by
  induction path generalizing table with
  | nil => rfl
  | cons i rest ih =>
      rw [limits, limits, agree.head]
      cases leads : read.next (store table i) with
      | none => rfl
      | some next =>
          change read.through (store table i) ∘ limits read later rest next =
            read.through (store table i) ∘ limits read store rest next
          rw [ih (agree.tail leads)]

theorem walk_congr {last : κ} (agree : AgreeAlong read store later path table)
    (same : ∀ end_, follow read store path table = some end_ →
      later end_ last = store end_ last) :
    walk read later path last table = walk read store path last table := by
  induction path generalizing table with
  | nil => rw [walk, walk, same table rfl]
  | cons i rest ih =>
      rw [walk, walk, agree.head]
      cases leads : read.next (store table i) with
      | none => rfl
      | some next =>
          change (walk read later rest last next).map _ = (walk read store rest last next).map _
          rw [ih (agree.tail leads)]
          intro end_ here
          apply same
          rw [follow, leads]
          exact here

end Agree

/-! ## Updates -/

section Updates

variable [DecidableEq φ] [DecidableEq κ]
variable {store : φ → κ → ω} {root table : φ} {depth : Nat} {p : List κ} {i : κ} {word : ω}

@[simp]
theorem put_self (store : φ → κ → ω) (table : φ) (i : κ) (word : ω) :
    put store table i word table i = word :=
  if_pos ⟨rfl, rfl⟩

theorem put_of_ne {other : φ} (ne : other ≠ table) (j : κ) :
    put store table i word other j = store other j :=
  if_neg fun same => ne same.1

/-- A walk that is elsewhere in the tree does not see the new word. -/
theorem put_elsewhere (tree : IsTree read store root depth)
    (here : follow read store p root = some table) (short : p.length ≤ depth)
    {done : List κ} {other : φ} {j : κ} (there : follow read store done root = some other)
    (inside : done.length ≤ depth) (elsewhere : ¬ (done = p ∧ j = i)) :
    put store table i word other j = store other j := by
  apply if_neg
  rintro ⟨rfl, rfl⟩
  exact elsewhere ⟨tree done p _ inside short there here, rfl⟩

/-- A path that does not run through the new word. -/
theorem agreeAlong_put (tree : IsTree read store root depth)
    (here : follow read store p root = some table) (short : p.length ≤ depth)
    {path : List κ} (bounded : path.length ≤ depth)
    (apart : ∀ rest, path ≠ p ++ i :: rest) :
    AgreeAlong read store (put store table i word) path root := by
  intro done j rest other split there
  apply put_elsewhere tree here short there
  · rw [split, List.length_append] at bounded
    omega
  · rintro ⟨rfl, rfl⟩
    exact apart rest split

/-- A blank table was linked into the tree, and nothing else has changed. -/
structure Linked (read : Reading φ ω τ) (store later : φ → κ → ω) (root : φ) (depth : Nat)
    (path : List κ) (table : φ) : Prop where
  tree : IsTree read later root depth
  follows : ∀ q end_, q.length ≤ depth →
    (follow read later q root = some end_ ↔
      follow read store q root = some end_ ∨ q = path ∧ end_ = table)
  limits : ∀ q, q.length ≤ depth → limits read later q root = limits read store q root
  walks : ∀ q last, q.length = depth → walk read later q last root = walk read store q last root

/-- The word is empty, and what replaces it leads to a blank table outside the tree. -/
structure CanLink (read : Reading φ ω τ) (store : φ → κ → ω) (root : φ) (depth : Nat)
    (p : List κ) (table : φ) (i : κ) (word : ω) (blank : φ) : Prop where
  tree : IsTree read store root depth
  here : follow read store p root = some table
  short : p.length < depth
  empty : read.next (store table i) = none
  nothing : ∀ level, read.stop level (store table i) = none
  leads : read.next word = some blank
  clear : read.through word = id
  fresh : ¬ Node read store root depth blank
  isBlank : Blank read store blank

namespace CanLink

variable {blank : φ}

/-- Paths that do not run through the new word. -/
theorem agree (can : CanLink read store root depth p table i word blank) {path : List κ}
    (bounded : path.length ≤ depth) (away : ∀ rest, path ≠ p ++ i :: rest) :
    AgreeAlong read store (put store table i word) path root :=
  agreeAlong_put can.tree can.here (Nat.le_of_lt can.short) bounded away

theorem stays_blank (can : CanLink read store root depth p table i word blank) (j : κ) :
    put store table i word blank j = store blank j := by
  apply put_of_ne
  rintro rfl
  exact can.fresh ⟨p, Nat.le_of_lt can.short, can.here⟩

theorem agree_here (can : CanLink read store root depth p table i word blank) :
    AgreeAlong read store (put store table i word) p root :=
  can.agree (Nat.le_of_lt can.short) fun _ same =>
    List.cons_ne_nil _ _ (List.self_eq_append_right.1 same)

theorem still_here (can : CanLink read store root depth p table i word blank) :
    follow read (put store table i word) p root = some table := by
  rw [follow_congr can.agree_here, can.here]

omit [DecidableEq φ] [DecidableEq κ] in
/-- Nothing was below the word. -/
theorem follow_before (can : CanLink read store root depth p table i word blank)
    (rest : List κ) : follow read store (p ++ i :: rest) root = none := by
  rw [follow_append_of_some can.here, follow, can.empty]
  rfl

/-- The blank table is below the new word, and nothing is below it. -/
theorem follow_after (can : CanLink read store root depth p table i word blank)
    (rest : List κ) :
    follow read (put store table i word) (p ++ i :: rest) root =
      if rest = [] then some blank else none := by
  rw [follow_append_of_some can.still_here, follow, put_self, can.leads]
  cases rest with
  | nil => rfl
  | cons j rest =>
      change (read.next (put store table i word blank j)).bind _ = none
      rw [can.stays_blank, (can.isBlank j).1]
      rfl

theorem follows (can : CanLink read store root depth p table i word blank) {q : List κ}
    {end_ : φ} (bounded : q.length ≤ depth) :
    follow read (put store table i word) q root = some end_ ↔
      follow read store q root = some end_ ∨ q = p ++ [i] ∧ end_ = blank := by
  by_cases through : ∃ rest, q = p ++ i :: rest
  · obtain ⟨rest, rfl⟩ := through
    rw [can.follow_after, can.follow_before]
    have same : p ++ i :: rest = p ++ [i] ↔ rest = [] := by
      rw [List.append_cancel_left_eq, List.cons.injEq]
      exact and_iff_right rfl
    by_cases ends : rest = []
    · rw [if_pos ends, same, Option.some.injEq]
      simp [ends, eq_comm]
    · rw [if_neg ends, same]
      simp [ends]
  · have away : ∀ rest, q ≠ p ++ i :: rest := fun rest same => through ⟨rest, same⟩
    rw [follow_congr (can.agree bounded away)]
    constructor
    · exact Or.inl
    · rintro (old | ⟨same, _⟩)
      · exact old
      · exact absurd same (away [])

/-- Two paths to one table are both old, or both lead to the new one. -/
theorem isTree (can : CanLink read store root depth p table i word blank) :
    IsTree read (put store table i word) root depth := by
  intro left right end_ leftBounded rightBounded leftEnds rightEnds
  rcases (can.follows leftBounded).1 leftEnds with leftOld | ⟨leftNew, isNew⟩
  · rcases (can.follows rightBounded).1 rightEnds with rightOld | ⟨_, rfl⟩
    · exact can.tree left right end_ leftBounded rightBounded leftOld rightOld
    · exact absurd ⟨left, leftBounded, leftOld⟩ can.fresh
  · rcases (can.follows rightBounded).1 rightEnds with rightOld | ⟨rightNew, _⟩
    · rw [isNew] at rightOld
      exact absurd ⟨right, rightBounded, rightOld⟩ can.fresh
    · rw [leftNew, rightNew]

theorem same_limits (can : CanLink read store root depth p table i word blank) {q : List κ}
    (bounded : q.length ≤ depth) :
    limits read (put store table i word) q root = limits read store q root := by
  by_cases through : ∃ rest, q = p ++ i :: rest
  · obtain ⟨rest, rfl⟩ := through
    rw [limits_append_of_some can.still_here, limits_append_of_some can.here,
      limits_congr can.agree_here]
    congr 1
    rw [limits, limits, put_self, can.leads, can.empty]
    change read.through word ∘ limits read (put store table i word) rest blank = id
    rw [can.clear]
    cases rest with
    | nil => rfl
    | cons j rest =>
        rw [limits, can.stays_blank, (can.isBlank j).1]
        rfl
  · exact limits_congr (can.agree bounded fun rest same => through ⟨rest, same⟩)

/-- The walks that came to nothing at the word come to nothing in the blank table. -/
theorem same_walk (can : CanLink read store root depth p table i word blank) {q : List κ}
    (whole : q.length = depth) (last : κ) :
    walk read (put store table i word) q last root = walk read store q last root := by
  by_cases through : ∃ rest, q = p ++ i :: rest
  · obtain ⟨rest, rfl⟩ := through
    have before : walk read store (i :: rest) last table = none := by
      rw [walk, can.empty]
      exact can.nothing _
    have inBlank : walk read (put store table i word) rest last blank = none := by
      cases rest with
      | nil =>
          rw [walk, can.stays_blank]
          exact (can.isBlank last).2 0
      | cons j rest =>
          rw [walk, can.stays_blank, (can.isBlank j).1]
          exact (can.isBlank j).2 _
    have after : walk read (put store table i word) (i :: rest) last table = none := by
      rw [walk, put_self, can.leads]
      change (walk read (put store table i word) rest last blank).map _ = none
      rw [inBlank]
      rfl
    rw [walk_append_of_some can.still_here, walk_append_of_some can.here, before, after]
    rfl
  · have bounded : q.length ≤ depth := Nat.le_of_eq whole
    apply walk_congr (can.agree bounded fun rest same => through ⟨rest, same⟩)
    intro end_ there
    apply put_elsewhere can.tree can.here (Nat.le_of_lt can.short) there bounded
    rintro ⟨rfl, _⟩
    have := can.short
    omega

/-- Link a blank table into an empty word. -/
theorem linked (can : CanLink read store root depth p table i word blank) :
    Linked read store (put store table i word) root depth (p ++ [i]) blank where
  tree := can.isTree
  follows := fun _ _ bounded => can.follows bounded
  limits := fun _ bounded => can.same_limits bounded
  walks := fun _ last whole => can.same_walk whole last

end CanLink

/-- A word of the last level was replaced, and nothing else has changed. -/
structure Stored (read : Reading φ ω τ) (store later : φ → κ → ω) (root : φ) (depth : Nat)
    (path : List κ) (i : κ) (word : ω) : Prop where
  tree : IsTree read later root depth
  follows : ∀ q, q.length ≤ depth → follow read later q root = follow read store q root
  limits : ∀ q, q.length ≤ depth → limits read later q root = limits read store q root
  here : walk read later path i root =
    (read.stop 0 word).map (RadixTree.limits read store path root)
  others : ∀ q last, q.length = depth → ¬ (q = path ∧ last = i) →
    walk read later q last root = walk read store q last root

/-- Replace a word of the last level. -/
theorem stored_put (tree : IsTree read store root depth)
    (here : follow read store p root = some table) (whole : p.length = depth) (i : κ)
    (word : ω) : Stored read store (put store table i word) root depth p i word := by
  let later := put store table i word
  have agree : ∀ path : List κ, path.length ≤ depth → AgreeAlong read store later path root := by
    intro path bounded
    apply agreeAlong_put tree here (Nat.le_of_eq whole) bounded
    intro rest same
    rw [same, List.length_append, List.length_cons] at bounded
    omega
  have follows : ∀ q, q.length ≤ depth →
      follow read later q root = follow read store q root :=
    fun q bounded => follow_congr (agree q bounded)
  refine ⟨?_, follows, fun q bounded => limits_congr (agree q bounded), ?_, ?_⟩
  · intro left right end_ leftBounded rightBounded leftEnds rightEnds
    rw [follows left leftBounded] at leftEnds
    rw [follows right rightBounded] at rightEnds
    exact tree left right end_ leftBounded rightBounded leftEnds rightEnds
  · have bounded : p.length ≤ depth := Nat.le_of_eq whole
    have still : follow read later p root = some table := by
      rw [follows p bounded, here]
    have ends := walk_append_of_some still [] i
    rw [List.append_nil, walk, limits_congr (agree p bounded)] at ends
    rw [ends]
    congr 2
    exact put_self store table i word
  · intro q last full ne
    apply walk_congr (agree q (Nat.le_of_eq full))
    intro end_ there
    exact put_elsewhere tree here (Nat.le_of_eq whole) there (Nat.le_of_eq full) ne

end Updates

end RadixTree
