import Mathlib.Order.Nat
import Mathlib.Tactic.Common

/-!
# Nested bump arenas

An arena is a range of addresses whose first part has been handed out.  Carving
hands out the next part, which may become the home of smaller arenas.  Of any two
arenas in a `Nested` family, they are apart or one lies in the used part of the
other.
-/

/-- The addresses from `start` up to, but not including, `stop`. -/
structure Span where
  start : Nat
  stop : Nat
  deriving DecidableEq, Repr

namespace Span

variable {a b c : Span}

def Apart (a b : Span) : Prop := a.stop ≤ b.start ∨ b.stop ≤ a.start

def Within (a b : Span) : Prop := b.start ≤ a.start ∧ a.stop ≤ b.stop

instance (a b : Span) : Decidable (a.Apart b) :=
  inferInstanceAs (Decidable (_ ∨ _))

theorem Apart.symm (apart : a.Apart b) : b.Apart a :=
  Or.symm apart

theorem Apart.mono (apart : a.Apart b) (inside : c.Within a) : c.Apart b := by
  rcases apart with before | behind
  · exact Or.inl (inside.2.trans before)
  · exact Or.inr (behind.trans inside.1)

theorem Within.trans (inner : a.Within b) (outer : b.Within c) : a.Within c :=
  ⟨outer.1.trans inner.1, inner.2.trans outer.2⟩

end Span

/-- A range of addresses that was handed out up to `mark`. -/
structure Arena where
  start : Nat
  mark : Nat
  stop : Nat

namespace Arena

def span (arena : Arena) : Span := ⟨arena.start, arena.stop⟩

def used (arena : Arena) : Span := ⟨arena.start, arena.mark⟩

end Arena

section Families

variable {ι : Type} {before after arenas : ι → Option Arena} {i : ι} {span other : Span}

/-- Two arenas are apart, or one lies in the used part of the other. -/
structure Nested (arenas : ι → Option Arena) : Prop where
  ordered : ∀ i a, arenas i = some a → a.start ≤ a.mark ∧ a.mark ≤ a.stop
  related : ∀ i j a b, i ≠ j → arenas i = some a → arenas j = some b →
    a.span.Apart b.span ∨ a.span.Within b.used ∨ b.span.Within a.used

/-- The span was handed out and no arena lies in it. -/
structure Settled (arenas : ι → Option Arena) (span : Span) : Prop where
  inside : ∃ i a, arenas i = some a ∧ span.Within a.used
  clear : ∀ i a, arenas i = some a → span.Apart a.span ∨ span.Within a.used

/-! ## Carving -/

/-- The arena `i` hands out the next `span`. -/
structure Carves (before after : ι → Option Arena) (i : ι) (span : Span) : Prop where
  taken : ∃ a, before i = some a ∧ a.mark ≤ span.start ∧ span.start ≤ span.stop ∧
    span.stop ≤ a.stop ∧ after i = some { a with mark := span.stop }
  others : ∀ j, j ≠ i → after j = before j

namespace Carves

variable (carves : Carves before after i span)

include carves

/-- Every arena keeps its range, and none gives anything back. -/
theorem grows {j : ι} {later : Arena} (present : after j = some later) :
    ∃ a, before j = some a ∧ later.span = a.span ∧ a.mark ≤ later.mark := by
  by_cases same : j = i
  · subst same
    obtain ⟨a, there, below, ordered, _, stored⟩ := carves.taken
    rw [stored, Option.some.injEq] at present
    subst present
    exact ⟨a, there, rfl, below.trans ordered⟩
  · rw [carves.others j same] at present
    exact ⟨later, present, rfl, Nat.le_refl _⟩

theorem nested (nested : Nested before) : Nested after where
  ordered := by
    intro j later present
    by_cases same : j = i
    · subst same
      obtain ⟨a, there, below, ordered, fits, stored⟩ := carves.taken
      have arenaOrdered := nested.ordered j a there
      rw [stored, Option.some.injEq] at present
      subst present
      exact ⟨arenaOrdered.1.trans (below.trans ordered), fits⟩
    · rw [carves.others j same] at present
      exact nested.ordered j later present
  related := by
    intro j k first second ne firstThere secondThere
    obtain ⟨a, aThere, aSpan, aMark⟩ := carves.grows firstThere
    obtain ⟨b, bThere, bSpan, bMark⟩ := carves.grows secondThere
    have firstStart : first.start = a.start := congrArg Span.start aSpan
    have secondStart : second.start = b.start := congrArg Span.start bSpan
    rw [aSpan, bSpan]
    rcases nested.related j k a b ne aThere bThere with apart | inside | inside
    · exact Or.inl apart
    · exact Or.inr (Or.inl ⟨secondStart.trans_le inside.1, inside.2.trans bMark⟩)
    · exact Or.inr (Or.inr ⟨firstStart.trans_le inside.1, inside.2.trans aMark⟩)

/-- What was settled stays settled. -/
theorem keeps (settled : Settled before other) : Settled after other where
  inside := by
    obtain ⟨j, a, present, inside⟩ := settled.inside
    by_cases same : j = i
    · subst same
      obtain ⟨arena, there, below, ordered, _, stored⟩ := carves.taken
      obtain rfl := Option.some.inj (present.symm.trans there)
      exact ⟨j, _, stored, inside.1, inside.2.trans (below.trans ordered)⟩
    · exact ⟨j, a, (carves.others j same).trans present, inside⟩
  clear := by
    intro j later present
    obtain ⟨a, there, sameSpan, mark⟩ := carves.grows present
    have start : later.start = a.start := congrArg Span.start sameSpan
    rw [sameSpan]
    rcases settled.clear j a there with apart | inside
    · exact Or.inl apart
    · exact Or.inr ⟨start.trans_le inside.1, inside.2.trans mark⟩

/-- The new span is settled. -/
theorem settled (nested : Nested before) : Settled after span where
  inside := by
    obtain ⟨a, there, below, _, _, stored⟩ := carves.taken
    exact ⟨i, _, stored, (nested.ordered i a there).1.trans below, Nat.le_refl _⟩
  clear := by
    obtain ⟨a, there, below, _, fits, stored⟩ := carves.taken
    have aOrdered := nested.ordered i a there
    intro j later present
    by_cases same : j = i
    · subst same
      rw [stored, Option.some.injEq] at present
      subst present
      exact Or.inr ⟨aOrdered.1.trans below, Nat.le_refl _⟩
    · rw [carves.others j same] at present
      have inArena : span.Within a.span := ⟨aOrdered.1.trans below, fits⟩
      rcases nested.related i j a later (Ne.symm same) there present with
        apart | inside | inside
      · exact Or.inl (apart.mono inArena)
      · exact Or.inr (inArena.trans inside)
      · -- The other arena lies in the part that was used before.
        exact Or.inl (Or.inr (inside.2.trans below))

/-- What was settled before is apart from the new span. -/
theorem apart_settled (nested : Nested before) (settled : Settled before other) :
    other.Apart span := by
  obtain ⟨a, there, below, _, fits, _⟩ := carves.taken
  rcases settled.clear i a there with apart | inside
  · refine (apart.symm.mono ?_).symm
    exact ⟨(nested.ordered i a there).1.trans below, fits⟩
  · exact Or.inl (inside.2.trans below)

/-- The new span meets the first block of an arena only at its start, and then the
arena that was carved starts there too and was untouched. -/
theorem first_block {j : ι} {b : Arena} {size : Nat} (nested : Nested before)
    (present : before j = some b) (fits : b.start + size ≤ b.stop)
    (spanAligned : size ∣ span.start) (blockAligned : size ∣ b.start)
    (meets : ¬ Span.Apart ⟨b.start, b.start + size⟩ span) :
    ∃ a, before i = some a ∧ a.mark = a.start ∧ a.start = b.start := by
  obtain ⟨a, there, below, _, inside, _⟩ := carves.taken
  have aOrdered := nested.ordered i a there
  have overlap : span.start < b.start + size ∧ b.start < span.stop := by
    unfold Span.Apart at meets
    simp only at meets
    omega
  have starts : span.start ≤ b.start :=
    Nat.le_of_lt_add_of_dvd overlap.1 spanAligned blockAligned
  refine ⟨a, there, ?_⟩
  by_cases same : i = j
  · subst same
    obtain rfl := Option.some.inj (there.symm.trans present)
    omega
  · rcases nested.related i j a b same there present with apart | inner | inner
    · unfold Span.Apart Arena.span at apart
      simp only at apart
      omega
    · unfold Span.Within Arena.span Arena.used at inner
      simp only at inner
      omega
    · unfold Span.Within Arena.span Arena.used at inner
      simp only at inner
      omega

end Carves

/-- A settled span meets the first block of an arena only at its start. -/
theorem Settled.start_eq {b : Arena} {size : Nat} (settled : Settled arenas span)
    (present : arenas i = some b) (fits : b.start + size ≤ b.stop)
    (spanAligned : size ∣ span.start) (blockAligned : size ∣ b.start)
    (meets : ¬ Span.Apart ⟨b.start, b.start + size⟩ span) : span.start = b.start := by
  have overlap : span.start < b.start + size ∧ b.start < span.stop := by
    unfold Span.Apart at meets
    simp only at meets
    omega
  have starts : span.start ≤ b.start :=
    Nat.le_of_lt_add_of_dvd overlap.1 spanAligned blockAligned
  rcases settled.clear i b present with apart | inside
  · unfold Span.Apart Arena.span at apart
    simp only at apart
    omega
  · exact Nat.le_antisymm starts inside.1

/-! ## New arenas -/

/-- New arenas appear inside `span`. -/
structure Hatches (before after : ι → Option Arena) (span : Span) : Prop where
  grows : ∀ j, after j = before j ∨ before j = none ∧ ∃ child, after j = some child ∧
    child.span.Within span ∧ child.start ≤ child.mark ∧ child.mark ≤ child.stop
  separate : ∀ j k first second, j ≠ k → before j = none → before k = none →
    after j = some first → after k = some second → first.span.Apart second.span

namespace Hatches

variable (hatches : Hatches before after span)

include hatches

theorem kept {j : ι} {a : Arena} (present : before j = some a) : after j = some a := by
  rcases hatches.grows j with same | ⟨vacant, _⟩
  · exact same.trans present
  · rw [present] at vacant
    simp at vacant

theorem old_or_new {j : ι} {a : Arena} (present : after j = some a) :
    before j = some a ∨ before j = none ∧ a.span.Within span ∧
      a.start ≤ a.mark ∧ a.mark ≤ a.stop := by
  rcases hatches.grows j with same | ⟨vacant, child, there, facts⟩
  · exact Or.inl (same.symm.trans present)
  · obtain rfl := Option.some.inj (present.symm.trans there)
    exact Or.inr ⟨vacant, facts⟩

theorem nested (nested : Nested before) (settled : Settled before span) : Nested after where
  ordered := by
    intro j a present
    rcases hatches.old_or_new present with old | ⟨_, _, ordered⟩
    · exact nested.ordered j a old
    · exact ordered
  related := by
    have oldNew : ∀ (j : ι) (a child : Arena), before j = some a → child.span.Within span →
        a.span.Apart child.span ∨ child.span.Within a.used := by
      intro j a child old inside
      rcases settled.clear j a old with apart | inner
      · exact Or.inl (apart.mono inside).symm
      · exact Or.inr (inside.trans inner)
    intro j k a b ne aThere bThere
    rcases hatches.old_or_new aThere with aOld | ⟨aVacant, aInside, _⟩
    · rcases hatches.old_or_new bThere with bOld | ⟨_, bInside, _⟩
      · exact nested.related j k a b ne aOld bOld
      · exact (oldNew j a b aOld bInside).imp_right Or.inr
    · rcases hatches.old_or_new bThere with bOld | ⟨bVacant, _⟩
      · exact (oldNew k b a bOld aInside).imp Span.Apart.symm Or.inl
      · exact Or.inl (hatches.separate j k a b ne aVacant bVacant aThere bThere)

/-- A settled span apart from the new arenas' home stays settled. -/
theorem keeps (settled : Settled before other) (apart : other.Apart span) :
    Settled after other where
  inside := by
    obtain ⟨j, a, present, inside⟩ := settled.inside
    exact ⟨j, a, hatches.kept present, inside⟩
  clear := by
    intro j a present
    rcases hatches.old_or_new present with old | ⟨_, inside, _⟩
    · exact settled.clear j a old
    · exact Or.inl (apart.symm.mono inside).symm

end Hatches

end Families
