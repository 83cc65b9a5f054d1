import Mathlib.Data.Nat.Bitwise

/-!
# Logs of a sticky signal word

Several parties set bits of one word, and others take all bits at once or wait for some.
The log holds what was set, what was taken and who began to wait, the newest entry last.
`Accounts` says how the word and the list of waiters follow from the log.
-/

/-- What happened to the word. -/
inductive SignalEntry (ι : Type) where
  | signalled (bits : Nat)
  | taken (bits : Nat)
  | blocked (thread : ι)
  deriving DecidableEq, Repr

namespace SignalLog

variable {ι : Type}

/-- All bits that were ever set. -/
def signalledBits : List (SignalEntry ι) → Nat
  | [] => 0
  | .signalled bits :: rest => bits ||| signalledBits rest
  | .taken _ :: rest => signalledBits rest
  | .blocked _ :: rest => signalledBits rest

/-- All bits that were ever taken. -/
def takenBits : List (SignalEntry ι) → Nat
  | [] => 0
  | .signalled _ :: rest => takenBits rest
  | .taken bits :: rest => bits ||| takenBits rest
  | .blocked _ :: rest => takenBits rest

/-- The threads of a list, followed by those that the log adds to it. -/
def waitersAfter : List ι → List (SignalEntry ι) → List ι
  | waiters, [] => waiters
  | _, .signalled _ :: rest => waitersAfter [] rest
  | waiters, .taken _ :: rest => waitersAfter waiters rest
  | waiters, .blocked thread :: rest => waitersAfter (waiters ++ [thread]) rest

/-- The threads that began to wait after the last signal. -/
def blockedSince (log : List (SignalEntry ι)) : List ι := waitersAfter [] log

/-- The bit was set, and it was not taken since. -/
def Fresh (log : List (SignalEntry ι)) (bit : Nat) : Prop :=
  ∃ earlier bits later, log = earlier ++ .signalled bits :: later ∧ bits.testBit bit = true ∧
    ∀ taken, .taken taken ∈ later → taken.testBit bit = false

/-- The word and its waiters are what the log says. -/
structure Accounts (log : List (SignalEntry ι)) (word : Nat) (waiters : List ι) : Prop where
  /-- Nothing that was set is lost. -/
  conserved : signalledBits log = takenBits log ||| word
  /-- What is pending is what was set and not taken since. -/
  pending : ∀ bit, word.testBit bit = true ↔ Fresh log bit
  /-- A bit is taken only if it was set and not taken since. -/
  earned : ∀ earlier bits later, log = earlier ++ .taken bits :: later →
    ∀ bit, bits.testBit bit = true → Fresh earlier bit
  waiting : waiters = blockedSince log
  /-- Nobody waits for a signal that is there. -/
  quiet : word ≠ 0 → waiters = []

/-! ## One more entry -/

section Append

variable (log : List (SignalEntry ι))

theorem signalledBits_append (more : List (SignalEntry ι)) :
    signalledBits (log ++ more) = signalledBits log ||| signalledBits more := by
  induction log with
  | nil => exact (Nat.zero_or _).symm
  | cons entry rest ih =>
      cases entry with
      | signalled bits =>
          change bits ||| signalledBits (rest ++ more) = _
          rw [ih, ← Nat.or_assoc]
          rfl
      | taken bits => exact ih
      | blocked thread => exact ih

theorem takenBits_append (more : List (SignalEntry ι)) :
    takenBits (log ++ more) = takenBits log ||| takenBits more := by
  induction log with
  | nil => exact (Nat.zero_or _).symm
  | cons entry rest ih =>
      cases entry with
      | signalled bits => exact ih
      | taken bits =>
          change bits ||| takenBits (rest ++ more) = _
          rw [ih, ← Nat.or_assoc]
          rfl
      | blocked thread => exact ih

theorem waitersAfter_append (waiters : List ι) (more : List (SignalEntry ι)) :
    waitersAfter waiters (log ++ more) = waitersAfter (waitersAfter waiters log) more := by
  induction log generalizing waiters with
  | nil => rfl
  | cons entry rest ih =>
      cases entry with
      | signalled bits => exact ih []
      | taken bits => exact ih waiters
      | blocked thread => exact ih (waiters ++ [thread])

variable {log}

/-- An entry of a longer log is the new one, or it was there before. -/
theorem split_append {entry : SignalEntry ι} {earlier later : List (SignalEntry ι)}
    {found : SignalEntry ι} (split : log ++ [entry] = earlier ++ found :: later) :
    (earlier = log ∧ found = entry ∧ later = []) ∨
      ∃ before, later = before ++ [entry] ∧ log = earlier ++ found :: before := by
  rcases later.eq_nil_or_concat with rfl | ⟨before, last, rfl⟩
  · left
    obtain ⟨front, same⟩ := List.append_inj' split rfl
    exact ⟨front.symm, (List.cons.inj same).1.symm, rfl⟩
  · right
    rw [List.concat_eq_append, ← List.cons_append, ← List.append_assoc] at split
    obtain ⟨front, same⟩ := List.append_inj' split rfl
    rw [(List.cons.inj same).1]
    exact ⟨before, List.concat_eq_append, front⟩

/-- A fresh bit stays so, unless it is taken. -/
theorem Fresh.append {bit : Nat} (fresh : Fresh log bit) {entry : SignalEntry ι}
    (kept : ∀ taken, entry = .taken taken → taken.testBit bit = false) :
    Fresh (log ++ [entry]) bit := by
  obtain ⟨earlier, bits, later, rfl, set, untaken⟩ := fresh
  refine ⟨earlier, bits, later ++ [entry], by simp, set, ?_⟩
  intro taken member
  rcases List.mem_append.1 member with before | last
  · exact untaken taken before
  · exact kept taken (List.mem_singleton.1 last).symm

/-- A fresh bit was set by the last entry, or it was fresh before. -/
theorem Fresh.of_append {bit : Nat} {entry : SignalEntry ι}
    (fresh : Fresh (log ++ [entry]) bit) :
    (∃ bits, entry = .signalled bits ∧ bits.testBit bit = true) ∨
      Fresh log bit ∧ ∀ taken, entry = .taken taken → taken.testBit bit = false := by
  obtain ⟨earlier, bits, later, split, set, untaken⟩ := fresh
  rcases split_append split with ⟨_, last, _⟩ | ⟨before, rfl, there⟩
  · exact Or.inl ⟨bits, last.symm, set⟩
  · right
    constructor
    · refine ⟨earlier, bits, before, there, set, ?_⟩
      intro taken member
      exact untaken taken (List.mem_append_left _ member)
    · rintro taken rfl
      exact untaken taken (List.mem_append_right _ (List.mem_singleton_self _))

theorem fresh_signalled {bits bit : Nat} (set : bits.testBit bit = true) :
    Fresh (log ++ [.signalled bits]) bit :=
  ⟨log, bits, [], rfl, set, fun _ member => absurd member List.not_mem_nil⟩

end Append

/-! ## The three steps -/

namespace Accounts

variable {log : List (SignalEntry ι)} {word : Nat} {waiters : List ι}

/-- Nothing has happened. -/
theorem nil : Accounts ([] : List (SignalEntry ι)) 0 [] where
  conserved := (Nat.or_zero 0).symm
  pending := by
    intro bit
    rw [Nat.zero_testBit]
    constructor
    · intro absurdity
      cases absurdity
    · rintro ⟨earlier, bits, later, split, _⟩
      simp at split
  earned := by
    intro earlier bits later split
    simp at split
  waiting := rfl
  quiet := fun _ => rfl

/-- What was taken before the new entry was earned. -/
private theorem earned_before (accounts : Accounts log word waiters) {entry : SignalEntry ι}
    (last : ∀ bits, entry = .taken bits → bits = word) :
    ∀ earlier bits later, log ++ [entry] = earlier ++ .taken bits :: later →
      ∀ bit, bits.testBit bit = true → Fresh earlier bit := by
  intro earlier bits later split bit set
  rcases split_append split with ⟨rfl, same, _⟩ | ⟨before, _, there⟩
  · rw [last bits same.symm] at set
    exact (accounts.pending bit).1 set
  · exact accounts.earned earlier bits before there bit set

/-- Bits are set, and all threads are woken. -/
theorem signal (accounts : Accounts log word waiters) (bits : Nat) :
    Accounts (log ++ [.signalled bits]) (word ||| bits) [] where
  conserved := by
    rw [signalledBits_append, takenBits_append, accounts.conserved, Nat.or_assoc]
    change _ ||| (word ||| (bits ||| 0)) = takenBits log ||| 0 ||| (word ||| bits)
    rw [Nat.or_zero, Nat.or_zero]
  pending := by
    intro bit
    rw [Nat.testBit_or, Bool.or_eq_true, accounts.pending]
    constructor
    · rintro (fresh | set)
      · apply fresh.append
        intro taken absurdity
        cases absurdity
      · exact fresh_signalled set
    · intro fresh
      rcases fresh.of_append with ⟨more, same, set⟩ | ⟨before, _⟩
      · cases same
        exact Or.inr set
      · exact Or.inl before
  earned := by
    apply accounts.earned_before
    intro other absurdity
    cases absurdity
  waiting := by
    rw [blockedSince, waitersAfter_append]
    rfl
  quiet := fun _ => rfl

/-- All bits are taken. -/
theorem take (accounts : Accounts log word waiters) :
    Accounts (log ++ [.taken word]) 0 waiters where
  conserved := by
    rw [signalledBits_append, takenBits_append, accounts.conserved]
    change _ ||| word ||| 0 = takenBits log ||| (word ||| 0) ||| 0
    rw [Nat.or_zero, Nat.or_zero, Nat.or_zero]
  pending := by
    intro bit
    rw [Nat.zero_testBit]
    constructor
    · intro absurdity
      cases absurdity
    · intro fresh
      rcases fresh.of_append with ⟨more, same, _⟩ | ⟨before, untaken⟩
      · cases same
      · have set := (accounts.pending bit).2 before
        rw [untaken word rfl] at set
        cases set
  earned := by
    apply accounts.earned_before
    intro bits same
    exact (SignalEntry.taken.inj same).symm
  waiting := by
    rw [blockedSince, waitersAfter_append]
    exact accounts.waiting
  quiet := fun pending => absurd rfl pending

/-- A thread waits, as there is nothing to take. -/
theorem block (accounts : Accounts log 0 waiters) (thread : ι) :
    Accounts (log ++ [.blocked thread]) 0 (waiters ++ [thread]) where
  conserved := by
    rw [signalledBits_append, takenBits_append, accounts.conserved]
    rfl
  pending := by
    intro bit
    rw [accounts.pending]
    constructor
    · intro fresh
      apply fresh.append
      intro taken absurdity
      cases absurdity
    · intro fresh
      rcases fresh.of_append with ⟨more, same, _⟩ | ⟨before, _⟩
      · cases same
      · exact before
  earned := by
    apply accounts.earned_before
    intro bits absurdity
    cases absurdity
  waiting := by
    rw [blockedSince, waitersAfter_append, accounts.waiting]
    rfl
  quiet := fun pending => absurd rfl pending

end Accounts

end SignalLog
