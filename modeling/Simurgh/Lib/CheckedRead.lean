import Simurgh.Lib.Bytes

/-!
# Reading a region of memory

A program that reads numbers out of a region and computes offsets from them goes wrong in two
ways: it reads outside the region, or one of its sums leaves the machine word.  A sum that
leaves the word is a fault in builds with overflow checks, and wraps in builds without.  A
program that keeps what it read can run out of memory besides.
-/

inductive Fault where
  | overflow
  | outside
  | outOfMemory
  deriving DecidableEq, Repr

/-- The result of a program that may go wrong. -/
abbrev Checked (α : Type) : Type := Except Fault α

namespace Checked

variable {α β : Type}

theorem bind_eq_ok {first : Checked α} {next : α → Checked β} {result : β} :
    (first >>= next) = .ok result ↔ ∃ value, first = .ok value ∧ next value = .ok result := by
  cases first with
  | ok value =>
      constructor
      · exact fun ran => ⟨value, rfl, ran⟩
      · rintro ⟨other, same, ran⟩
        obtain rfl := Except.ok.inj same
        exact ran
  | error fault =>
      constructor
      · exact fun ran => nomatch ran
      · rintro ⟨_, same, _⟩
        cases same

theorem bind_of_ok {first : Checked α} {value : α} (ran : first = .ok value)
    (next : α → Checked β) : (first >>= next) = next value := by
  rw [ran]
  rfl

theorem pure_eq_ok {value result : α} : (pure value : Checked α) = .ok result ↔ value = result :=
  ⟨Except.ok.inj, congrArg Except.ok⟩

/-- `left + right` in words of so many bits. -/
def add (width : Nat) (checks : Bool) (left right : Nat) : Checked Nat :=
  if left + right < 2 ^ width then .ok (left + right)
  else if checks then .error .overflow
  else .ok ((left + right) % 2 ^ width)

/-- `left - right` in words of so many bits. -/
def sub (width : Nat) (checks : Bool) (left right : Nat) : Checked Nat :=
  if right ≤ left then .ok (left - right)
  else if checks then .error .overflow
  else .ok (left + 2 ^ width - right)

variable {width left right sum : Nat} {checks : Bool}

theorem add_of_lt (fits : left + right < 2 ^ width) :
    add width checks left right = .ok (left + right) := if_pos fits

theorem add_eq_ok :
    add width true left right = .ok sum ↔ left + right < 2 ^ width ∧ left + right = sum := by
  rw [add]
  by_cases fits : left + right < 2 ^ width
  · rw [if_pos fits, and_iff_right fits]
    exact ⟨Except.ok.inj, congrArg Except.ok⟩
  · rw [if_neg fits, if_pos rfl]
    exact iff_of_false (fun same => nomatch same) (fun both => fits both.1)

theorem sub_of_le (fits : right ≤ left) : sub width checks left right = .ok (left - right) :=
  if_pos fits

theorem sub_eq_ok :
    sub width true left right = .ok sum ↔ right ≤ left ∧ left - right = sum := by
  rw [sub]
  by_cases fits : right ≤ left
  · rw [if_pos fits, and_iff_right fits]
    exact ⟨Except.ok.inj, congrArg Except.ok⟩
  · rw [if_neg fits, if_pos rfl]
    exact iff_of_false (fun same => nomatch same) (fun both => fits both.1)

/-- An allocation, with its outcome. -/
def allocate (granted : Bool) : Checked Unit := if granted then .ok () else .error .outOfMemory

theorem allocate_true : allocate true = .ok () := rfl

theorem allocate_eq_ok {granted : Bool} {value : Unit} :
    allocate granted = .ok value ↔ granted = true := by
  cases granted with
  | false => exact iff_of_false (fun ran => nomatch ran) Bool.false_ne_true
  | true => exact iff_of_true rfl rfl

/-- `iter().sum()` in words of so many bits. -/
def sumOf (width : Nat) (checks : Bool) (words : List Nat) : Checked Nat :=
  words.foldlM (add width checks) 0

theorem foldlM_add {words : List Nat} {start : Nat} (fits : start < 2 ^ width) :
    words.foldlM (add width checks) start =
      if start + words.sum < 2 ^ width then .ok (start + words.sum)
      else if checks then .error .overflow
      else .ok ((start + words.sum) % 2 ^ width) := by
  induction words generalizing start with
  | nil =>
      rw [List.sum_nil, Nat.add_zero, if_pos fits]
      rfl
  | cons word rest ih =>
      rw [List.foldlM_cons, List.sum_cons, ← Nat.add_assoc]
      by_cases small : start + word < 2 ^ width
      · rw [bind_of_ok (add_of_lt small)]
        exact ih small
      · have large : ¬ start + word + rest.sum < 2 ^ width := by omega
        rw [if_neg large, add, if_neg small]
        cases checks with
        | true => rfl
        | false =>
            have wrapped : (start + word) % 2 ^ width < 2 ^ width :=
              Nat.mod_lt _ (Nat.two_pow_pos width)
            have later := ih wrapped
            rw [if_neg Bool.false_ne_true, if_neg Bool.false_ne_true,
              bind_of_ok rfl, later, if_neg Bool.false_ne_true, Nat.mod_add_mod]
            by_cases wraps : (start + word) % 2 ^ width + rest.sum < 2 ^ width
            · rw [if_pos wraps, ← Nat.mod_add_mod (start + word), Nat.mod_eq_of_lt wraps]
            · rw [if_neg wraps]

/-- A sum that leaves the word is a fault or wraps, and no other sum is. -/
theorem sumOf_eq (width : Nat) (checks : Bool) (words : List Nat) :
    sumOf width checks words =
      if words.sum < 2 ^ width then .ok words.sum
      else if checks then .error .overflow
      else .ok (words.sum % 2 ^ width) := by
  rw [sumOf, foldlM_add (Nat.two_pow_pos width), Nat.zero_add]

/-- The bytes of a field, all of which have to be in the region. -/
def readBytes (mem : ByteMemory) (start stop addr len : Nat) : Checked (List UInt8) :=
  if start ≤ addr ∧ addr + len ≤ stop then .ok (mem.read addr len) else .error .outside

variable {mem : ByteMemory} {start stop addr len : Nat} {bytes : List UInt8}

theorem readBytes_of_inside (lower : start ≤ addr) (upper : addr + len ≤ stop) :
    readBytes mem start stop addr len = .ok (mem.read addr len) := if_pos ⟨lower, upper⟩

theorem readBytes_eq_ok :
    readBytes mem start stop addr len = .ok bytes ↔
      start ≤ addr ∧ addr + len ≤ stop ∧ mem.read addr len = bytes := by
  rw [readBytes, ← and_assoc]
  by_cases inside : start ≤ addr ∧ addr + len ≤ stop
  · rw [if_pos inside, and_iff_right inside]
    exact ⟨Except.ok.inj, congrArg Except.ok⟩
  · rw [if_neg inside]
    exact iff_of_false (fun same => nomatch same) (fun both => inside both.1)

end Checked
