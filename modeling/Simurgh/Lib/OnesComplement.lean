import Mathlib.Tactic.Common
import Mathlib.Data.Nat.ModEq

/-!
# Ones' complement checksums

Bytes are summed up as 16-bit words, the high byte first, and a last odd byte as the high byte
of a word.  Carries are added back in until none is left.  A number and its folded value are
the same modulo `0xFFFF`, and only zero is folded to zero.
-/

namespace OnesComplement

/-- The sum of the words. -/
def wordSum : List UInt8 → Nat
  | [] => 0
  | [last] => last.toNat * 256
  | high :: low :: rest => high.toNat * 256 + low.toNat + wordSum rest

/-- Add the carries back in, until there are none. -/
def fold (sum : Nat) : Nat :=
  if sum < 65536 then sum else fold (sum % 65536 + sum / 65536)
termination_by sum
decreasing_by omega

variable {sum : Nat} {front back : List UInt8}

/-! ## Folding -/

theorem fold_lt (sum : Nat) : fold sum < 65536 := by
  induction sum using fold.induct with
  | case1 sum small =>
      rw [fold, if_pos small]
      exact small
  | case2 sum large ih =>
      rw [fold, if_neg large]
      exact ih

theorem fold_modEq (sum : Nat) : fold sum ≡ sum [MOD 65535] := by
  induction sum using fold.induct with
  | case1 sum small =>
      rw [fold, if_pos small]
  | case2 sum large ih =>
      rw [fold, if_neg large]
      apply ih.trans
      unfold Nat.ModEq
      omega

theorem fold_pos (positive : 0 < sum) : 0 < fold sum := by
  induction sum using fold.induct with
  | case1 sum small =>
      rw [fold, if_pos small]
      exact positive
  | case2 sum large ih =>
      rw [fold, if_neg large]
      exact ih (by omega)

/-- A sum that has its complement in it is folded to ones. -/
theorem fold_add_complement (sum : Nat) : fold (sum + (65535 - fold sum)) = 65535 := by
  have bound := fold_lt sum
  have same := fold_modEq sum
  have whole := fold_modEq (sum + (65535 - fold sum))
  have wholeBound := fold_lt (sum + (65535 - fold sum))
  have positive : 0 < sum + (65535 - fold sum) := by
    cases Nat.eq_zero_or_pos sum with
    | inl zero =>
        rw [zero, fold, if_pos (by decide)]
        decide
    | inr more => omega
  have wholePositive := fold_pos positive
  unfold Nat.ModEq at same whole
  omega

/-! ## Summing -/

theorem wordSum_append (even : front.length % 2 = 0) (back : List UInt8) :
    wordSum (front ++ back) = wordSum front + wordSum back := by
  induction front using wordSum.induct with
  | case1 => exact (Nat.zero_add _).symm
  | case2 last => cases even
  | case3 high low rest ih =>
      rw [List.cons_append, List.cons_append, wordSum, wordSum, ih]
      · omega
      · rw [List.length_cons, List.length_cons] at even
        omega

theorem wordSum_le (bytes : List UInt8) : wordSum bytes ≤ 65535 * ((bytes.length + 1) / 2) := by
  induction bytes using wordSum.induct with
  | case1 => exact Nat.zero_le _
  | case2 last =>
      have bound := last.toNat_lt
      rw [wordSum, List.length_singleton]
      omega
  | case3 high low rest ih =>
      have highBound := high.toNat_lt
      have lowBound := low.toNat_lt
      rw [wordSum, List.length_cons, List.length_cons]
      omega

/-- A word between an even number of bytes and the rest. -/
theorem wordSum_insert (even : front.length % 2 = 0) (high low : UInt8) (back : List UInt8) :
    wordSum (front ++ high :: low :: back) =
      wordSum (front ++ 0 :: 0 :: back) + (high.toNat * 256 + low.toNat) := by
  rw [wordSum_append even, wordSum_append even, wordSum, wordSum]
  have zero : (0 : UInt8).toNat = 0 := rfl
  omega

end OnesComplement
