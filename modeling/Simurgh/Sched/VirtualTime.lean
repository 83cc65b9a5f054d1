import Simurgh.Sched.Scheduler

/-!
# Saturating run times

`vruntime_next` divides in 128 bits and adds in 64 bits.  The quotient is cut to 64 bits
before it is added, so what is lost there is missing in the sum.
-/

namespace Simurgh

/-- `u64::MAX`. -/
def u64Max : Nat := 0xffffffffffffffff

/-- How much a run counts, before the number is cut to a word. -/
def vruntimeIncrement (actualRuntimeNs effectiveWeight : Nat) : Nat :=
  actualRuntimeNs * weightOne / effectiveWeight

/-- The sum of the run times, which stops at the largest word. -/
def vruntimeSaturated (vruntimeCurrent actualRuntimeNs effectiveWeight : Nat) : Nat :=
  min u64Max (vruntimeCurrent + vruntimeIncrement actualRuntimeNs effectiveWeight)

/-- The increment is a word, or the sum reaches the largest word without the bits above. -/
def IncrementFits (vruntimeCurrent actualRuntimeNs effectiveWeight : Nat) : Prop :=
  vruntimeIncrement actualRuntimeNs effectiveWeight ≤ u64Max ∨
    u64Max - vruntimeCurrent ≤ vruntimeIncrement actualRuntimeNs effectiveWeight % (u64Max + 1)

theorem vruntimeNext_eq {effectiveWeight : Nat} (positive : 1 ≤ effectiveWeight)
    (vruntimeCurrent actualRuntimeNs : Nat) :
    vruntimeNext vruntimeCurrent actualRuntimeNs effectiveWeight =
      min u64Max (vruntimeCurrent +
        vruntimeIncrement actualRuntimeNs effectiveWeight % (u64Max + 1)) := by
  have weight : max effectiveWeight 1 = effectiveWeight := Nat.max_eq_left positive
  unfold vruntimeNext vruntimeIncrement saturatingAdd
  rw [weight, Nat.min_comm]
  rfl

/-- A run counts in full exactly if its increment fits. -/
theorem vruntimeNext_eq_saturated_iff {effectiveWeight : Nat} (positive : 1 ≤ effectiveWeight)
    (vruntimeCurrent actualRuntimeNs : Nat) :
    vruntimeNext vruntimeCurrent actualRuntimeNs effectiveWeight =
        vruntimeSaturated vruntimeCurrent actualRuntimeNs effectiveWeight ↔
      IncrementFits vruntimeCurrent actualRuntimeNs effectiveWeight := by
  rw [vruntimeNext_eq positive, vruntimeSaturated, IncrementFits]
  generalize vruntimeIncrement actualRuntimeNs effectiveWeight = increment
  by_cases fits : increment ≤ u64Max
  · have whole : increment % (u64Max + 1) = increment := Nat.mod_eq_of_lt (by omega)
    rw [whole]
    exact ⟨fun _ => Or.inl fits, fun _ => rfl⟩
  · -- The sum is cut off at the largest word, so the code has to reach it as well.
    have saturated : min u64Max (vruntimeCurrent + increment) = u64Max := by omega
    rw [saturated]
    constructor
    · intro reached
      apply Or.inr
      omega
    · rintro (small | reached)
      · exact absurd small fits
      · omega

/-- No run takes run time away. -/
theorem le_vruntimeNext {vruntimeCurrent effectiveWeight : Nat}
    (word : vruntimeCurrent ≤ u64Max) (positive : 1 ≤ effectiveWeight)
    (actualRuntimeNs : Nat) :
    vruntimeCurrent ≤ vruntimeNext vruntimeCurrent actualRuntimeNs effectiveWeight := by
  rw [vruntimeNext_eq positive]
  apply Nat.le_min.2
  exact ⟨word, Nat.le_add_right ..⟩

theorem vruntimeNext_le {effectiveWeight : Nat} (positive : 1 ≤ effectiveWeight)
    (vruntimeCurrent actualRuntimeNs : Nat) :
    vruntimeNext vruntimeCurrent actualRuntimeNs effectiveWeight ≤ u64Max := by
  rw [vruntimeNext_eq positive]
  exact Nat.min_le_left ..

/-- A run counts in full exactly if its increment fits.  In any case no run time is taken
away, and the sum is a word. -/
theorem vruntimeNext_saturates_iff {vruntimeCurrent actualRuntimeNs effectiveWeight : Nat}
    (word : vruntimeCurrent ≤ u64Max) (positive : 1 ≤ effectiveWeight) :
    (vruntimeNext vruntimeCurrent actualRuntimeNs effectiveWeight =
        vruntimeSaturated vruntimeCurrent actualRuntimeNs effectiveWeight ↔
      IncrementFits vruntimeCurrent actualRuntimeNs effectiveWeight) ∧
    vruntimeCurrent ≤ vruntimeNext vruntimeCurrent actualRuntimeNs effectiveWeight ∧
    vruntimeNext vruntimeCurrent actualRuntimeNs effectiveWeight ≤ u64Max :=
  ⟨vruntimeNext_eq_saturated_iff positive vruntimeCurrent actualRuntimeNs,
    le_vruntimeNext word positive actualRuntimeNs,
    vruntimeNext_le positive vruntimeCurrent actualRuntimeNs⟩

theorem vruntimeNext_saturates_iff_sample :
    (1000 ≤ u64Max ∧ 1 ≤ weightOne) ∧
      (vruntimeNext 1000 500 weightOne = vruntimeSaturated 1000 500 weightOne ↔
        IncrementFits 1000 500 weightOne) ∧
      1000 ≤ vruntimeNext 1000 500 weightOne ∧ vruntimeNext 1000 500 weightOne ≤ u64Max :=
  ⟨by decide, vruntimeNext_saturates_iff (by decide) (by decide)⟩

/-- Of a run of 2 ^ 63 ns with weight 1 nothing is left. -/
theorem long_run_counts_nothing :
    vruntimeNext 0 0x8000000000000000 1 = 0 ∧
      vruntimeSaturated 0 0x8000000000000000 1 = u64Max := by
  decide

/-! ## The charges of the scheduler -/

/-- The weight of a priority is never below `1.0`. -/
theorem weightOne_le_basePriorityWeightFp (priority : Nat) :
    weightOne ≤ basePriorityWeightFp priority := Nat.le_add_right ..

theorem basePriorityWeightFp_le (priority : Nat) : basePriorityWeightFp priority ≤ 4096 := by
  have capped : min priority maxPriority ≤ 39 := Nat.min_le_right ..
  change 1024 + min priority maxPriority * 3072 / 39 ≤ 4096
  omega

/-- Aging and locality only make a weight larger. -/
theorem weightOne_le_effectiveWeightFp {baseFp : Nat} (heavy : weightOne ≤ baseFp)
    (small : baseFp ≤ 4096) (waitTimeMs : Nat) (numaLocal : Bool) :
    weightOne ≤ effectiveWeightFp baseFp waitTimeMs numaLocal := by
  have one : weightOne = 1024 := rfl
  have capped : min waitTimeMs agingCapMs ≤ 50 := Nat.min_le_right ..
  have aging : agingFactorFp * min waitTimeMs agingCapMs ≤ 1000 := by
    change 20 * min waitTimeMs agingCapMs ≤ 1000
    omega
  have agedLow : 1024 * 1024 ≤
      baseFp * (weightOne + agingFactorFp * min waitTimeMs agingCapMs) :=
    Nat.mul_le_mul heavy (Nat.le_add_right ..)
  have agedHigh : baseFp * (weightOne + agingFactorFp * min waitTimeMs agingCapMs) ≤
      4096 * 2024 :=
    Nat.mul_le_mul small (by omega)
  have bonusLow : 1024 ≤ if numaLocal then numaLocalityBonusFp else numaNeutralFp := by
    cases numaLocal with
    | true => decide
    | false => decide
  have bonusHigh : (if numaLocal then numaLocalityBonusFp else numaNeutralFp) ≤ 1138 := by
    cases numaLocal with
    | true => decide
    | false => decide
  simp only [effectiveWeightFp, asU64, weightFracBits, Nat.shiftRight_eq_div_pow]
  generalize baseFp * (weightOne + agingFactorFp * min waitTimeMs agingCapMs) = aged at *
  generalize (if numaLocal then numaLocalityBonusFp else numaNeutralFp) = bonus at *
  have placedLow : 1024 * 1024 ≤ aged / 2 ^ 10 * bonus := Nat.mul_le_mul (by omega) bonusLow
  have placedHigh : aged / 2 ^ 10 * bonus ≤ 8096 * 1138 := Nat.mul_le_mul (by omega) bonusHigh
  omega

/-- A weight of at least `1.0` keeps every increment a word. -/
theorem incrementFits_of_heavy {actualRuntimeNs effectiveWeight : Nat}
    (word : actualRuntimeNs ≤ u64Max) (heavy : weightOne ≤ effectiveWeight)
    (vruntimeCurrent : Nat) :
    IncrementFits vruntimeCurrent actualRuntimeNs effectiveWeight := by
  apply Or.inl
  apply Nat.le_trans _ word
  apply Nat.div_le_of_le_mul
  rw [Nat.mul_comm]
  exact Nat.mul_le_mul_right _ heavy

/-- Whatever its priority and however long it has waited, a thread is charged for the
whole of its run. -/
theorem charged_vruntime {entity : SchedEntity} {priority ranNs : Nat}
    (weighted : entity.baseWeightFp = basePriorityWeightFp priority)
    (word : ranNs ≤ u64Max) :
    (entity.charged ranNs).vruntime =
      vruntimeSaturated entity.vruntime ranNs
        (effectiveWeightFp entity.baseWeightFp entity.lastWaitMs entity.numaLocal) := by
  have heavy : weightOne ≤
      effectiveWeightFp entity.baseWeightFp entity.lastWaitMs entity.numaLocal := by
    rw [weighted]
    exact weightOne_le_effectiveWeightFp (weightOne_le_basePriorityWeightFp priority)
      (basePriorityWeightFp_le priority) _ _
  have positive : 1 ≤ weightOne := by decide
  apply (vruntimeNext_eq_saturated_iff (Nat.le_trans positive heavy) _ _).2
  exact incrementFits_of_heavy word heavy entity.vruntime

end Simurgh
