import Simurgh.Sched.Spec

/-!
# The arithmetic of a charge

Run times are 64-bit numbers, the products of the weight formula are taken in 128
bits, and no charge takes run time away.  So `account` never overflows.
-/

namespace Simurgh

/-- The numbers of an entity are 64-bit numbers. -/
structure SchedEntity.Fits (entity : SchedEntity) : Prop where
  vruntime : entity.vruntime < 0x10000000000000000
  baseWeight : entity.baseWeightFp < 0x10000000000000000

/-- Every sum, product and difference that charging `ranNs` computes is in its type. -/
structure SchedEntity.ChargeFits (entity : SchedEntity) (ranNs : Nat) : Prop where
  aging : weightOne + agingFactorFp * min entity.lastWaitMs agingCapMs <
    0x10000000000000000
  aged : entity.baseWeightFp *
      (weightOne + agingFactorFp * min entity.lastWaitMs agingCapMs) <
    0x100000000000000000000000000000000
  placed : ((entity.baseWeightFp *
        (weightOne + agingFactorFp * min entity.lastWaitMs agingCapMs)) >>> weightFracBits) *
      (if entity.numaLocal then numaLocalityBonusFp else numaNeutralFp) <
    0x100000000000000000000000000000000
  scaled : ranNs * weightOne < 0x100000000000000000000000000000000
  grows : entity.vruntime ≤ (entity.charged ranNs).vruntime

theorem SchedEntity.Fits.charge {entity : SchedEntity} (fits : entity.Fits) {ranNs : Nat}
    (word : ranNs < 0x10000000000000000) : entity.ChargeFits ranNs := by
  have vruntime := fits.vruntime
  have factor : weightOne + agingFactorFp * min entity.lastWaitMs agingCapMs ≤ 2024 := by
    have capped := Nat.min_le_right entity.lastWaitMs agingCapMs
    change 1024 + 20 * min entity.lastWaitMs agingCapMs ≤ 2024
    unfold agingCapMs at *
    omega
  have aged := Nat.mul_le_mul (Nat.le_of_lt fits.baseWeight) factor
  have bonus : (if entity.numaLocal then numaLocalityBonusFp else numaNeutralFp) ≤ 1138 := by
    cases entity.numaLocal with
    | true => exact Nat.le_refl 1138
    | false => exact Nat.le_of_lt (by decide)
  have shifted := Nat.shiftRight_le (entity.baseWeightFp *
    (weightOne + agingFactorFp * min entity.lastWaitMs agingCapMs)) weightFracBits
  have placed := Nat.mul_le_mul (Nat.le_trans shifted aged) bonus
  exact {
    aging := by omega
    aged := Nat.lt_of_le_of_lt aged (by decide)
    placed := Nat.lt_of_le_of_lt placed (by decide)
    scaled := by
      change ranNs * 1024 < _
      omega
    grows := by
      change entity.vruntime ≤ saturatingAdd entity.vruntime _
      unfold saturatingAdd
      omega }

/-- A charged entity still fits. -/
theorem SchedEntity.Fits.charged {entity : SchedEntity} (fits : entity.Fits)
    (ranNs : Nat) : (entity.charged ranNs).Fits where
  vruntime := by
    change saturatingAdd entity.vruntime _ < _
    unfold saturatingAdd
    omega
  baseWeight := fits.baseWeight

theorem SchedEntity.fits_new (thread : ThreadId) (mode : SchedulerMode) (priority : Nat)
    (group : Option ChainGroupId) : (SchedEntity.new thread mode priority group).Fits where
  vruntime := by
    change 0 < _
    decide
  baseWeight := by
    change basePriorityWeightFp (clampPriority priority) < _
    have bounded : ∀ level : Fin (maxPriority + 1),
        basePriorityWeightFp level < 0x10000000000000000 := by
      decide
    exact bounded (clampPriority priority)

namespace Scheduler

variable {NT NCG : Nat} {sched : Scheduler NT NCG}

/-- Every entity fits. -/
def Fits (sched : Scheduler NT NCG) : Prop :=
  ∀ thread entity, sched.entity thread = some entity → entity.Fits

/-- An update of one entity that keeps its numbers. -/
theorem Fits.of_entity (fits : sched.Fits) {later : Scheduler NT NCG} {thread : ThreadId}
    {update : SchedEntity → SchedEntity}
    (entities : ∀ i, later.entity i =
      if i = thread then (sched.entity i).map update else sched.entity i)
    (keeps : ∀ entity : SchedEntity, entity.Fits → (update entity).Fits) : later.Fits := by
  intro i entity present
  rw [entities] at present
  by_cases same : i = thread
  · rw [if_pos same, Option.map_eq_some_iff] at present
    obtain ⟨old, there, rfl⟩ := present
    exact keeps old (fits i old there)
  · rw [if_neg same] at present
    exact fits i entity present

theorem Fits.setReady (fits : sched.Fits) (thread : ThreadId) (nowNs : Nat) :
    (sched.setReady thread nowNs).Fits :=
  fits.of_entity (entity_updateEntity thread _ sched) fun _ old => ⟨old.vruntime, old.baseWeight⟩

theorem Fits.setAllReady (fits : sched.Fits) (nowNs : Nat) (threads : List ThreadId) :
    (sched.setAllReady nowNs threads).Fits := by
  induction threads generalizing sched with
  | nil => exact fits
  | cons thread rest ih =>
      exact ih (fits.setReady thread nowNs)

theorem Fits.setBlocked (fits : sched.Fits) (thread : ThreadId) :
    (sched.setBlocked thread).Fits :=
  fits.of_entity (entity_setBlocked thread sched) fun _ old => ⟨old.vruntime, old.baseWeight⟩

theorem Fits.setRunning (fits : sched.Fits) (thread : ThreadId) (nowNs : Nat) :
    (sched.setRunning thread nowNs).Fits :=
  fits.of_entity (entity_setRunning thread nowNs sched)
    fun _ old => ⟨old.vruntime, old.baseWeight⟩

theorem Fits.setAdmitted (fits : sched.Fits) (thread : ThreadId) (mode : SchedulerMode)
    (priority : Nat) (group : Option ChainGroupId) :
    (sched.setAdmitted thread mode priority group).Fits := by
  intro i entity present
  change (sched.entities.put thread _).get? i = some entity at present
  rw [Slab.get?_put] at present
  by_cases here : thread = i ∧ i < NT
  · rw [if_pos here, Option.some.injEq] at present
    rw [← present]
    exact SchedEntity.fits_new thread mode priority group
  · rw [if_neg here] at present
    exact fits i entity present

theorem Fits.remove (fits : sched.Fits) (thread : ThreadId) : (sched.remove thread).Fits := by
  intro i entity present
  rw [entity_remove] at present
  by_cases same : i = thread
  · simp [same] at present
  · rw [if_neg same] at present
    exact fits i entity present

theorem Fits.account (fits : sched.Fits) (nowNs : Nat) : (sched.account nowNs).Fits := by
  cases runs : sched.running with
  | none =>
      rw [Scheduler.account, runs]
      exact fits
  | some cur =>
      cases present : sched.entity cur with
      | none =>
          intro i entity there
          simp only [Scheduler.account, runs, present] at there
          exact fits i entity there
      | some before =>
          have charged := (fits cur before present).charged (nowNs - sched.runningSinceNs)
          intro i entity there
          rw [Scheduler.entity] at there
          simp only [Scheduler.account, runs, present, entities_chargeGroup] at there
          rw [Slab.get?_put_of_some present] at there
          by_cases same : cur = i
          · rw [if_pos same, Option.some.injEq] at there
            rw [← there]
            split
            · exact ⟨charged.vruntime, charged.baseWeight⟩
            · exact charged
          · rw [if_neg same] at there
            exact fits i entity there

end Scheduler

end Simurgh
