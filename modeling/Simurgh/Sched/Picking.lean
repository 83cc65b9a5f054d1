import Mathlib.Data.List.MinMax
import Mathlib.Data.Prod.Lex
import Simurgh.Sched.Scheduler

/-!
# Which thread is picked

The order of precedence of two entities is said in its own terms, without numbers for the
modes or the priorities.  The selection loop returns a ready thread that no other ready
thread has precedence of.
-/

namespace Simurgh

namespace Scheduler

variable {NT NCG : Nat} (sched : Scheduler NT NCG)

/-! ## Precedence -/

/-- The run time that an entity competes with.  A throughput thread in a live group
competes with the run time of the group. -/
def competingVruntime (entity : SchedEntity) : Nat :=
  match entity.mode with
  | .interactive => entity.vruntime
  | .throughput =>
      match entity.chainGroup.bind sched.group with
      | none => entity.vruntime
      | some group => group.groupVruntime

/-- The left entity goes first. -/
inductive Outranks (left right : SchedEntity) : Prop where
  | mode (interactive : left.mode = .interactive) (throughput : right.mode = .throughput)
  | priority (interactive : left.mode = .interactive) (both : right.mode = .interactive)
      (higher : right.effectivePriority < left.effectivePriority)
  | runTime (sameMode : left.mode = right.mode)
      (level : left.mode = .interactive → left.effectivePriority = right.effectivePriority)
      (less : sched.competingVruntime left < sched.competingVruntime right)
  | thread (sameMode : left.mode = right.mode)
      (level : left.mode = .interactive → left.effectivePriority = right.effectivePriority)
      (sameRunTime : sched.competingVruntime left = sched.competingVruntime right)
      (first : left.thread < right.thread)

/-- A registered ready entity that goes before every other one. -/
structure Foremost (entity : SchedEntity) : Prop where
  registered : ∃ i, sched.entity i = some entity
  ready : entity.state = .ready
  first : ∀ i other, sched.entity i = some other → other.state = .ready →
    ¬ sched.Outranks other entity
  ahead : ∀ i other, sched.entity i = some other → other.state = .ready →
    other.thread ≠ entity.thread → sched.Outranks entity other

/-! ## The key as a lexicographic order -/

/-- The parts of a key, ordered from left to right. -/
def PickKey.order (key : PickKey) : Nat ×ₗ Nat ×ₗ Nat ×ₗ Nat :=
  toLex (key.preferenceClass, toLex (key.priorityKey,
    toLex (key.effectiveVruntime, key.thread)))

theorem PickKey.order_lt_order {left right : PickKey} :
    left.order < right.order ↔
      left.preferenceClass < right.preferenceClass ∨
        left.preferenceClass = right.preferenceClass ∧
          (left.priorityKey < right.priorityKey ∨
            left.priorityKey = right.priorityKey ∧
              (left.effectiveVruntime < right.effectiveVruntime ∨
                left.effectiveVruntime = right.effectiveVruntime ∧
                  left.thread < right.thread)) := by
  unfold PickKey.order
  rw [Prod.Lex.toLex_lt_toLex, Prod.Lex.toLex_lt_toLex, Prod.Lex.toLex_lt_toLex]

/-- The comparison of the code is the lexicographic one. -/
theorem PickKey.lt_iff {left right : PickKey} :
    left.lt right = true ↔ left.order < right.order := by
  rw [PickKey.order_lt_order]
  unfold PickKey.lt
  by_cases sameClass : left.preferenceClass = right.preferenceClass
  · by_cases samePriority : left.priorityKey = right.priorityKey
    · by_cases sameRunTime : left.effectiveVruntime = right.effectiveVruntime
      · simp [sameClass, samePriority, sameRunTime]
      · simp [sameClass, samePriority, sameRunTime]
    · simp [sameClass, samePriority]
  · simp [sameClass]

theorem pickKey_effectiveVruntime (entity : SchedEntity) :
    (sched.pickKey entity).effectiveVruntime = sched.competingVruntime entity := by
  unfold competingVruntime pickKey
  cases entity.mode with
  | interactive => rfl
  | throughput =>
      cases entity.chainGroup with
      | none => rfl
      | some id =>
          cases live : sched.group id with
          | none => simp [live]
          | some group => simp [live]

/-- The higher priority has the lower key. -/
theorem priorityKey_lt_iff {left right : Fin (maxPriority + 1)} :
    maxPriority - left.val < maxPriority - right.val ↔ right < left := by
  have leftBound := left.isLt
  have rightBound := right.isLt
  rw [Fin.lt_def]
  omega

theorem priorityKey_eq_iff {left right : Fin (maxPriority + 1)} :
    maxPriority - left.val = maxPriority - right.val ↔ left = right := by
  have leftBound := left.isLt
  have rightBound := right.isLt
  rw [Fin.ext_iff]
  omega

/-- The order of the keys is the order of precedence. -/
theorem pickKey_order_lt_iff {left right : SchedEntity} :
    (sched.pickKey left).order < (sched.pickKey right).order ↔ sched.Outranks left right := by
  rw [PickKey.order_lt_order, pickKey_effectiveVruntime, pickKey_effectiveVruntime]
  cases leftMode : left.mode with
  | interactive =>
      cases rightMode : right.mode with
      | interactive =>
          simp only [pickKey, leftMode, rightMode, lt_irrefl, false_or, true_and,
            priorityKey_lt_iff, priorityKey_eq_iff]
          constructor
          · rintro (higher | ⟨level, less | ⟨same, first⟩⟩)
            · exact .priority leftMode rightMode higher
            · exact .runTime (leftMode.trans rightMode.symm) (fun _ => level) less
            · exact .thread (leftMode.trans rightMode.symm) (fun _ => level) same first
          · rintro (⟨_, throughput⟩ | ⟨_, _, higher⟩ | ⟨_, level, less⟩ |
              ⟨_, level, same, first⟩)
            · cases rightMode.symm.trans throughput
            · exact Or.inl higher
            · exact Or.inr ⟨level leftMode, Or.inl less⟩
            · exact Or.inr ⟨level leftMode, Or.inr ⟨same, first⟩⟩
      | throughput =>
          simp only [pickKey, leftMode, rightMode]
          exact ⟨fun _ => .mode leftMode rightMode, fun _ => Or.inl (by decide)⟩
  | throughput =>
      cases rightMode : right.mode with
      | interactive =>
          constructor
          · simp [pickKey, leftMode, rightMode, SchedulerMode.preferenceClass]
          · rintro (⟨interactive, _⟩ | ⟨interactive, _, _⟩ | ⟨same, _, _⟩ | ⟨same, _, _, _⟩)
            · cases leftMode.symm.trans interactive
            · cases leftMode.symm.trans interactive
            · cases leftMode.symm.trans (same.trans rightMode)
            · cases leftMode.symm.trans (same.trans rightMode)
      | throughput =>
          have apart : left.mode ≠ .interactive := by
            rw [leftMode]
            decide
          simp only [pickKey, leftMode, rightMode, lt_irrefl, false_or, true_and]
          constructor
          · rintro (less | ⟨same, first⟩)
            · exact .runTime (leftMode.trans rightMode.symm) (absurd · apart) less
            · exact .thread (leftMode.trans rightMode.symm) (absurd · apart) same first
          · rintro (⟨interactive, _⟩ | ⟨interactive, _, _⟩ | ⟨_, _, less⟩ | ⟨_, _, same, first⟩)
            · exact absurd interactive apart
            · exact absurd interactive apart
            · exact Or.inl less
            · exact Or.inr ⟨same, first⟩

/-- Of two different threads one goes first. -/
theorem outranks_or_outranks {left right : SchedEntity} (ne : left.thread ≠ right.thread) :
    sched.Outranks left right ∨ sched.Outranks right left := by
  rw [← pickKey_order_lt_iff, ← pickKey_order_lt_iff]
  apply lt_or_gt_of_ne
  intro same
  apply ne
  have parts := congrArg (fun key => (ofLex (ofLex (ofLex key).2).2).2) same
  exact parts

/-! ## The selection loop -/

/-- The place of an entity among those that are ready. -/
def pickOrder (entity : SchedEntity) : Nat ×ₗ Nat ×ₗ Nat ×ₗ Nat :=
  (sched.pickKey entity).order

theorem pickKey_lt_iff {left right : SchedEntity} :
    (sched.pickKey left).lt (sched.pickKey right) = true ↔
      sched.pickOrder left < sched.pickOrder right :=
  PickKey.lt_iff

/-- The entities that the loop does not skip. -/
def readyEntities : List SchedEntity :=
  sched.entities.objects.filter fun entity => entity.state = .ready

theorem mem_readyEntities {entity : SchedEntity} :
    entity ∈ sched.readyEntities ↔
      (∃ i, sched.entity i = some entity) ∧ entity.state = .ready := by
  rw [readyEntities, List.mem_filter, Slab.mem_objects, decide_eq_true_iff]
  rfl

/-- The loop holds the key of the least entity so far. -/
theorem foldl_pickStep_eq_argmin (entities : List SchedEntity) (best : Option SchedEntity) :
    entities.foldl sched.pickStep (best.map sched.pickKey) =
      ((entities.filter fun entity => entity.state = .ready).foldl
        (List.argAux fun left right => sched.pickOrder left < sched.pickOrder right)
        best).map sched.pickKey := by
  induction entities generalizing best with
  | nil => rfl
  | cons entity rest ih =>
      rw [List.foldl_cons]
      by_cases ready : entity.state = .ready
      · rw [List.filter_cons_of_pos (by simpa using ready), List.foldl_cons,
          ← ih]
        apply congrArg (List.foldl sched.pickStep · rest)
        unfold pickStep
        rw [if_neg (not_not_intro ready)]
        cases best with
        | none => rfl
        | some held =>
            simp only [Option.map_some, List.argAux, pickKey_lt_iff]
            by_cases less : sched.pickOrder entity < sched.pickOrder held
            · rw [if_pos less, if_pos less, Option.map_some]
            · rw [if_neg less, if_neg less, Option.map_some]
      · rw [List.filter_cons_of_neg (by simpa using ready), ← ih]
        apply congrArg (List.foldl sched.pickStep · rest)
        unfold pickStep
        rw [if_pos ready]

theorem pickNext_eq_argmin :
    sched.pickNext = (sched.readyEntities.argmin sched.pickOrder).map SchedEntity.thread := by
  unfold pickNext
  have loop := sched.foldl_pickStep_eq_argmin sched.entities.objects none
  rw [Option.map_none] at loop
  rw [loop, Option.map_map]
  rfl

/-- Least among the keys means foremost among the entities. -/
theorem argmin_readyEntities_foremost {entity : SchedEntity}
    (chosen : entity ∈ sched.readyEntities.argmin sched.pickOrder) :
    sched.Foremost entity := by
  have member := sched.mem_readyEntities.1 (List.argmin_mem chosen)
  have unbeaten : ∀ i other, sched.entity i = some other → other.state = .ready →
      ¬ sched.Outranks other entity := by
    intro i other there otherReady outranks
    have otherMember := sched.mem_readyEntities.2 ⟨⟨i, there⟩, otherReady⟩
    exact List.not_lt_of_mem_argmin otherMember chosen (sched.pickKey_order_lt_iff.2 outranks)
  constructor
  · exact member.1
  · exact member.2
  · exact unbeaten
  · intro i other there otherReady ne
    apply (sched.outranks_or_outranks ne.symm).resolve_right
    exact unbeaten i other there otherReady

/-- Two foremost entities are entities of one thread. -/
theorem Foremost.thread_eq {left right : SchedEntity} (leftFirst : sched.Foremost left)
    (rightFirst : sched.Foremost right) : left.thread = right.thread := by
  obtain ⟨i, there⟩ := rightFirst.registered
  by_contra ne
  have outranks := leftFirst.ahead i right there rightFirst.ready (Ne.symm ne)
  obtain ⟨j, here⟩ := leftFirst.registered
  exact rightFirst.first j left here leftFirst.ready outranks

theorem pickNext_none_iff_idle :
    sched.pickNext = none ↔ ∀ i entity, sched.entity i = some entity → entity.state ≠ .ready := by
  rw [pickNext_eq_argmin, Option.map_eq_none_iff, List.argmin_eq_none,
    List.eq_nil_iff_forall_not_mem]
  constructor
  · intro empty i entity there ready
    exact empty entity (sched.mem_readyEntities.2 ⟨⟨i, there⟩, ready⟩)
  · intro idle entity member
    obtain ⟨⟨i, there⟩, ready⟩ := sched.mem_readyEntities.1 member
    exact idle i entity there ready

theorem pickNext_eq_some_iff {thread : ThreadId} :
    sched.pickNext = some thread ↔ ∃ entity, sched.Foremost entity ∧ entity.thread = thread := by
  rw [pickNext_eq_argmin, Option.map_eq_some_iff]
  constructor
  · rintro ⟨entity, chosen, same⟩
    exact ⟨entity, sched.argmin_readyEntities_foremost chosen, same⟩
  · rintro ⟨entity, foremost, same⟩
    cases chosen : sched.readyEntities.argmin sched.pickOrder with
    | none =>
        have member := sched.mem_readyEntities.2 ⟨foremost.registered, foremost.ready⟩
        rw [List.argmin_eq_none.1 chosen] at member
        exact absurd member List.not_mem_nil
    | some least =>
        have leastFirst := sched.argmin_readyEntities_foremost chosen
        exact ⟨least, rfl, (leastFirst.thread_eq sched foremost).trans same⟩

/-- Nothing is picked exactly if nothing is ready.  Otherwise the thread of the foremost
entity is picked. -/
theorem pickNext_foremost (sched : Scheduler NT NCG) :
    (sched.pickNext = none ↔
      ∀ i entity, sched.entity i = some entity → entity.state ≠ .ready) ∧
    ∀ thread, sched.pickNext = some thread ↔
      ∃ entity, sched.Foremost entity ∧ entity.thread = thread :=
  ⟨sched.pickNext_none_iff_idle, fun _ => sched.pickNext_eq_some_iff⟩

end Scheduler

end Simurgh
