import Simurgh.Glue.Calm

/-!
# Supervision of the drivers

The crash of a watched driver is kept in one variable until the device manager asks for
it.  The history of a run says which crashes there were and what the polls have
returned, and for whom a wait is not over.
-/

namespace Simurgh

/-- What happens to a machine that supervises a driver. -/
inductive SupervisionEvent where
  | preemptStart (choices : Choices)
  | dmReport (a0 : Nat)
  | dmWaitCrash
  | dmPollCrash
  | dmRespawnDriver (choices : Choices)
  | tick
  | fault (cause : Nat)

/-- A machine, the thread that executes, and the history of its supervision. -/
structure Supervised (μ : Type) where
  glue : Glue μ
  current : ThreadId
  /-- The threads that were ever watched. -/
  drivers : List ThreadId
  /-- The causes of the faults of drivers. -/
  crashes : List Nat
  /-- What the polls have returned. -/
  polled : List Nat
  /-- The threads that a wait has put to sleep, and that have not gone on since. -/
  parked : List ThreadId
  /-- Has the last event resumed a thread from its wait? -/
  woken : Bool

namespace SupervisionEvent

variable {μ : Type} (arch : Architecture) (clock : Nat → Nat) (hal : HalInterface μ)

def exec : SupervisionEvent → GlueM μ TrapOutcome
  | preemptStart choices => GlueM.preemptStart clock choices
  | dmReport a0 => GlueM.dmReport a0
  | dmWaitCrash => GlueM.orResume 0 (GlueM.p2DmWaitCrash clock)
  | dmPollCrash => GlueM.orReturn 0 GlueM.p2PollCrash
  | dmRespawnDriver choices => GlueM.dmRespawnDriver clock choices
  | tick => GlueM.handle arch clock hal .tick
  | fault cause => GlueM.handle arch clock hal (.fault cause)

def isWait : SupervisionEvent → Bool
  | dmWaitCrash => true
  | _ => false

/-- The crash that an event is, if a driver executes. -/
def crash (drives : Bool) : SupervisionEvent → List Nat
  | fault cause => if drives then [cause] else []
  | _ => []

/-- What a poll returns. -/
def answer (outcome : TrapOutcome) : SupervisionEvent → List Nat
  | dmPollCrash =>
      match outcome with
      | .resume cause => [cause]
      | _ => []
  | _ => []

end SupervisionEvent

namespace Supervised

variable {μ : Type}

/-- The history goes on. -/
def record (event : SupervisionEvent) (outcome : TrapOutcome) (later : Glue μ)
    (before : Supervised μ) : Supervised μ where
  glue := later
  current := outcome.resumed before.current
  drivers := later.statics.watchedDriverTid.toList ++ before.drivers
  crashes := before.crashes ++ event.crash (decide (before.current ∈ before.drivers))
  polled := before.polled ++ event.answer outcome
  parked := (if event.isWait then outcome.saved.toList else []) ++
    before.parked.filter fun tid =>
      tid ≠ outcome.resumed before.current ∧ outcome.saved ≠ some tid
  woken := (event.isWait && outcome.saved.isNone) ||
    decide (outcome.resumed before.current ∈ before.parked)

/-- What the history should look like.  No answer is the answer 0. -/
structure Notified (state : Supervised μ) : Prop where
  /-- Every crash was returned by one poll, in order, or is pending. -/
  returned : state.crashes =
    (state.polled.filter fun cause => cause ≠ 0) ++ state.glue.statics.pendingCrash.toList
  /-- Who returns from its wait finds a crash. -/
  found : state.woken = true → state.glue.statics.pendingCrash.isSome

variable (arch : Architecture) (clock : Nat → Nat) (hal : HalInterface μ)

/-- Machines under supervision, from any time at which nothing is pending and nobody
waits. -/
def system : TransitionSystem (Supervised μ) SupervisionEvent where
  Initial start :=
    Resting (fun _ => False) start.glue.kernel ∧ start.glue.statics.pendingCrash = none ∧
      start.drivers = start.glue.statics.watchedDriverTid.toList ∧ start.crashes = [] ∧
        start.polled = [] ∧ start.parked = [] ∧ start.woken = false
  Step before event after :=
    ∃ outcome later, event.exec arch clock hal before.glue = .ok outcome later ∧
      after = before.record event outcome later

/-- A crash finds its variable free and has a cause other than 0, and it is the watched
driver that the scheduler runs.  A thread that waits is not alone. -/
def Safe (state : Supervised μ) : SupervisionEvent → Prop
  | .fault cause =>
      (state.current ∈ state.drivers ↔
        ∃ tid, state.glue.kernel.sched.running = some tid ∧
          state.glue.statics.watchedDriverTid = some tid) ∧
      (state.current ∈ state.drivers →
        state.glue.statics.pendingCrash = none ∧ cause ≠ 0)
  | .dmWaitCrash =>
      state.glue.statics.pendingCrash.isSome ∨
        ∃ tid, state.glue.kernel.sched.running = some tid ∧
          ¬ state.glue.kernel.sched.AloneReady tid
  | _ => True

/-! ## The invariant -/

/-- The threads that wait sleep, and the executing thread is not one of them. -/
structure Sound (state : Supervised μ) : Prop where
  resting : Resting (fun tid => tid ∈ state.parked) state.glue.kernel
  active : state.current ∉ state.parked
  caused : state.glue.statics.pendingCrash ≠ some 0
  notified : state.Notified

variable {arch clock hal}

/-- Only a wait puts threads to sleep. -/
theorem parked_of_record {before : Supervised μ} {event : SupervisionEvent}
    {outcome : TrapOutcome} {later : Glue μ} (noWait : event.isWait = false) {tid : ThreadId}
    (member : tid ∈ (before.record event outcome later).parked) :
    tid ∈ before.parked ∧ tid ≠ outcome.resumed before.current := by
  simp only [record, noWait, Bool.false_eq_true, if_false, List.nil_append, List.mem_filter,
    decide_eq_true_eq] at member
  exact ⟨member.1, member.2.1⟩

/-- An event that wakes nobody and leaves the pending crash alone. -/
theorem Sound.calm {before : Supervised μ} (sound : before.Sound) {event : SupervisionEvent}
    {outcome : TrapOutcome} {later : Glue μ}
    (calmly : GlueM.Calmly (fun tid => tid ∈ before.parked) before.glue.statics.pendingCrash
      TrapOutcome.next (event.exec arch clock hal))
    (ran : event.exec arch clock hal before.glue = .ok outcome later)
    (noWait : event.isWait = false)
    (noCrash : event.crash (decide (before.current ∈ before.drivers)) = [])
    (noAnswer : event.answer outcome = []) : (before.record event outcome later).Sound := by
  have ended := (calmly before.glue ⟨sound.resting, rfl⟩).of_ok ran
  have awake : outcome.resumed before.current ∉ before.parked := by
    rw [TrapOutcome.resumed_eq]
    cases handed : outcome.next with
    | none => exact sound.active
    | some tid => exact ended.2 outcome tid rfl handed
  constructor
  · exact ended.1.resting.of_waits fun tid member => (parked_of_record noWait member).1
  · exact fun member => awake (parked_of_record noWait member).1
  · change later.statics.pendingCrash ≠ some 0
    rw [ended.1.pending]
    exact sound.caused
  · constructor
    · simp only [record, noCrash, noAnswer, List.append_nil, ended.1.pending]
      exact sound.notified.returned
    · intro woken
      simp only [record, noWait, Bool.false_and, Bool.false_or, decide_eq_true_eq] at woken
      exact absurd woken awake

/-! ## Polls -/

theorem pollCrash_run (glue : Glue μ) :
    SupervisionEvent.dmPollCrash.exec arch clock hal glue =
      .ok (.resume (glue.statics.pendingCrash.getD 0))
        { glue with statics := { glue.statics with pendingCrash := none } } := rfl

/-- A poll returns what is pending. -/
theorem Sound.poll {before : Supervised μ} (sound : before.Sound) {outcome : TrapOutcome}
    {later : Glue μ}
    (ran : SupervisionEvent.dmPollCrash.exec arch clock hal before.glue = .ok outcome later) :
    (before.record .dmPollCrash outcome later).Sound := by
  rw [pollCrash_run] at ran
  obtain ⟨rfl, rfl⟩ := Outcome.ok.inj ran
  constructor
  · exact (sound.resting.of_tcb rfl fun _ there => there).of_waits fun tid member =>
      (parked_of_record rfl member).1
  · exact fun member => sound.active (parked_of_record rfl member).1
  · exact fun absurdity => by cases absurdity
  · constructor
    · have returned := sound.notified.returned
      cases pending : before.glue.statics.pendingCrash with
      | none =>
          rw [pending] at returned
          simpa [record, SupervisionEvent.crash, SupervisionEvent.answer, pending] using returned
      | some cause =>
          have caused : cause ≠ 0 := by
            intro zero
            exact sound.caused (by rw [pending, zero])
          rw [pending] at returned
          simpa [record, SupervisionEvent.crash, SupervisionEvent.answer, pending, caused]
            using returned
    · intro woken
      simp only [record, SupervisionEvent.isWait, Bool.false_and, Bool.false_or,
        TrapOutcome.resumed] at woken
      exact absurd (of_decide_eq_true woken) sound.active

/-! ## Waits -/

/-- A wait goes on at once while a crash is pending. -/
theorem waitCrash_pending {glue : Glue μ} (pending : glue.statics.pendingCrash.isSome) :
    SupervisionEvent.dmWaitCrash.exec arch clock hal glue = .ok (.resume 0) glue := by
  refine GlueM.orResume_of_refused ?_
  unfold GlueM.p2DmWaitCrash
  rw [Exec.get_bind_run, if_pos pending]
  rfl

/-- Otherwise the thread sleeps while another one goes on. -/
theorem waitCrash_parks {glue : Glue μ} {tid next : ThreadId}
    (nothing : glue.statics.pendingCrash = none)
    (runs : glue.kernel.sched.running = some tid)
    (picked : ((glue.kernel.sched.account (clock glue.readings)).setBlocked tid).pickNext =
      some next)
    (other : next ≠ tid) (recorded : (glue.kernel.tcb tid).isSome)
    (nextRecorded : (glue.kernel.tcb next).isSome) :
    SupervisionEvent.dmWaitCrash.exec arch clock hal glue =
      .ok (.switchTo tid next)
        { glue with
          machine := { glue.machine with
            kernel := { glue.kernel with
              sched := ((glue.kernel.sched.account (clock glue.readings)).setBlocked
                tid).setRunning next (clock glue.readings) } }
          readings := glue.readings + 1 } := by
  have blocks : GlueM.kernel (KernelState.blockThread tid (clock glue.readings))
      { glue with readings := glue.readings + 1 } = .ok (.switch tid next) _ :=
    GlueM.kernel_run (KernelState.blockThread_of_pick picked other)
  refine GlueM.orResume_of_ok ?_
  unfold GlueM.p2DmWaitCrash
  rw [Exec.get_bind_run, nothing, if_neg (by simp)]
  simp only [runs]
  rw [Exec.bind_of_ok (GlueM.nowNs_run clock glue), Exec.bind_of_ok blocks]
  exact GlueM.switchPtrs_run other.symm recorded nextRecorded

/-- A wait that is safe puts the thread to sleep, or finds a crash. -/
theorem Sound.wait {before : Supervised μ} (sound : before.Sound)
    (safe : before.Safe .dmWaitCrash) {outcome : TrapOutcome} {later : Glue μ}
    (ran : SupervisionEvent.dmWaitCrash.exec arch clock hal before.glue = .ok outcome later) :
    (before.record .dmWaitCrash outcome later).Sound := by
  have returned := sound.notified.returned
  by_cases pending : before.glue.statics.pendingCrash.isSome
  · rw [waitCrash_pending pending] at ran
    obtain ⟨rfl, rfl⟩ := Outcome.ok.inj ran
    have parked : ∀ tid, tid ∈ (before.record .dmWaitCrash (.resume 0) before.glue).parked →
        tid ∈ before.parked := fun tid member => (List.mem_filter.1 member).1
    constructor
    · exact sound.resting.of_waits parked
    · exact fun member => sound.active (parked _ member)
    · exact sound.caused
    · constructor
      · simpa [record, SupervisionEvent.crash, SupervisionEvent.answer] using returned
      · exact fun _ => pending
  · obtain ⟨tid, runs, accompanied⟩ := safe.resolve_left pending
    have nothing := Option.not_isSome_iff_eq_none.1 pending
    obtain ⟨next, picked, other⟩ :=
      sound.resting.exists_pick runs accompanied (clock before.glue.readings)
    have recorded := (sound.resting.running runs).2
    obtain ⟨awake, resting⟩ := sound.resting.blocked recorded picked
    have nextRecorded := sound.resting.recorded_of_pick picked
    rw [waitCrash_parks nothing runs picked other recorded nextRecorded] at ran
    obtain ⟨rfl, rfl⟩ := Outcome.ok.inj ran
    have parked : ∀ thread later,
        thread ∈ (before.record .dmWaitCrash (.switchTo tid next) later).parked →
          thread ∈ before.parked ∨ thread = tid := by
      intro thread later member
      rcases List.mem_append.1 member with here | there
      · exact Or.inr (List.mem_singleton.1 here)
      · exact Or.inl (List.mem_filter.1 there).1
    constructor
    · exact resting.of_waits fun thread member => parked thread _ member
    · exact fun member => awake (parked _ _ member)
    · exact sound.caused
    · constructor
      · simpa [record, SupervisionEvent.crash, SupervisionEvent.answer] using returned
      · intro woken
        have there : next ∈ before.parked := of_decide_eq_true woken
        exact absurd (Or.inl there) awake

/-! ## Faults -/

/-- A fault wakes at most the device manager, which then takes over. -/
theorem resting_faulted {waits : ThreadId → Prop} {state : KernelState}
    (resting : Resting waits state) (tid : ThreadId) (handOff : Option ThreadId) (nowNs : Nat) :
    Resting (fun other => waits other ∧ handOff ≠ some other)
        (state.faulted tid handOff nowNs) ∧
      ∀ next, state.heir tid handOff nowNs = some next →
        ¬ (waits next ∧ handOff ≠ some next) := by
  cases handOff with
  | some dm =>
      have awake : ∀ next, some dm = some next → ¬ (waits next ∧ some dm ≠ some next) :=
        fun next same waiting => waiting.2 same
      refine ⟨?_, awake⟩
      rw [← KernelState.exited_handedOver]
      have woken : Resting (fun other => waits other ∧ some dm ≠ some other)
          { state with sched := state.sched.setReady dm nowNs } :=
        (resting.setReady dm nowNs).of_waits fun other waiting =>
          ⟨waiting.1, fun same => waiting.2 (congrArg some same.symm)⟩
      exact (woken.exited tid nowNs).setRunning (awake dm rfl) nowNs
  | none =>
      have died := resting.exited tid nowNs
      have awake : ∀ next,
          (KernelState.schedWithout tid nowNs state.sched).pickNext = some next → ¬ waits next :=
        fun next picked => died.asleep.pickNext_awake picked
      refine ⟨?_, fun next picked waiting => awake next picked waiting.1⟩
      have goesOn : Resting waits (state.faulted tid none nowNs) := by
        cases picked : (KernelState.schedWithout tid nowNs state.sched).pickNext with
        | none =>
            have same : state.faulted tid none nowNs = state.exited tid nowNs := by
              unfold KernelState.faulted KernelState.heir
              rw [picked]
              rfl
            rw [same]
            exact died
        | some next =>
            have same : state.faulted tid none nowNs =
                { state.exited tid nowNs with
                  sched := (state.exited tid nowNs).sched.setRunning next nowNs } := by
              unfold KernelState.faulted KernelState.heir
              rw [picked]
              rfl
            rw [same]
            exact died.setRunning (awake next picked) nowNs
      exact goesOn.of_waits fun other waiting => waiting.1

/-- The pending crash after a fault. -/
theorem pendingCrash_faulted (tid : ThreadId) (cause : Nat) (glue : Glue μ) :
    (glue.faulted clock tid cause).statics.pendingCrash =
      if glue.statics.watchedDriverTid = some tid then some cause
      else glue.statics.pendingCrash := by
  change (glue.statics.crashed tid cause).pendingCrash = _
  unfold Statics.crashed
  split
  · rfl
  · rfl

/-- A crash that is safe is noted. -/
theorem Notified.fault (clock : Nat → Nat) {before : Supervised μ}
    (notified : before.Notified) {cause : Nat}
    (safe : before.Safe (.fault cause)) {tid : ThreadId}
    (runs : before.glue.kernel.sched.running = some tid) (outcome : TrapOutcome) :
    (before.record (.fault cause) outcome (before.glue.faulted clock tid cause)).crashes =
      ((before.record (.fault cause) outcome (before.glue.faulted clock tid cause)).polled.filter
        fun cause => cause ≠ 0) ++
      (before.glue.faulted clock tid cause).statics.pendingCrash.toList := by
  have returned := notified.returned
  have watched : before.current ∈ before.drivers ↔
      before.glue.statics.watchedDriverTid = some tid := by
    rw [safe.1, runs]
    simp
  rw [pendingCrash_faulted]
  simp only [record, SupervisionEvent.crash, SupervisionEvent.answer, List.append_nil]
  by_cases drives : before.current ∈ before.drivers
  · rw [if_pos (watched.1 drives)]
    rw [(safe.2 drives).1] at returned
    simpa [drives] using returned
  · rw [if_neg fun same => drives (watched.2 same)]
    simpa [drives] using returned

/-- Nobody runs, so the fault is not noted. -/
theorem fault_idle {glue : Glue μ} (idle : glue.kernel.sched.running = none) (cause : Nat) :
    (SupervisionEvent.fault cause).exec arch clock hal glue = .ok (.resume 0) glue := by
  have refused : GlueM.p2Fault clock cause glue = .err .refused glue := by
    unfold GlueM.p2Fault
    rw [Exec.get_bind_run]
    simp only [idle]
    rfl
  exact Exec.bind_of_ok (GlueM.optional_of_refused refused) _

theorem Sound.faultIdle {before : Supervised μ} (sound : before.Sound) {cause : Nat}
    (safe : before.Safe (.fault cause)) (idle : before.glue.kernel.sched.running = none) :
    (before.record (.fault cause) (.resume 0) before.glue).Sound := by
  have undriven : before.current ∉ before.drivers := by
    rw [safe.1, idle]
    rintro ⟨tid, absurdity, _⟩
    cases absurdity
  constructor
  · exact sound.resting.of_waits fun tid member => (parked_of_record rfl member).1
  · exact fun member => sound.active (parked_of_record rfl member).1
  · exact sound.caused
  · constructor
    · have returned := sound.notified.returned
      simpa [record, SupervisionEvent.crash, SupervisionEvent.answer, undriven] using returned
    · intro woken
      exact absurd (of_decide_eq_true woken) sound.active

theorem Sound.fault {before : Supervised μ} (sound : before.Sound) {cause : Nat}
    (safe : before.Safe (.fault cause)) {outcome : TrapOutcome} {later : Glue μ}
    (ran : (SupervisionEvent.fault cause).exec arch clock hal before.glue =
      .ok outcome later) :
    (before.record (.fault cause) outcome later).Sound := by
  cases runs : before.glue.kernel.sched.running with
  | none =>
      rw [fault_idle runs] at ran
      obtain ⟨rfl, rfl⟩ := Outcome.ok.inj ran
      exact sound.faultIdle safe runs
  | some tid =>
      change GlueM.handle arch clock hal (.fault cause) before.glue = _ at ran
      rw [GlueM.handle_fault_run runs] at ran
      obtain ⟨told, rfl⟩ := Outcome.ok.inj ran
      have returned := sound.notified.fault clock safe runs outcome
      obtain ⟨resting, awake⟩ := resting_faulted sound.resting tid
        (before.glue.statics.handOff tid) (clock before.glue.readings)
      -- Whoever goes on has not waited, unless the device manager takes over.
      have goesOn : outcome.resumed before.current ∈ before.parked →
          before.glue.statics.handOff tid = some (outcome.resumed before.current) := by
        intro member
        rw [← told] at member ⊢
        cases taken : (before.glue.heir clock tid).filter fun next =>
            ((before.glue.faulted clock tid cause).kernel.tcb next).isSome with
        | none =>
            rw [taken] at member
            exact absurd member sound.active
        | some next =>
            rw [taken] at member
            have heir := (Option.filter_eq_some_iff.1 taken).1
            by_contra ne
            exact awake next heir ⟨member, ne⟩
      have woken : ∀ other ∈ before.parked, other ≠ outcome.resumed before.current →
          before.glue.statics.handOff tid ≠ some other := by
        intro other member ne handedTo
        have heir : before.glue.heir clock tid = some other := by
          unfold Glue.heir
          rw [handedTo]
          rfl
        have recorded : ((before.glue.faulted clock tid cause).kernel.tcb other).isSome := by
          have there := sound.resting.waiters other member
          change ((before.glue.kernel.updateTcb tid _).tcb other).isSome
          rw [KernelState.tcb_updateTcb]
          split
          · rw [Option.isSome_map]
            exact there
          · exact there
        have taken : (before.glue.heir clock tid).filter (fun next =>
            ((before.glue.faulted clock tid cause).kernel.tcb next).isSome) = some other :=
          Option.filter_eq_some_iff.2 ⟨heir, recorded⟩
        rw [← told, taken] at ne
        exact ne rfl
      constructor
      · exact resting.of_waits fun other member =>
          ⟨(parked_of_record rfl member).1,
            woken other (parked_of_record rfl member).1 (parked_of_record rfl member).2⟩
      · exact fun member => (parked_of_record rfl member).2 rfl
      · change (before.glue.faulted clock tid cause).statics.pendingCrash ≠ some 0
        rw [pendingCrash_faulted]
        split
        · next watched =>
          have caused := (safe.2 (safe.1.2 ⟨tid, runs, watched⟩)).2
          rw [ne_eq, Option.some.injEq]
          exact caused
        · exact sound.caused
      · refine ⟨returned, fun back => ?_⟩
        have handedTo := goesOn (of_decide_eq_true back)
        unfold Statics.handOff at handedTo
        split at handedTo
        · next watched =>
          change ((before.glue.faulted clock tid cause).statics.pendingCrash).isSome
          rw [pendingCrash_faulted, if_pos watched]
          rfl
        · cases handedTo

/-! ## Runs -/

/-- Every safe event keeps the history in order. -/
theorem Sound.step {before after : Supervised μ} (sound : before.Sound)
    {event : SupervisionEvent} (safe : before.Safe event)
    (taken : (system arch clock hal).Step before event after) : after.Sound := by
  obtain ⟨outcome, later, ran, rfl⟩ := taken
  cases event with
  | preemptStart choices =>
      exact sound.calm (GlueM.calmly_preemptStart clock choices) ran rfl rfl rfl
  | dmReport a0 => exact sound.calm (GlueM.calmly_dmReport a0) ran rfl rfl rfl
  | dmWaitCrash => exact sound.wait safe ran
  | dmPollCrash => exact sound.poll ran
  | dmRespawnDriver choices =>
      exact sound.calm (GlueM.calmly_dmRespawnDriver clock choices) ran rfl rfl rfl
  | tick =>
      exact sound.calm (GlueM.calmly_orResume (GlueM.calmly_p2Tick clock)) ran rfl rfl rfl
  | fault cause => exact sound.fault safe ran

theorem crashes_notified {state : Supervised μ}
    (reachable : (system arch clock hal).Reachable Safe state) : state.Notified := by
  have sound : state.Sound := by
    refine reachable.invariant ?_ fun before event after safe sound taken =>
      sound.step safe taken
    rintro start ⟨resting, nothing, _, noCrash, noPoll, nobody, asleep⟩
    constructor
    · exact resting.of_waits fun tid member => by simp [nobody] at member
    · simp [nobody]
    · simp [nothing]
    · exact ⟨by simp [noCrash, noPoll, nothing], fun woken => by simp [asleep] at woken⟩
  exact sound.notified

/-! ## A run with one driver -/

instance decidableExistsSome {α : Type} (option : Option α) (holds : α → Prop)
    [DecidablePred holds] : Decidable (∃ value, option = some value ∧ holds value) :=
  match option with
  | none => isFalse (by simp)
  | some value => decidable_of_iff (holds value) (by simp)

instance decidableSafe (state : Supervised μ) :
    (event : SupervisionEvent) → Decidable (state.Safe event)
  | .fault cause => inferInstanceAs
      (Decidable ((_ ↔ ∃ tid, state.glue.kernel.sched.running = some tid ∧
        state.glue.statics.watchedDriverTid = some tid) ∧ (_ → _ ∧ cause ≠ 0)))
  | .dmWaitCrash => inferInstanceAs (Decidable (_ ∨ ∃ tid, _ = some tid ∧ _))
  | .preemptStart _ | .dmReport _ | .dmPollCrash | .dmRespawnDriver _ | .tick => isTrue trivial

/-- The step of a small machine. -/
def next (before : Supervised Unit) (event : SupervisionEvent) : Option (Supervised Unit) :=
  match event.exec .riscv64 GlueM.sampleClock sampleHal before.glue with
  | .ok outcome later => some (before.record event outcome later)
  | _ => none

theorem step_of_next (before : Supervised Unit) (event : SupervisionEvent)
    (after : Supervised Unit) (taken : next before event = some after) :
    (system .riscv64 GlueM.sampleClock sampleHal).Step before event after := by
  unfold next at taken
  split at taken
  · next outcome later ran =>
    exact ⟨outcome, later, ran, (Option.some.inj taken).symm⟩
  · cases taken

/-- The machine after the start. -/
def sampleStart : Supervised Unit where
  glue := GlueM.untrapped sampleMachine
  current := 0
  drivers := []
  crashes := []
  polled := []
  parked := []
  woken := false

theorem sampleStart_initial :
    (system .riscv64 GlueM.sampleClock sampleHal).Initial sampleStart :=
  ⟨.of_boots sampleMachine_boots, rfl, rfl, rfl, rfl, rfl, rfl⟩

def sampleChoices : Choices where
  image := some []
  entry := 4096
  mapped := fun _ => true
  windows := []
  planned := true
  wakes := []
  value := 0

/-- The device manager waits for a driver, which then crashes. -/
def supervises : List SupervisionEvent :=
  [.tick, .preemptStart sampleChoices, .tick, .dmWaitCrash, .fault 2, .dmPollCrash]

def supervisedMachine : Supervised Unit :=
  (TransitionSystem.runWhile next (fun state event => state.Safe event) supervises
    sampleStart).getD sampleStart

theorem crashes_notified_sample :
    supervisedMachine.Notified ∧ supervisedMachine.polled = [2] := by
  have ran : (TransitionSystem.runWhile next (fun state event => state.Safe event) supervises
      sampleStart).isSome := by
    decide +kernel
  obtain ⟨last, reached⟩ := Option.isSome_iff_exists.1 ran
  have same : supervisedMachine = last := by
    rw [supervisedMachine, reached]
    rfl
  have polled : supervisedMachine.polled = [2] := by
    decide +kernel
  refine ⟨?_, polled⟩
  have run := TransitionSystem.Reaches.runWhile step_of_next (.refl _) reached
  rw [same]
  exact crashes_notified ⟨sampleStart, sampleStart_initial,
    run.mono fun _ _ admitted => of_decide_eq_true admitted⟩

/-- The second crash comes before the device manager has asked for the first one. -/
def crashesTwice : List SupervisionEvent :=
  [.tick, .preemptStart sampleChoices, .tick, .dmWaitCrash, .fault 2,
    .dmRespawnDriver sampleChoices, .fault 3, .dmPollCrash]

theorem second_crash_hides_first :
    ¬ ∀ state : Supervised Unit,
      (system .riscv64 GlueM.sampleClock sampleHal).Reachable TransitionSystem.anyStep state →
        state.Notified := by
  intro claimed
  have ran : (TransitionSystem.runWhile next (fun _ _ => true) crashesTwice sampleStart).any
      fun state => state.crashes = [2, 3] ∧ state.polled = [3] ∧
        state.glue.statics.pendingCrash = none := by
    decide +kernel
  obtain ⟨last, reached, final⟩ := (Option.any_eq_true _ _).1 ran
  obtain ⟨crashes, polled, pending⟩ := of_decide_eq_true final
  have run := TransitionSystem.Reaches.runWhile step_of_next (.refl _) reached
  have returned := (claimed last ⟨sampleStart, sampleStart_initial,
    run.mono fun _ _ _ => trivial⟩).returned
  rw [crashes, polled, pending] at returned
  simp at returned

end Supervised

end Simurgh
