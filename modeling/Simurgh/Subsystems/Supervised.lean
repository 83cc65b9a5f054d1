import Simurgh.Lib.TransitionSystem
import Simurgh.Lib.TumblingWindow
import Mathlib.Algebra.Order.Ring.Nat
import Mathlib.Data.List.Chain

/-!
# The restart policy of the Device Manager

A driver that crashes is restarted, until it crashed too often in one failure window.  Crashes
are counted in windows that follow one another.  `checks` tells builds that panic when a
counter overflows, where a call is `none`, from builds that wrap it.
-/

namespace Simurgh

namespace DeviceManager

/-- How many times one driver is restarted within the failure window. -/
def maxRestartsInWindow : UInt32 := 5

/-- The failure window, in nanoseconds. -/
def failureWindowNs : UInt64 := 60000000000

/-- A driver's supervision state. -/
inductive DriverState where
  /-- Spawned, awaiting `Probe` reply. -/
  | starting
  /-- Probed, serving requests. -/
  | running
  /-- Crashed within budget; respawning. -/
  | restarting
  /-- Restart budget exhausted; parked. -/
  | failed
  deriving DecidableEq, Repr

/-- Per-driver supervision record. -/
structure Supervised where
  state : DriverState
  restartsInWindow : UInt32
  /-- Time of the first restart in the current window (0 if none yet). -/
  windowStartNs : UInt64
  lifetimeRestarts : UInt64
  deriving DecidableEq, Repr

namespace Supervised

/-- A freshly spawned driver. -/
def new : Supervised where
  state := .starting
  restartsInWindow := 0
  windowStartNs := 0
  lifetimeRestarts := 0

/-- `a += 1` on `u32`. -/
def succU32 (checks : Bool) (a : UInt32) : Option UInt32 :=
  if checks ∧ a.toNat + 1 = 2 ^ 32 then none else some (a + 1)

/-- `a += 1` on `u64`. -/
def succU64 (checks : Bool) (a : UInt64) : Option UInt64 :=
  if checks ∧ a.toNat + 1 = 2 ^ 64 then none else some (a + 1)

/-- The driver reported a successful `Probe`. -/
def onProbeOk (s : Supervised) : Supervised := { s with state := .running }

/-- The window has elapsed, or there was none. -/
def Elapsed (s : Supervised) (nowNs : UInt64) : Prop :=
  s.windowStartNs = 0 ∨ failureWindowNs.toNat < nowNs.toNat - s.windowStartNs.toNat

instance (s : Supervised) (nowNs : UInt64) : Decidable (s.Elapsed nowNs) :=
  inferInstanceAs (Decidable (_ ∨ _))

/-- Decay: if the window has elapsed, start a new one. -/
def decay (s : Supervised) (nowNs : UInt64) : Supervised :=
  if s.Elapsed nowNs then { s with windowStartNs := nowNs, restartsInWindow := 0 } else s

/-- The driver crashed or failed `Probe` at `nowNs`. -/
def onCrash (checks : Bool) (nowNs : UInt64) (s : Supervised) :
    Option (Supervised × DriverState) := do
  let lifetime ← succU64 checks s.lifetimeRestarts
  let decayed := { s with lifetimeRestarts := lifetime }.decay nowNs
  let restarts ← succU32 checks decayed.restartsInWindow
  let state : DriverState := if maxRestartsInWindow < restarts then .failed else .restarting
  return ({ decayed with restartsInWindow := restarts, state := state }, state)

/-- The replacement process has been spawned. -/
def onRespawn (s : Supervised) : Supervised :=
  if s.state = .restarting then { s with state := .starting } else s

/-! ## Runs -/

/-- What happens to a supervised driver. -/
inductive Call where
  | probeOk
  | crash (nowNs : UInt64)
  | respawn
  deriving DecidableEq, Repr

def next (checks : Bool) (s : Supervised) : Call → Option Supervised
  | .probeOk => some s.onProbeOk
  | .crash nowNs => (onCrash checks nowNs s).map Prod.fst
  | .respawn => some s.onRespawn

/-- The records that the calls lead to, until one panics. -/
def trajectory (checks : Bool) (s : Supervised) : List Call → List Supervised
  | [] => [s]
  | call :: rest =>
      match next checks s call with
      | some later => s :: trajectory checks later rest
      | none => [s]

variable {checks : Bool} {s after : Supervised} {nowNs : UInt64} {answer : DriverState}

/-! ## One crash -/

theorem succU32_eq_some {a b : UInt32} (counted : succU32 checks a = some b) :
    b = a + 1 := by
  rw [succU32] at counted
  by_cases panics : checks ∧ a.toNat + 1 = 2 ^ 32
  · rw [if_pos panics] at counted
    cases counted
  · rw [if_neg panics] at counted
    exact (Option.some.inj counted).symm

theorem decay_windowStartNs :
    (s.decay nowNs).windowStartNs = if s.Elapsed nowNs then nowNs else s.windowStartNs := by
  unfold decay
  split
  · rfl
  · rfl

theorem decay_restartsInWindow :
    (s.decay nowNs).restartsInWindow = if s.Elapsed nowNs then 0 else s.restartsInWindow := by
  unfold decay
  split
  · rfl
  · rfl

/-- What a crash that is answered does. -/
structure Crashes (nowNs : UInt64) (s after : Supervised) (answer : DriverState) : Prop where
  state : after.state = answer
  answered : answer = if maxRestartsInWindow < after.restartsInWindow then .failed else .restarting
  window : after.windowStartNs = if s.Elapsed nowNs then nowNs else s.windowStartNs
  restarts : after.restartsInWindow = (if s.Elapsed nowNs then 0 else s.restartsInWindow) + 1

theorem onCrash_crashes (ran : onCrash checks nowNs s = some (after, answer)) :
    Crashes nowNs s after answer := by
  unfold onCrash at ran
  obtain ⟨lifetime, _, ran⟩ := Option.bind_eq_some_iff.1 ran
  obtain ⟨restarts, counted, ran⟩ := Option.bind_eq_some_iff.1 ran
  obtain ⟨rfl, rfl⟩ := Prod.mk.inj (Option.some.inj ran)
  have counted := succU32_eq_some counted
  rw [decay_restartsInWindow] at counted
  constructor
  · rfl
  · rfl
  · exact decay_windowStartNs
  · exact counted

theorem Crashes.restarting_iff (crashes : Crashes nowNs s after answer) :
    answer = .restarting ↔ after.restartsInWindow.toNat ≤ maxRestartsInWindow.toNat := by
  rw [crashes.answered]
  by_cases many : maxRestartsInWindow < after.restartsInWindow
  · rw [if_pos many]
    exact iff_of_false DriverState.noConfusion (Nat.not_le_of_lt many)
  · rw [if_neg many]
    exact iff_of_true rfl (Nat.le_of_not_lt many)

/-- A counter has no room for the crash. -/
def Overflows (s : Supervised) (nowNs : UInt64) : Prop :=
  s.lifetimeRestarts.toNat + 1 = 2 ^ 64 ∨
    ¬ s.Elapsed nowNs ∧ s.restartsInWindow.toNat + 1 = 2 ^ 32

instance (s : Supervised) (nowNs : UInt64) : Decidable (s.Overflows nowNs) :=
  inferInstanceAs (Decidable (_ ∨ _))

/-- When a crash panics. -/
theorem onCrash_eq_none :
    onCrash checks nowNs s = none ↔ checks = true ∧ s.Overflows nowNs := by
  have restarts : ∀ lifetime : UInt64,
      ({ s with lifetimeRestarts := lifetime }.decay nowNs).restartsInWindow =
        if s.Elapsed nowNs then 0 else s.restartsInWindow :=
    fun _ => decay_restartsInWindow
  unfold onCrash Overflows
  by_cases full : checks = true ∧ s.lifetimeRestarts.toNat + 1 = 2 ^ 64
  · rw [succU64, if_pos full]
    exact iff_of_true rfl ⟨full.1, .inl full.2⟩
  · rw [succU64, if_neg full]
    simp only [Option.bind_eq_bind, Option.bind_some, restarts, succU32]
    by_cases elapsed : s.Elapsed nowNs
    · have room : ¬ (checks = true ∧ (0 : UInt32).toNat + 1 = 2 ^ 32) :=
        fun panics => absurd panics.2 (by decide)
      rw [if_pos elapsed, if_neg room]
      refine iff_of_false (Option.some_ne_none _) ?_
      rintro ⟨panics, lifetime | ⟨here, _⟩⟩
      · exact full ⟨panics, lifetime⟩
      · exact here elapsed
    · rw [if_neg elapsed]
      by_cases wraps : checks = true ∧ s.restartsInWindow.toNat + 1 = 2 ^ 32
      · rw [if_pos wraps]
        exact iff_of_true rfl ⟨wraps.1, .inr ⟨elapsed, wraps.2⟩⟩
      · rw [if_neg wraps]
        refine iff_of_false (Option.some_ne_none _) ?_
        rintro ⟨panics, lifetime | ⟨_, count⟩⟩
        · exact full ⟨panics, lifetime⟩
        · exact wraps ⟨panics, count⟩

theorem onCrash_cases (checks : Bool) (nowNs : UInt64) (s : Supervised) :
    (onCrash checks nowNs s = none ∧ checks = true ∧ s.Overflows nowNs) ∨
      ∃ after answer, onCrash checks nowNs s = some (after, answer) ∧
        ¬ (checks = true ∧ s.Overflows nowNs) ∧ Crashes nowNs s after answer := by
  cases ran : onCrash checks nowNs s with
  | none => exact .inl ⟨rfl, onCrash_eq_none.1 ran⟩
  | some result =>
      obtain ⟨after, answer⟩ := result
      right
      refine ⟨after, answer, rfl, fun panics => ?_, onCrash_crashes ran⟩
      rw [onCrash_eq_none.2 panics] at ran
      cases ran

/-! ## A failed driver -/

/-- What leaves a failed driver failed: a respawn, or a crash that is counted in the window of
the failure. -/
def KeepsFailed (checks : Bool) (s : Supervised) : Call → Prop
  | .probeOk => False
  | .crash nowNs =>
      checks = true ∧ s.Overflows nowNs ∨
        ¬ s.Elapsed nowNs ∧ maxRestartsInWindow < s.restartsInWindow + 1
  | .respawn => True

/-- A driver that failed is failed in all later records. -/
def FailedIsFinal (records : List Supervised) : Prop :=
  records.Pairwise fun earlier later => earlier.state = .failed → later.state = .failed

/-- One call. -/
theorem next_failed_iff (failed : s.state = .failed) (call : Call) :
    (∀ later, next checks s call = some later → later.state = .failed) ↔
      KeepsFailed checks s call := by
  cases call with
  | probeOk =>
      refine iff_of_false (fun keeps => ?_) not_false
      have running := keeps _ rfl
      cases running
  | respawn =>
      refine iff_of_true ?_ trivial
      intro later taken
      obtain rfl := Option.some.inj taken
      rw [onRespawn, failed, if_neg DriverState.noConfusion]
      exact failed
  | crash nowNs =>
      rw [next, KeepsFailed]
      rcases onCrash_cases checks nowNs s with
        ⟨ran, panics⟩ | ⟨after, answer, ran, goesOn, crashes⟩
      · rw [ran]
        refine iff_of_true ?_ (.inl panics)
        intro later taken
        cases taken
      · rw [ran, or_iff_right goesOn]
        have same : (∀ later, Option.map Prod.fst (some (after, answer)) = some later →
            later.state = .failed) ↔ after.state = .failed :=
          ⟨fun keeps => keeps after rfl, fun keeps later taken =>
            Option.some.inj taken ▸ keeps⟩
        rw [same, crashes.state, crashes.answered, crashes.restarts]
        by_cases elapsed : s.Elapsed nowNs
        · rw [if_pos elapsed, if_neg (by decide)]
          exact iff_of_false DriverState.noConfusion fun keeps => keeps.1 elapsed
        · rw [if_neg elapsed]
          by_cases many : maxRestartsInWindow < s.restartsInWindow + 1
          · rw [if_pos many]
            exact iff_of_true rfl ⟨elapsed, many⟩
          · rw [if_neg many]
            exact iff_of_false DriverState.noConfusion fun keeps => many keeps.2

theorem trajectory_head (checks : Bool) (s : Supervised) (calls : List Call) :
    ∃ rest, trajectory checks s calls = s :: rest := by
  cases calls with
  | nil => exact ⟨[], rfl⟩
  | cons call calls =>
      rw [trajectory]
      cases next checks s call with
      | none => exact ⟨[], rfl⟩
      | some later => exact ⟨_, rfl⟩

/-- A failed driver stays failed exactly if each call that a failed driver gets is a respawn
or a crash that is counted in the window of the failure. -/
theorem failed_is_final_iff (checks : Bool) (s : Supervised) (calls : List Call) :
    FailedIsFinal (trajectory checks s calls) ↔
      TransitionSystem.Throughout (next checks)
        (fun s call => s.state = .failed → KeepsFailed checks s call) s calls := by
  induction calls generalizing s with
  | nil => exact iff_of_true (List.pairwise_singleton _ s) trivial
  | cons call rest ih =>
      rw [trajectory, TransitionSystem.Throughout]
      cases taken : next checks s call with
      | none =>
          refine iff_of_true (List.pairwise_singleton _ s) ⟨fun failed => ?_, ?_⟩
          · apply (next_failed_iff failed call).1
            intro later again
            rw [taken] at again
            cases again
          · intro later again
            cases again
      | some later =>
          obtain ⟨tail, shape⟩ := trajectory_head checks later rest
          have transitive : IsTrans Supervised
              fun earlier later => earlier.state = .failed → later.state = .failed :=
            ⟨fun _ _ _ first second failed => second (first failed)⟩
          have inner := ih later
          change FailedIsFinal (s :: trajectory checks later rest) ↔ _
          rw [FailedIsFinal, ← List.isChain_iff_pairwise] at inner ⊢
          rw [shape] at inner ⊢
          rw [List.isChain_cons_cons, inner]
          apply and_congr
          · constructor
            · intro keeps failed
              apply (next_failed_iff failed call).1
              intro other again
              obtain rfl := Option.some.inj (taken.symm.trans again)
              exact keeps failed
            · intro keeps failed
              exact (next_failed_iff failed call).2 (keeps failed) later taken
          · constructor
            · intro meets other again
              obtain rfl := Option.some.inj again
              exact meets
            · intro meets
              exact meets later rfl

instance (records : List Supervised) : Decidable (FailedIsFinal records) :=
  inferInstanceAs (Decidable (records.Pairwise _))

/-- A probe that is answered late revives a driver that crashed six times, and so does a crash
in a later window. -/
theorem late_calls_revive :
    ¬ FailedIsFinal (trajectory true new
      [.crash 1, .crash 2, .crash 3, .crash 4, .crash 5, .crash 6, .probeOk]) ∧
    ¬ FailedIsFinal (trajectory true new
      [.crash 1, .crash 2, .crash 3, .crash 4, .crash 5, .crash 6, .crash 60000000002]) := by
  decide

/-! ## Crashes and their answers -/

structure CrashAnswer where
  nowNs : UInt64
  answer : DriverState
  deriving DecidableEq, Repr

/-- The crashes of a driver so far, the newest one first. -/
abbrev CrashHistory := List CrashAnswer

namespace CrashHistory

variable (history : CrashHistory)

def times : List Nat := history.map fun crash => crash.nowNs.toNat

/-- The crashes of the failure window before a point in time. -/
def crashesWithin (nowNs : UInt64) : Nat :=
  history.countP fun crash => nowNs.toNat ≤ crash.nowNs.toNat + failureWindowNs.toNat

/-- Those of them that were answered with a restart. -/
def restartsWithin (nowNs : UInt64) : Nat :=
  history.countP fun crash =>
    crash.answer = .restarting ∧ nowNs.toNat ≤ crash.nowNs.toNat + failureWindowNs.toNat

end CrashHistory

/-- Take a call and record its answer. -/
def nextRecorded (checks : Bool) (before : Supervised × CrashHistory) :
    Call → Option (Supervised × CrashHistory)
  | .probeOk => some (before.1.onProbeOk, before.2)
  | .crash nowNs =>
      (onCrash checks nowNs before.1).map fun (after, answer) =>
        (after, ⟨nowNs, answer⟩ :: before.2)
  | .respawn => some (before.1.onRespawn, before.2)

/-- A driver and its crashes. -/
def system (checks : Bool) : TransitionSystem (Supervised × CrashHistory) Call where
  Initial state := state = (new, [])
  Step before call after := nextRecorded checks before call = some after

/-- Time does not go back. -/
def InOrder (state : Supervised × CrashHistory) : Call → Prop
  | .crash nowNs => ∀ crash ∈ state.2, crash.nowNs ≤ nowNs
  | _ => True

variable {history : CrashHistory}

/-- What the counter and the window have to do with the crashes. -/
structure Counts (s : Supervised) (history : CrashHistory) : Prop where
  ordered : history.times.Pairwise (· ≥ ·)
  started : s.windowStartNs = 0 ∨ ∃ crash ∈ history, crash.nowNs = s.windowStartNs
  counted : s.restartsInWindow.toNat ≤
    history.countP fun crash => s.windowStartNs ≤ crash.nowNs

/-- As long as no counter wraps and no crash is at time zero, crashes are counted in windows
that follow one another. -/
structure Windowed (s : Supervised) (history : CrashHistory) : Prop where
  window : TumblingWindow.after failureWindowNs.toNat history.times =
    ⟨if s.windowStartNs = 0 then none else some s.windowStartNs.toNat, s.restartsInWindow.toNat⟩
  granted : TumblingWindow.granted failureWindowNs.toNat maxRestartsInWindow.toNat history.times =
    CrashHistory.times (history.filter fun crash => crash.answer = .restarting)

theorem toNat_succ_le (a : UInt32) : (a + 1).toNat ≤ a.toNat + 1 := by
  rw [UInt32.toNat_add]
  exact Nat.mod_le _ _

theorem toNat_succ {a : UInt32} (room : a.toNat + 1 < 2 ^ 32) : (a + 1).toNat = a.toNat + 1 := by
  rw [UInt32.toNat_add]
  exact Nat.mod_eq_of_lt room

namespace Counts

theorem new : Counts new [] where
  ordered := .nil
  started := .inl rfl
  counted := Nat.le_refl 0

theorem windowStartNs_le (counts : Counts s history)
    (inOrder : InOrder (s, history) (.crash nowNs)) : s.windowStartNs ≤ nowNs := by
  cases counts.started with
  | inl none =>
      rw [none]
      exact UInt64.zero_le
  | inr some =>
      obtain ⟨crash, older, same⟩ := some
      rw [← same]
      exact inOrder crash older

theorem crash (counts : Counts s history) (inOrder : InOrder (s, history) (.crash nowNs))
    (crashes : Crashes nowNs s after answer) : Counts after (⟨nowNs, answer⟩ :: history) where
  ordered := by
    apply List.pairwise_cons.2
    refine ⟨fun time member => ?_, counts.ordered⟩
    obtain ⟨crash, older, rfl⟩ := List.mem_map.1 member
    exact UInt64.le_iff_toNat_le.1 (inOrder crash older)
  started := by
    rw [crashes.window]
    by_cases elapsed : s.Elapsed nowNs
    · rw [if_pos elapsed]
      exact .inr ⟨_, List.mem_cons_self, rfl⟩
    · rw [if_neg elapsed]
      cases counts.started with
      | inl none => exact .inl none
      | inr some =>
          obtain ⟨crash, older, same⟩ := some
          exact .inr ⟨crash, List.mem_cons_of_mem _ older, same⟩
  counted := by
    rw [crashes.window, crashes.restarts, List.countP_cons]
    by_cases elapsed : s.Elapsed nowNs
    · rw [if_pos elapsed, if_pos elapsed, if_pos (decide_eq_true (UInt64.le_refl nowNs))]
      exact Nat.le_add_left 1 _
    · have started := counts.windowStartNs_le inOrder
      rw [if_neg elapsed, if_neg elapsed, if_pos (decide_eq_true started)]
      exact Nat.le_trans (toNat_succ_le _) (Nat.succ_le_succ counts.counted)

/-- A driver is not given up before it crashed often enough in the failure window. -/
theorem failed (counts : Counts s history) (crashes : Crashes nowNs s after .failed) :
    maxRestartsInWindow.toNat ≤ history.crashesWithin nowNs := by
  have many : maxRestartsInWindow < after.restartsInWindow := by
    by_contra few
    have answered := crashes.answered
    rw [if_neg few] at answered
    cases answered
  rw [crashes.restarts, UInt32.lt_iff_toNat_lt] at many
  by_cases elapsed : s.Elapsed nowNs
  · rw [if_pos elapsed] at many
    exact absurd many (by decide)
  · rw [if_neg elapsed] at many
    have succ := toNat_succ_le s.restartsInWindow
    have counted : maxRestartsInWindow.toNat ≤ s.restartsInWindow.toNat := by omega
    apply Nat.le_trans counted
    apply Nat.le_trans counts.counted
    apply List.countP_mono_left
    intro crash _ inside
    have inside := UInt64.le_iff_toNat_le.1 (of_decide_eq_true inside)
    have soon := Nat.le_of_not_lt (mt Or.inr elapsed)
    exact decide_eq_true (by omega)

end Counts

namespace Windowed

theorem new : Windowed new [] where
  window := rfl
  granted := rfl

/-- A crash at a positive time, when the counter has room. -/
theorem crash (windowed : Windowed s history) (positive : nowNs ≠ 0)
    (room : s.restartsInWindow.toNat + 1 < 2 ^ 32) (crashes : Crashes nowNs s after answer) :
    Windowed after (⟨nowNs, answer⟩ :: history) := by
  have window : TumblingWindow.after failureWindowNs.toNat
        (CrashHistory.times (⟨nowNs, answer⟩ :: history)) =
      ⟨if after.windowStartNs = 0 then none else some after.windowStartNs.toNat,
        after.restartsInWindow.toNat⟩ := by
    change TumblingWindow.observe _ (TumblingWindow.after _ history.times) nowNs.toNat = _
    rw [windowed.window, crashes.window, crashes.restarts]
    by_cases elapsed : s.Elapsed nowNs
    · rw [if_pos elapsed, if_pos elapsed, if_neg positive]
      by_cases none : s.windowStartNs = 0
      · rw [if_pos none]
        rfl
      · have late := elapsed.resolve_left none
        rw [if_neg none]
        apply TumblingWindow.observe_of_lt rfl
        omega
    · rw [if_neg elapsed, if_neg elapsed, toNat_succ room]
      have opened := mt Or.inl elapsed
      have soon := Nat.le_of_not_lt (mt Or.inr elapsed)
      rw [if_neg opened]
      apply TumblingWindow.observe_of_le rfl
      omega
  refine ⟨window, ?_⟩
  change TumblingWindow.granted _ _ (nowNs.toNat :: history.times) = _
  change TumblingWindow.after _ (nowNs.toNat :: history.times) = _ at window
  rw [TumblingWindow.granted, window, windowed.granted]
  by_cases restarting : answer = .restarting
  · rw [if_pos (crashes.restarting_iff.1 restarting),
      List.filter_cons_of_pos (by simpa using restarting)]
    rfl
  · rw [if_neg (mt crashes.restarting_iff.2 restarting),
      List.filter_cons_of_neg (by simpa using restarting)]

/-- Restarts are granted to the first crashes of a window. -/
theorem restarting_iff (windowed : Windowed after (⟨nowNs, answer⟩ :: history))
    (crashes : Crashes nowNs s after answer) :
    answer = .restarting ↔ (TumblingWindow.after failureWindowNs.toNat
      (nowNs.toNat :: history.times)).count ≤ maxRestartsInWindow.toNat := by
  have window := windowed.window
  change TumblingWindow.after _ (nowNs.toNat :: history.times) = _ at window
  rw [window]
  exact crashes.restarting_iff

theorem restartsWithin (windowed : Windowed s history) :
    history.restartsWithin nowNs =
      (TumblingWindow.granted failureWindowNs.toNat maxRestartsInWindow.toNat history.times).countP
        fun time => nowNs.toNat ≤ time + failureWindowNs.toNat := by
  rw [windowed.granted, CrashHistory.times, List.countP_map, List.countP_filter]
  apply List.countP_congr
  intro crash _
  simp [and_comm]

end Windowed

/-! ## Runs of crashes -/

/-- The driver crashed at positive times only, and not so often that a counter wraps. -/
structure InRange (history : CrashHistory) : Prop where
  positive : ∀ crash ∈ history, crash.nowNs ≠ 0
  few : history.length < 2 ^ 32

/-- How a crash is answered. -/
structure Policy (history : CrashHistory) (nowNs : UInt64) (answer : DriverState) : Prop where
  failed : answer = .failed → maxRestartsInWindow.toNat ≤ history.crashesWithin nowNs
  restarting : InRange (⟨nowNs, answer⟩ :: history) →
    (answer = .restarting ↔ (TumblingWindow.after failureWindowNs.toNat
      (nowNs.toNat :: history.times)).count ≤ maxRestartsInWindow.toNat)
  restarted : InRange (⟨nowNs, answer⟩ :: history) → answer = .restarting →
    history.restartsWithin nowNs < 2 * maxRestartsInWindow.toNat - 1

/-- A call that only sets the state. -/
theorem invariant_setState (state : DriverState)
    (held : Counts s history ∧ (InRange history → Windowed s history)) :
    Counts { s with state := state } history ∧
      (InRange history → Windowed { s with state := state } history) :=
  ⟨⟨held.1.ordered, held.1.started, held.1.counted⟩,
    fun inRange => ⟨(held.2 inRange).window, (held.2 inRange).granted⟩⟩

/-- One crash. -/
theorem invariant_crash (held : Counts s history ∧ (InRange history → Windowed s history))
    (inOrder : InOrder (s, history) (.crash nowNs))
    (ran : onCrash checks nowNs s = some (after, answer)) :
    Counts after (⟨nowNs, answer⟩ :: history) ∧
      (InRange (⟨nowNs, answer⟩ :: history) → Windowed after (⟨nowNs, answer⟩ :: history)) := by
  have crashes := onCrash_crashes ran
  refine ⟨held.1.crash inOrder crashes, fun inRange => ?_⟩
  have few : history.length + 1 < 2 ^ 32 := inRange.few
  have older : InRange history :=
    ⟨fun crash member => inRange.positive crash (List.mem_cons_of_mem _ member), by omega⟩
  have counted := Nat.le_trans held.1.counted List.countP_le_length
  exact (held.2 older).crash (inRange.positive _ List.mem_cons_self) (by omega) crashes

/-- What runs keep. -/
theorem invariant {state : Supervised × CrashHistory}
    (reachable : (system checks).Reachable InOrder state) :
    Counts state.1 state.2 ∧ (InRange state.2 → Windowed state.1 state.2) := by
  refine @TransitionSystem.Reachable.invariant _ _ _ _
    (fun state => Counts state.1 state.2 ∧ (InRange state.2 → Windowed state.1 state.2))
    _ reachable ?_ ?_
  · rintro start rfl
    exact ⟨.new, fun _ => .new⟩
  · rintro ⟨s, history⟩ call ⟨after, later⟩ inOrder held taken
    change nextRecorded checks (s, history) call = some (after, later) at taken
    cases call with
    | probeOk =>
        obtain ⟨rfl, rfl⟩ := Prod.mk.inj (Option.some.inj taken)
        exact invariant_setState .running held
    | respawn =>
        obtain ⟨rfl, rfl⟩ := Prod.mk.inj (Option.some.inj taken)
        change Counts s.onRespawn history ∧ (InRange history → Windowed s.onRespawn history)
        rw [onRespawn]
        split
        · exact invariant_setState .starting held
        · exact held
    | crash nowNs =>
        obtain ⟨⟨crashed, answer⟩, ran, same⟩ := Option.map_eq_some_iff.1 taken
        obtain ⟨rfl, rfl⟩ := Prod.mk.inj same
        exact invariant_crash held inOrder ran

/-- In a run whose crashes come in order, a driver is given up only if it crashed often enough
in the failure window.  Restarts are granted to the first crashes of windows that follow one
another, which makes fewer than twice as many in any failure window. -/
theorem crash_policy {state : Supervised × CrashHistory}
    (reachable : (system checks).Reachable InOrder state)
    (inOrder : InOrder state (.crash nowNs))
    (answered : onCrash checks nowNs state.1 = some (after, answer)) :
    Policy state.2 nowNs answer := by
  have held := invariant reachable
  have crashes := onCrash_crashes answered
  have later := invariant_crash held inOrder answered
  constructor
  · rintro rfl
    exact held.1.failed crashes
  · intro inRange
    exact (later.2 inRange).restarting_iff crashes
  · intro inRange restarting
    have first := ((later.2 inRange).restarting_iff crashes).1 restarting
    have older : InRange state.2 :=
      ⟨fun crash member => inRange.positive crash (List.mem_cons_of_mem _ member),
        Nat.lt_of_succ_lt inRange.few⟩
    have sliding := TumblingWindow.granted_sliding (by decide) later.1.ordered first
    rw [(held.2 older).restartsWithin]
    exact Nat.lt_of_le_of_lt sliding (by decide)

instance (state : Supervised × CrashHistory) (call : Call) : Decidable (InOrder state call) :=
  match call with
  | .probeOk => inferInstanceAs (Decidable True)
  | .crash nowNs => inferInstanceAs (Decidable (∀ crash ∈ state.2, crash.nowNs ≤ nowNs))
  | .respawn => inferInstanceAs (Decidable True)

/-- Calls that are in order lead to a reachable state. -/
theorem reachable_of_runWhile {calls : List Call} {state : Supervised × CrashHistory}
    (ran : TransitionSystem.runWhile (nextRecorded checks) (fun state call => InOrder state call)
      calls (new, []) = some state) :
    (system checks).Reachable InOrder state := by
  have run := TransitionSystem.Reaches.runWhile (fun _ _ _ taken => taken)
    (@TransitionSystem.Reaches.refl _ _ (system checks) _ (new, [])) ran
  exact ⟨_, rfl, run.mono fun state call admitted => of_decide_eq_true admitted⟩

/-- Four crashes at the end of one window, and one in the next. -/
def sampleCalls : List Call :=
  [.crash 1, .probeOk, .crash 60000000000, .crash 60000000000, .crash 60000000000,
    .crash 60000000000, .respawn, .crash 60000000002]

def sampleState : Supervised × CrashHistory :=
  (TransitionSystem.runWhile (nextRecorded true) (fun state call => InOrder state call)
    sampleCalls (new, [])).getD (new, [])

theorem sampleState_reachable : (system true).Reachable InOrder sampleState :=
  @reachable_of_runWhile true sampleCalls _ rfl

theorem crash_policy_sample :
    Policy sampleState.2 60000000003 .restarting ∧
      sampleState.2.restartsWithin 60000000003 = 5 := by
  have ran : (onCrash true 60000000003 sampleState.1).map Prod.snd = some .restarting := by decide
  obtain ⟨⟨after, answer⟩, answered, same⟩ := Option.map_eq_some_iff.1 ran
  obtain rfl : answer = .restarting := same
  exact ⟨crash_policy sampleState_reachable (by decide) answered, by decide⟩

/-- Where two windows meet there are more restarts than one window grants. -/
theorem restarts_where_windows_meet :
    ¬ ∀ state, (system true).Reachable InOrder state → ∀ nowNs after answer,
      InOrder state (.crash nowNs) → onCrash true nowNs state.1 = some (after, answer) →
        (answer = .restarting →
          state.2.restartsWithin nowNs < maxRestartsInWindow.toNat) ∧
        (answer = .failed → maxRestartsInWindow.toNat ≤ state.2.crashesWithin nowNs) := by
  intro policy
  have ran : (onCrash true 60000000003 sampleState.1).map Prod.snd = some .restarting := by decide
  obtain ⟨⟨after, answer⟩, answered, same⟩ := Option.map_eq_some_iff.1 ran
  have few := (policy _ sampleState_reachable _ _ _ (by decide) answered).1 same
  exact absurd few (by decide)

end Supervised

end DeviceManager

end Simurgh
