import Simurgh.Hal.Direct

/-!
# Timers

Each core has a counter, and its timer tells the time in nanoseconds and arms one deadline.  On
two architectures the deadline goes into a compare register of the counter itself.  On the third
it may also be a count of another counter, whose frequency has to be measured first.  The clock
is right as long as its nanoseconds fit in 64 bits, and a deadline is met exactly if its ticks
come out even.
-/

namespace Simurgh

inductive TimerMode where
  | interactive
  | highResolutionTickless
  deriving DecidableEq, Repr

/-- What the hardware is told. -/
inductive Armed where
  | compare (ticks : Nat)
  /-- A zero disarms. -/
  | tscDeadline (ticks : Nat)
  /-- A zero disarms. -/
  | lapicCount (ticks : Nat)
  deriving DecidableEq, Repr

def nanosPerSecond : Nat := 1000000000

/-! ## Three timers

A counter and a time are numbers of 64 bits, and a product of two of them fits in 128 bits.
Only the quotients are narrowed. -/

/-- `(ticks as u128 * 1_000_000_000u128 / self.frequency_hz as u128) as u64`. -/
def ticksToNanos (frequencyHz ticks : Nat) : Nat :=
  ticks * nanosPerSecond / frequencyHz % 2 ^ 64

/-- `(nanos as u128 * frequency_hz as u128 / 1_000_000_000u128) as u64`. -/
def nanosToTicks (frequencyHz nanos : Nat) : Nat :=
  nanos * frequencyHz / nanosPerSecond % 2 ^ 64

namespace Riscv64

structure Timer where
  frequencyHz : Nat
  sbiTimeAvailable : Bool
  deriving DecidableEq, Repr

namespace Timer

variable (timer : Timer)

def nowNs (ticks : Nat) : Nat := ticksToNanos timer.frequencyHz ticks

def deadlineNsToTicks (deadlineNs : Nat) : Nat := nanosToTicks timer.frequencyHz deadlineNs

/-- The counter stands at `ticks` when the clock is read. -/
def setOneshot (ticks deadlineNs : Nat) (_mode : TimerMode) : Except HalError Armed :=
  if timer.sbiTimeAvailable = false then .error .ticklessModeUnsupported
  else if deadlineNs ≤ timer.nowNs ticks then .error .invalidTimerDeadline
  else .ok (.compare (timer.deadlineNsToTicks deadlineNs))

def Supports (_mode : TimerMode) : Prop := timer.sbiTimeAvailable = true

end Timer

end Riscv64

namespace Arm64

structure Timer where
  frequencyHz : Nat
  deriving DecidableEq, Repr

namespace Timer

variable (timer : Timer)

def nowNs (ticks : Nat) : Nat := ticksToNanos timer.frequencyHz ticks

def deadlineNsToTicks (deadlineNs : Nat) : Nat := nanosToTicks timer.frequencyHz deadlineNs

def setOneshot (ticks deadlineNs : Nat) (_mode : TimerMode) : Except HalError Armed :=
  if deadlineNs ≤ timer.nowNs ticks then .error .invalidTimerDeadline
  else .ok (.compare (timer.deadlineNsToTicks deadlineNs))

end Timer

end Arm64

namespace X8664

structure Timer where
  frequencyHz : Nat
  tscDeadlineCapable : Bool
  /-- The measured frequency of the count. -/
  lapicFreqHz : Option Nat
  deriving DecidableEq, Repr

namespace Timer

variable (timer : Timer)

def nowNs (ticks : Nat) : Nat := ticksToNanos timer.frequencyHz ticks

def deadlineNsToTsc (deadlineNs : Nat) : Nat := nanosToTicks timer.frequencyHz deadlineNs

def calibrationWindowNs : Nat := 1000000

/-- The loop that waits for the end of the window.  It takes one reading of the counter in each
turn, and the readings it leaves come later. -/
def spin (start : Nat) : List Nat → Option (List Nat)
  | [] => none
  | ticks :: rest =>
      if timer.nowNs ticks - start < calibrationWindowNs then spin start rest else some rest

/-- The frequency of the count, which stands at `remaining` when the window has passed.  The
count was started at its maximum, and its interrupt is masked in the meantime. -/
def calibrate (remaining : Nat) : List Nat → Option (Nat × List Nat)
  | [] => none
  | first :: readings =>
      let start := timer.nowNs first
      match timer.spin start readings with
      | none => none
      | some [] => none
      | some (ticks :: rest) =>
          let elapsedNs := max (timer.nowNs ticks - start) 1
          let elapsedTicks := 2 ^ 32 - 1 - remaining
          some (elapsedTicks * nanosPerSecond / elapsedNs % 2 ^ 64, rest)

/-- The measured frequency, and the readings that are left. -/
def lapicFrequency (remaining : Nat) (readings : List Nat) : Option (Nat × List Nat) :=
  match timer.lapicFreqHz with
  | some freqHz => some (freqHz, readings)
  | none => timer.calibrate remaining readings

/-- `.clamp(1, u32::MAX as u64)`. -/
def clampCount (ticks : Nat) : Nat := min (max ticks 1) (2 ^ 32 - 1)

def armLapicCountOneshot (remaining deadlineNs : Nat) (readings : List Nat) :
    Option (Timer × Armed × List Nat) :=
  match timer.lapicFrequency remaining readings with
  | none => none
  | some (_, []) => none
  | some (freqHz, ticks :: rest) =>
      let relativeNs := deadlineNs - timer.nowNs ticks
      let count := clampCount (relativeNs * freqHz / nanosPerSecond % 2 ^ 64)
      some ({ timer with lapicFreqHz := some freqHz }, .lapicCount count, rest)

/-- `set_oneshot`, which reads the counter again and again.  It gives `none` as long as it needs
more readings. -/
def setOneshot (controller : Bool) (remaining deadlineNs : Nat) (mode : TimerMode)
    (readings : List Nat) : Option (Timer × Except HalError Armed × List Nat) :=
  if mode = .highResolutionTickless ∧ timer.tscDeadlineCapable = false then
    some (timer, .error .ticklessModeUnsupported, readings)
  else
    match readings with
    | [] => none
    | ticks :: rest =>
        if deadlineNs ≤ timer.nowNs ticks then
          some (timer, .error .invalidTimerDeadline, rest)
        else if timer.tscDeadlineCapable = true then
          some (timer, .ok (.tscDeadline (timer.deadlineNsToTsc deadlineNs)), rest)
        else if controller = false then some (timer, .error .ticklessModeUnsupported, rest)
        else
          match timer.armLapicCountOneshot remaining deadlineNs rest with
          | none => none
          | some (later, armed, rest) => some (later, .ok armed, rest)

def Supports (controller : Bool) (mode : TimerMode) : Prop :=
  timer.tscDeadlineCapable = true ∨ mode = .interactive ∧ controller = true

end Timer

end X8664

/-! ## When a timer is right -/

/-- The time at a tick, rounded down. -/
def nanosAt (frequencyHz ticks : Nat) : Nat := ticks * nanosPerSecond / frequencyHz

/-- The clock tells the time at a tick, and it has not gone back before. -/
structure ClockRight (nowNs : Nat → Nat) (frequencyHz ticks : Nat) : Prop where
  exact : nowNs ticks = nanosAt frequencyHz ticks
  forward : ∀ earlier, earlier ≤ ticks → nowNs earlier ≤ nowNs ticks

/-- What was armed at a tick has raised its interrupt by another.  The count has a frequency of
its own. -/
def Armed.Raised (frequencyHz countHz written now : Nat) : Armed → Prop
  | compare ticks => written ≤ now ∧ ticks ≤ now
  | tscDeadline ticks => written ≤ now ∧ ticks ≤ now ∧ ticks ≠ 0
  | lapicCount ticks =>
      written ≤ now ∧ ticks * frequencyHz ≤ (now - written) * countHz ∧ ticks ≠ 0

/-- A deadline, and the ticks at which the clock was read first and last. -/
structure Oneshot where
  frequencyHz : Nat
  countHz : Nat
  first : Nat
  present : Nat
  deadlineNs : Nat

namespace Oneshot

variable (call : Oneshot)

/-- The interrupt is raised, and not before the deadline, whenever it is armed. -/
structure OnTime (armed : Armed) (written : Nat) : Prop where
  raised : ∃ now, armed.Raised call.frequencyHz call.countHz written now
  late : ∀ now, armed.Raised call.frequencyHz call.countHz written now →
    call.deadlineNs ≤ nanosAt call.frequencyHz now ∧ call.present < now

/-- A number that fits in the register and meets the deadline. -/
def Meets (arms : Nat → Armed) (size ticks : Nat) : Prop :=
  ticks < size ∧ ∀ written, call.present ≤ written → call.OnTime (arms ticks) written

/-- Exactly the deadlines in the future that a register of this size can meet are accepted, and
they are met. -/
def Right (arms : Nat → Armed) (size : Nat) : Except HalError Armed → Prop
  | .ok armed =>
      nanosAt call.frequencyHz call.first < call.deadlineNs ∧
        ∃ ticks, armed = arms ticks ∧ call.Meets arms size ticks
  | .error error =>
      error = .invalidTimerDeadline ∧
        (call.deadlineNs ≤ nanosAt call.frequencyHz call.first ∨
          ∀ ticks, ¬ call.Meets arms size ticks)

end Oneshot

/-! ## The clock -/

section Clock

variable {frequencyHz ticks deadlineNs : Nat}

theorem nanosPerSecond_pos : 0 < nanosPerSecond := by decide

theorem le_nanosAt_iff (positive : 0 < frequencyHz) :
    deadlineNs ≤ nanosAt frequencyHz ticks ↔ deadlineNs * frequencyHz ≤ ticks * nanosPerSecond :=
  Nat.le_div_iff_mul_le positive

theorem nanosAt_lt_iff (positive : 0 < frequencyHz) :
    nanosAt frequencyHz ticks < deadlineNs ↔ ticks * nanosPerSecond < deadlineNs * frequencyHz :=
  Nat.div_lt_iff_lt_mul positive

theorem nanosAt_mono {earlier : Nat} (before : earlier ≤ ticks) :
    nanosAt frequencyHz earlier ≤ nanosAt frequencyHz ticks :=
  Nat.div_le_div_right (Nat.mul_le_mul_right nanosPerSecond before)

theorem ticksToNanos_of_lt (positive : 0 < frequencyHz)
    (fits : ticks * nanosPerSecond < 2 ^ 64 * frequencyHz) :
    ticksToNanos frequencyHz ticks = nanosAt frequencyHz ticks :=
  Nat.mod_eq_of_lt ((Nat.div_lt_iff_lt_mul positive).2 fits)

/-- The clock is right exactly as long as the nanoseconds fit in 64 bits. -/
theorem clockRight_iff (positive : 0 < frequencyHz) :
    ClockRight (ticksToNanos frequencyHz) frequencyHz ticks ↔
      ticks * nanosPerSecond < 2 ^ 64 * frequencyHz := by
  constructor
  · intro right
    apply (Nat.div_lt_iff_lt_mul positive).1
    have narrow : ticksToNanos frequencyHz ticks < 2 ^ 64 := Nat.mod_lt _ (by decide)
    rw [right.exact] at narrow
    exact narrow
  · intro fits
    refine ⟨ticksToNanos_of_lt positive fits, fun earlier before => ?_⟩
    have less : earlier * nanosPerSecond ≤ ticks * nanosPerSecond := Nat.mul_le_mul_right _ before
    rw [ticksToNanos_of_lt positive fits, ticksToNanos_of_lt positive (less.trans_lt fits)]
    exact nanosAt_mono before

end Clock

/-! ## Compare registers -/

/-- The interrupt is raised when the counter reaches the number. -/
structure Comparing (arms : Nat → Armed) : Prop where
  reached : ∀ {frequencyHz countHz written now ticks},
    (arms ticks).Raised frequencyHz countHz written now → written ≤ now ∧ ticks ≤ now
  atOnce : ∀ {frequencyHz countHz written now ticks earlier},
    (arms ticks).Raised frequencyHz countHz written now → written ≤ earlier → ticks ≤ earlier →
      (arms ticks).Raised frequencyHz countHz written earlier
  reaches : ∀ {frequencyHz countHz written now ticks}, 0 < ticks → written ≤ now → ticks ≤ now →
    (arms ticks).Raised frequencyHz countHz written now

theorem comparing_compare : Comparing .compare where
  reached := fun raised => raised
  atOnce := fun _ written reached => ⟨written, reached⟩
  reaches := fun _ written reached => ⟨written, reached⟩

theorem comparing_tscDeadline : Comparing .tscDeadline where
  reached := fun raised => ⟨raised.1, raised.2.1⟩
  atOnce := fun raised written reached => ⟨written, reached, raised.2.2⟩
  reaches := fun positive written reached => ⟨written, reached, positive.ne'⟩

section Compare

variable {call : Oneshot} {arms : Nat → Armed}

/-- The compare value of a deadline meets it exactly if its ticks come out even and fit in the
register. -/
theorem Comparing.meets_iff (comparing : Comparing arms) (positive : 0 < call.frequencyHz)
    (future : nanosAt call.frequencyHz call.present < call.deadlineNs) :
    call.Meets arms (2 ^ 64) (nanosToTicks call.frequencyHz call.deadlineNs) ↔
      nanosPerSecond ∣ call.deadlineNs * call.frequencyHz ∧
        call.deadlineNs * call.frequencyHz < 2 ^ 64 * nanosPerSecond := by
  have before := (nanosAt_lt_iff positive).1 future
  obtain ⟨product, same⟩ : ∃ product, call.deadlineNs * call.frequencyHz = product := ⟨_, rfl⟩
  rw [Oneshot.Meets, nanosToTicks]
  rw [same] at before ⊢
  constructor
  · rintro ⟨_, meets⟩
    have onTime := meets call.present (Nat.le_refl _)
    obtain ⟨now, raised⟩ := onTime.raised
    have first := comparing.atOnce raised (Nat.le_max_right _ _) (Nat.le_max_left _ _)
    have late := (le_nanosAt_iff positive).1 (onTime.late _ first).1
    rw [same, ← Nat.mul_max_mul_right] at late
    -- The counter has not reached the deadline yet, and so the compare value must.
    have reached : product ≤ product / nanosPerSecond % 2 ^ 64 * nanosPerSecond := by
      rcases le_max_iff.1 late with value | already
      · exact value
      · exact absurd already (Nat.not_le_of_lt before)
    have narrow := Nat.mod_le (product / nanosPerSecond) (2 ^ 64)
    have floor := Nat.div_mul_le_self product nanosPerSecond
    have least : product / nanosPerSecond ≤ product / nanosPerSecond % 2 ^ 64 :=
      Nat.le_of_mul_le_mul_right (floor.trans reached) nanosPerSecond_pos
    have fits : product / nanosPerSecond < 2 ^ 64 :=
      least.trans_lt (Nat.mod_lt _ (by decide))
    rw [Nat.mod_eq_of_lt fits] at reached
    exact ⟨Nat.dvd_of_mod_eq_zero (by unfold nanosPerSecond at *; omega),
      (Nat.div_lt_iff_lt_mul nanosPerSecond_pos).1 fits⟩
  · rintro ⟨even, small⟩
    have fits := (Nat.div_lt_iff_lt_mul nanosPerSecond_pos).2 small
    have whole := Nat.div_mul_cancel even
    have ticks : 0 < product / nanosPerSecond := by
      apply Nat.pos_of_ne_zero
      intro zero
      rw [zero, Nat.zero_mul] at whole
      omega
    rw [Nat.mod_eq_of_lt fits]
    refine ⟨fits, fun written _ => ⟨⟨max written _, comparing.reaches ticks
      (Nat.le_max_left _ _) (Nat.le_max_right _ _)⟩, fun now raised => ?_⟩⟩
    have enough : product ≤ now * nanosPerSecond := by
      rw [← whole]
      exact Nat.mul_le_mul_right _ (comparing.reached raised).2
    rw [le_nanosAt_iff positive, same]
    exact ⟨enough, Nat.lt_of_mul_lt_mul_right (before.trans_le enough)⟩

/-- A timer with a compare register, which reads its clock once. -/
theorem Comparing.right_iff (comparing : Comparing arms) (injective : Function.Injective arms)
    (positive : 0 < call.frequencyHz) (once : call.present = call.first)
    {outcome : Except HalError Armed}
    (computed : outcome =
      if call.deadlineNs ≤ ticksToNanos call.frequencyHz call.first then
        .error .invalidTimerDeadline
      else .ok (arms (nanosToTicks call.frequencyHz call.deadlineNs))) :
    ClockRight (ticksToNanos call.frequencyHz) call.frequencyHz call.first ∧
        call.Right arms (2 ^ 64) outcome ↔
      call.first * nanosPerSecond < 2 ^ 64 * call.frequencyHz ∧
        (call.deadlineNs ≤ nanosAt call.frequencyHz call.first ∨
          nanosPerSecond ∣ call.deadlineNs * call.frequencyHz ∧
            call.deadlineNs * call.frequencyHz < 2 ^ 64 * nanosPerSecond) := by
  rw [clockRight_iff positive]
  apply and_congr_right
  intro fits
  rw [ticksToNanos_of_lt positive fits] at computed
  by_cases past : call.deadlineNs ≤ nanosAt call.frequencyHz call.first
  · rw [if_pos past] at computed
    rw [computed]
    exact iff_of_true ⟨rfl, Or.inl past⟩ (Or.inl past)
  · rw [if_neg past] at computed
    have future := Nat.lt_of_not_le past
    have meets := @Comparing.meets_iff call arms comparing positive (by rw [once]; exact future)
    rw [computed, or_iff_right past, ← meets]
    constructor
    · rintro ⟨_, ticks, same, met⟩
      rw [injective same]
      exact met
    · intro met
      exact ⟨future, _, rfl, met⟩

end Compare

/-! ## The count -/

theorem lt_clampCount_mul {counted ticks frequencyHz : Nat} :
    counted < X8664.Timer.clampCount ticks * frequencyHz ↔
      counted < (2 ^ 32 - 1) * frequencyHz ∧
        (counted < frequencyHz ∨ counted < ticks * frequencyHz) := by
  rw [X8664.Timer.clampCount, ← Nat.mul_min_mul_right, ← Nat.mul_max_mul_right, lt_min_iff,
    lt_max_iff, Nat.one_mul, and_comm, or_comm]

namespace Oneshot

variable {call : Oneshot}

/-- The last tick before the deadline. -/
def lastTick (call : Oneshot) : Nat := (call.deadlineNs * call.frequencyHz - 1) / nanosPerSecond

theorem lt_of_lastTick_lt {now : Nat} (after : call.lastTick < now) :
    call.deadlineNs * call.frequencyHz ≤ now * nanosPerSecond := by
  have floor := Nat.lt_div_mul_add (a := call.deadlineNs * call.frequencyHz - 1) nanosPerSecond_pos
  have least : (call.lastTick + 1) * nanosPerSecond ≤ now * nanosPerSecond :=
    Nat.mul_le_mul_right _ after
  rw [Nat.add_mul, Nat.one_mul, lastTick] at least
  omega

theorem lastTick_lt (positive : 0 < call.frequencyHz) (future : 0 < call.deadlineNs) :
    call.lastTick * nanosPerSecond < call.deadlineNs * call.frequencyHz := by
  have product := Nat.mul_pos future positive
  have floor := Nat.div_mul_le_self (call.deadlineNs * call.frequencyHz - 1) nanosPerSecond
  rw [lastTick]
  omega

/-- A count meets the deadline exactly if it is still running at the last tick before. -/
theorem meets_lapicCount_iff (positive : 0 < call.frequencyHz) (future : 0 < call.deadlineNs)
    {count : Nat} (runs : 0 < count) :
    call.Meets .lapicCount (2 ^ 32) count ↔
      count < 2 ^ 32 ∧ 0 < call.countHz ∧
        (call.lastTick - call.present) * call.countHz < count * call.frequencyHz := by
  have length := Nat.mul_pos runs positive
  apply and_congr_right
  intro _
  constructor
  · intro meets
    have onTime := meets call.present (Nat.le_refl _)
    obtain ⟨now, raised⟩ := onTime.raised
    have counts : 0 < call.countHz := by
      apply Nat.pos_of_ne_zero
      intro still
      have reached := raised.2.1
      rw [still, Nat.mul_zero] at reached
      omega
    refine ⟨counts, Nat.lt_of_not_le fun exceeds => ?_⟩
    have before : call.present ≤ call.lastTick := by
      apply Nat.le_of_not_lt
      intro after
      rw [Nat.sub_eq_zero_of_le after.le, Nat.zero_mul] at exceeds
      omega
    have late := (onTime.late call.lastTick ⟨before, exceeds, runs.ne'⟩).1
    exact absurd ((le_nanosAt_iff positive).1 late) (Nat.not_le_of_lt (lastTick_lt positive future))
  · rintro ⟨counts, running⟩ written after
    constructor
    · refine ⟨written + count * call.frequencyHz, Nat.le_add_right _ _, ?_, runs.ne'⟩
      rw [Nat.add_sub_cancel_left]
      exact Nat.le_mul_of_pos_right _ counts
    · rintro now ⟨armed, reached, _⟩
      have longer : (now - written) * call.countHz ≤ (now - call.present) * call.countHz :=
        Nat.mul_le_mul_right _ (Nat.sub_le_sub_left after now)
      have passed : call.lastTick - call.present < now - call.present :=
        Nat.lt_of_mul_lt_mul_right (running.trans_le (reached.trans longer))
      rw [le_nanosAt_iff positive]
      exact ⟨lt_of_lastTick_lt (by omega), by omega⟩

/-- By the last tick before the deadline the count has made less than the ticks it was given: less
than its register holds, and none at all or less than the measured frequency asks for. -/
def CountsInTime (call : Oneshot) (measuredHz : Nat) : Prop :=
  let counted := (call.lastTick - call.present) * call.countHz
  let asked := (call.deadlineNs - nanosAt call.frequencyHz call.present) * measuredHz /
    nanosPerSecond % 2 ^ 64
  0 < call.countHz ∧ counted < (2 ^ 32 - 1) * call.frequencyHz ∧
    (counted < call.frequencyHz ∨ counted < asked * call.frequencyHz)

end Oneshot

namespace X8664.Timer

variable {timer : Timer}

theorem clampCount_bounds (ticks : Nat) : 0 < clampCount ticks ∧ clampCount ticks < 2 ^ 32 := by
  unfold clampCount
  omega

/-! ### One whole call -/

theorem spin_takes {start : Nat} {readings rest : List Nat}
    (ends : timer.spin start readings = some rest) : ∃ spins, readings = spins ++ rest := by
  induction readings with
  | nil => cases ends
  | cons ticks others ih =>
      rw [spin] at ends
      split at ends
      · obtain ⟨spins, rfl⟩ := ih ends
        exact ⟨ticks :: spins, rfl⟩
      · obtain rfl := Option.some.inj ends
        exact ⟨[ticks], rfl⟩

/-- The first reading of a call and the last, with the deadline. -/
def call (timer : Timer) (countHz deadlineNs : Nat) (readings : List Nat) : Oneshot where
  frequencyHz := timer.frequencyHz
  countHz := countHz
  first := readings.headD 0
  present := readings.getLastD 0
  deadlineNs := deadlineNs

/-- The frequency of the count, which was measured before or is measured between the second
reading and the last but one. -/
def measuredHz (timer : Timer) (remaining : Nat) (readings : List Nat) : Nat :=
  match timer.lapicFreqHz with
  | some freqHz => freqHz
  | none =>
      (2 ^ 32 - 1 - remaining) * nanosPerSecond /
        max (nanosAt timer.frequencyHz (readings.reverse.getD 1 0) -
          nanosAt timer.frequencyHz (readings.getD 1 0)) 1

theorem nowNs_of_exact (positive : 0 < timer.frequencyHz) {readings : List Nat}
    (exact : ∀ ticks ∈ readings, ticks * nanosPerSecond < 2 ^ 64 * timer.frequencyHz)
    {ticks : Nat} (member : ticks ∈ readings) :
    timer.nowNs ticks = nanosAt timer.frequencyHz ticks :=
  ticksToNanos_of_lt positive (exact ticks member)

theorem measured_lt (remaining elapsedNs : Nat) :
    (2 ^ 32 - 1 - remaining) * nanosPerSecond / elapsedNs < 2 ^ 64 := by
  have most := Nat.mul_le_mul_right nanosPerSecond (Nat.sub_le (2 ^ 32 - 1) remaining)
  have wide : (2 ^ 32 - 1) * nanosPerSecond < 2 ^ 64 := by decide
  exact (Nat.div_le_self _ _).trans_lt (most.trans_lt wide)

/-- What is measured while the clock is right. -/
theorem lapicFrequency_measures (positive : 0 < timer.frequencyHz) {remaining freqHz first : Nat}
    {readings : List Nat} {present : Nat}
    (exact : ∀ ticks ∈ readings, ticks * nanosPerSecond < 2 ^ 64 * timer.frequencyHz)
    (ran : timer.lapicFrequency remaining readings = some (freqHz, [present])) :
    (∃ before, readings = before ++ [present]) ∧
      timer.measuredHz remaining (first :: readings) = freqHz := by
  rw [lapicFrequency] at ran
  rw [measuredHz]
  cases known : timer.lapicFreqHz with
  | some measured =>
      rw [known] at ran
      obtain ⟨rfl, rfl⟩ := Prod.mk.inj (Option.some.inj ran)
      exact ⟨⟨[], rfl⟩, rfl⟩
  | none =>
      rw [known] at ran
      cases readings with
      | nil => cases ran
      | cons start others =>
          simp only [calibrate] at ran
          cases spun : timer.spin (timer.nowNs start) others with
          | none =>
              rw [spun] at ran
              cases ran
          | some left =>
              rw [spun] at ran
              obtain ⟨spins, rfl⟩ := spin_takes spun
              cases left with
              | nil => cases ran
              | cons elapsed rest =>
                  obtain ⟨rfl, rfl⟩ := Prod.mk.inj (Option.some.inj ran)
                  have atStart := nowNs_of_exact positive exact List.mem_cons_self
                  have atEnd := nowNs_of_exact positive exact
                    (List.mem_cons_of_mem start (List.mem_append_right spins List.mem_cons_self))
                  have last : start :: (spins ++ [elapsed, present]) =
                      (start :: (spins ++ [elapsed])) ++ [present] := by
                    simp
                  have lastButOne :
                      (first :: start :: (spins ++ [elapsed, present])).reverse.getD 1 0 =
                        elapsed := by
                    simp
                  refine ⟨⟨_, last⟩, ?_⟩
                  rw [lastButOne, atStart, atEnd, Nat.mod_eq_of_lt (measured_lt _ _)]
                  rfl

/-- A call that counts has read the clock first and last, and measured the frequency of the count
in between, unless it was known. -/
theorem setOneshot_counts (positive : 0 < timer.frequencyHz)
    (incapable : timer.tscDeadlineCapable = false) {remaining deadlineNs first : Nat}
    {rest : List Nat} {later : Timer} {outcome : Except HalError Armed}
    (exact : ∀ ticks ∈ first :: rest, ticks * nanosPerSecond < 2 ^ 64 * timer.frequencyHz)
    (future : nanosAt timer.frequencyHz first < deadlineNs) (countHz : Nat)
    (ran : timer.setOneshot true remaining deadlineNs .interactive (first :: rest) =
      some (later, outcome, [])) :
    outcome = .ok (.lapicCount (clampCount
      ((deadlineNs - nanosAt timer.frequencyHz
        (timer.call countHz deadlineNs (first :: rest)).present) *
          timer.measuredHz remaining (first :: rest) / nanosPerSecond % 2 ^ 64))) := by
  have others : ∀ ticks ∈ rest, ticks * nanosPerSecond < 2 ^ 64 * timer.frequencyHz :=
    fun ticks member => exact ticks (List.mem_cons_of_mem first member)
  have atFirst := nowNs_of_exact positive exact List.mem_cons_self
  rw [setOneshot, if_neg (fun unsupported => nomatch unsupported.1)] at ran
  simp only [atFirst, if_neg (Nat.not_le_of_lt future), incapable, Bool.false_eq_true,
    Bool.true_eq_false, if_false] at ran
  rw [armLapicCountOneshot] at ran
  cases measures : timer.lapicFrequency remaining rest with
  | none =>
      rw [measures] at ran
      cases ran
  | some measured =>
      obtain ⟨freqHz, left⟩ := measured
      rw [measures] at ran
      cases left with
      | nil => cases ran
      | cons present more =>
          cases ran
          obtain ⟨⟨before, rfl⟩, same⟩ :=
            @lapicFrequency_measures timer positive remaining freqHz first rest present others
              measures
          have isLast : (timer.call countHz deadlineNs (first :: (before ++ [present]))).present =
              present := @List.getLastD_concat _ 0 present (first :: before)
          have member : present ∈ before ++ [present] :=
            List.mem_append_right before List.mem_cons_self
          rw [same, isLast, nowNs_of_exact positive others member]

/-- A count, after all readings of its call. -/
theorem count_right_iff (positive : 0 < timer.frequencyHz)
    (incapable : timer.tscDeadlineCapable = false) {remaining deadlineNs countHz : Nat}
    {readings : List Nat} {later : Timer} {outcome : Except HalError Armed}
    (ran : timer.setOneshot true remaining deadlineNs .interactive readings =
      some (later, outcome, [])) :
    (∀ ticks ∈ readings, ClockRight timer.nowNs timer.frequencyHz ticks) ∧
        (timer.call countHz deadlineNs readings).Right .lapicCount (2 ^ 32) outcome ↔
      (∀ ticks ∈ readings, ticks * nanosPerSecond < 2 ^ 64 * timer.frequencyHz) ∧
        (deadlineNs ≤ nanosAt timer.frequencyHz (readings.headD 0) ∨
          (timer.call countHz deadlineNs readings).CountsInTime
            (timer.measuredHz remaining readings)) := by
  have clock : (∀ ticks ∈ readings, ClockRight timer.nowNs timer.frequencyHz ticks) ↔
      ∀ ticks ∈ readings, ticks * nanosPerSecond < 2 ^ 64 * timer.frequencyHz :=
    forall₂_congr fun _ _ => clockRight_iff positive
  rw [clock]
  apply and_congr_right
  intro exact
  cases readings with
  | nil =>
      rw [setOneshot, if_neg (fun unsupported => nomatch unsupported.1)] at ran
      cases ran
  | cons first rest =>
      rw [List.headD_cons]
      by_cases past : deadlineNs ≤ nanosAt timer.frequencyHz first
      · have atFirst := nowNs_of_exact positive exact List.mem_cons_self
        rw [setOneshot, if_neg (fun unsupported => nomatch unsupported.1)] at ran
        simp only [atFirst, if_pos past] at ran
        cases ran
        exact iff_of_true ⟨rfl, Or.inl past⟩ (Or.inl past)
      · have future := Nat.lt_of_not_le past
        have someTime : 0 < (timer.call countHz deadlineNs (first :: rest)).deadlineNs :=
          Nat.zero_lt_of_lt future
        rw [setOneshot_counts positive incapable exact future countHz ran, or_iff_right past]
        have bounds := clampCount_bounds
        have counted := @lt_clampCount_mul
        constructor
        · rintro ⟨_, ticks, same, met⟩
          cases same
          obtain ⟨_, counts, running⟩ :=
            (Oneshot.meets_lapicCount_iff positive someTime (bounds _).1).1 met
          exact ⟨counts, counted.1 running⟩
        · rintro ⟨counts, running⟩
          exact ⟨future, _, rfl, (Oneshot.meets_lapicCount_iff positive someTime (bounds _).1).2
            ⟨(bounds _).2, counts, counted.2 running⟩⟩

/-! ### The window -/

theorem spin_append {start : Nat} {readings rest : List Nat} (more : List Nat)
    (ends : timer.spin start readings = some rest) :
    timer.spin start (readings ++ more) = some (rest ++ more) := by
  induction readings with
  | nil => cases ends
  | cons ticks others ih =>
      rw [spin] at ends
      rw [List.cons_append, spin]
      split at ends
      · next early =>
          rw [if_pos early]
          exact ih ends
      · next past =>
          rw [if_neg past]
          obtain rfl := Option.some.inj ends
          rfl

/-- The loop ends at the first reading past the window. -/
theorem spin_ends {start : Nat} (readings : List Nat) {ticks : Nat} (member : ticks ∈ readings)
    (past : calibrationWindowNs ≤ timer.nowNs ticks - start) :
    ∃ spins rest, readings = spins ++ rest ∧ timer.spin start spins = some [] := by
  induction readings with
  | nil => cases member
  | cons head others ih =>
      by_cases early : timer.nowNs head - start < calibrationWindowNs
      · rcases List.mem_cons.1 member with rfl | later
        · exact absurd early (Nat.not_lt_of_le past)
        · obtain ⟨spins, rest, rfl, ends⟩ := ih later
          refine ⟨head :: spins, rest, rfl, ?_⟩
          rw [spin, if_pos early]
          exact ends
      · exact ⟨[head], others, rfl, by rw [spin, if_neg early]⟩

theorem lapicFrequency_returns (remaining : Nat) (clock : Nat → Nat)
    (ends : ∃ turn, calibrationWindowNs ≤ timer.nowNs (clock (turn + 2)) - timer.nowNs (clock 1)) :
    ∃ turns freqHz present,
      timer.lapicFrequency remaining ((List.range' 1 turns).map clock) =
        some (freqHz, [present]) := by
  cases known : timer.lapicFreqHz with
  | some freqHz => exact ⟨1, freqHz, clock 1, by rw [lapicFrequency, known]; rfl⟩
  | none =>
      obtain ⟨turn, past⟩ := ends
      have member : clock (turn + 2) ∈ (List.range' 2 (turn + 1)).map clock :=
        List.mem_map_of_mem (List.mem_range'_1.2 (by omega))
      obtain ⟨spins, rest, same, spun⟩ := spin_ends _ member past
      obtain ⟨first, others, whole, rfl, _⟩ := List.map_eq_append_iff.1 same
      obtain ⟨turns, _, rfl, _⟩ := List.range'_eq_append_iff.1 whole
      have readings : (List.range' 1 (1 + (turns + 2))).map clock =
          clock 1 :: ((List.range' 2 turns).map clock ++
            [clock (2 + turns), clock (2 + turns + 1)]) := by
        rw [← List.range'_append_1, ← List.range'_append_1, List.map_append, List.map_append]
        rfl
      have measured : ∃ freqHz, timer.lapicFrequency remaining
          ((List.range' 1 (1 + (turns + 2))).map clock) =
            some (freqHz, [clock (2 + turns + 1)]) := by
        rw [readings, lapicFrequency, known]
        simp only [calibrate]
        rw [spin_append _ spun]
        exact ⟨_, rfl⟩
      obtain ⟨freqHz, measures⟩ := measured
      exact ⟨1 + (turns + 2), freqHz, clock (2 + turns + 1), measures⟩

/-- A call returns after some readings, if the clock gets past the window. -/
theorem setOneshot_returns (controller : Bool) (remaining deadlineNs : Nat) (mode : TimerMode)
    (clock : Nat → Nat)
    (ends : ∃ turn, calibrationWindowNs ≤ timer.nowNs (clock (turn + 2)) - timer.nowNs (clock 1)) :
    ∃ turns later outcome,
      timer.setOneshot controller remaining deadlineNs mode ((List.range turns).map clock) =
        some (later, outcome, []) := by
  by_cases unsupported : mode = .highResolutionTickless ∧ timer.tscDeadlineCapable = false
  · refine ⟨0, timer, .error .ticklessModeUnsupported, ?_⟩
    rw [setOneshot.eq_def, if_pos unsupported]
    rfl
  by_cases counts : ¬ deadlineNs ≤ timer.nowNs (clock 0) ∧ ¬ timer.tscDeadlineCapable = true ∧
      ¬ controller = false
  · obtain ⟨past, capable, present⟩ := counts
    obtain ⟨turns, freqHz, last, measures⟩ := lapicFrequency_returns remaining clock ends
    have readings : (List.range (1 + turns)).map clock =
        clock 0 :: (List.range' 1 turns).map clock := by
      rw [List.range_eq_range', ← List.range'_append_1, List.map_append]
      rfl
    refine ⟨1 + turns, { timer with lapicFreqHz := some freqHz }, .ok (.lapicCount
      (clampCount ((deadlineNs - timer.nowNs last) * freqHz / nanosPerSecond % 2 ^ 64))), ?_⟩
    rw [setOneshot.eq_def, if_neg unsupported, readings]
    simp only [if_neg past, if_neg capable, if_neg present]
    rw [armLapicCountOneshot, measures]
  · -- The clock is read only once.
    have once : ∃ outcome, timer.setOneshot controller remaining deadlineNs mode [clock 0] =
        some (timer, outcome, []) := by
      rw [setOneshot.eq_def, if_neg unsupported]
      dsimp only
      split
      · exact ⟨_, rfl⟩
      · next past =>
          split
          · exact ⟨_, rfl⟩
          · next capable =>
              split
              · exact ⟨_, rfl⟩
              · next present => exact absurd ⟨past, capable, present⟩ counts
    obtain ⟨outcome, returns⟩ := once
    exact ⟨1, timer, outcome, returns⟩

end X8664.Timer

/-! ## Every timer -/

/-- The clock is right, and the deadline is past or its ticks come out even and fit in the
register. -/
def EvenTicks (frequencyHz ticks deadlineNs : Nat) : Prop :=
  ticks * nanosPerSecond < 2 ^ 64 * frequencyHz ∧
    (deadlineNs ≤ nanosAt frequencyHz ticks ∨
      nanosPerSecond ∣ deadlineNs * frequencyHz ∧
        deadlineNs * frequencyHz < 2 ^ 64 * nanosPerSecond)

/-- A deadline for a clock that is read once. -/
def Oneshot.once (frequencyHz ticks deadlineNs : Nat) : Oneshot where
  frequencyHz := frequencyHz
  countHz := 0
  first := ticks
  present := ticks
  deadlineNs := deadlineNs

/-- When the timers keep the time and their deadlines, in the modes they support. -/
theorem timers_right_iff (mode : TimerMode) (deadlineNs : Nat) :
    (∀ (timer : Riscv64.Timer) (ticks : Nat),
      0 < timer.frequencyHz → timer.Supports mode →
        (ClockRight timer.nowNs timer.frequencyHz ticks ∧
            (Oneshot.once timer.frequencyHz ticks deadlineNs).Right .compare (2 ^ 64)
              (timer.setOneshot ticks deadlineNs mode) ↔
          EvenTicks timer.frequencyHz ticks deadlineNs)) ∧
    (∀ (timer : Arm64.Timer) (ticks : Nat),
      0 < timer.frequencyHz →
        (ClockRight timer.nowNs timer.frequencyHz ticks ∧
            (Oneshot.once timer.frequencyHz ticks deadlineNs).Right .compare (2 ^ 64)
              (timer.setOneshot ticks deadlineNs mode) ↔
          EvenTicks timer.frequencyHz ticks deadlineNs)) ∧
    (∀ (timer : X8664.Timer) (controller : Bool) (remaining countHz : Nat)
      (readings : List Nat) (later : X8664.Timer) (outcome : Except HalError Armed),
      0 < timer.frequencyHz → timer.Supports controller mode →
        timer.setOneshot controller remaining deadlineNs mode readings =
          some (later, outcome, []) →
        if timer.tscDeadlineCapable = true then
          ((∀ ticks ∈ readings, ClockRight timer.nowNs timer.frequencyHz ticks) ∧
              (timer.call countHz deadlineNs readings).Right .tscDeadline (2 ^ 64) outcome ↔
            EvenTicks timer.frequencyHz (readings.headD 0) deadlineNs)
        else
          ((∀ ticks ∈ readings, ClockRight timer.nowNs timer.frequencyHz ticks) ∧
              (timer.call countHz deadlineNs readings).Right .lapicCount (2 ^ 32) outcome ↔
            (∀ ticks ∈ readings, ticks * nanosPerSecond < 2 ^ 64 * timer.frequencyHz) ∧
              (deadlineNs ≤ nanosAt timer.frequencyHz (readings.headD 0) ∨
                (timer.call countHz deadlineNs readings).CountsInTime
                  (timer.measuredHz remaining readings)))) := by
  refine ⟨?_, ?_, ?_⟩
  · intro timer ticks positive supports
    have computed : timer.setOneshot ticks deadlineNs mode =
        if deadlineNs ≤ ticksToNanos timer.frequencyHz ticks then .error .invalidTimerDeadline
        else .ok (.compare (nanosToTicks timer.frequencyHz deadlineNs)) := by
      rw [Riscv64.Timer.setOneshot, if_neg (by rw [supports]; decide)]
      rfl
    exact @Comparing.right_iff (.once timer.frequencyHz ticks deadlineNs) .compare
      comparing_compare (fun _ _ same => Armed.compare.inj same) positive rfl _ computed
  · intro timer ticks positive
    exact @Comparing.right_iff (.once timer.frequencyHz ticks deadlineNs) .compare
      comparing_compare (fun _ _ same => Armed.compare.inj same) positive rfl _ rfl
  · intro timer controller remaining countHz readings later outcome positive supports ran
    by_cases capable : timer.tscDeadlineCapable = true
    · rw [if_pos capable]
      have supported : ¬ (mode = .highResolutionTickless ∧ timer.tscDeadlineCapable = false) := by
        rw [capable]
        exact fun unsupported => nomatch unsupported.2
      rw [X8664.Timer.setOneshot.eq_def, if_neg supported] at ran
      cases readings with
      | nil => cases ran
      | cons ticks rest =>
          have once : rest = [] ∧ outcome =
              if deadlineNs ≤ ticksToNanos timer.frequencyHz ticks then
                .error .invalidTimerDeadline
              else .ok (.tscDeadline (nanosToTicks timer.frequencyHz deadlineNs)) := by
            change rest = [] ∧ outcome = if deadlineNs ≤ timer.nowNs ticks then _ else _
            by_cases past : deadlineNs ≤ timer.nowNs ticks
            · simp only [if_pos past] at ran
              cases ran
              exact ⟨rfl, (if_pos past).symm⟩
            · simp only [if_neg past, if_pos capable] at ran
              cases ran
              exact ⟨rfl, (if_neg past).symm⟩
          obtain ⟨rfl, computed⟩ := once
          rw [List.forall_mem_singleton]
          exact @Comparing.right_iff (timer.call countHz deadlineNs [ticks]) .tscDeadline
            comparing_tscDeadline (fun _ _ same => Armed.tscDeadline.inj same) positive rfl
            outcome computed
    · rw [if_neg capable]
      rcases supports with supports | ⟨rfl, rfl⟩
      · exact absurd supports capable
      · exact X8664.Timer.count_right_iff positive (Bool.eq_false_iff.2 capable) ran

/-- At 10 MHz the compare value of 150 ns is one tick, which is reached already at 100 ns. -/
theorem deadline_met_early :
    ∃ timer : Riscv64.Timer, 0 < timer.frequencyHz ∧ timer.Supports .interactive ∧
      ¬ (Oneshot.once timer.frequencyHz 1 150).Right .compare (2 ^ 64)
        (timer.setOneshot 1 150 .interactive) := by
  refine ⟨⟨10000000, true⟩, by decide, rfl, ?_⟩
  rintro ⟨_, ticks, same, met⟩
  obtain rfl : 1 = ticks := Armed.compare.inj same
  have late := ((met.2 1 (Nat.le_refl 1)).late 1 ⟨Nat.le_refl 1, Nat.le_refl 1⟩).1
  revert late
  decide

/-- At 1 GHz, with a count of 1 MHz. -/
def countingTimer : X8664.Timer where
  frequencyHz := 1000000000
  tscDeadlineCapable := false
  lapicFreqHz := some 1000000

theorem timers_right_iff_samples :
    (ClockRight (Riscv64.Timer.nowNs ⟨10000000, true⟩) 10000000 1 ∧
        (Oneshot.once 10000000 1 200).Right .compare (2 ^ 64)
          (Riscv64.Timer.setOneshot ⟨10000000, true⟩ 1 200 .interactive) ↔
      EvenTicks 10000000 1 200) ∧
    ((∀ ticks ∈ [5, 7], ClockRight countingTimer.nowNs countingTimer.frequencyHz ticks) ∧
        (countingTimer.call 1000000 2007 [5, 7]).Right .lapicCount (2 ^ 32)
          (.ok (.lapicCount 2)) ↔
      (∀ ticks ∈ [5, 7], ticks * nanosPerSecond < 2 ^ 64 * countingTimer.frequencyHz) ∧
        (2007 ≤ nanosAt countingTimer.frequencyHz 5 ∨
          (countingTimer.call 1000000 2007 [5, 7]).CountsInTime
            (countingTimer.measuredHz 0 [5, 7]))) := by
  have counting := (timers_right_iff .interactive 2007).2.2 countingTimer true 0 1000000 [5, 7]
    countingTimer (.ok (.lapicCount 2)) (by decide) (Or.inr ⟨rfl, rfl⟩) (by decide +kernel)
  rw [if_neg (by decide)] at counting
  exact ⟨(timers_right_iff .interactive 200).1 ⟨10000000, true⟩ 1 (by decide) rfl, counting⟩

end Simurgh
