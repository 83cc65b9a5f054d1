import Mathlib.Tactic.Common

/-!
# Counting events in windows that follow one another

A window opens with the first event that comes too late for the window before it, and a
counter has the number of its events.  The first `limit` events of a window are granted.

Fewer words are needed to implement this than to remember the last events.  The price is that
two windows meet: an interval as long as a window can have almost twice as many granted events.
-/

/-- The window that is open, and how many events it has. -/
structure TumblingWindow where
  start : Option Nat
  count : Nat
  deriving DecidableEq, Repr

namespace TumblingWindow

/-- No event came yet. -/
def new : TumblingWindow := ⟨none, 0⟩

/-- An event joins the window that is open, or it opens the next one. -/
def observe (width : Nat) (window : TumblingWindow) (now : Nat) : TumblingWindow :=
  match window.start with
  | some start => if now ≤ start + width then ⟨some start, window.count + 1⟩ else ⟨some now, 1⟩
  | none => ⟨some now, 1⟩

/-- The window after the events of a list, the newest of which comes first. -/
def after (width : Nat) : List Nat → TumblingWindow
  | [] => new
  | now :: older => (after width older).observe width now

/-- The events that are among the first `limit` ones of their window. -/
def granted (width limit : Nat) : List Nat → List Nat
  | [] => []
  | now :: older =>
      if (after width (now :: older)).count ≤ limit then now :: granted width limit older
      else granted width limit older

variable {width limit now start : Nat} {older times : List Nat} {window : TumblingWindow}

theorem observe_of_le (opened : window.start = some start) (soon : now ≤ start + width) :
    window.observe width now = ⟨some start, window.count + 1⟩ := by
  unfold observe
  rw [opened]
  exact if_pos soon

theorem observe_of_lt (opened : window.start = some start) (late : start + width < now) :
    window.observe width now = ⟨some now, 1⟩ := by
  unfold observe
  rw [opened]
  exact if_neg (Nat.not_le_of_lt late)

theorem mem_of_mem_granted {time : Nat} (member : time ∈ granted width limit times) :
    time ∈ times := by
  induction times with
  | nil => exact member
  | cons now older ih =>
      rw [granted] at member
      by_cases fits : (after width (now :: older)).count ≤ limit
      · rw [if_pos fits, List.mem_cons] at member
        cases member with
        | inl same => exact List.mem_cons.2 (.inl same)
        | inr old => exact List.mem_cons_of_mem _ (ih old)
      · rw [if_neg fits] at member
        exact List.mem_cons_of_mem _ (ih member)

/-! ## Granted events in an interval -/

/-- How many granted events there are from a time on. -/
def grantedFrom (width limit : Nat) (times : List Nat) (time : Nat) : Nat :=
  (granted width limit times).countP (time ≤ ·)

theorem grantedFrom_cons_of_le (time : Nat)
    (fits : (after width (now :: older)).count ≤ limit) :
    grantedFrom width limit (now :: older) time =
      grantedFrom width limit older time + if time ≤ now then 1 else 0 := by
  unfold grantedFrom
  rw [granted, if_pos fits, List.countP_cons]
  simp only [decide_eq_true_eq]

theorem grantedFrom_cons_of_lt (time : Nat)
    (exceeds : limit < (after width (now :: older)).count) :
    grantedFrom width limit (now :: older) time = grantedFrom width limit older time := by
  unfold grantedFrom
  rw [granted, if_neg (Nat.not_le_of_lt exceeds)]

theorem grantedFrom_of_late {time : Nat} (late : ∀ event ∈ times, event < time) :
    grantedFrom width limit times time = 0 := by
  apply List.countP_eq_zero.2
  intro event member
  have before := late event (mem_of_mem_granted member)
  simpa using before

/-- In the window that is open all granted events count, and its first one has no place in an
interval that begins behind it.  An interval that reaches back into the window before has no
more than one window grants behind its first event. -/
structure Spread (width limit : Nat) (times : List Nat) (start count : Nat) : Prop where
  positive : 0 < count
  behindStart : grantedFrom width limit times (start + 1) + 1 ≤ min count limit
  acrossStart : ∀ time, start ≤ time + width →
    grantedFrom width limit times time + 1 ≤ limit + min count limit

/-- A window opens. -/
theorem Spread.opens (positive : 0 < limit) (latest : ∀ event ∈ older, event ≤ now)
    (opened : after width (now :: older) = ⟨some now, 1⟩)
    (few : ∀ time, now ≤ time + width → grantedFrom width limit older time + 1 ≤ limit) :
    Spread width limit (now :: older) now 1 := by
  have fits : (after width (now :: older)).count ≤ limit := by
    rw [opened]
    exact positive
  constructor
  · exact Nat.one_pos
  · have nothing : grantedFrom width limit older (now + 1) = 0 :=
      grantedFrom_of_late fun event member => Nat.lt_succ_of_le (latest event member)
    rw [grantedFrom_cons_of_le _ fits, nothing, if_neg (Nat.not_succ_le_self now)]
    omega
  · intro time near
    have bound := few time near
    rw [grantedFrom_cons_of_le _ fits]
    split
    · omega
    · omega

/-- A window goes on. -/
theorem Spread.joins {count : Nat} (spread : Spread width limit older start count)
    (joined : after width (now :: older) = ⟨some start, count + 1⟩) :
    Spread width limit (now :: older) start (count + 1) := by
  have behind := spread.behindStart
  have across := spread.acrossStart
  by_cases fits : count + 1 ≤ limit
  · have fitting : (after width (now :: older)).count ≤ limit := by
      rw [joined]
      exact fits
    have more : ∀ time, grantedFrom width limit (now :: older) time ≤
        grantedFrom width limit older time + 1 := by
      intro time
      rw [grantedFrom_cons_of_le _ fitting]
      split
      · omega
      · omega
    constructor
    · exact Nat.succ_pos count
    · have bound := more (start + 1)
      omega
    · intro time near
      have bound := more time
      have old := across time near
      omega
  · have exceeds : limit < (after width (now :: older)).count := by
      rw [joined]
      exact Nat.lt_of_not_le fits
    constructor
    · exact Nat.succ_pos count
    · rw [grantedFrom_cons_of_lt _ exceeds]
      omega
    · intro time near
      have old := across time near
      rw [grantedFrom_cons_of_lt _ exceeds]
      omega

/-- Once an event came, a window is open. -/
theorem spread_after (width : Nat) (positive : 0 < limit)
    (ordered : (now :: older).Pairwise (· ≥ ·)) :
    ∃ start count, after width (now :: older) = ⟨some start, count⟩ ∧ start ≤ now ∧
      Spread width limit (now :: older) start count := by
  induction older generalizing now with
  | nil =>
      refine ⟨now, 1, rfl, Nat.le_refl now, Spread.opens positive ?_ rfl fun time _ => positive⟩
      intro event member
      exact absurd member List.not_mem_nil
  | cons last older ih =>
      have latest := (List.pairwise_cons.1 ordered).1
      obtain ⟨start, count, opened, started, spread⟩ :=
        ih (List.pairwise_cons.1 ordered).2
      have isOpen : (after width (last :: older)).start = some start := by rw [opened]
      by_cases soon : now ≤ start + width
      · have joined : after width (now :: last :: older) = ⟨some start, count + 1⟩ := by
          rw [after, observe_of_le isOpen soon, opened]
        have before := latest last List.mem_cons_self
        exact ⟨start, count + 1, joined, Nat.le_trans started before, spread.joins joined⟩
      · have late : start + width < now := Nat.lt_of_not_le soon
        have opens : after width (now :: last :: older) = ⟨some now, 1⟩ := by
          rw [after, observe_of_lt isOpen late]
        refine ⟨now, 1, opens, Nat.le_refl now,
          Spread.opens positive latest opens fun time near => ?_⟩
        -- The interval begins behind the start of the last window.
        have fewer : grantedFrom width limit (last :: older) time ≤
            grantedFrom width limit (last :: older) (start + 1) := by
          apply List.countP_mono_left
          intro event _ inside
          have inside : time ≤ event := of_decide_eq_true inside
          exact decide_eq_true (by omega)
        have behind := spread.behindStart
        omega

/-- An interval as long as a window, with a granted event at its end, has fewer than twice as
many granted events as one window. -/
theorem granted_sliding (positive : 0 < limit) (ordered : (now :: older).Pairwise (· ≥ ·))
    (fits : (after width (now :: older)).count ≤ limit) :
    (granted width limit older).countP (fun time => now ≤ time + width) ≤ 2 * (limit - 1) := by
  obtain ⟨start, count, opened, started, spread⟩ :=
    spread_after width positive ordered
  have across := spread.acrossStart (now - width) (by omega)
  rw [grantedFrom_cons_of_le _ fits, if_pos (Nat.sub_le now width)] at across
  have same : (granted width limit older).countP (fun time => now ≤ time + width) =
      grantedFrom width limit older (now - width) := by
    apply List.countP_congr
    intro time _
    simp only [decide_eq_true_eq]
    omega
  rw [same]
  omega

end TumblingWindow
