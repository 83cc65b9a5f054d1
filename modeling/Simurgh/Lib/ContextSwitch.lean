import Simurgh.Lib.TransitionSystem

/-!
# Threads that share one processor

Every thread has one buffer for its registers.  A switch saves and restores all
registers, or only those that a calling convention keeps.  The two kinds use the same
buffers, so a thread may be suspended by one kind and resumed by the other.
-/

namespace ContextSwitch

inductive Mode where
  | full
  | short
  deriving DecidableEq, Repr

section Buffers

variable {ι ω : Type} (keeps : ι → Bool)

/-- The registers that a switch moves. -/
def Mode.carries : Mode → ι → Bool
  | full, _ => true
  | short, register => keeps register

/-- The buffer after the registers were saved to it. -/
def save (mode : Mode) (live buffer : ι → ω) : ι → ω :=
  fun register => if mode.carries keeps register then live register else buffer register

/-- The registers after they were restored from a buffer.  The others are blank. -/
def restore (blank : ω) (mode : Mode) (buffer : ι → ω) : ι → ω :=
  fun register => if mode.carries keeps register then buffer register else blank

/-- Write some registers of a buffer. -/
def overwrite (patch : ι → Option ω) (buffer : ι → ω) : ι → ω :=
  fun register => (patch register).getD (buffer register)

theorem save_of_carries {mode : Mode} {register : ι}
    (carried : mode.carries keeps register = true) (live buffer : ι → ω) :
    save keeps mode live buffer register = live register :=
  if_pos carried

theorem restore_of_carries {mode : Mode} {register : ι}
    (carried : mode.carries keeps register = true) (blank : ω) (buffer : ι → ω) :
    restore keeps blank mode buffer register = buffer register :=
  if_pos carried

/-- A full switch moves what a short one moves. -/
theorem carries_of_short {register : ι} (carried : Mode.short.carries keeps register = true)
    (mode : Mode) : mode.carries keeps register = true := by
  cases mode with
  | full => rfl
  | short => exact carried

end Buffers

/-! ## The processor -/

/-- The thread on the processor, its registers, and the buffers of all threads. -/
structure Processor (τ ι ω : Type) where
  current : τ
  live : ι → ω
  buffers : τ → ι → ω

/-- What happens to the processor.  A trap `adjusts` the registers with which the
interrupted thread goes on. -/
inductive Event (τ ι ω : Type) where
  /-- The current thread computes. -/
  | compute (live : ι → ω)
  /-- A thread is set up. -/
  | setUp (thread : τ) (buffer : ι → ω)
  /-- The current thread is suspended, and another one resumes. -/
  | switch (mode : Mode) (adjust : (ι → ω) → ι → ω) (patch : ι → Option ω) (into : τ)
  /-- The current thread is dropped, and another one resumes. -/
  | abandon (into : τ)

/-- How every thread was last suspended, and with which registers, unless it has been
resumed or set up since. -/
abbrev History (τ ι ω : Type) := τ → Option (Mode × (ι → ω))

section Runs

variable {τ ι ω : Type} [DecidableEq τ] (keeps : ι → Bool) (blank : ω)

/-- Change a function at one place. -/
def assign {β : Type} (place : τ) (value : β) (rest : τ → β) : τ → β :=
  fun other => if other = place then value else rest other

@[simp]
theorem assign_self {β : Type} (place : τ) (value : β) (rest : τ → β) :
    assign place value rest place = value := if_pos rfl

theorem assign_of_ne {β : Type} {place other : τ} (ne : other ≠ place) (value : β)
    (rest : τ → β) : assign place value rest other = rest other := if_neg ne

namespace Processor

/-- The buffers right before the incoming thread is restored. -/
def stored (processor : Processor τ ι ω) (mode : Mode) (adjust : (ι → ω) → ι → ω)
    (patch : ι → Option ω) (into : τ) : τ → ι → ω :=
  assign processor.current
    (save keeps mode (adjust processor.live) (processor.buffers processor.current))
    (assign into (overwrite patch (processor.buffers into)) processor.buffers)

/-- The processor after an event.  A thread is never switched to itself. -/
def next (processor : Processor τ ι ω) : Event τ ι ω → Option (Processor τ ι ω)
  | .compute live => some { processor with live }
  | .setUp thread buffer =>
      some { processor with buffers := assign thread buffer processor.buffers }
  | .switch mode adjust patch into =>
      if into = processor.current then none
      else
        let buffers := processor.stored keeps mode adjust patch into
        some { current := into, live := restore keeps blank mode (buffers into), buffers }
  | .abandon into =>
      some
        { processor with
          current := into, live := restore keeps blank .full (processor.buffers into) }

end Processor

/-- The history after an event. -/
def record (before : Processor τ ι ω) (event : Event τ ι ω) (_ : Processor τ ι ω)
    (history : History τ ι ω) : History τ ι ω :=
  match event with
  | .compute _ => history
  | .setUp thread _ => assign thread none history
  | .switch mode adjust _ into =>
      assign into none (assign before.current (some (mode, adjust before.live)) history)
  | .abandon into => assign into none history

/-- Processors and their events. -/
def system : TransitionSystem (Processor τ ι ω) (Event τ ι ω) where
  Initial _ := True
  Step before event after := before.next keeps blank event = some after

/-- Every buffer still holds what the last suspension saved in it. -/
def Holds (processor : Processor τ ι ω) (history : History τ ι ω) : Prop :=
  ∀ thread mode registers, history thread = some (mode, registers) →
    ∀ register, mode.carries keeps register = true →
      processor.buffers thread register = registers register

variable {keeps blank}

/-- What a switch does. -/
theorem switched {before after : Processor τ ι ω} {mode : Mode}
    {adjust : (ι → ω) → ι → ω} {patch : ι → Option ω} {into : τ}
    (taken : (system keeps blank).Step before (.switch mode adjust patch into) after) :
    into ≠ before.current ∧
      after =
        { current := into
          live := restore keeps blank mode (before.stored keeps mode adjust patch into into)
          buffers := before.stored keeps mode adjust patch into } := by
  change (if into = before.current then none else some _) = some after at taken
  by_cases same : into = before.current
  · simp [same] at taken
  · rw [if_neg same] at taken
    exact ⟨same, (Option.some.inj taken).symm⟩

theorem Holds.step {before after : Processor τ ι ω} {event : Event τ ι ω}
    {history : History τ ι ω} (holds : Holds keeps before history)
    (taken : (system keeps blank).Step before event after) :
    Holds keeps after (record before event after history) := by
  intro thread mode registers recorded register carried
  cases event with
  | compute live =>
      obtain rfl := Option.some.inj taken
      exact holds thread mode registers recorded register carried
  | setUp other buffer =>
      obtain rfl := Option.some.inj taken
      have ne : thread ≠ other := by
        rintro rfl
        simp [record] at recorded
      have earlier : history thread = some (mode, registers) := by
        rwa [record, assign_of_ne ne] at recorded
      change assign other buffer before.buffers thread register = registers register
      rw [assign_of_ne ne]
      exact holds thread mode registers earlier register carried
  | abandon into =>
      obtain rfl := Option.some.inj taken
      have ne : thread ≠ into := by
        rintro rfl
        simp [record] at recorded
      have earlier : history thread = some (mode, registers) := by
        rwa [record, assign_of_ne ne] at recorded
      exact holds thread mode registers earlier register carried
  | switch kind adjust patch into =>
      obtain ⟨_, rfl⟩ := switched taken
      have ne : thread ≠ into := by
        rintro rfl
        simp [record] at recorded
      rw [record, assign_of_ne ne] at recorded
      change before.stored keeps kind adjust patch into thread register = registers register
      unfold Processor.stored
      by_cases outgoing : thread = before.current
      · subst outgoing
        rw [assign_self, Option.some.injEq, Prod.mk.injEq] at recorded
        obtain ⟨rfl, rfl⟩ := recorded
        rw [assign_self]
        exact save_of_carries keeps carried _ _
      · rw [assign_of_ne outgoing] at recorded
        rw [assign_of_ne outgoing, assign_of_ne ne]
        exact holds thread mode registers recorded register carried

/-- A thread resumes with what it was suspended with, or what was written for it, in
every register that both switches move. -/
theorem Holds.resumes {before after : Processor τ ι ω} {history : History τ ι ω}
    (holds : Holds keeps before history) {mode suspended : Mode}
    {adjust : (ι → ω) → ι → ω} {patch : ι → Option ω} {into : τ} {registers : ι → ω}
    (recorded : history into = some (suspended, registers))
    (taken : (system keeps blank).Step before (.switch mode adjust patch into) after)
    {register : ι} (saved : suspended.carries keeps register = true)
    (restored : mode.carries keeps register = true) :
    after.live register = (patch register).getD (registers register) := by
  obtain ⟨same, rfl⟩ := switched taken
  change restore keeps blank mode (before.stored keeps mode adjust patch into into)
    register = _
  rw [restore_of_carries keeps restored, Processor.stored, assign_of_ne same, assign_self,
    overwrite, holds into suspended registers recorded register saved]

/-- So does the heir of a thread that was dropped. -/
theorem Holds.inherits {before after : Processor τ ι ω} {history : History τ ι ω}
    (holds : Holds keeps before history) {suspended : Mode} {into : τ} {registers : ι → ω}
    (recorded : history into = some (suspended, registers))
    (taken : (system keeps blank).Step before (.abandon into) after)
    {register : ι} (saved : suspended.carries keeps register = true) :
    after.live register = registers register := by
  obtain rfl := Option.some.inj taken
  exact holds into suspended registers recorded register saved

/-- What the incoming thread sees does not depend on the registers of the outgoing
one. -/
theorem live_independent {before after other : Processor τ ι ω} {mode : Mode}
    {adjust : (ι → ω) → ι → ω} {patch : ι → Option ω} {into : τ} {live : ι → ω}
    (taken : (system keeps blank).Step before (.switch mode adjust patch into) after)
    (varied : (system keeps blank).Step { before with live }
      (.switch mode adjust patch into) other) :
    other.live = after.live := by
  obtain ⟨same, rfl⟩ := switched taken
  obtain ⟨_, rfl⟩ := switched varied
  have incoming : ∀ processor : Processor τ ι ω, into ≠ processor.current →
      processor.stored keeps mode adjust patch into into =
        overwrite patch (processor.buffers into) := by
    intro processor ne
    rw [Processor.stored, assign_of_ne ne, assign_self]
  change restore keeps blank mode _ = restore keeps blank mode _
  rw [incoming before same, incoming { before with live } same]

end Runs

end ContextSwitch
