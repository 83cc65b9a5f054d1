import Simurgh.Hal.InterruptRegisters

/-!
# Dispatching interrupts

A trap vector calls the dispatch function of its architecture.  The three functions learn in
different ways which interrupt has arrived, and agree on what to do with it: a line is served by
the handler in its place of the table, and is then given back to the controller.
-/

namespace Simurgh

/-- What a dispatch function finds in the statics, and what the functions do that it calls. -/
structure DispatchEnv {ρ : Type} (design : IrqDesign ρ) (η σ : Type) where
  /-- `GLOBAL_CONTROLLER_PTR`, which is zero until the boot has stored it. -/
  controller : σ → Option (IrqController design η)
  /-- A call of an `IrqHandler`. -/
  handle : η → Nat → σ → σ
  onTimerInterrupt : σ → σ
  endOfInterrupt : Nat → σ → σ
  /-- `csrci sip, 0x2`. -/
  clearSsip : σ → σ

variable {ρ η σ : Type} {design : IrqDesign ρ}

/-- Call the handler of a line, if it has one. -/
def DispatchEnv.callHandler (env : DispatchEnv design η σ) (controller : IrqController design η)
    (line : Nat) (state : σ) : σ :=
  match controller.handler? line with
  | some handler => env.handle handler line state
  | none => state

/-! ## The three functions -/

namespace Riscv64

/-- `SCAUSE_SUPERVISOR_SOFTWARE_INTERRUPT`. -/
def scauseSupervisorSoftwareInterrupt : Nat := 1

/-- `SCAUSE_SUPERVISOR_TIMER_INTERRUPT`. -/
def scauseSupervisorTimerInterrupt : Nat := 5

/-- `SCAUSE_SUPERVISOR_EXTERNAL_INTERRUPT`. -/
def scauseSupervisorExternalInterrupt : Nat := 9

/-- The claim register gives `claim`. -/
def dispatchCurrentInterrupt {checks : Bool} (env : DispatchEnv (interruptCtrl checks) η σ)
    (causeCode claim : Nat) (state : σ) : σ :=
  if causeCode = scauseSupervisorTimerInterrupt then env.onTimerInterrupt state
  else if causeCode = scauseSupervisorSoftwareInterrupt then env.clearSsip state
  else if causeCode = scauseSupervisorExternalInterrupt then
    match env.controller state with
    | none => state
    | some controller =>
        if claim = 0 then state
        else env.endOfInterrupt claim (env.callHandler controller claim state)
  else state

end Riscv64

namespace Arm64

/-- `TIMER_PPI_INTID`. -/
def timerPpiIntid : Nat := 30

/-- The interrupt acknowledge register gives `iar`.  The identifier that was dispatched is
returned. -/
def dispatchCurrentIrq {checks : Bool} (env : DispatchEnv (interruptCtrl checks) η σ)
    (iar : Nat) (state : σ) : Nat × σ :=
  match env.controller state with
  | none => (1023, state)
  | some controller =>
      if 1020 ≤ iar then (iar, state)
      else if iar = timerPpiIntid then
        (iar, env.endOfInterrupt iar (env.onTimerInterrupt state))
      else (iar, env.endOfInterrupt iar (env.callHandler controller iar state))

end Arm64

namespace X8664

/-- `TIMER_VECTOR`. -/
def timerVector : BitVec 8 := 32

/-- The spurious vector is given back as well. -/
def dispatchVector {mode : ApicMode} (env : DispatchEnv (interruptCtrl mode) η σ)
    (vector : BitVec 8) (state : σ) : σ :=
  match env.controller state with
  | none => state
  | some controller =>
      if vector = timerVector then
        env.endOfInterrupt vector.toNat (env.onTimerInterrupt state)
      else env.endOfInterrupt vector.toNat (env.callHandler controller vector.toNat state)

end X8664

/-! ## What they have in common -/

/-- What has arrived. -/
inductive IrqArrival where
  /-- Nothing, or nothing that is dealt with. -/
  | spurious
  | software
  /-- The timer.  It may use a line that has to be given back. -/
  | timer (line : Option Nat)
  | line (line : Nat)
  deriving DecidableEq, Repr

/-- The line that is given back. -/
def IrqArrival.completes : IrqArrival → Option Nat
  | .spurious => none
  | .software => none
  | .timer uses => uses
  | .line raised => some raised

/-- The dispatch of what has arrived. -/
def DispatchEnv.serve (env : DispatchEnv design η σ) (controller : IrqController design η) :
    IrqArrival → σ → σ
  | .spurious, state => state
  | .software, state => env.clearSsip state
  | .timer none, state => env.onTimerInterrupt state
  | .timer (some line), state => env.endOfInterrupt line (env.onTimerInterrupt state)
  | .line line, state => env.endOfInterrupt line (env.callHandler controller line state)

def Riscv64.arrival (causeCode claim : Nat) : IrqArrival :=
  if causeCode = scauseSupervisorTimerInterrupt then .timer none
  else if causeCode = scauseSupervisorSoftwareInterrupt then .software
  else if causeCode = scauseSupervisorExternalInterrupt ∧ claim ≠ 0 then .line claim
  else .spurious

def Arm64.arrival (iar : Nat) : IrqArrival :=
  if 1020 ≤ iar then .spurious
  else if iar = timerPpiIntid then .timer (some iar)
  else .line iar

def X8664.arrival (vector : BitVec 8) : IrqArrival :=
  if vector = timerVector then .timer (some vector.toNat) else .line vector.toNat

/-- A dispatch function, with what arrives by its input. -/
structure Dispatcher {ρ : Type} (design : IrqDesign ρ) (ι : Type) where
  arrival : ι → IrqArrival
  dispatch : {η σ : Type} → DispatchEnv design η σ → ι → σ → σ
  serves : ∀ {η σ : Type} (env : DispatchEnv design η σ) (input : ι) (state : σ)
    (controller : IrqController design η), env.controller state = some controller →
      dispatch env input state = env.serve controller (arrival input) state

def Riscv64.dispatcher (checks : Bool) : Dispatcher (interruptCtrl checks) (Nat × Nat) where
  arrival input := arrival input.1 input.2
  dispatch env input state := dispatchCurrentInterrupt env input.1 input.2 state
  serves := by
    intro η σ env input state controller there
    obtain ⟨causeCode, claim⟩ := input
    dsimp only
    rw [dispatchCurrentInterrupt, arrival, there]
    by_cases timer : causeCode = scauseSupervisorTimerInterrupt
    · rw [if_pos timer, if_pos timer]
      rfl
    · rw [if_neg timer, if_neg timer]
      by_cases software : causeCode = scauseSupervisorSoftwareInterrupt
      · rw [if_pos software, if_pos software]
        rfl
      · rw [if_neg software, if_neg software]
        by_cases external : causeCode = scauseSupervisorExternalInterrupt
        · by_cases nothing : claim = 0
          · simp [external, nothing, DispatchEnv.serve]
          · simp [external, nothing, DispatchEnv.serve]
        · simp [external, DispatchEnv.serve]

def Arm64.dispatcher (checks : Bool) : Dispatcher (interruptCtrl checks) Nat where
  arrival := arrival
  dispatch env iar state := (dispatchCurrentIrq env iar state).2
  serves := by
    intro η σ env iar state controller there
    rw [dispatchCurrentIrq, arrival, there]
    by_cases spurious : 1020 ≤ iar
    · simp [spurious, DispatchEnv.serve]
    · by_cases timer : iar = timerPpiIntid
      · simp [timer, DispatchEnv.serve, timerPpiIntid]
      · simp [spurious, timer, DispatchEnv.serve]

def X8664.dispatcher (mode : ApicMode) : Dispatcher (interruptCtrl mode) (BitVec 8) where
  arrival := arrival
  dispatch env vector state := dispatchVector env vector state
  serves := by
    intro η σ env vector state controller there
    rw [dispatchVector, arrival, there]
    by_cases timer : vector = timerVector
    · rw [if_pos timer]
      simp [timer, DispatchEnv.serve]
    · rw [if_neg timer]
      simp [timer, DispatchEnv.serve]

end Simurgh
