import Mathlib.Logic.Function.Basic
import Simurgh.Hal.Direct
import Simurgh.Lib.CallLog

/-!
# Interrupt controllers

Three controllers keep a table of handlers and differ in the range of their lines, in the
registers they set, and in how one core signals another.  The calls are the same for all of them.
-/

namespace Simurgh

/-! ## The table of handlers -/

/-- The lines from `first` up to `limit` have a handler each in a table. -/
structure IrqLines where
  first : Nat
  limit : Nat
  size : Nat
  fits : limit ≤ first + size

namespace IrqLines

variable (lines : IrqLines)

/-- The index of a line in the table. -/
def slot? (line : Nat) : Option (Fin lines.size) :=
  if inside : lines.first ≤ line ∧ line < lines.limit then
    some ⟨line - lines.first, by
      have fits := lines.fits
      omega⟩
  else none

variable {lines}

theorem slot?_eq_some {line : Nat} {slot : Fin lines.size} :
    lines.slot? line = some slot ↔
      (lines.first ≤ line ∧ line < lines.limit) ∧ slot.val = line - lines.first := by
  unfold slot?
  by_cases inside : lines.first ≤ line ∧ line < lines.limit
  · rw [dif_pos inside, Option.some.injEq, and_iff_right inside, Fin.ext_iff]
    exact eq_comm
  · rw [dif_neg inside]
    exact iff_of_false (fun same => nomatch same) (fun both => inside both.1)

/-- Two lines do not share an index. -/
theorem slot?_injective {line other : Nat} {slot : Fin lines.size}
    (same : lines.slot? line = some slot) (shared : lines.slot? other = some slot) :
    line = other := by
  obtain ⟨inside, value⟩ := slot?_eq_some.1 same
  obtain ⟨within, equal⟩ := slot?_eq_some.1 shared
  omega

end IrqLines

/-! ## The calls -/

/-- What one kind of controller does to its registers.  `signal` is `none` where it panics. -/
structure IrqDesign (ρ : Type) where
  lines : IrqLines
  configure : (line : Nat) → ρ → ρ
  unmask : (line : Nat) → ρ → ρ
  mask : (line : Nat) → ρ → ρ
  signal : (core : Nat) → BitVec 8 → ρ → Option ρ

/-- `InterruptCtrl` with its registers.  `coreCount` is a number of 32 bits. -/
structure IrqController {ρ : Type} (design : IrqDesign ρ) (η : Type) where
  handlers : Fin design.lines.size → Option η
  registers : ρ
  coreCount : Nat

/-- A call of one of the methods.  A line is a number of 32 bits, and a core one of 64. -/
inductive IrqCall (η : Type) where
  | registerIrq (line : Nat) (handler : η)
  | unregisterIrq (line : Nat)
  | maskIrq (line : Nat)
  | unmaskIrq (line : Nat)
  | sendIpi (core : Nat) (vector : BitVec 8)

namespace IrqDesign

variable {ρ η : Type} (design : IrqDesign ρ)

/-- `InterruptCtrl::new`, with the registers as they are found. -/
def fresh (η : Type) (registers : ρ) : IrqController design η where
  handlers := fun _ => none
  registers := registers
  coreCount := 1

def registerIrq (line : Nat) (handler : η) : Exec (IrqController design η) HalError Unit :=
  fun ctrl =>
    match design.lines.slot? line with
    | none => .err .invalidIrqId ctrl
    | some slot =>
        match ctrl.handlers slot with
        | some _ => .err .irqAlreadyRegistered ctrl
        | none =>
            .ok () { ctrl with
              handlers := Function.update ctrl.handlers slot (some handler)
              registers := design.configure line ctrl.registers }

def unregisterIrq (line : Nat) : Exec (IrqController design η) HalError Unit := fun ctrl =>
  match design.lines.slot? line with
  | none => .ok () ctrl
  | some slot =>
      .ok () { ctrl with
        handlers := Function.update ctrl.handlers slot none
        registers := design.mask line ctrl.registers }

/-- The register operation of a line that is in range. -/
def onLine (operate : Nat → ρ → ρ) (line : Nat) : Exec (IrqController design η) HalError Unit :=
  fun ctrl =>
    match design.lines.slot? line with
    | none => .err .invalidIrqId ctrl
    | some _ => .ok () { ctrl with registers := operate line ctrl.registers }

def maskIrq (line : Nat) : Exec (IrqController design η) HalError Unit :=
  design.onLine design.mask line

def unmaskIrq (line : Nat) : Exec (IrqController design η) HalError Unit :=
  design.onLine design.unmask line

/-- The core is narrowed to 32 bits before it is compared, and not before it is used. -/
def sendIpi (core : Nat) (vector : BitVec 8) : Exec (IrqController design η) HalError Unit :=
  fun ctrl =>
    if ctrl.coreCount ≤ core % 2 ^ 32 then .err .invalidIpiTarget ctrl
    else
      match design.signal core vector ctrl.registers with
      | none => .panic
      | some registers => .ok () { ctrl with registers }

def call : IrqCall η → Exec (IrqController design η) HalError Unit
  | .registerIrq line handler => design.registerIrq line handler
  | .unregisterIrq line => design.unregisterIrq line
  | .maskIrq line => design.maskIrq line
  | .unmaskIrq line => design.unmaskIrq line
  | .sendIpi core vector => design.sendIpi core vector

end IrqDesign

/-! ## What is promised -/

/-- What the registers say about a line. -/
structure LineState where
  enabled : Bool
  priority : Nat
  routing : Nat → Bool

section Promises

variable {ρ η : Type} {design : IrqDesign ρ}

/-- The handler of a line. -/
def IrqController.handler? (ctrl : IrqController design η) (line : Nat) : Option η :=
  (design.lines.slot? line).bind ctrl.handlers

/-- The last successful registration of the line was not followed by an unregistration. -/
def Registered (line : Nat) (handler : η) (log : CallLog (IrqCall η) HalError) : Prop :=
  ∃ before after, log = before ++ (.registerIrq line handler, none) :: after ∧
    ∀ entry ∈ after, (∀ other, entry ≠ (.registerIrq line other, none)) ∧
      entry ≠ (.unregisterIrq line, none)

/-- What a call that returned makes of the enable bit of a line of the controller. -/
def IrqCall.enables (line : Nat) : IrqCall η × Option HalError → Option Bool
  | (.registerIrq other _, none) => if other = line then some true else none
  | (.unmaskIrq other, none) => if other = line then some true else none
  | (.unregisterIrq other, none) => if other = line then some false else none
  | (.maskIrq other, none) => if other = line then some false else none
  | _ => none

/-- The line a call is about. -/
def IrqCall.line? : IrqCall η → Option Nat
  | registerIrq line _ => some line
  | unregisterIrq line => some line
  | maskIrq line => some line
  | unmaskIrq line => some line
  | sendIpi _ _ => none

variable (design) (η)

/-- In every run the table holds what the log says, and a call that fails changes nothing. -/
structure KeepsTable : Prop where
  handlers : ∀ {registers cores log} {final : IrqController design η},
    Calls design.call { design.fresh η registers with coreCount := cores } log final →
      ∀ line handler, final.handler? line = some handler ↔ Registered line handler log
  failing : ∀ (call : IrqCall η) (ctrl later : IrqController design η) error,
    design.call call ctrl = .err error later → later = ctrl

/-- In every run the enable bit of a line is what the last call made of it. -/
def KeepsEnabled (lineOf : ρ → Nat → LineState) : Prop :=
  ∀ {first final : IrqController design η} {log}, Calls design.call first log final →
    ∀ line, design.lines.first ≤ line → line < design.lines.limit →
      (lineOf final.registers line).enabled =
        (CallLog.lastTold (IrqCall.enables line) log).getD (lineOf first.registers line).enabled

/-- A call about one line leaves the registers of the others.  `shared` says what a registration
may do to another line. -/
def Isolates (lineOf : ρ → Nat → LineState) (hardwareLines : Nat)
    (shared : (line other : Nat) → (before after : LineState) → Prop) : Prop :=
  ∀ (call : IrqCall η) (ctrl later : IrqController design η), design.call call ctrl = .ok () later →
    ∀ other, other < hardwareLines → call.line? ≠ some other →
      lineOf later.registers other = lineOf ctrl.registers other ∨
        ∃ line handler, call = .registerIrq line handler ∧
          shared line other (lineOf ctrl.registers other) (lineOf later.registers other)

/-- From its first registration on, a line has the priority of all registered lines. -/
def KeepsPriority (lineOf : ρ → Nat → LineState) (priority : Nat) : Prop :=
  ∀ {first final : IrqController design η} {log}, Calls design.call first log final →
    ∀ line handler, (.registerIrq line handler, none) ∈ log →
      (lineOf final.registers line).priority = priority

/-- A core is signalled only if it is there, and no other core is.  `within` restricts the calls
this is said about. -/
def SignalsOnly {ι : Type} (signals : ρ → List ι) (targets : ι → Nat → Prop)
    (within : (coreCount core : Nat) → Prop) : Prop :=
  ∀ core vector (ctrl later : IrqController design η), ctrl.coreCount < 2 ^ 32 → core < 2 ^ 64 →
    within ctrl.coreCount core → design.call (.sendIpi core vector) ctrl = .ok () later →
      core < ctrl.coreCount ∧
        ∃ signal, signals later.registers = signals ctrl.registers ++ [signal] ∧
          ∀ other, other < ctrl.coreCount → (targets signal other ↔ other = core)

end Promises

/-! ## Every design keeps its table -/

namespace IrqDesign

variable {ρ η : Type} {design : IrqDesign ρ} {ctrl later : IrqController design η} {line : Nat}
  {handler : η}

theorem registerIrq_eq_ok (returns : design.registerIrq line handler ctrl = .ok () later) :
    ∃ slot, design.lines.slot? line = some slot ∧ ctrl.handlers slot = none ∧
      later = { ctrl with
        handlers := Function.update ctrl.handlers slot (some handler)
        registers := design.configure line ctrl.registers } := by
  unfold registerIrq at returns
  cases found : design.lines.slot? line with
  | none =>
      simp only [found] at returns
      cases returns
  | some slot =>
      simp only [found] at returns
      cases held : ctrl.handlers slot with
      | some other =>
          simp only [held] at returns
          cases returns
      | none =>
          simp only [held] at returns
          cases returns
          exact ⟨slot, rfl, held, rfl⟩

theorem registerIrq_eq_err {error : HalError}
    (returns : design.registerIrq line handler ctrl = .err error later) : later = ctrl := by
  unfold registerIrq at returns
  split at returns
  · cases returns
    rfl
  · split at returns
    · cases returns
      rfl
    · cases returns

theorem unregisterIrq_eq_ok
    (returns : design.unregisterIrq line ctrl = .ok () later) :
    (design.lines.slot? line = none ∧ later = ctrl) ∨
      ∃ slot, design.lines.slot? line = some slot ∧
        later = { ctrl with
          handlers := Function.update ctrl.handlers slot none
          registers := design.mask line ctrl.registers } := by
  unfold unregisterIrq at returns
  cases found : design.lines.slot? line with
  | none =>
      simp only [found] at returns
      cases returns
      exact Or.inl ⟨rfl, rfl⟩
  | some slot =>
      simp only [found] at returns
      cases returns
      exact Or.inr ⟨slot, rfl, rfl⟩

theorem onLine_eq_ok {operate : Nat → ρ → ρ}
    (returns : design.onLine operate line ctrl = .ok () later) :
    (∃ slot, design.lines.slot? line = some slot) ∧
      later = { ctrl with registers := operate line ctrl.registers } := by
  unfold onLine at returns
  cases found : design.lines.slot? line with
  | none =>
      simp only [found] at returns
      cases returns
  | some slot =>
      simp only [found] at returns
      cases returns
      exact ⟨⟨slot, rfl⟩, rfl⟩

theorem onLine_eq_err {operate : Nat → ρ → ρ} {error : HalError}
    (returns : design.onLine operate line ctrl = .err error later) : later = ctrl := by
  unfold onLine at returns
  split at returns
  · cases returns
    rfl
  · cases returns

theorem sendIpi_eq_ok {core : Nat} {vector : BitVec 8}
    (returns : design.sendIpi core vector ctrl = .ok () later) :
    core % 2 ^ 32 < ctrl.coreCount ∧ ∃ registers,
      design.signal core vector ctrl.registers = some registers ∧
        later = { ctrl with registers } := by
  unfold sendIpi at returns
  split at returns
  · cases returns
  · next below =>
      refine ⟨Nat.lt_of_not_le below, ?_⟩
      cases signalled : design.signal core vector ctrl.registers with
      | none =>
          rw [signalled] at returns
          cases returns
      | some registers =>
          rw [signalled] at returns
          cases returns
          exact ⟨registers, rfl, rfl⟩

theorem sendIpi_eq_err {core : Nat} {vector : BitVec 8} {error : HalError}
    (returns : design.sendIpi core vector ctrl = .err error later) : later = ctrl := by
  unfold sendIpi at returns
  split at returns
  · cases returns
    rfl
  · split at returns
    · cases returns
    · cases returns

theorem call_eq_err {call : IrqCall η} {error : HalError}
    (returns : design.call call ctrl = .err error later) : later = ctrl := by
  cases call with
  | registerIrq line handler => exact registerIrq_eq_err returns
  | unregisterIrq line =>
      change design.unregisterIrq line ctrl = _ at returns
      unfold unregisterIrq at returns
      split at returns
      · cases returns
      · cases returns
  | maskIrq line => exact onLine_eq_err returns
  | unmaskIrq line => exact onLine_eq_err returns
  | sendIpi core vector => exact sendIpi_eq_err returns

/-- What a call that returned makes of the handler of a line. -/
def handles (line : Nat) : IrqCall η × Option HalError → Option (Option η)
  | (.registerIrq other handler, none) => if other = line then some (some handler) else none
  | (.unregisterIrq other, none) => if other = line then some none else none
  | _ => none

/-- One line of the table is set, and the other lines keep their handlers. -/
theorem handler?_update {slot : Fin design.lines.size} (found : design.lines.slot? line = some slot)
    (held : Option η) (registers : ρ) (other : Nat) :
    IrqController.handler? { ctrl with
      handlers := Function.update ctrl.handlers slot held, registers } other =
        if line = other then held else ctrl.handler? other := by
  unfold IrqController.handler?
  by_cases same : line = other
  · rw [if_pos same, ← same, found]
    exact Function.update_self slot held ctrl.handlers
  · rw [if_neg same]
    cases at_ : design.lines.slot? other with
    | none => rfl
    | some place =>
        have ne : place ≠ slot := by
          rintro rfl
          exact same (IrqLines.slot?_injective found at_)
        exact Function.update_of_ne ne held ctrl.handlers

theorem handler?_of_out (out : design.lines.slot? line = none) : ctrl.handler? line = none := by
  rw [IrqController.handler?, out]
  rfl

theorem handler?_of_ok {call : IrqCall η} (returns : design.call call ctrl = .ok () later)
    (line : Nat) : later.handler? line = (handles line (call, none)).getD (ctrl.handler? line) := by
  cases call with
  | registerIrq other handler =>
      obtain ⟨slot, found, _, rfl⟩ := registerIrq_eq_ok returns
      rw [handler?_update found, handles]
      by_cases same : other = line
      · rw [if_pos same, if_pos same]
        rfl
      · rw [if_neg same, if_neg same]
        rfl
  | unregisterIrq other =>
      rcases unregisterIrq_eq_ok returns with ⟨out, rfl⟩ | ⟨slot, found, rfl⟩
      · rw [handles]
        by_cases same : other = line
        · rw [if_pos same, ← same, handler?_of_out out]
          rfl
        · rw [if_neg same]
          rfl
      · rw [handler?_update found, handles]
        by_cases same : other = line
        · rw [if_pos same, if_pos same]
          rfl
        · rw [if_neg same, if_neg same]
          rfl
  | maskIrq other =>
      obtain ⟨_, rfl⟩ := onLine_eq_ok returns
      rfl
  | unmaskIrq other =>
      obtain ⟨_, rfl⟩ := onLine_eq_ok returns
      rfl
  | sendIpi core vector =>
      obtain ⟨_, registers, _, rfl⟩ := sendIpi_eq_ok returns
      rfl

theorem handles_err (line : Nat) (call : IrqCall η) (error : HalError) :
    handles line (call, some error) = none := by
  cases call <;> rfl

theorem handles_eq_none {entry : IrqCall η × Option HalError} :
    handles line entry = none ↔
      (∀ other, entry ≠ (.registerIrq line other, none)) ∧ entry ≠ (.unregisterIrq line, none) := by
  obtain ⟨call, result⟩ := entry
  cases result with
  | some error =>
      rw [handles_err]
      exact iff_of_true rfl ⟨fun other same => (nomatch same), fun same => (nomatch same)⟩
  | none =>
      cases call with
      | registerIrq other handler =>
          rw [handles]
          by_cases same : other = line
          · rw [if_pos same, same]
            exact iff_of_false (fun told => nomatch told) (fun all => all.1 handler rfl)
          · rw [if_neg same]
            refine iff_of_true rfl ⟨fun value equal => ?_, fun equal => (nomatch equal)⟩
            cases equal
            exact same rfl
      | unregisterIrq other =>
          rw [handles]
          by_cases same : other = line
          · rw [if_pos same, same]
            exact iff_of_false (fun told => nomatch told) (fun all => all.2 rfl)
          · rw [if_neg same]
            refine iff_of_true rfl ⟨fun value equal => (nomatch equal), fun equal => ?_⟩
            cases equal
            exact same rfl
      | maskIrq other =>
          exact iff_of_true rfl ⟨fun value equal => (nomatch equal), fun equal => (nomatch equal)⟩
      | unmaskIrq other =>
          exact iff_of_true rfl ⟨fun value equal => (nomatch equal), fun equal => (nomatch equal)⟩
      | sendIpi core vector =>
          exact iff_of_true rfl ⟨fun value equal => (nomatch equal), fun equal => (nomatch equal)⟩

theorem handles_eq_some {entry : IrqCall η × Option HalError} :
    handles line entry = some (some handler) ↔ entry = (.registerIrq line handler, none) := by
  obtain ⟨call, result⟩ := entry
  constructor
  · intro told
    cases result with
    | some error =>
        rw [handles_err] at told
        cases told
    | none =>
        cases call with
        | registerIrq other value =>
            rw [handles] at told
            split at told
            · next same =>
                cases told
                rw [same]
            · cases told
        | unregisterIrq other =>
            rw [handles] at told
            split at told
            · cases told
            · cases told
        | maskIrq other => cases told
        | unmaskIrq other => cases told
        | sendIpi core vector => cases told
  · intro same
    rw [same, handles, if_pos rfl]

/-- In every run, a line has the handler of its last registration, if none was taken away since. -/
theorem keepsTable (design : IrqDesign ρ) (η : Type) : KeepsTable η design where
  handlers := by
    intro registers cores log final run line handler
    have last : final.handler? line = (CallLog.lastTold (handles line) log).getD none := by
      have observed := @Calls.observed _ _ _ _ _ _ _ _ (fun ctrl => ctrl.handler? line)
        (handles line) (fun returns => handler?_of_ok returns line)
        (fun returns => by rw [call_eq_err returns, handles_err]; rfl) run
      rw [observed]
      congr 1
      unfold IrqController.handler?
      cases design.lines.slot? line <;> rfl
    have told : final.handler? line = some handler ↔
        CallLog.lastTold (handles line) log = some (some handler) := by
      rw [last]
      cases CallLog.lastTold (handles line) log with
      | none => exact iff_of_false (fun same => nomatch same) (fun same => nomatch same)
      | some held => exact Option.some.injEq held (some handler) ▸ Iff.rfl
    rw [told, CallLog.lastTold_eq_some]
    constructor
    · rintro ⟨before, entry, after, rfl, registers, silent⟩
      rw [handles_eq_some.1 registers]
      exact ⟨before, after, rfl, fun other member => handles_eq_none.1 (silent other member)⟩
    · rintro ⟨before, after, rfl, silent⟩
      exact ⟨before, _, after, rfl, handles_eq_some.2 rfl,
        fun other member => handles_eq_none.2 (silent other member)⟩
  failing := fun _ _ _ _ returns => call_eq_err returns

/-! ## From one operation to all runs -/

/-- What the register operations of a design do to the lines. -/
structure LineLaws (design : IrqDesign ρ) (lineOf : ρ → Nat → LineState) (hardwareLines : Nat)
    (shared : (line other : Nat) → (before after : LineState) → Prop) (priority : Nat) :
    Prop where
  range : design.lines.limit ≤ hardwareLines
  configured : ∀ line registers, design.lines.first ≤ line → line < design.lines.limit →
    (lineOf (design.configure line registers) line).enabled = true ∧
      (lineOf (design.configure line registers) line).priority = priority
  unmasked : ∀ line registers, design.lines.first ≤ line → line < design.lines.limit →
    lineOf (design.unmask line registers) line = { lineOf registers line with enabled := true }
  masked : ∀ line registers, design.lines.first ≤ line → line < design.lines.limit →
    lineOf (design.mask line registers) line = { lineOf registers line with enabled := false }
  configuredOther : ∀ line registers other, design.lines.first ≤ line →
    line < design.lines.limit → other < hardwareLines → other ≠ line →
      lineOf (design.configure line registers) other = lineOf registers other ∨
        shared line other (lineOf registers other) (lineOf (design.configure line registers) other)
  unmaskedOther : ∀ line registers other, design.lines.first ≤ line →
    line < design.lines.limit → other < hardwareLines → other ≠ line →
      lineOf (design.unmask line registers) other = lineOf registers other
  maskedOther : ∀ line registers other, design.lines.first ≤ line →
    line < design.lines.limit → other < hardwareLines → other ≠ line →
      lineOf (design.mask line registers) other = lineOf registers other
  signalled : ∀ core vector registers later, design.signal core vector registers = some later →
    lineOf later = lineOf registers
  sharing : ∀ line other before after, shared line other before after →
    after.enabled = before.enabled ∧
      (after.priority = before.priority ∨ after.priority = priority)

namespace LineLaws

variable {lineOf : ρ → Nat → LineState} {hardwareLines : Nat}
  {shared : (line other : Nat) → (before after : LineState) → Prop} {priority : Nat}
  (laws : LineLaws design lineOf hardwareLines shared priority)
include laws

theorem isolates (η : Type) : Isolates η design lineOf hardwareLines shared := by
  intro call ctrl later returns other inside apart
  cases call with
  | registerIrq line handler =>
      obtain ⟨slot, found, _, rfl⟩ := registerIrq_eq_ok returns
      obtain ⟨⟨low, high⟩, _⟩ := IrqLines.slot?_eq_some.1 found
      have ne : other ≠ line := fun same => apart (congrArg some same.symm)
      rcases laws.configuredOther line ctrl.registers other low high inside ne with
        same | changed
      · exact Or.inl same
      · exact Or.inr ⟨line, handler, rfl, changed⟩
  | unregisterIrq line =>
      rcases unregisterIrq_eq_ok returns with ⟨_, rfl⟩ | ⟨slot, found, rfl⟩
      · exact Or.inl rfl
      · obtain ⟨⟨low, high⟩, _⟩ := IrqLines.slot?_eq_some.1 found
        have ne : other ≠ line := fun same => apart (congrArg some same.symm)
        exact Or.inl (laws.maskedOther line ctrl.registers other low high inside ne)
  | maskIrq line =>
      obtain ⟨⟨slot, found⟩, rfl⟩ := onLine_eq_ok returns
      obtain ⟨⟨low, high⟩, _⟩ := IrqLines.slot?_eq_some.1 found
      have ne : other ≠ line := fun same => apart (congrArg some same.symm)
      exact Or.inl (laws.maskedOther line ctrl.registers other low high inside ne)
  | unmaskIrq line =>
      obtain ⟨⟨slot, found⟩, rfl⟩ := onLine_eq_ok returns
      obtain ⟨⟨low, high⟩, _⟩ := IrqLines.slot?_eq_some.1 found
      have ne : other ≠ line := fun same => apart (congrArg some same.symm)
      exact Or.inl (laws.unmaskedOther line ctrl.registers other low high inside ne)
  | sendIpi core vector =>
      obtain ⟨_, registers, signalled, rfl⟩ := sendIpi_eq_ok returns
      exact Or.inl (congrFun (laws.signalled _ _ _ _ signalled) other)

/-- A call about another line, or about none, keeps the enable bit. -/
theorem enabled_apart {call : IrqCall η} (returns : design.call call ctrl = .ok () later)
    (inside : line < design.lines.limit) (apart : call.line? ≠ some line) :
    (lineOf later.registers line).enabled = (lineOf ctrl.registers line).enabled := by
  have within := inside.trans_le laws.range
  rcases laws.isolates η call ctrl later returns line within apart with same | ⟨_, _, _, changed⟩
  · rw [same]
  · exact (laws.sharing _ _ _ _ changed).1

/-- One call. -/
theorem enabled_of_ok {call : IrqCall η} (returns : design.call call ctrl = .ok () later)
    (low : design.lines.first ≤ line) (high : line < design.lines.limit) :
    (lineOf later.registers line).enabled =
      (IrqCall.enables line (call, none)).getD (lineOf ctrl.registers line).enabled := by
  cases call with
  | registerIrq other handler =>
      rw [IrqCall.enables]
      by_cases same : other = line
      · rw [if_pos same]
        obtain ⟨slot, _, _, rfl⟩ := registerIrq_eq_ok returns
        rw [same]
        exact (laws.configured line ctrl.registers low high).1
      · rw [if_neg same]
        exact laws.enabled_apart returns high (fun about => same (Option.some.inj about))
  | unregisterIrq other =>
      rw [IrqCall.enables]
      by_cases same : other = line
      · rw [if_pos same]
        rcases unregisterIrq_eq_ok returns with ⟨out, _⟩ | ⟨slot, _, rfl⟩
        · rw [same, IrqLines.slot?, dif_pos ⟨low, high⟩] at out
          cases out
        · rw [same, laws.masked line ctrl.registers low high]
          rfl
      · rw [if_neg same]
        exact laws.enabled_apart returns high (fun about => same (Option.some.inj about))
  | maskIrq other =>
      rw [IrqCall.enables]
      by_cases same : other = line
      · rw [if_pos same]
        obtain ⟨_, rfl⟩ := onLine_eq_ok returns
        rw [same, laws.masked line ctrl.registers low high]
        rfl
      · rw [if_neg same]
        exact laws.enabled_apart returns high (fun about => same (Option.some.inj about))
  | unmaskIrq other =>
      rw [IrqCall.enables]
      by_cases same : other = line
      · rw [if_pos same]
        obtain ⟨_, rfl⟩ := onLine_eq_ok returns
        rw [same, laws.unmasked line ctrl.registers low high]
        rfl
      · rw [if_neg same]
        exact laws.enabled_apart returns high (fun about => same (Option.some.inj about))
  | sendIpi core vector => exact laws.enabled_apart returns high (fun about => nomatch about)

theorem keepsEnabled (η : Type) : KeepsEnabled η design lineOf := by
  intro first final log run line low high
  refine @Calls.observed _ _ _ _ _ _ _ _ (fun ctrl => (lineOf ctrl.registers line).enabled)
    (IrqCall.enables line) (fun returns => laws.enabled_of_ok returns low high) ?_ run
  intro state later next error returns
  rw [call_eq_err returns]
  cases next <;> rfl

/-- The priority of registered lines stays, whatever is called. -/
theorem priority_of_ok {call : IrqCall η} (returns : design.call call ctrl = .ok () later)
    (high : line < design.lines.limit)
    (had : (lineOf ctrl.registers line).priority = priority) :
    (lineOf later.registers line).priority = priority := by
  by_cases about : call.line? = some line
  · cases call with
    | registerIrq other handler =>
        obtain rfl : other = line := Option.some.inj about
        obtain ⟨slot, found, _, rfl⟩ := registerIrq_eq_ok returns
        exact (laws.configured other ctrl.registers (IrqLines.slot?_eq_some.1 found).1.1 high).2
    | unregisterIrq other =>
        obtain rfl : other = line := Option.some.inj about
        rcases unregisterIrq_eq_ok returns with ⟨_, rfl⟩ | ⟨slot, found, rfl⟩
        · exact had
        · rw [laws.masked other ctrl.registers (IrqLines.slot?_eq_some.1 found).1.1 high]
          exact had
    | maskIrq other =>
        obtain rfl : other = line := Option.some.inj about
        obtain ⟨⟨slot, found⟩, rfl⟩ := onLine_eq_ok returns
        rw [laws.masked other ctrl.registers (IrqLines.slot?_eq_some.1 found).1.1 high]
        exact had
    | unmaskIrq other =>
        obtain rfl : other = line := Option.some.inj about
        obtain ⟨⟨slot, found⟩, rfl⟩ := onLine_eq_ok returns
        rw [laws.unmasked other ctrl.registers (IrqLines.slot?_eq_some.1 found).1.1 high]
        exact had
    | sendIpi core vector => cases about
  · have within := high.trans_le laws.range
    rcases laws.isolates η call ctrl later returns line within about with
      same | ⟨_, _, _, changed⟩
    · rw [same, had]
    · rcases (laws.sharing _ _ _ _ changed).2 with kept | set
      · rw [kept, had]
      · exact set

theorem registered_priority {first final : IrqController design η}
    {log : CallLog (IrqCall η) HalError} (run : Calls design.call first log final)
    (member : (.registerIrq line handler, none) ∈ log) :
    line < design.lines.limit ∧ (lineOf final.registers line).priority = priority := by
  induction run with
  | start => cases member
  | ok run next returns ih =>
      rcases List.mem_append.1 member with before | last
      · obtain ⟨high, had⟩ := ih before
        exact ⟨high, laws.priority_of_ok returns high had⟩
      · cases List.mem_singleton.1 last
        obtain ⟨slot, found, _, rfl⟩ := registerIrq_eq_ok returns
        obtain ⟨⟨low, high⟩, _⟩ := IrqLines.slot?_eq_some.1 found
        exact ⟨high, (laws.configured line _ low high).2⟩
  | err run next error returns ih =>
      rw [call_eq_err returns]
      rcases List.mem_append.1 member with before | last
      · exact ih before
      · cases List.mem_singleton.1 last

theorem keepsPriority (η : Type) : KeepsPriority η design lineOf priority :=
  fun run _ _ member => (laws.registered_priority run member).2

end LineLaws

end IrqDesign

end Simurgh
