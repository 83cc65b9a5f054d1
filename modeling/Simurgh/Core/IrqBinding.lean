import Simurgh.Core.Dispatch
import Simurgh.Core.Run

/-!
# Interrupt lines

`IrqBind` enters a line in the table of the kernel before it registers the handler with
the platform, and it keeps the entry when the platform rejects the handler.
-/

namespace Simurgh

namespace KernelState

/-- The line and the notification that the two capabilities of the caller name. -/
structure NamesLine (state : KernelState) (caller : ThreadId) (mmio notification : CapId)
    (irq : Nat) (nid : NotificationId) : Prop where
  region : ∃ cap descriptor,
    state.resolve caller mmio .mmioRegion .write = .ok cap ∧
      state.mmioRegion cap.object.id = some descriptor ∧ descriptor.irq = irq
  target : ∃ cap,
    state.resolve caller notification .notification .write = .ok cap ∧ cap.object.id = nid

theorem NamesLine.unique {state : KernelState} {caller : ThreadId} {mmio notification : CapId}
    {irq other : Nat} {nid target : NotificationId}
    (first : state.NamesLine caller mmio notification irq nid)
    (second : state.NamesLine caller mmio notification other target) :
    irq = other ∧ nid = target := by
  obtain ⟨⟨mmioCap, descriptor, resolved, found, rfl⟩, notifCap, looked, rfl⟩ := first
  obtain ⟨⟨otherCap, window, again, there, rfl⟩, targetCap, seen, rfl⟩ := second
  obtain rfl := Except.ok.inj (resolved.symm.trans again)
  obtain rfl := Option.some.inj (found.symm.trans there)
  obtain rfl := Except.ok.inj (looked.symm.trans seen)
  exact ⟨rfl, rfl⟩

/-- The notification that a line is bound to. -/
def notificationForIrq (state : KernelState) (irq : Nat) : Option NotificationId :=
  (state.irqBindings.find? fun binding => binding.1 == irq).map fun found => found.2.2

/-- There is no entry for the line, and no room for one. -/
def LacksRoom (state : KernelState) (irq : Nat) : Prop :=
  state.notificationForIrq irq = none ∧
    (state.irqBindings.insert fun _ => (irq, 0)) = none

variable {irq : Nat} {nid : NotificationId} {state : KernelState}

theorem insert_isNone {α : Type} {n : Nat} {slab : Slab α n} (make other : Nat → α)
    (full : slab.insert make = none) : slab.insert other = none := by
  unfold Slab.insert at *
  cases free : slab.firstFree with
  | none => rfl
  | some i =>
      rw [free] at full
      cases full

/-- Binding succeeds unless there is no room. -/
theorem bindIrq_room_iff :
    (state.bindIrq irq nid).1 = false ↔ state.LacksRoom irq := by
  unfold bindIrq LacksRoom notificationForIrq
  cases found : state.irqBindings.find? fun binding => binding.1 == irq with
  | some line => simp
  | none =>
      cases inserted : state.irqBindings.insert fun _ => (irq, nid) with
      | none => simp [insert_isNone _ (fun _ => (irq, 0)) inserted]
      | some created =>
          have room : (state.irqBindings.insert fun _ => (irq, 0)) ≠ none := by
            intro full
            rw [insert_isNone _ (fun _ => (irq, nid)) full] at inserted
            cases inserted
          simp [room]

/-- Binding keeps the table if and only if there is nothing to change. -/
theorem bindIrq_same_iff :
    (state.bindIrq irq nid).2.irqBindings = state.irqBindings ↔
      state.LacksRoom irq ∨ state.notificationForIrq irq = some nid := by
  rw [← @bindIrq_room_iff irq nid state]
  unfold bindIrq notificationForIrq
  cases found : state.irqBindings.find? fun binding => binding.1 == irq with
  | some line =>
      obtain ⟨slot, line, old⟩ := line
      obtain ⟨present, sameLine⟩ := Slab.find?_spec found
      obtain rfl : line = irq := by simpa using sameLine
      simp only [Option.map_some, Bool.true_eq_false, false_or, Option.some.injEq]
      constructor
      · intro same
        have here : (state.irqBindings.put slot (line, nid)).get? slot = some (line, nid) :=
          Slab.get?_put_self (Slab.lt_of_get? present) (line, nid)
        rw [same, present, Option.some.injEq, Prod.mk.injEq] at here
        exact here.2
      · rintro rfl
        exact Slab.put_self present
  | none =>
      simp only [Option.map_none, reduceCtorEq, or_false]
      cases inserted : state.irqBindings.insert fun _ => (irq, nid) with
      | none => simp
      | some created =>
          obtain ⟨slot, bindings⟩ := created
          have vacant := (Slab.insert_spec inserted).2.1
          have filled := Slab.get?_of_insert inserted slot
          simp only [Bool.true_eq_false, iff_false]
          intro same
          rw [same, vacant, if_pos rfl] at filled
          cases filled

end KernelState

namespace Machine

variable {μ : Type} (hal : HalInterface μ)

/-- The call names nothing, or the platform accepts the handler, or the line is already
bound as the call wants it, or it cannot be entered at all. -/
def KeepsBindings (caller : ThreadId) (mmio notification : CapId) (handler : Nat)
    (machine : Machine μ) : Prop :=
  ∀ irq nid, machine.kernel.NamesLine caller mmio notification irq nid →
    (hal.registerIrq irq handler machine.hw).1 = true ∨
      machine.kernel.notificationForIrq irq = some nid ∨ machine.kernel.LacksRoom irq

variable {hal} {caller : ThreadId} {mmio notification : CapId} {handler : Nat}
  {machine : Machine μ}

/-- Without the two capabilities nothing happens. -/
theorem doIrqBind_unnamed
    (unnamed : ∀ irq nid, ¬ machine.kernel.NamesLine caller mmio notification irq nid) :
    ∃ error, doIrqBind hal caller mmio notification handler machine = .err error machine := by
  unfold doIrqBind
  rw [Exec.get_bind_run]
  cases resolved : machine.kernel.resolve caller mmio .mmioRegion .write with
  | error error => exact ⟨error, rfl⟩
  | ok mmioCap =>
      rw [Exec.ofExcept_ok, Exec.pure_bind_run]
      cases found : machine.kernel.mmioRegion mmioCap.object.id with
      | none => exact ⟨.badCap, rfl⟩
      | some descriptor =>
          rw [Exec.okOr_some, Exec.pure_bind_run]
          cases looked : machine.kernel.resolve caller notification .notification .write with
          | error error => exact ⟨error, rfl⟩
          | ok notifCap =>
              exact absurd ⟨⟨mmioCap, descriptor, resolved, found, rfl⟩, notifCap, looked, rfl⟩
                (unnamed descriptor.irq notifCap.object.id)

/-- What the call does with a line. -/
theorem doIrqBind_named {irq : Nat} {nid : NotificationId}
    (names : machine.kernel.NamesLine caller mmio notification irq nid) :
    doIrqBind hal caller mmio notification handler machine =
      if (machine.kernel.bindIrq irq nid).1 = false then
        .err .objectTableFull
          { machine with kernel := (machine.kernel.bindIrq irq nid).2 }
      else if (hal.registerIrq irq handler machine.hw).1 = false then
        .err .irqRegistrationFailed
          { kernel := (machine.kernel.bindIrq irq nid).2
            hw := (hal.registerIrq irq handler machine.hw).2 }
      else
        .ok .done
          { kernel := (machine.kernel.bindIrq irq nid).2
            hw := (hal.registerIrq irq handler machine.hw).2 } := by
  obtain ⟨⟨mmioCap, descriptor, resolved, found, rfl⟩, notifCap, looked, rfl⟩ := names
  unfold doIrqBind
  rw [Exec.get_bind_run, resolved, Exec.ofExcept_ok, Exec.pure_bind_run, found,
    Exec.okOr_some, Exec.pure_bind_run, looked, Exec.ofExcept_ok, Exec.pure_bind_run]
  cases binding : machine.kernel.bindIrq descriptor.irq notifCap.object.id with
  | mk room kernel =>
      cases registration : hal.registerIrq descriptor.irq handler machine.hw with
      | mk registered hw =>
          cases room with
          | false => rfl
          | true =>
              cases registered with
              | false => rfl
              | true => rfl

/-- A failed call keeps the table if and only if it had nothing to enter, or the platform
did not reject it. -/
theorem irqBind_keeps_bindings_iff (caller : ThreadId) (nowNs : Nat)
    (mmio notification : CapId) (handler : Nat) (machine : Machine μ) :
    (∀ error after,
      dispatch hal caller nowNs (.irqBind mmio notification handler) machine =
          .err error after →
        after.kernel.irqBindings = machine.kernel.irqBindings) ↔
      KeepsBindings hal caller mmio notification handler machine := by
  change (∀ error after, doIrqBind hal caller mmio notification handler machine = _ → _) ↔ _
  by_cases named : ∃ irq nid, machine.kernel.NamesLine caller mmio notification irq nid
  · obtain ⟨irq, nid, names⟩ := named
    have same := @KernelState.bindIrq_same_iff irq nid machine.kernel
    have room := @KernelState.bindIrq_room_iff irq nid machine.kernel
    rw [doIrqBind_named names]
    constructor
    · intro kept other target again
      obtain ⟨rfl, rfl⟩ := names.unique again
      by_cases lacks : machine.kernel.LacksRoom irq
      · exact Or.inr (Or.inr lacks)
      · rw [if_neg (fun full => lacks (room.1 full))] at kept
        by_cases accepted : (hal.registerIrq irq handler machine.hw).1 = false
        · rw [if_pos accepted] at kept
          have bound := same.1 (kept _ _ rfl)
          exact Or.inr (Or.inl (bound.resolve_left lacks))
        · exact Or.inl (Bool.eq_true_of_not_eq_false accepted)
    · intro keeps error after ended
      rcases keeps irq nid names with accepted | bound | lacks
      · split at ended
        · next full =>
          obtain ⟨_, rfl⟩ := Outcome.err.inj ended
          exact same.2 (Or.inl (room.1 full))
        · rw [if_neg (by rw [accepted]; decide)] at ended
          cases ended
      · have kept := same.2 (Or.inr bound)
        split at ended
        · obtain ⟨_, rfl⟩ := Outcome.err.inj ended
          exact kept
        · split at ended
          · obtain ⟨_, rfl⟩ := Outcome.err.inj ended
            exact kept
          · cases ended
      · rw [if_pos (room.2 lacks)] at ended
        obtain ⟨_, rfl⟩ := Outcome.err.inj ended
        exact same.2 (Or.inl lacks)
  · have unnamed : ∀ irq nid, ¬ machine.kernel.NamesLine caller mmio notification irq nid :=
      fun irq nid names => named ⟨irq, nid, names⟩
    obtain ⟨error, failed⟩ := @doIrqBind_unnamed μ hal caller mmio notification handler machine
      unnamed
    constructor
    · intro _ irq nid names
      exact absurd names (unnamed irq nid)
    · intro _ other after ended
      rw [failed] at ended
      obtain ⟨_, rfl⟩ := Outcome.err.inj ended
      rfl

/-! ## A rejected handler -/

/-- The small machine with one block device. -/
def deviceBoot : BootInfo :=
  { sampleBoot with
    peripheralDevices := [
      { kind := .block
        mmioBase := 0x10001000
        mmioSize := 4096
        irq := 7
        configSpaceBase := 0 }] }

def deviceKernel : KernelState :=
  (KernelState.populateFromBootInfo deviceBoot .empty).state?.getD .empty

/-- A platform that accepts one handler only. -/
def onceHal : HalInterface Bool where
  mapRange _ _ _ _ _ _ _ hw := (0, hw)
  registerIrq _ _ hw := (!hw, true)
  flushTlb := id

/-- The root task makes two notifications and binds the line to the first one. -/
def bindsOnce : List KernelEvent :=
  [.syscall 0 (.retype 0 .notification 2) 1,
    .syscall 0 (.irqBind deviceKernel.rootMmioBlkCap 3 0) 2]

def deviceMachine : Machine Bool := { kernel := deviceKernel, hw := false }

theorem rejected_rebind_redirects :
    ¬ ∀ (machine : Machine Bool) (caller : ThreadId) (nowNs : Nat) (mmio notification : CapId)
        (handler : Nat),
      (system onceHal).Reachable TransitionSystem.anyStep machine →
        ∀ error after,
          dispatch onceHal caller nowNs (.irqBind mmio notification handler) machine =
              .err error after →
            after.kernel.irqBindings = machine.kernel.irqBindings := by
  intro claimed
  have succeeded :
      (KernelState.populateFromBootInfo deviceBoot .empty).value? = some () := by
    decide +kernel
  obtain ⟨kernel, ran⟩ := Outcome.eq_ok_of_value? succeeded
  have boots : deviceMachine.Boots := by
    refine ⟨deviceKernel, ⟨deviceBoot, ?_⟩, Or.inl rfl⟩
    rw [deviceKernel, ran]
    rfl
  have reached : (runWhile onceHal (fun _ _ => true) bindsOnce deviceMachine).any
      fun machine =>
        (dispatch onceHal 0 3 (.irqBind deviceKernel.rootMmioBlkCap 4 0) machine).error? =
          some .irqRegistrationFailed ∧
        machine.kernel.notificationForIrq 7 = some 0 ∧
        ((dispatch onceHal 0 3 (.irqBind deviceKernel.rootMmioBlkCap 4 0) machine).state?.any
          fun after => after.kernel.notificationForIrq 7 = some 1) := by
    decide +kernel
  obtain ⟨machine, here, final⟩ := (Option.any_eq_true _ _).1 reached
  obtain ⟨rejected, before, redirected⟩ := of_decide_eq_true final
  obtain ⟨after, failed⟩ := Outcome.eq_err_of_error? rejected
  have run := reaches_runWhile onceHal (.refl deviceMachine) here
  have kept := claimed machine 0 3 deviceKernel.rootMmioBlkCap 4 0
    ⟨deviceMachine, boots, run.mono fun _ _ _ => trivial⟩ _ after failed
  rw [failed] at redirected
  have now : after.kernel.notificationForIrq 7 = some 1 := of_decide_eq_true redirected
  unfold KernelState.notificationForIrq at now before
  rw [kept, before] at now
  cases now

end Machine

end Simurgh
