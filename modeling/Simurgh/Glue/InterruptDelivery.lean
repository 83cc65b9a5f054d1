import Simurgh.Core.Creation
import Simurgh.Core.IrqBinding
import Simurgh.Core.Signals
import Simurgh.Glue.Conduct
import Simurgh.Hal.InterruptDispatch

/-!
# Delivery of interrupts

`IrqBind` enters a line into the table of the kernel, and then its handler into the table of the
interrupt controller.  An interrupt takes the way back: the dispatch function finds the handler,
and the handler finds the notification.  The two tables are kept apart, and a run mixes interrupts
with everything else that the kernel does.
-/

namespace Simurgh

/-! ## The kernel beside a controller -/

/-- A controller and the rest of the hardware.  `completed` holds the lines that were given back,
the newest last. -/
structure Platform {ρ : Type} (design : IrqDesign ρ) (μ : Type) where
  controller : IrqController design Nat
  completed : List Nat
  rest : μ

variable {ρ μ ι : Type} {design : IrqDesign ρ}

/-- The calls of the kernel reach the hardware, and `register_irq` reaches the controller. -/
def platformHal (hal : HalInterface μ) : HalInterface (Platform design μ) where
  mapRange rootFrame vaddr paddr len permBits poolBase poolLen platform :=
    let (consumed, rest) :=
      hal.mapRange rootFrame vaddr paddr len permBits poolBase poolLen platform.rest
    (consumed, { platform with rest })
  registerIrq irq handler platform :=
    match design.registerIrq irq handler platform.controller with
    | .ok _ controller => (true, { platform with controller })
    | .err _ controller => (false, { platform with controller })
    | .panic => (false, platform)
  flushTlb platform := { platform with rest := hal.flushTlb platform.rest }

namespace Machine

/-- `virtio_blk_irq_trampoline` and `virtio_net_irq_trampoline`. -/
def irqTrampoline (line nowNs : Nat) (machine : Machine μ) : Machine μ :=
  (onKernel (KernelState.deviceInterrupt line nowNs) machine).state?.getD machine

/-- What the dispatch functions reach.  Nothing sets a callback for the timer. -/
def dispatchEnv (nowNs : Nat) : DispatchEnv design Nat (Machine (Platform design μ)) where
  controller machine := some machine.hw.controller
  handle _ line machine := machine.irqTrampoline line nowNs
  onTimerInterrupt := id
  endOfInterrupt line machine :=
    { machine with hw := { machine.hw with completed := machine.hw.completed ++ [line] } }
  clearSsip := id

end Machine

inductive PlatformEvent (ι : Type) where
  | kernel (event : KernelEvent)
  | interrupt (input : ι) (nowNs : Nat)

/-! ## What was bound -/

/-- A call of `IrqBind`, with the line and the notification that its capabilities name. -/
structure BindCall where
  line : Nat
  target : NotificationId
  handler : Nat
  deriving DecidableEq, Repr

abbrev BindLog : Type := CallLog BindCall SyscallError

/-- The calls of `IrqBind` that named a line, and the lines that were raised. -/
structure IrqHistory where
  binds : BindLog
  raised : List Nat

namespace KernelState

/-- The line and the notification that the two capabilities name. -/
def namedLine? (state : KernelState) (caller : ThreadId) (mmio notification : CapId) :
    Option (Nat × NotificationId) :=
  match state.resolve caller mmio .mmioRegion .write,
    state.resolve caller notification .notification .write with
  | .ok mmioCap, .ok notifCap =>
      (state.mmioRegion mmioCap.object.id).map fun descriptor =>
        (descriptor.irq, notifCap.object.id)
  | _, _ => none

theorem namedLine?_eq_some {state : KernelState} {caller : ThreadId} {mmio notification : CapId}
    {line : Nat} {target : NotificationId} :
    state.namedLine? caller mmio notification = some (line, target) ↔
      state.NamesLine caller mmio notification line target := by
  unfold namedLine?
  constructor
  · intro named
    cases region : state.resolve caller mmio .mmioRegion .write with
    | error error =>
        rw [region] at named
        cases named
    | ok mmioCap =>
        cases resolved : state.resolve caller notification .notification .write with
        | error error =>
            rw [region, resolved] at named
            cases named
        | ok notifCap =>
            rw [region, resolved] at named
            obtain ⟨descriptor, found, same⟩ := Option.map_eq_some_iff.1 named
            obtain ⟨rfl, rfl⟩ := Prod.mk.inj same
            exact ⟨⟨mmioCap, descriptor, region, found, rfl⟩, notifCap, resolved, rfl⟩
  · rintro ⟨⟨mmioCap, descriptor, region, found, rfl⟩, notifCap, resolved, rfl⟩
    simp only [region, resolved, found, Option.map_some]

end KernelState

namespace Machine

variable (hal : HalInterface μ)

/-- The call that an event is, if it names a line, and its answer. -/
def bindEntry (before : Machine μ) : KernelEvent → Option (BindCall × Option SyscallError)
  | .syscall caller (.irqBind mmio notification handler) nowNs =>
      (before.kernel.namedLine? caller mmio notification).map fun (line, target) =>
        ({ line, target, handler },
          (dispatch hal caller nowNs (.irqBind mmio notification handler) before).error?)
  | _ => none

end Machine

/-- Runs of the kernel with interrupts. -/
def platformSystem (hal : HalInterface μ) (dispatcher : Dispatcher design ι) :
    TransitionSystem (Machine (Platform design μ)) (PlatformEvent ι) where
  Initial machine := machine.Boots ∧ machine.hw.completed = [] ∧
    ∃ registers coreCount,
      machine.hw.controller = { design.fresh Nat registers with coreCount }
  Step before event after :=
    match event with
    | .kernel event => (Machine.system (platformHal hal)).Step before event after
    | .interrupt input nowNs =>
        after = dispatcher.dispatch (Machine.dispatchEnv nowNs) input before

/-- The history after an event. -/
def recordIrq (hal : HalInterface μ) (dispatcher : Dispatcher design ι)
    (before : Machine (Platform design μ)) (history : IrqHistory) :
    PlatformEvent ι → IrqHistory
  | .kernel event =>
      { history with
        binds := history.binds ++ (Machine.bindEntry (platformHal hal) before event).toList }
  | .interrupt input _ =>
      { history with
        raised := history.raised ++ (dispatcher.arrival input).completes.toList }

def interrupting (hal : HalInterface μ) (dispatcher : Dispatcher design ι) :
    TransitionSystem (Machine (Platform design μ) × IrqHistory) (PlatformEvent ι) :=
  (platformSystem hal dispatcher).recording
    (fun before event _ history => recordIrq hal dispatcher before history event)
    { binds := [], raised := [] }

/-! ## What is promised -/

namespace BindLog

/-- The notification that an entry makes the target of the line.  A call for which the table of
the kernel has no room changes nothing, and one that the controller rejects does. -/
def targets (line : Nat) : BindCall × Option SyscallError → Option NotificationId
  | (call, answer) =>
      if call.line = line ∧ answer ≠ some .objectTableFull then some call.target else none

/-- The calls that have registered a handler for the line. -/
def registrations (line : Nat) (binds : BindLog) : List (BindCall × Option SyscallError) :=
  binds.filter fun entry => entry.1.line = line ∧ entry.2 = none

end BindLog

/-- The notification takes bit 0, its waiters become ready, and nothing else happens. -/
structure IrqSignalled (target : NotificationId) (before after : KernelState) : Prop where
  frame : after = { before with notifications := after.notifications, sched := after.sched }
  notification : ∃ notif, before.notifications.get? target = some notif ∧
    after.notifications.get? target =
      some { signalWord := notif.signalWord ||| 1, waiters := [] } ∧
    ∀ tid, after.sched.runState tid =
      if tid ∈ notif.waiters then (before.sched.runState tid).map fun _ => .ready
      else before.sched.runState tid
  others : ∀ other, other ≠ target →
    after.notifications.get? other = before.notifications.get? other
  running : after.sched.running = before.sched.running

/-- What an interrupt does to the kernel: a line that has a handler is delivered to the
notification to which it was bound last. -/
def Delivered (binds : BindLog) (before after : KernelState) : IrqArrival → Prop
  | .line line =>
      (binds.registrations line = [] ∧ after = before) ∨
        (binds.registrations line ≠ [] ∧
          ∃ target, binds.lastTold (BindLog.targets line) = some target ∧
            IrqSignalled target before after)
  | _ => after = before

/-- The tables of the kernel and of the controller are what the history says, each line that was
raised is given back once, and the first handler of a line stays. -/
structure TablesRight (machine : Machine (Platform design μ)) (history : IrqHistory) : Prop where
  targets : ∀ line, machine.kernel.notificationForIrq line =
    history.binds.lastTold (BindLog.targets line)
  handlers : ∀ line, machine.hw.controller.handler? line =
    (history.binds.registrations line).head?.map fun entry => entry.1.handler
  once : ∀ line, (history.binds.registrations line).length ≤ 1
  completed : machine.hw.completed = history.raised

/-- It holds in every run, and every interrupt of a run is delivered. -/
def DeliversInterrupts (hal : HalInterface μ) (dispatcher : Dispatcher design ι) : Prop :=
  ∀ machine history,
    (interrupting hal dispatcher).Reachable TransitionSystem.anyStep (machine, history) →
      TablesRight machine history ∧
        ∀ input nowNs after,
          (platformSystem hal dispatcher).Step machine (.interrupt input nowNs) after →
            Delivered history.binds machine.kernel after.kernel (dispatcher.arrival input) ∧
              after.hw.controller = machine.hw.controller ∧ after.hw.rest = machine.hw.rest

/-! ## The table of the kernel -/

namespace KernelState

/-- A line has one entry at most, and entries name notifications that exist. -/
structure LinesNamed (state : KernelState) : Prop where
  distinct : ∀ slot other entry line, state.irqBindings.get? slot = some entry →
    state.irqBindings.get? other = some line → entry.1 = line.1 → slot = other
  exist : ∀ slot line target, state.irqBindings.get? slot = some (line, target) →
    (state.notifications.get? target).isSome

variable {state before after : KernelState} {line : Nat} {target : NotificationId}

theorem notificationForIrq_eq_some (named : state.LinesNamed) :
    state.notificationForIrq line = some target ↔
      ∃ slot, state.irqBindings.get? slot = some (line, target) := by
  unfold notificationForIrq
  constructor
  · intro bound
    obtain ⟨⟨slot, entry⟩, found, same⟩ := Option.map_eq_some_iff.1 bound
    obtain ⟨present, sameLine⟩ := Slab.find?_spec found
    obtain ⟨other, old⟩ := entry
    obtain rfl : old = target := same
    obtain rfl : other = line := by simpa using sameLine
    exact ⟨slot, present⟩
  · rintro ⟨slot, present⟩
    cases found : state.irqBindings.find? fun binding => binding.1 == line with
    | none => exact absurd found (Slab.find?_ne_none present (by simp))
    | some entry =>
        obtain ⟨other, stored, old⟩ := entry
        obtain ⟨there, sameLine⟩ := Slab.find?_spec found
        obtain rfl : stored = line := by simpa using sameLine
        obtain rfl := named.distinct other slot _ _ there present rfl
        rw [present, Option.some.injEq, Prod.mk.injEq] at there
        rw [Option.map_some, there.2]

/-- A binding fills one place of the table, which was vacant or held the line. -/
theorem bindIrq_place (named : state.LinesNamed) (room : (state.bindIrq line target).1 = true) :
    ∃ place,
      (∀ slot, (state.bindIrq line target).2.irqBindings.get? slot =
        if place = slot then some (line, target) else state.irqBindings.get? slot) ∧
      (∀ slot held, state.irqBindings.get? slot = some (line, held) → place = slot) ∧
      ∀ entry, state.irqBindings.get? place = some entry → entry.1 = line := by
  unfold bindIrq at *
  cases found : state.irqBindings.find? fun binding => binding.1 == line with
  | some entry =>
      obtain ⟨place, stored, old⟩ := entry
      obtain ⟨present, sameLine⟩ := Slab.find?_spec found
      obtain rfl : stored = line := by simpa using sameLine
      refine ⟨place, fun slot => Slab.get?_put_of_some present slot _, ?_, ?_⟩
      · intro slot held there
        exact named.distinct place slot _ _ present there rfl
      · intro entry there
        rw [present, Option.some.injEq] at there
        rw [← there]
  | none =>
      rw [found] at room
      cases inserted : state.irqBindings.insert fun _ => (line, target) with
      | none =>
          simp only [inserted] at room
          cases room
      | some created =>
          obtain ⟨place, bindings⟩ := created
          refine ⟨place, fun slot => Slab.get?_of_insert inserted slot, ?_, ?_⟩
          · intro slot held there
            exact absurd found (Slab.find?_ne_none there (by simp))
          · intro entry there
            rw [(Slab.insert_spec inserted).2.1] at there
            cases there

/-- The line has the new target, and the others keep theirs. -/
theorem LinesNamed.bindIrq (named : state.LinesNamed)
    (room : (state.bindIrq line target).1 = true)
    (present : (state.notifications.get? target).isSome)
    (bindings : after.irqBindings = (state.bindIrq line target).2.irqBindings)
    (notifications : ∀ nid, (state.notifications.get? nid).isSome →
      (after.notifications.get? nid).isSome) :
    after.LinesNamed ∧ ∀ other, after.notificationForIrq other =
      if line = other then some target else state.notificationForIrq other := by
  obtain ⟨place, stored, only, held⟩ := bindIrq_place named room
  have later : after.LinesNamed := by
    constructor
    · rintro slot other ⟨entry, held⟩ ⟨_, kept⟩ here there ⟨⟩
      rw [bindings, stored] at here there
      by_cases first : place = slot
      · by_cases second : place = other
        · exact first.symm.trans second
        · rw [if_pos first, Option.some.injEq, Prod.mk.injEq] at here
          rw [if_neg second, ← here.1] at there
          exact absurd (only other kept there) second
      · rw [if_neg first] at here
        by_cases second : place = other
        · rw [if_pos second, Option.some.injEq, Prod.mk.injEq] at there
          rw [← there.1] at here
          exact absurd (only slot held here) first
        · rw [if_neg second] at there
          exact named.distinct slot other _ _ here there rfl
    · intro slot other nid here
      rw [bindings, stored] at here
      by_cases same : place = slot
      · rw [if_pos same, Option.some.injEq, Prod.mk.injEq] at here
        rw [← here.2]
        exact notifications target present
      · rw [if_neg same] at here
        exact notifications nid (named.exist slot other nid here)
  refine ⟨later, fun other => Option.ext fun nid => ?_⟩
  rw [notificationForIrq_eq_some later]
  by_cases same : line = other
  · rw [if_pos same]
    constructor
    · rintro ⟨slot, here⟩
      rw [bindings, stored] at here
      by_cases first : place = slot
      · rw [if_pos first, Option.some.injEq, Prod.mk.injEq] at here
        rw [here.2]
      · rw [if_neg first, ← same] at here
        exact absurd (only slot nid here) first
    · rintro ⟨⟩
      refine ⟨place, ?_⟩
      rw [bindings, stored, if_pos rfl, same]
  · rw [if_neg same, notificationForIrq_eq_some named]
    apply exists_congr
    intro slot
    rw [bindings, stored]
    by_cases here : place = slot
    · rw [if_pos here]
      constructor
      · intro entry
        rw [Option.some.injEq, Prod.mk.injEq] at entry
        exact absurd entry.1 same
      · intro entry
        exact absurd (held _ (here ▸ entry)).symm same
    · rw [if_neg here]

/-- The table stays. -/
theorem LinesNamed.of_same (named : before.LinesNamed)
    (bindings : after.irqBindings = before.irqBindings)
    (notifications : ∀ nid, (before.notifications.get? nid).isSome →
      (after.notifications.get? nid).isSome) :
    after.LinesNamed ∧ ∀ line, after.notificationForIrq line = before.notificationForIrq line := by
  refine ⟨⟨?_, ?_⟩, fun line => ?_⟩
  · rw [bindings]
    exact named.distinct
  · intro slot line target here
    rw [bindings] at here
    exact notifications target (named.exist slot line target here)
  · rw [notificationForIrq, bindings]
    rfl

/-! ## Everything but `IrqBind` leaves the table alone -/

theorem irqBindings_updateTcb (tid : ThreadId) (update : Tcb → Tcb) (state : KernelState) :
    (state.updateTcb tid update).irqBindings = state.irqBindings := by
  rw [updateTcb_frame]

theorem Effect.irqBindings {caller : ThreadId} {nowNs : Nat} {op : SyscallOp}
    {next : Option ThreadId} (effect : Effect caller nowNs before op next after)
    (other : ∀ mmio notification handler, op ≠ .irqBind mmio notification handler) :
    after.irqBindings = before.irqBindings := by
  cases effect with
  | retyped holds present reserved created newPages =>
      rw [created.frame]
      rfl
  | sent => exact irqBindings_updateTcb ..
  | called holds present waiting admitted final =>
      rw [final]
      exact (irqBindings_updateTcb ..).trans (irqBindings_updateTcb ..)
  | callStuck => exact irqBindings_updateTcb ..
  | queued isSend holds present noReceiver final =>
      rw [final]
      exact irqBindings_updateTcb ..
  | received => exact irqBindings_updateTcb ..
  | awaiting holds present noSender final =>
      rw [final]
      exact irqBindings_updateTcb ..
  | replied => exact irqBindings_updateTcb ..
  | replyStuck => exact irqBindings_updateTcb ..
  | bound => exact absurd rfl (other _ _ _)
  | _ => rfl

end KernelState

namespace Machine

variable {hal : HalInterface μ} {before after : Machine μ} {caller : ThreadId} {nowNs : Nat}

/-- The event is no `IrqBind`. -/
def BindsNothing (event : KernelEvent) : Prop :=
  ∀ caller mmio notification handler nowNs,
    event ≠ .syscall caller (.irqBind mmio notification handler) nowNs

theorem Moves.irqBindings {before after : KernelState} {event : KernelEvent}
    (moves : Moves before event after) (other : BindsNothing event) :
    after.irqBindings = before.irqBindings := by
  cases moves with
  | ticked => rfl
  | @called caller op nowNs next later effect =>
      have same := effect.irqBindings fun mmio notification handler isBind =>
        other caller mmio notification handler nowNs (by rw [isBind])
      cases next with
      | none => exact same
      | some next => exact same
  | started => exact KernelState.irqBindings_updateTcb ..
  | killed => exact KernelState.irqBindings_updateTcb ..
  | spawned isSpawn spawns => rw [spawns.frame]
  | grantedInto => rfl

/-- What the mapping of memory leaves of the hardware, all events but `IrqBind` leave. -/
theorem dispatch_hw {α : Type} {observe : μ → α}
    (mapped : ∀ rootFrame vaddr paddr len permBits poolBase poolLen hw,
      observe (hal.mapRange rootFrame vaddr paddr len permBits poolBase poolLen hw).2 = observe hw)
    (flushed : ∀ hw, observe (hal.flushTlb hw) = observe hw) {op : SyscallOp}
    (other : ∀ mmio notification handler, op ≠ .irqBind mmio notification handler)
    (ended : (dispatch hal caller nowNs op before).state? = some after) :
    observe after.hw = observe before.hw := by
  have kernelOnly : ∀ program : Exec KernelState SyscallError SyscallReturn,
      (onKernel program before).state? = some after → observe after.hw = observe before.hw := by
    intro program ran
    obtain ⟨kernel, _, rfl⟩ := Exec.zoom_state.1 ran
    rfl
  cases op with
  | map pageTable frame vaddr perms =>
      obtain ⟨next, _, effect⟩ :=
        (doMap_ends hal pageTable frame vaddr perms before).of_state? ended
      cases effect with
      | refused => rfl
      | @accepted csId asId held phys space later _ holds frameHeld allowed resolved present added
          walked =>
          rcases walked with ⟨_, rfl⟩ | ⟨poolBase, poolLen, consumed, hw, _, _, ran, rest⟩
          · rfl
          · have same := mapped later.rootPhys vaddr phys pageSize (KernelState.permBits perms)
              poolBase poolLen before.hw
            rw [ran] at same
            rcases rest with ⟨_, left, _, rfl⟩ | ⟨_, rfl⟩
            · exact same
            · exact (flushed hw).trans same
  | irqBind mmio notification handler => exact absurd rfl (other mmio notification handler)
  | yield => exact kernelOnly _ ended
  | capRevoke cap => exact kernelOnly _ ended
  | retype untyped targetType count => exact kernelOnly _ ended
  | capGrant targetThread cap rights => exact kernelOnly _ ended
  | send endpoint msg => exact kernelOnly _ ended
  | call endpoint msg => exact kernelOnly _ ended
  | recv endpoint => exact kernelOnly _ ended
  | reply toThread msg => exact kernelOnly _ ended
  | signal notification bits => exact kernelOnly _ ended
  | wait notification => exact kernelOnly _ ended
  | poll notification => exact kernelOnly _ ended

theorem step_hw {α : Type} {observe : μ → α}
    (mapped : ∀ rootFrame vaddr paddr len permBits poolBase poolLen hw,
      observe (hal.mapRange rootFrame vaddr paddr len permBits poolBase poolLen hw).2 = observe hw)
    (flushed : ∀ hw, observe (hal.flushTlb hw) = observe hw) {event : KernelEvent}
    (other : BindsNothing event) (taken : (system hal).Step before event after) :
    observe after.hw = observe before.hw := by
  change (perform hal event before).state? = some after at taken
  cases event with
  | syscall caller op nowNs =>
      have noBind : ∀ mmio notification handler, op ≠ .irqBind mmio notification handler :=
        fun mmio notification handler isBind =>
          other caller mmio notification handler nowNs (by rw [isBind])
      rcases Exec.bind_state.1 taken with ⟨error, failed⟩ | ⟨result, middle, ran, rest⟩
      · exact dispatch_hw mapped flushed noBind (by rw [failed]; rfl)
      · rw [(onKernel_state rest).2]
        exact dispatch_hw mapped flushed noBind (by rw [ran]; rfl)
  | _ => rw [(onKernel_state taken).2]

/-! ## One call of `IrqBind` -/

/-- How a call that names a line ends. -/
inductive Entered (call : BindCall) (before : Machine (Platform design μ)) :
    Option SyscallError → Machine (Platform design μ) → Prop where
  | noRoom (full : (before.kernel.bindIrq call.line call.target).1 = false) :
      Entered call before (some .objectTableFull) before
  | rejected {error : HalError}
      (room : (before.kernel.bindIrq call.line call.target).1 = true)
      (refused : design.registerIrq call.line call.handler before.hw.controller =
        .err error before.hw.controller) :
      Entered call before (some .irqRegistrationFailed)
        { before with kernel := (before.kernel.bindIrq call.line call.target).2 }
  | accepted {controller : IrqController design Nat}
      (room : (before.kernel.bindIrq call.line call.target).1 = true)
      (registered : design.registerIrq call.line call.handler before.hw.controller =
        .ok () controller) :
      Entered call before none
        { kernel := (before.kernel.bindIrq call.line call.target).2
          hw := { before.hw with controller } }

theorem registerIrq_cases (line handler : Nat) (ctrl : IrqController design Nat) :
    (∃ controller, design.registerIrq line handler ctrl = .ok () controller) ∨
      ∃ error, design.registerIrq line handler ctrl = .err error ctrl := by
  unfold IrqDesign.registerIrq
  cases design.lines.slot? line with
  | none => exact Or.inr ⟨_, rfl⟩
  | some slot =>
      dsimp only
      cases ctrl.handlers slot with
      | none => exact Or.inl ⟨_, rfl⟩
      | some held => exact Or.inr ⟨_, rfl⟩

theorem bindIrq_full {state : KernelState} {line : Nat} {target : NotificationId}
    (full : (state.bindIrq line target).1 = false) : (state.bindIrq line target).2 = state := by
  unfold KernelState.bindIrq at *
  split at full
  · cases full
  · split at full
    · cases full
    · rfl

variable {rest : HalInterface μ} {first final : Machine (Platform design μ)}
  {mmio notification : CapId} {handler : Nat}

/-- A call does nothing, or names a line and is entered. -/
theorem step_bind
    (taken : (system (platformHal rest)).Step first
      (.syscall caller (.irqBind mmio notification handler) nowNs) final) :
    (bindEntry (platformHal rest) first
        (.syscall caller (.irqBind mmio notification handler) nowNs) = none ∧ final = first) ∨
      ∃ call answer,
        first.kernel.NamesLine caller mmio notification call.line call.target ∧
          bindEntry (platformHal rest) first
            (.syscall caller (.irqBind mmio notification handler) nowNs) = some (call, answer) ∧
          Entered call first answer final := by
  rw [bindEntry]
  cases named : first.kernel.namedLine? caller mmio notification with
  | none =>
      obtain ⟨error, failed⟩ := @doIrqBind_unnamed _ (platformHal rest) caller mmio notification
        handler first fun irq nid names => by
          rw [KernelState.namedLine?_eq_some.2 names] at named
          cases named
      have ran : dispatch (platformHal rest) caller nowNs
          (.irqBind mmio notification handler) first = .err error first := failed
      exact Or.inl ⟨rfl, after_of_err ran taken⟩
  | some pair =>
      obtain ⟨line, target⟩ := pair
      have names := KernelState.namedLine?_eq_some.1 named
      have ran : dispatch (platformHal rest) caller nowNs
          (.irqBind mmio notification handler) first = _ :=
        @doIrqBind_named _ (platformHal rest) caller mmio notification handler first line target
          names
      refine Or.inr ⟨⟨line, target, handler⟩, _, names, rfl, ?_⟩
      cases room : (first.kernel.bindIrq line target).1 with
      | false =>
          rw [if_pos room] at ran
          rw [after_of_err ran taken, bindIrq_full room, ran]
          exact .noRoom room
      | true =>
          rw [if_neg (by simp [room])] at ran
          rcases registerIrq_cases line handler first.hw.controller with
            ⟨controller, registered⟩ | ⟨error, refused⟩
          · have answered : (platformHal rest).registerIrq line handler first.hw =
                (true, { first.hw with controller }) := by
              simp [platformHal, registered]
            rw [answered, if_neg (by simp)] at ran
            rw [after_of_ok ran rfl taken, ran]
            exact .accepted room registered
          · have answered : (platformHal rest).registerIrq line handler first.hw =
                (false, first.hw) := by
              simp [platformHal, refused]
            rw [answered, if_pos rfl] at ran
            rw [after_of_err ran taken, ran]
            exact .rejected room refused

end Machine

/-! ## Interrupts -/

namespace KernelState

variable {state : KernelState} {line : Nat} {target : NotificationId}

theorem interrupted_keeps (line nowNs : Nat) (state : KernelState) :
    (state.interrupted line nowNs).irqBindings = state.irqBindings ∧
      Keeps state (state.interrupted line nowNs) := by
  unfold interrupted
  cases found : state.notificationOf line with
  | none => exact ⟨rfl, .of_same rfl fun _ => rfl⟩
  | some pair =>
      obtain ⟨nid, notif⟩ := pair
      obtain ⟨binding, _, kept⟩ := Option.bind_eq_some_iff.1 found
      obtain ⟨there, present, same⟩ := Option.map_eq_some_iff.1 kept
      obtain ⟨rfl, rfl⟩ := Prod.mk.inj same
      exact ⟨rfl, .of_same rfl (hasObject_putNotification present _)⟩

/-- The notification of the line is signalled. -/
theorem interrupted_signalled (nowNs : Nat) (bound : state.notificationForIrq line = some target)
    (present : (state.notifications.get? target).isSome) :
    IrqSignalled target state (state.interrupted line nowNs) := by
  obtain ⟨notif, there⟩ := Option.isSome_iff_exists.1 present
  obtain ⟨binding, found, same⟩ := Option.map_eq_some_iff.1 bound
  have located : state.notificationOf line = some (target, notif) := by
    rw [notificationOf, found, Option.bind_some, same, there]
    rfl
  have after : state.interrupted line nowNs =
      { state.putNotification target
          { signalWord := notif.signalWord ||| 1, waiters := [] } with
        sched := state.sched.setAllReady nowNs notif.waiters } := by
    rw [interrupted, located]
  rw [after]
  constructor
  · rfl
  · refine ⟨notif, there, ?_, fun tid => ?_⟩
    · exact (Slab.get?_put_of_some there target _).trans (if_pos rfl)
    · exact Scheduler.runState_setAllReady nowNs notif.waiters state.sched tid
  · intro other ne
    exact (Slab.get?_put_of_some there other _).trans (if_neg (Ne.symm ne))
  · exact Scheduler.running_setAllReady nowNs notif.waiters state.sched

end KernelState

namespace Machine

theorem irqTrampoline_eq (line nowNs : Nat) (machine : Machine μ) :
    machine.irqTrampoline line nowNs =
      { machine with kernel := machine.kernel.interrupted line nowNs } := by
  rw [irqTrampoline, onKernel_of_ok (KernelState.deviceInterrupt_run line nowNs machine.kernel)]
  rfl

/-- The kernel after an arrival.  Only a line that has a handler reaches it. -/
def kernelAfter (controller : IrqController design Nat) (nowNs : Nat) (kernel : KernelState) :
    IrqArrival → KernelState
  | .line line =>
      if (controller.handler? line).isSome then kernel.interrupted line nowNs else kernel
  | _ => kernel

/-- What a dispatch comes to. -/
theorem serve_eq (machine : Machine (Platform design μ)) (nowNs : Nat) (arrival : IrqArrival) :
    (dispatchEnv nowNs).serve machine.hw.controller arrival machine =
      { kernel := kernelAfter machine.hw.controller nowNs machine.kernel arrival
        hw := { machine.hw with
          completed := machine.hw.completed ++ arrival.completes.toList } } := by
  cases arrival with
  | line line =>
      rw [DispatchEnv.serve, DispatchEnv.callHandler, kernelAfter]
      cases machine.hw.controller.handler? line with
      | none => rfl
      | some handler =>
          rw [Option.isSome_some, if_pos rfl]
          simp only [dispatchEnv, irqTrampoline_eq]
          rfl
  | timer uses =>
      cases uses with
      | none =>
          rw [DispatchEnv.serve]
          simp [dispatchEnv, IrqArrival.completes, kernelAfter]
      | some line => rfl
  | _ =>
      rw [DispatchEnv.serve]
      simp [dispatchEnv, IrqArrival.completes, kernelAfter]

end Machine

/-! ## Runs -/

namespace BindLog

variable {line : Nat} {binds : BindLog} {call : BindCall} {answer : Option SyscallError}

theorem registrations_append :
    registrations line (binds ++ [(call, answer)]) =
      registrations line binds ++
        (if call.line = line ∧ answer = none then [(call, answer)] else []) := by
  rw [registrations, List.filter_append, registrations, List.filter_singleton]
  by_cases registers : call.line = line ∧ answer = none
  · simp [registers]
  · simp [registers]

/-- A line that has a handler has a target. -/
theorem target_of_registration (registered : registrations line binds ≠ []) :
    ∃ target, binds.lastTold (targets line) = some target := by
  obtain ⟨entry, member⟩ := List.exists_mem_of_ne_nil _ registered
  obtain ⟨inside, met⟩ := List.mem_filter.1 member
  obtain ⟨call, answer⟩ := entry
  obtain ⟨sameLine, accepted⟩ : call.line = line ∧ answer = none := by simpa using met
  have told : targets line (call, answer) = some call.target := by
    rw [targets, accepted, if_pos ⟨sameLine, by simp⟩]
  exact CallLog.lastTold_of_mem inside told

end BindLog

/-- The tables, with what the steps need to know. -/
structure RunningRight (machine : Machine (Platform design μ)) (history : IrqHistory) : Prop
    extends TablesRight machine history where
  lines : machine.kernel.LinesNamed
  named : machine.kernel.Named

namespace RunningRight

variable {before after : Machine (Platform design μ)} {history : IrqHistory}

/-- A step that leaves the tables alone. -/
theorem of_same (right : RunningRight before history)
    (bindings : after.kernel.irqBindings = before.kernel.irqBindings)
    (keeps : KernelState.Keeps before.kernel after.kernel)
    (controller : after.hw.controller = before.hw.controller) {raised : List Nat}
    (completed : after.hw.completed = raised) :
    RunningRight after { history with raised } := by
  have notifications : ∀ nid, (before.kernel.notifications.get? nid).isSome →
      (after.kernel.notifications.get? nid).isSome :=
    fun nid => keeps.objects { kind := .notification, id := nid }
  obtain ⟨lines, same⟩ := right.lines.of_same bindings notifications
  exact {
    targets := fun line => (same line).trans (right.targets line)
    handlers := fun line => by
      rw [controller]
      exact right.handlers line
    once := right.once
    completed := completed
    lines := lines
    named := keeps.named right.named }

/-- The table of the kernel after a call that had room. -/
theorem targets_append (right : RunningRight before history) {call : BindCall}
    {answer : Option SyscallError} (entered : answer ≠ some .objectTableFull)
    (bound : ∀ other, after.kernel.notificationForIrq other =
      if call.line = other then some call.target
      else before.kernel.notificationForIrq other) (line : Nat) :
    after.kernel.notificationForIrq line =
      CallLog.lastTold (BindLog.targets line) (history.binds ++ [(call, answer)]) := by
  rw [bound, right.targets, CallLog.lastTold_append, BindLog.targets]
  by_cases same : call.line = line
  · rw [if_pos same, if_pos ⟨same, entered⟩]
    rfl
  · rw [if_neg same, if_neg fun both => same both.1]
    rfl

/-- A call of `IrqBind` that names a line. -/
theorem entered {call : BindCall} {answer : Option SyscallError}
    (right : RunningRight before history)
    (present : (before.kernel.notifications.get? call.target).isSome)
    (entered : Machine.Entered call before answer after)
    (keeps : KernelState.Keeps before.kernel after.kernel) :
    RunningRight after { history with binds := history.binds ++ [(call, answer)] } := by
  have notifications : ∀ nid, (before.kernel.notifications.get? nid).isSome →
      (after.kernel.notifications.get? nid).isSome :=
    fun nid => keeps.objects { kind := .notification, id := nid }
  cases entered with
  | noRoom full =>
      refine { right with targets := fun line => ?_, handlers := fun line => ?_, once := ?_ }
      · rw [right.targets, CallLog.lastTold_append, BindLog.targets,
          if_neg fun both => both.2 rfl]
        rfl
      · rw [BindLog.registrations_append, if_neg (by simp), List.append_nil]
        exact right.handlers line
      · intro line
        rw [BindLog.registrations_append, if_neg (by simp), List.append_nil]
        exact right.once line
  | rejected room refused =>
      obtain ⟨lines, bound⟩ := right.lines.bindIrq room present rfl notifications
      have counts : some SyscallError.irqRegistrationFailed ≠ some .objectTableFull := by simp
      refine {
        targets := right.targets_append counts bound
        handlers := fun line => ?_
        once := fun line => ?_
        completed := right.completed
        lines := lines
        named := keeps.named right.named }
      · rw [BindLog.registrations_append, if_neg (by simp), List.append_nil]
        exact right.handlers line
      · rw [BindLog.registrations_append, if_neg (by simp), List.append_nil]
        exact right.once line
  | accepted room registered =>
      obtain ⟨lines, bound⟩ := right.lines.bindIrq room present rfl notifications
      obtain ⟨slot, found, free, rfl⟩ := IrqDesign.registerIrq_eq_ok registered
      have unheld : before.hw.controller.handler? call.line = none := by
        rw [IrqController.handler?, found]
        exact free
      have unregistered : history.binds.registrations call.line = [] := by
        rw [right.handlers, Option.map_eq_none_iff, List.head?_eq_none_iff] at unheld
        exact unheld
      have counts : none ≠ some SyscallError.objectTableFull := by simp
      refine {
        targets := right.targets_append counts bound
        handlers := fun line => ?_
        once := fun line => ?_
        completed := right.completed
        lines := lines
        named := keeps.named right.named }
      · rw [IrqDesign.handler?_update found, BindLog.registrations_append, right.handlers]
        by_cases same : call.line = line
        · rw [if_pos same, if_pos ⟨same, rfl⟩, ← same, unregistered]
          rfl
        · rw [if_neg same, if_neg fun both => same both.1, List.append_nil]
      · rw [BindLog.registrations_append]
        by_cases same : call.line = line
        · rw [if_pos ⟨same, rfl⟩, ← same, unregistered]
          exact Nat.le_refl 1
        · rw [if_neg fun both => same both.1, List.append_nil]
          exact right.once line

variable {hal : HalInterface μ} {dispatcher : Dispatcher design ι}

/-- One event of the kernel. -/
theorem kernel {event : KernelEvent} (right : RunningRight before history)
    (taken : (Machine.system (platformHal hal)).Step before event after) :
    RunningRight after { history with
      binds := history.binds ++ (Machine.bindEntry (platformHal hal) before event).toList } := by
  have keeps := Machine.step_keeps (platformHal hal) taken
  have unbound : Machine.BindsNothing event → RunningRight after history := by
    intro other
    refine right.of_same ((Machine.step_moves _ taken).irqBindings other) keeps ?_ ?_
    · exact @Machine.step_hw _ (platformHal hal) before after _ Platform.controller
        (fun _ _ _ _ _ _ _ _ => rfl) (fun _ => rfl) event other taken
    · rw [← right.completed]
      exact @Machine.step_hw _ (platformHal hal) before after _ Platform.completed
        (fun _ _ _ _ _ _ _ _ => rfl) (fun _ => rfl) event other taken
  cases event with
  | syscall caller op nowNs =>
      cases op with
      | irqBind mmio notification handler =>
          rcases Machine.step_bind taken with ⟨nothing, rfl⟩ | ⟨call, answer, names, entry, done⟩
          · rw [nothing, Option.toList_none, List.append_nil]
            exact right
          · rw [entry]
            obtain ⟨cap, resolved, same⟩ := names.target
            obtain ⟨csId, holds⟩ := KernelState.holds_of_resolve resolved
            obtain ⟨held, there, object, _⟩ := holds.held
            have present := right.named.objects _ held there
            rw [object, same] at present
            exact right.entered present done keeps
      | _ =>
          rw [Machine.bindEntry, Option.toList_none, List.append_nil]
          · apply unbound
            intro _ _ _ _ _ same
            cases same
          · intro _ _ _ _ _ same
            cases same
  | _ =>
      rw [Machine.bindEntry, Option.toList_none, List.append_nil]
      · apply unbound
        intro _ _ _ _ _ same
        cases same
      · intro _ _ _ _ _ same
        cases same

/-- One interrupt. -/
theorem interrupt (right : RunningRight before history) (input : ι) (nowNs : Nat) :
    RunningRight (dispatcher.dispatch (Machine.dispatchEnv nowNs) input before)
      { history with raised := history.raised ++ (dispatcher.arrival input).completes.toList } := by
  rw [dispatcher.serves _ input before before.hw.controller rfl, Machine.serve_eq]
  have reached : ∀ arrival,
      (Machine.kernelAfter before.hw.controller nowNs before.kernel arrival).irqBindings =
        before.kernel.irqBindings ∧
      KernelState.Keeps before.kernel
        (Machine.kernelAfter before.hw.controller nowNs before.kernel arrival) := by
    intro arrival
    cases arrival with
    | line line =>
        rw [Machine.kernelAfter]
        split
        · exact KernelState.interrupted_keeps line nowNs before.kernel
        · exact ⟨rfl, .of_same rfl fun _ => rfl⟩
    | _ => exact ⟨rfl, .of_same rfl fun _ => rfl⟩
  obtain ⟨bindings, keeps⟩ := reached (dispatcher.arrival input)
  refine @of_same _ _ _ before
    { kernel := Machine.kernelAfter before.hw.controller nowNs before.kernel _
      hw := { before.hw with completed := before.hw.completed ++ _ } }
    history right bindings keeps rfl _ ?_
  rw [← right.completed]

theorem delivered (right : RunningRight before history) (input : ι) (nowNs : Nat) :
    Delivered history.binds before.kernel
      (dispatcher.dispatch (Machine.dispatchEnv nowNs) input before).kernel
      (dispatcher.arrival input) := by
  rw [dispatcher.serves _ input before before.hw.controller rfl, Machine.serve_eq]
  cases dispatcher.arrival input with
  | line line =>
      rw [Delivered, Machine.kernelAfter, right.handlers]
      cases registrations : history.binds.registrations line with
      | nil => exact Or.inl ⟨rfl, rfl⟩
      | cons entry others =>
          obtain ⟨target, bound⟩ :=
            BindLog.target_of_registration (registrations ▸ List.cons_ne_nil entry others)
          refine Or.inr ⟨List.cons_ne_nil entry others, target, bound, ?_⟩
          rw [← right.targets] at bound
          obtain ⟨slot, there⟩ := (KernelState.notificationForIrq_eq_some right.lines).1 bound
          exact KernelState.interrupted_signalled nowNs bound
            (right.lines.exist slot line target there)
  | _ => rfl

end RunningRight

theorem KernelState.FromBootInfo.irqBindings {state : KernelState}
    (fromBoot : state.FromBootInfo) : state.irqBindings = .empty := by
  obtain ⟨boot, ran⟩ := fromBoot
  unfold KernelState.populateFromBootInfo at ran
  obtain ⟨_, _, guarded, ran⟩ := Exec.bind_eq_ok.1 ran
  obtain ⟨_, rfl⟩ := Exec.guard_eq_ok.1 guarded
  obtain ⟨⟨rootCs, rootAs, rootTid⟩, first, allocated, ran⟩ := Exec.bind_eq_ok.1 ran
  obtain ⟨⟨made, ptCap, blkCap, netCap⟩, second, seeded, ran⟩ := Exec.bind_eq_ok.1 ran
  obtain ⟨_, third, scheduled, stored⟩ := Exec.bind_eq_ok.1 ran
  obtain ⟨tables, spaces, tcbs, rfl, _, present, _, inside, _⟩ := allocRoot_ok allocated
  have seeds := seedCaps_seeds present seeded
  have final := scheduleRoot_ok inside scheduled
  rw [Exec.modify_run, Outcome.ok.injEq] at stored
  rw [← stored.2]
  change third.irqBindings = _
  rw [final]
  refine (irqBindings_updateTcb ..).trans ?_
  rw [seeds.frame]
  rfl

/-- A machine that has just booted, with a fresh controller. -/
theorem RunningRight.initially {hal : HalInterface μ} {dispatcher : Dispatcher design ι}
    {machine : Machine (Platform design μ)}
    (initial : (platformSystem hal dispatcher).Initial machine) :
    RunningRight machine { binds := [], raised := [] } := by
  obtain ⟨boots, nothing, registers, coreCount, fresh⟩ := initial
  have named := boots.named
  have empty : machine.kernel.irqBindings = .empty := by
    obtain ⟨kernel, fromBoot, same⟩ := boots
    rcases same with rfl | ⟨base, len, installed⟩
    · exact fromBoot.irqBindings
    · rw [installed]
      exact fromBoot.irqBindings
  have lines : machine.kernel.LinesNamed := by
    constructor
    · intro slot other entry line there
      rw [empty, Slab.get?_empty] at there
      cases there
    · intro slot line target there
      rw [empty, Slab.get?_empty] at there
      cases there
  refine {
    targets := fun line => ?_
    handlers := fun line => ?_
    once := fun _ => Nat.zero_le 1
    completed := nothing
    lines := lines
    named := named }
  · apply Option.eq_none_iff_forall_ne_some.2
    intro target bound
    obtain ⟨slot, there⟩ := (KernelState.notificationForIrq_eq_some lines).1 bound
    rw [empty, Slab.get?_empty] at there
    cases there
  · rw [fresh, IrqController.handler?]
    cases design.lines.slot? line with
    | none => rfl
    | some slot => rfl

/-- Every dispatch function delivers interrupts, beside every controller. -/
theorem deliversInterrupts (hal : HalInterface μ) (dispatcher : Dispatcher design ι) :
    DeliversInterrupts hal dispatcher := by
  intro machine history reachable
  have right : RunningRight machine history := by
    apply @TransitionSystem.Reachable.invariant _ _ _ _
      (fun state => RunningRight state.1 state.2) _ reachable
    · rintro ⟨start, log⟩ ⟨initial, rfl⟩
      exact .initially initial
    · rintro ⟨before, log⟩ event ⟨after, later⟩ _ right ⟨taken, recorded⟩
      obtain rfl : later = recordIrq hal dispatcher before log event := recorded
      cases event with
      | kernel event => exact right.kernel taken
      | interrupt input nowNs =>
          obtain rfl : after = _ := taken
          exact right.interrupt input nowNs
  refine ⟨right.toTablesRight, ?_⟩
  rintro input nowNs after rfl
  refine ⟨right.delivered input nowNs, ?_, ?_⟩
  · rw [dispatcher.serves _ input machine machine.hw.controller rfl, Machine.serve_eq]
  · rw [dispatcher.serves _ input machine machine.hw.controller rfl, Machine.serve_eq]

/-- On the three architectures, in every run of the kernel that mixes syscalls and interrupts:
every line that was raised is given back once, a line keeps its first handler, and an interrupt
of a line with a handler signals the notification to which `IrqBind` has bound the line last. -/
theorem interrupts_delivered (hal : HalInterface μ) (checks : Bool) (mode : X8664.ApicMode) :
    DeliversInterrupts hal (Riscv64.dispatcher checks) ∧
      DeliversInterrupts hal (Arm64.dispatcher checks) ∧
        DeliversInterrupts hal (X8664.dispatcher mode) :=
  ⟨deliversInterrupts hal _, deliversInterrupts hal _, deliversInterrupts hal _⟩

/-- The small machine with one block device, beside a controller that was just made. -/
def raisedMachine : Machine (Platform (Riscv64.interruptCtrl true) Unit) where
  kernel := Machine.deviceKernel
  hw :=
    { controller := IrqDesign.fresh _ Nat { words := fun _ => 0, hartMasks := [] }
      completed := []
      rest := () }

/-- The root task binds line 7, and the line is raised. -/
example :
    ((Machine.runWhile (platformHal sampleHal) (fun _ _ => true) Machine.bindsOnce
        raisedMachine).map fun machine =>
        (Riscv64.dispatcher true).dispatch (Machine.dispatchEnv 3) (9, 7) machine).any
      (fun machine =>
        machine.hw.completed == [7] &&
          (machine.kernel.notifications.get? 0).any fun notif => notif.signalWord == 1) = true := by
  decide +kernel

end Simurgh
