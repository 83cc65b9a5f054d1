import Simurgh.Core.Boot
import Simurgh.Core.Dispatch
import Simurgh.Core.Preempt
import Simurgh.Core.Spawn
import Simurgh.Lib.TransitionSystem

/-!
# Runs of the kernel

A machine boots and takes events: ticks, syscalls, threads that start or are killed,
and what boot code does for new processes.  A syscall that names the next thread is
followed by the switch to it, and an error keeps what the call has changed.
-/

namespace Simurgh

/-- What can happen to a machine. -/
inductive KernelEvent where
  | tick (nowNs : Nat)
  | syscall (caller : ThreadId) (op : SyscallOp) (nowNs : Nat)
  | initUserThread (tid : ThreadId) (entry nowNs : Nat)
  | startThread (tid : ThreadId) (entry nowNs : Nat)
  | terminate (tid : ThreadId) (nowNs : Nat)
  | terminateAndHandoff (tid incoming : ThreadId) (nowNs : Nat)
  | carve (pages : Nat)
  | spawn (kind : SpawnKind) (sizes : List Nat)
  | grantCapInto (src : CapSpaceId) (cap : CapId) (dst : CapSpaceId)
      (rights : CapabilityRights)
  deriving DecidableEq, Repr

/-- The event is a syscall. -/
def KernelEvent.isSyscall : KernelEvent → Bool
  | .syscall _ _ _ => true
  | _ => false

/-- The thread that an event starts. -/
def KernelEvent.starts : KernelEvent → Option ThreadId
  | .initUserThread tid _ _ => some tid
  | .startThread tid _ _ => some tid
  | _ => none

/-- The thread that an event kills. -/
def KernelEvent.kills : KernelEvent → Option ThreadId
  | .terminate tid _ => some tid
  | .terminateAndHandoff tid _ _ => some tid
  | _ => none

/-- The event takes frames for boot code, or makes a thread that has to be started. -/
def KernelEvent.spawns : KernelEvent → Bool
  | .carve _ => true
  | .spawn _ _ => true
  | _ => false

/-- The event is a reply to the thread. -/
def KernelEvent.repliesTo (tid : ThreadId) : KernelEvent → Bool
  | .syscall _ (.reply toThread _) _ => toThread == tid
  | _ => false

namespace Machine

variable {μ : Type} (hal : HalInterface μ)

/-- The switch to the thread that a syscall named. -/
def commit (next : Option ThreadId) (nowNs : Nat) :
    Exec KernelState SyscallError Unit :=
  match next with
  | none => pure ()
  | some next => KernelState.quietly (Scheduler.dispatch next nowNs)

def perform : KernelEvent → Exec (Machine μ) SyscallError Unit
  | .tick nowNs => onKernel do
      let _ ← KernelState.preemptTick nowNs
  | .syscall caller op nowNs => do
      let result ← dispatch hal caller nowNs op
      onKernel (commit result.next nowNs)
  | .initUserThread tid entry nowNs =>
      onKernel (KernelState.initUserThread tid entry nowNs)
  | .startThread tid entry nowNs => onKernel (KernelState.startThread tid entry nowNs)
  | .terminate tid nowNs => onKernel do
      let _ ← KernelState.terminateThread tid nowNs
  | .terminateAndHandoff tid incoming nowNs =>
      onKernel (KernelState.terminateThreadAndHandoff tid incoming nowNs)
  | .carve pages => onKernel do
      let _ ← KernelState.carve pages
  | .spawn kind sizes => onKernel do
      let _ ← KernelState.spawn kind sizes
  | .grantCapInto src cap dst rights => onKernel do
      let _ ← KernelState.grantCapInto src cap dst rights

/-- A machine that has just booted, before or after its pool of page-table frames
was installed. -/
def Boots (machine : Machine μ) : Prop :=
  ∃ kernel, kernel.FromBootInfo ∧
    (machine.kernel = kernel ∨
      ∃ base len, machine.kernel = kernel.installMapPool base len)

/-- Machines and their events. -/
def system : TransitionSystem (Machine μ) KernelEvent where
  Initial := Boots
  Step before event after := (perform hal event before).state? = some after

/-! ## The kernel state after an event -/

/-- The kernel after the switch to the next thread. -/
def committed (next : Option ThreadId) (nowNs : Nat) (kernel : KernelState) :
    KernelState :=
  match next with
  | none => kernel
  | some next => { kernel with sched := kernel.sched.setRunning next nowNs }

theorem commit_run (next : Option ThreadId) (nowNs : Nat) (kernel : KernelState) :
    commit next nowNs kernel = .ok () (committed next nowNs kernel) := by
  cases next with
  | none => rfl
  | some next => exact KernelState.quietly_run (Scheduler.dispatch_state ..)

/-- One event takes a kernel state to another. -/
inductive Moves (before : KernelState) : KernelEvent → KernelState → Prop where
  | ticked {nowNs sched}
      (chosen : sched = before.sched.account nowNs ∨
        (∃ next, (before.sched.account nowNs).pickNext = some next ∧
          sched = (before.sched.account nowNs).setRunning next nowNs) ∨
        ∃ outgoing, before.sched.running = some outgoing ∧
          sched = ((before.sched.account nowNs).setReady outgoing nowNs).setRunning
            outgoing nowNs) :
      Moves before (.tick nowNs) { before with sched }
  | called {caller op nowNs next after}
      (effect : KernelState.Effect caller nowNs before op next after) :
      Moves before (.syscall caller op nowNs) (committed next nowNs after)
  | started {event tid entry priority nowNs}
      (isStart : event.starts = some tid) :
      Moves before event
        { before.updateTcb tid fun tcb => { tcb with entry, state := .runnable } with
          sched := (before.sched.setAdmitted tid .interactive priority none).setReady
            tid nowNs }
  | killed {event tid nowNs sched}
      (isKill : event.kills = some tid)
      (chosen : sched = KernelState.schedWithout tid nowNs before.sched ∨
        ∃ next, sched =
          (KernelState.schedWithout tid nowNs before.sched).setRunning next nowNs) :
      Moves before event { before.exited tid nowNs with sched }
  | spawned {event after}
      (isSpawn : event.spawns = true)
      (spawns : KernelState.Spawns before after) :
      Moves before event after
  | grantedInto {src cap dst rights tables}
      (chosen : tables = before.capSpaces ∨
        ((CapTables.run (.deriveChildCrossSpace src dst cap rights 0))
          before.capSpaces).state? = some tables) :
      Moves before (.grantCapInto src cap dst rights) { before with capSpaces := tables }

theorem onKernel_state {program : Exec KernelState SyscallError Unit}
    {before after : Machine μ} (ended : (onKernel program before).state? = some after) :
    (program before.kernel).state? = some after.kernel ∧ after.hw = before.hw := by
  obtain ⟨kernel, ran, rfl⟩ := Exec.zoom_state.1 ended
  exact ⟨ran, rfl⟩

theorem discard_state {α : Type} {program : Exec KernelState SyscallError α}
    {before after : KernelState}
    (ended : ((do let _ ← program : Exec KernelState SyscallError Unit) before).state? =
      some after) : (program before).state? = some after := by
  rcases Exec.bind_state.1 ended with ⟨error, failed⟩ | ⟨value, later, ran, rest⟩
  · rw [failed]
    rfl
  · rw [ran]
    exact rest

/-- The kernel side of every event. -/
theorem step_moves {event : KernelEvent} {before after : Machine μ}
    (taken : (system hal).Step before event after) :
    Moves before.kernel event after.kernel := by
  change (perform hal event before).state? = some after at taken
  cases event with
  | tick nowNs =>
      obtain ⟨sched, same, chosen⟩ :=
        KernelState.preemptTick_state (discard_state (onKernel_state taken).1)
      rw [same]
      exact .ticked chosen
  | syscall caller op nowNs =>
      have ends : EndsIn
          (fun next (final : Machine μ) =>
            KernelState.Effect caller nowNs before.kernel op next final.kernel)
          (dispatch hal caller nowNs op before) := dispatch_ends hal op before
      rcases Exec.bind_state.1 taken with ⟨error, failed⟩ | ⟨result, middle, ran, rest⟩
      · rw [failed] at ends
        exact .called ends
      · rw [ran] at ends
        have ended := (onKernel_state rest).1
        rw [commit_run] at ended
        rw [← Option.some.inj ended]
        exact .called ends
  | initUserThread tid entry nowNs =>
      have ended := (onKernel_state taken).1
      rw [KernelState.initUserThread, KernelState.admitThread_run] at ended
      rw [← Option.some.inj ended]
      exact .started rfl
  | startThread tid entry nowNs =>
      have ended := (onKernel_state taken).1
      rw [KernelState.startThread, KernelState.admitThread_run] at ended
      rw [← Option.some.inj ended]
      exact .started rfl
  | terminate tid nowNs =>
      rcases KernelState.terminateThread_state (discard_state (onKernel_state taken).1) with
        same | ⟨next, _, same⟩
      · rw [same]
        exact .killed rfl (Or.inl rfl)
      · rw [same]
        exact .killed rfl (Or.inr ⟨next, rfl⟩)
  | terminateAndHandoff tid incoming nowNs =>
      have ended := (onKernel_state taken).1
      rw [KernelState.terminateThreadAndHandoff_run] at ended
      rw [← Option.some.inj ended]
      exact .killed rfl (Or.inr ⟨incoming, rfl⟩)
  | carve pages =>
      have ended := discard_state (onKernel_state taken).1
      exact .spawned rfl (KernelState.carve_spawns pages _ _ ended)
  | spawn kind sizes =>
      have ended := discard_state (onKernel_state taken).1
      exact .spawned rfl (KernelState.spawn_spawns kind sizes _ _ ended)
  | grantCapInto src cap dst rights =>
      rcases KernelState.grantCapInto_state (discard_state (onKernel_state taken).1) with
        same | ⟨tables, ran, same⟩
      · rw [same]
        exact .grantedInto (Or.inl rfl)
      · rw [same]
        exact .grantedInto (Or.inr ran)

/-! ## Running a list of events -/

/-- The machine after an event. -/
def next (machine : Machine μ) (event : KernelEvent) : Option (Machine μ) :=
  (perform hal event machine).state?

/-- Take the events one after another, each in a state that `admits` it. -/
def runWhile (admits : Machine μ → KernelEvent → Bool) :
    List KernelEvent → Machine μ → Option (Machine μ) :=
  TransitionSystem.runWhile (next hal) admits

theorem reaches_runWhile {admits : Machine μ → KernelEvent → Bool}
    {events : List KernelEvent} {start before after : Machine μ}
    (run : (system hal).Reaches (fun machine event => admits machine event = true)
      start before)
    (ran : runWhile hal admits events before = some after) :
    (system hal).Reaches (fun machine event => admits machine event = true) start after :=
  run.runWhile (fun _ _ _ taken => taken) ran

end Machine

/-! ## A small machine -/

/-- Hardware without state, on which every call succeeds. -/
def sampleHal : HalInterface Unit where
  mapRange _ _ _ _ _ _ _ hw := (0, hw)
  registerIrq _ _ hw := (true, hw)
  flushTlb := id

/-- One region of memory and no devices. -/
def sampleBoot : BootInfo where
  magic := bootInfoMagic
  version := bootInfoVersion
  memoryRegions := [{ baseAddr := 0x1000000, lengthBytes := 0x2000000, kind := .usable }]
  peripheralDevices := []
  timerFrequencyHz := 1000000000
  initialPageTablePhys := 0x1000
  kernelImagePhysStart := 0x100000
  kernelImagePhysEnd := 0x200000
  bootReservedPhysStart := 0x200000
  bootReservedPhysEnd := 0x210000

/-- The kernel that boots from `sampleBoot`. -/
def sampleKernel : KernelState :=
  (KernelState.populateFromBootInfo sampleBoot .empty).state?.getD .empty

theorem sampleBoot_populates :
    KernelState.populateFromBootInfo sampleBoot .empty = .ok () sampleKernel := by
  have succeeded :
      (KernelState.populateFromBootInfo sampleBoot .empty).value? = some () := by
    decide +kernel
  obtain ⟨state, ran⟩ := Outcome.eq_ok_of_value? succeeded
  rw [sampleKernel, ran]
  rfl

theorem sampleKernel_fromBootInfo : sampleKernel.FromBootInfo :=
  ⟨sampleBoot, sampleBoot_populates⟩

def sampleMachine : Machine Unit := { kernel := sampleKernel, hw := () }

theorem sampleMachine_boots : sampleMachine.Boots :=
  ⟨sampleKernel, sampleKernel_fromBootInfo, Or.inl rfl⟩

end Simurgh
