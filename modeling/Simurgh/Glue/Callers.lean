import Simurgh.Glue.UserMode

/-!
# On whose behalf a handler calls the kernel

Two relations of a program of the handlers: it calls the kernel for a thread, and a switch
at its end saves the registers of a thread.  Programs that may stop before their first
call are divided where they may stop.
-/

namespace Simurgh

namespace GlueM

variable {μ : Type} {α β : Type} {caller : ThreadId} {glue : Glue μ}

/-! ## Calls for a thread -/

/-- From this state the program calls the kernel for `caller`. -/
def CallsAt (caller : ThreadId) (program : GlueM μ α) (glue : Glue μ) : Prop :=
  ∃ later, (program glue).state? = some later ∧ caller ∈ later.trace.callers

/-- What comes next does not take the call back. -/
theorem CallsAt.bindAt {first : GlueM μ α} {next : α → GlueM μ β}
    (calls : CallsAt caller first glue)
    (goesOn : ∀ value later, first glue = .ok value later →
      ConductsAt caller .anyhow (next value) later) :
    CallsAt caller (first >>= next) glue := by
  obtain ⟨middle, ended, called⟩ := calls
  cases ran : first glue with
  | ok value later =>
      rw [ran] at ended
      obtain rfl := Option.some.inj ended
      obtain ⟨final, rest, moves⟩ := goesOn value later ran
      exact ⟨final, by rw [Exec.bind_of_ok ran]; exact rest, moves.called called⟩
  | err stop later =>
      rw [ran] at ended
      obtain rfl := Option.some.inj ended
      exact ⟨later, by rw [Exec.bind_of_err ran]; rfl, called⟩
  | panic =>
      rw [ran] at ended
      cases ended

theorem CallsAt.bind {first : GlueM μ α} {next : α → GlueM μ β}
    (calls : CallsAt caller first glue)
    (goesOn : ∀ value, Conducts caller .anyhow (next value)) :
    CallsAt caller (first >>= next) glue :=
  calls.bindAt fun value later _ => goesOn value later

theorem CallsAt.after {first : GlueM μ α} {next : α → GlueM μ β} {value : α} {later : Glue μ}
    (ran : first glue = .ok value later) (calls : CallsAt caller (next value) later) :
    CallsAt caller (first >>= next) glue := by
  unfold CallsAt
  rw [Exec.bind_of_ok ran]
  exact calls

theorem CallsAt.optional {program : GlueM μ α} (calls : CallsAt caller program glue) :
    CallsAt caller (optional program) glue := by
  obtain ⟨later, ended, called⟩ := calls
  refine ⟨later, ?_, called⟩
  rw [optional_state?]
  exact ended

section Kernel

variable (clock : Nat → Nat) (hal : HalInterface μ)

theorem callsAt_dispatch (op : SyscallOp) (glue : Glue μ) :
    CallsAt caller (dispatch clock hal caller op) glue := by
  have there : caller ∈ (glue.trace.calls caller (glue.kernel.delivers caller op)).callers :=
    List.mem_append_right _ (List.mem_singleton_self caller)
  unfold CallsAt
  change ∃ later, (result (Machine.dispatch hal caller (clock glue.readings) op)
    { glue with
      readings := glue.readings + 1
      trace := glue.trace.calls caller (glue.kernel.delivers caller op) }).state? =
    some later ∧ _
  unfold result
  cases Machine.dispatch hal caller (clock glue.readings) op glue.machine with
  | ok value machine => exact ⟨_, rfl, there⟩
  | err error machine => exact ⟨_, rfl, there⟩
  | panic => exact ⟨_, rfl, there⟩

theorem callsAt_newObject (target : KernelObjectType) (glue : Glue μ) :
    CallsAt caller (newObject clock hal caller target) glue := by
  refine (callsAt_dispatch clock hal _ glue).bind fun made => ?_
  split
  · exact .pure _
  · exact .throw _

end Kernel

/-! ## Whose registers are saved -/

/-- A switch saves the registers of `tid`. -/
def SavesAt (tid : ThreadId) (program : GlueM μ TrapOutcome) (glue : Glue μ) : Prop :=
  ∀ outcome later, program glue = .ok outcome later →
    ∀ save, outcome.saved = some save → save = tid

theorem SavesAt.of_yields {tid : ThreadId} {program : GlueM μ TrapOutcome}
    (yields : Exec.Yields (fun outcome => ∀ save, outcome.saved = some save → save = tid) program)
    (glue : Glue μ) : SavesAt tid program glue :=
  fun outcome later ran => yields glue outcome later ran

theorem optional_eq_some {program : GlueM μ α} {value : α} {later : Glue μ} :
    optional program glue = .ok (some value) later ↔ program glue = .ok value later := by
  unfold optional
  cases program glue with
  | ok other final => simp
  | err stop final => cases stop <;> simp
  | panic => simp

theorem yields_optional {holds : α → Prop} {program : GlueM μ α}
    (yields : Exec.Yields holds program) :
    Exec.Yields (fun value => ∀ found, value = some found → holds found) (optional program) := by
  intro glue value later ran found same
  subst same
  exact yields glue found later (optional_eq_some.1 ran)

theorem yields_switchPtrs (outgoing incoming : ThreadId) :
    Exec.Yields (fun pair => pair.1 = outgoing) (switchPtrs outgoing incoming : GlueM μ _) := by
  refine .after fun glue => .okOr fun pair found => ?_
  unfold KernelState.userCtxSwitchPtrs at found
  split at found
  · cases found
  · obtain ⟨_, _, found⟩ := Option.bind_eq_some_iff.1 found
    obtain ⟨_, _, found⟩ := Option.bind_eq_some_iff.1 found
    obtain rfl := Option.some.inj found
    rfl

theorem yields_ptrsOf {step : PreemptStep} {tid : ThreadId}
    (leaves : ∀ outgoing incoming, step = .switch outgoing incoming → outgoing = tid) :
    Exec.Yields (fun pair => pair.1 = tid) (ptrsOf step : GlueM μ _) := by
  cases step with
  | switch outgoing incoming =>
      obtain rfl := leaves outgoing incoming rfl
      exact yields_switchPtrs outgoing incoming
  | «continue» => exact .throw _
  | idle => exact .throw _

/-- What a switch saves, if it happens. -/
theorem savesAt_orResume {ret : Nat} {tid : ThreadId} {program : GlueM μ (ThreadId × ThreadId)}
    (saves : ∀ pair later, program glue = .ok pair later → pair.1 = tid) :
    SavesAt tid (orResume ret program) glue := by
  intro outcome later ran save saved
  obtain ⟨switch, middle, tried, ended⟩ := Exec.bind_eq_ok.1 ran
  obtain ⟨rfl, rfl⟩ := Outcome.ok.inj ended
  cases switch with
  | none => cases saved
  | some pair =>
      obtain rfl := Option.some.inj saved
      exact saves pair _ (optional_eq_some.1 tried)

section Kernel

variable (clock : Nat → Nat)

/-- A scheduling decision saves the registers of the thread that it takes the processor
from. -/
theorem saves_of_decision {ε : Type} {program : Nat → Exec KernelState ε PreemptStep}
    {tid : ThreadId}
    (ran : ∀ now, ∃ step sched, program now glue.kernel = .ok step { glue.kernel with sched } ∧
      ∀ outgoing incoming, step = .switch outgoing incoming → outgoing = tid)
    {pair : ThreadId × ThreadId} {later : Glue μ}
    (decided : (do
      let now ← nowNs clock
      let step ← kernel (program now)
      ptrsOf step : GlueM μ (ThreadId × ThreadId)) glue = .ok pair later) :
    pair.1 = tid := by
  rw [Exec.bind_of_ok (nowNs_run clock glue)] at decided
  obtain ⟨step, sched, here, leaves⟩ := ran (clock glue.readings)
  have known : kernel (program (clock glue.readings))
      { glue with readings := glue.readings + 1 } = .ok step _ := kernel_run here
  rw [Exec.bind_of_ok known] at decided
  exact yields_ptrsOf leaves _ pair later decided

variable {tid : ThreadId} (runs : glue.kernel.sched.running = some tid)
include runs

theorem saves_p2Yield {pair : ThreadId × ThreadId} {later : Glue μ}
    (ran : p2Yield clock glue = .ok pair later) : pair.1 = tid := by
  refine saves_of_decision clock (fun now => ?_) ran
  obtain ⟨step, here, leaves⟩ := KernelState.cooperativeYield_run now glue.kernel
  refine ⟨step, _, here, fun outgoing incoming same => ?_⟩
  have running := (leaves outgoing incoming same).1
  rw [runs] at running
  exact (Option.some.inj running).symm

theorem saves_p2DmWaitCrash {pair : ThreadId × ThreadId} {later : Glue μ}
    (ran : p2DmWaitCrash clock glue = .ok pair later) : pair.1 = tid := by
  unfold p2DmWaitCrash at ran
  rw [Exec.get_bind_run] at ran
  split at ran
  · cases ran
  · simp only [runs] at ran
    refine saves_of_decision clock (fun now => ?_) ran
    obtain ⟨step, here, leaves⟩ := KernelState.blockThread_run tid now glue.kernel
    exact ⟨step, _, here, fun outgoing incoming same => (leaves outgoing incoming same).1⟩

theorem saves_p2DmHandoffToDriver {driver : ThreadId} {pair : ThreadId × ThreadId}
    {later : Glue μ} (ran : p2DmHandoffToDriver clock driver glue = .ok pair later) :
    pair.1 = tid := by
  unfold p2DmHandoffToDriver at ran
  rw [Exec.get_bind_run] at ran
  simp only [runs] at ran
  refine saves_of_decision clock (fun now => ?_) ran
  refine ⟨_, _, KernelState.yieldToThread_run tid driver now glue.kernel,
    fun outgoing incoming same => ?_⟩
  cases same
  rfl

theorem savesAt_dmRespawnDriver (choices : Choices) :
    SavesAt tid (dmRespawnDriver clock choices) glue := by
  intro outcome later ran save saved
  obtain ⟨driver, middle, spawned, ended⟩ := Exec.bind_eq_ok.1 ran
  have spawns : Conducts tid .prepares (spawnFaultyDriver clock choices : GlueM μ _) :=
    conducts_spawnFaultyDriver clock choices
  obtain ⟨final, same, moves⟩ := spawns glue
  rw [spawned] at same
  obtain rfl := Option.some.inj same
  cases driver with
  | none =>
      obtain ⟨rfl, rfl⟩ := Outcome.ok.inj ended
      cases saved
  | some driver =>
      have still : middle.kernel.sched.running = some tid := moves.running.trans runs
      exact savesAt_orResume (fun pair final ran => saves_p2DmHandoffToDriver clock still ran)
        outcome later ended save saved

end Kernel

/-! ## Handlers that name the caller -/

section Caller

variable (clock : Nat → Nat) (hal : HalInterface μ)

/-- What the call of a service, or of a partner, saves. -/
theorem yields_handOver {op : SyscallOp} {target : ThreadId → ThreadId} {holds : α → Prop}
    {rest : ThreadId → ThreadId × ThreadId → GlueM μ α}
    (goesOn : ∀ next switch, switch.1 = caller → Exec.Yields holds (rest next switch)) :
    Exec.Yields holds (do
      let result ← dispatch clock hal caller op
      match result with
      | .ok (.reschedule (some next)) => do
          schedDispatch clock (target next)
          let switch ← switchPtrs caller (target next)
          rest next switch
      | _ => Exec.throw .refused) := by
  refine .after fun result => ?_
  split
  · next next =>
    refine .after fun _ => ?_
    exact (yields_switchPtrs caller (target next)).bind fun switch same => goesOn next switch same
  · exact .throw _

theorem yields_p2IpcCall (endpoint : CapId) (label : Nat) :
    Exec.Yields (fun sw => sw.save = caller) (p2IpcCall clock hal caller endpoint label) :=
  yields_handOver clock hal fun _ _ same => .after fun _ => .pure same

theorem yields_p2IpcReply (toThread : ThreadId) (label : Nat) :
    Exec.Yields (fun sw => sw.save = caller) (p2IpcReply clock hal caller toThread label) :=
  yields_handOver clock hal fun _ _ same => .after fun _ => .pure same

theorem yields_serviceIpcCall (service : Service) (endpoint : CapId) :
    Exec.Yields (fun sw => sw.save = caller)
      (serviceIpcCall clock hal service caller endpoint) := by
  refine .after fun glue => .after fun tid => yields_handOver clock hal fun next switch same => ?_
  obtain ⟨save, into⟩ := switch
  simp only
  split
  · exact .after fun _ => .pure same
  · exact .pure same

theorem yields_callOf (service : Service) (endpoint : CapId) :
    Exec.Yields (fun sw => sw.save = caller) (callOf clock hal service caller endpoint) := by
  cases service with
  | netstack =>
      change Exec.Yields _ (if endpoint = u32Max then _ else _)
      split
      · exact .throw _
      · exact yields_serviceIpcCall clock hal .netstack endpoint
  | fs => exact yields_serviceIpcCall clock hal .fs endpoint
  | compositor => exact yields_serviceIpcCall clock hal .compositor endpoint
  | mm => exact yields_serviceIpcCall clock hal .mm endpoint
  | drv => exact yields_serviceIpcCall clock hal .drv endpoint

theorem yields_p2IpcRecv (endpoint : CapId) :
    Exec.Yields (fun outcome => ∀ sw, outcome = .switch sw → sw.save = caller)
      (p2IpcRecv clock hal caller endpoint) := by
  refine .after fun result => ?_
  split
  · exact .pure fun sw absurdity => by cases absurdity
  · refine .after fun glue => .after fun _ => ?_
    refine (yields_switchPtrs caller _).bind fun pair same => .pure fun sw here => ?_
    obtain rfl := IpcRecvOutcome.switch.inj here
    exact same
  · exact .throw _

theorem yields_startProcess (choices : Choices) (steps : List SetupStep) :
    Exec.Yields (fun started => started.2.1 = caller)
      (startProcess clock hal caller choices steps) :=
  .after fun _ => .after fun _ => .after fun _ =>
    (yields_switchPtrs caller _).bind fun _ same => .pure same

theorem yields_startDemo (choices : Choices) (demo : Demo) :
    Exec.Yields (fun started => started.2.1 = caller)
      (startDemo clock hal caller choices demo) := by
  cases demo with
  | fs => exact yields_startProcess clock hal choices _
  | drvBlk => exact .after fun _ => .after fun _ => yields_startProcess clock hal choices _
  | drvNet => exact .after fun _ => .after fun _ => yields_startProcess clock hal choices _
  | netstack =>
      exact .after fun _ => .after fun _ => .after fun _ => .after fun _ => .after fun _ =>
        yields_startProcess clock hal choices _
  | compositor => exact yields_startProcess clock hal choices _
  | mm => exact yields_startProcess clock hal choices _

theorem yields_p2IpcDemoStart (entry : Nat) :
    Exec.Yields (fun started => started.2.1 = caller)
      (p2IpcDemoStart clock hal caller entry) :=
  .after fun _ => .after fun _ => .after fun _ => .after fun _ => .after fun _ =>
    .after fun _ => (yields_switchPtrs caller _).bind fun _ same => .pure same

/-! ## Their arms -/

/-- An arm that resumes the caller unless its handler found a switch. -/
theorem yields_found {program : GlueM μ α} {arm : Option α → GlueM μ TrapOutcome}
    {thread : α → ThreadId} (yields : Exec.Yields (fun found => thread found = caller) program)
    (absent : Exec.Yields (fun outcome => outcome.saved = none) (arm none))
    (present : ∀ found,
      Exec.Yields (fun outcome => outcome.saved = some (thread found)) (arm (some found))) :
    Exec.Yields (fun outcome => ∀ save, outcome.saved = some save → save = caller)
      (optional program >>= arm) := by
  refine (yields_optional yields).bind fun answer same => ?_
  cases answer with
  | none =>
      intro glue outcome later ran save saved
      rw [absent glue outcome later ran] at saved
      cases saved
  | some found =>
      intro glue outcome later ran save saved
      rw [present found glue outcome later ran] at saved
      exact (Option.some.inj saved).symm.trans (same found rfl)

/-- The arms that take the caller from the trap. -/
theorem savesAt_ipcCall (a0 a1 : Nat) (glue : Glue μ) :
    SavesAt caller (ipcCall clock hal caller a0 a1) glue := by
  refine .of_yields (yields_found (yields_p2IpcCall clock hal _ _) ?_ fun sw => ?_) glue
  · exact .pure rfl
  · exact .pure rfl

theorem savesAt_ipcReply (a0 a1 : Nat) (glue : Glue μ) :
    SavesAt caller (ipcReply clock hal caller a0 a1) glue := by
  refine .of_yields (yields_found (yields_p2IpcReply clock hal _ _) ?_ fun sw => ?_) glue
  · exact .pure rfl
  · exact .pure rfl

theorem savesAt_ipcRecv (a0 : Nat) (glue : Glue μ) :
    SavesAt caller (ipcRecv clock hal caller a0) glue := by
  refine .of_yields ((yields_optional (yields_p2IpcRecv clock hal _)).bind
    fun outcome same => ?_) glue
  split
  · exact .pure fun save absurdity => by cases absurdity
  · exact .pure fun save absurdity => by cases absurdity
  · next sw =>
    refine .pure fun save saved => ?_
    obtain rfl := Option.some.inj saved
    exact same _ rfl sw rfl

theorem savesAt_ipcDemoStart (choices : Choices) (glue : Glue μ) :
    SavesAt caller (ipcDemoStart clock hal caller choices) glue := by
  refine .of_yields (yields_found (yields_p2IpcDemoStart clock hal _) ?_ fun found => ?_) glue
  · exact .pure rfl
  · exact .after fun _ => .pure rfl

theorem savesAt_demoStart (demo : Demo) (choices : Choices) (glue : Glue μ) :
    SavesAt caller (demoStart clock hal demo caller choices) glue := by
  refine .of_yields (yields_found (yields_startDemo clock hal choices demo) ?_
    fun found => ?_) glue
  · exact .pure rfl
  · exact .after fun _ => .pure rfl

theorem savesAt_serviceCall (service : Service) (glue : Glue μ) :
    SavesAt caller (serviceCall clock hal service caller) glue := by
  refine .of_yields (.after fun _ =>
    yields_found (yields_callOf clock hal service _) ?_ fun sw => ?_) glue
  · exact .pure rfl
  · exact .pure rfl

end Caller

/-! ## The preemption demonstration -/

section Preemption

variable (clock : Nat → Nat)

/-- The fresh thread of `p2_preempt_start`, before it takes over. -/
def freshThread (choices : Choices) : GlueM μ ThreadId := do
  let glue ← Exec.get
  if glue.statics.subsysEntry ≠ 0 then
    let _ ← optional
      (spawnProcess clock [8, 4] glue.statics.subsysEntry (choices.mapped 2))
  if glue.statics.aLoopEntry = 0 then Exec.throw .refused
  kernel (KernelState.spawn .thread [])

/-- It takes the place of the root task. -/
def takeOver (root : ThreadId) (entry : Nat) (fresh : ThreadId) :
    GlueM μ (ThreadId × ThreadId) := do
  initUserThread clock fresh entry
  retire root
  retireIpcServer
  parkFs
  schedDispatch clock fresh
  modifyStatics fun statics => { statics with ticks := 0 }
  switchPtrs root fresh

theorem p2PreemptStart_eq (choices : Choices) (glue : Glue μ) :
    p2PreemptStart clock choices glue =
      (do
        let fresh ← freshThread clock choices
        takeOver clock glue.kernel.rootThread glue.statics.aLoopEntry fresh) glue := by
  unfold p2PreemptStart freshThread takeOver
  rw [Exec.bind_assoc, Exec.get_bind_run, Exec.get_bind_run]
  split
  · rw [Exec.bind_assoc]
    refine congrFun (congrArg _ ?_) glue
    funext _
    split
    · rw [Exec.bind_assoc]
    · rfl
  · split
    · rw [Exec.bind_assoc]
    · rfl

/-- What a program that succeeds has kept. -/
theorem recorded_of_ok {manner : Manner} {program : GlueM μ α} {value : α} {later : Glue μ}
    (conducts : Conducts caller manner program) (ran : program glue = .ok value later)
    {tid : ThreadId} (recorded : (glue.kernel.tcb tid).isSome) :
    (later.kernel.tcb tid).isSome := by
  obtain ⟨final, ended, moves⟩ := conducts glue
  rw [ran] at ended
  obtain rfl := Option.some.inj ended
  exact moves.recorded recorded

/-- The thread is new. -/
theorem freshThread_fresh {choices : Choices} {fresh : ThreadId} {later : Glue μ}
    (ran : freshThread clock choices glue = .ok fresh later) :
    (later.kernel.tcb fresh).isSome ∧
      ∀ tid, (glue.kernel.tcb tid).isSome → tid ≠ fresh ∧ (later.kernel.tcb tid).isSome := by
  -- Whatever came before, the last step makes the thread.
  have last : ∀ {middle : Glue μ},
      kernel (KernelState.spawn .thread []) middle = .ok fresh later →
        (∀ tid, (glue.kernel.tcb tid).isSome → (middle.kernel.tcb tid).isSome) →
          (later.kernel.tcb fresh).isSome ∧
            ∀ tid, (glue.kernel.tcb tid).isSome → tid ≠ fresh ∧ (later.kernel.tcb tid).isSome := by
    intro middle made kept
    have spawned := (kernel_eq_ok made).1
    obtain ⟨vacant, recorded⟩ := KernelState.spawn_fresh spawned
    have spawns := KernelState.spawn_spawns .thread [] middle.kernel later.kernel
      (by rw [spawned]; rfl)
    refine ⟨recorded, fun tid there => ⟨fun same => ?_, spawns.recorded (kept tid there)⟩⟩
    have present := kept tid there
    rw [same, vacant] at present
    cases present
  unfold freshThread at ran
  rw [Exec.get_bind_run] at ran
  have workers : Conducts fresh .prepares
      (optional (spawnProcess clock [8, 4] glue.statics.subsysEntry (choices.mapped 2)) :
        GlueM μ _) :=
    (conducts_spawnProcess clock _ _ _).optional
  split at ran
  · obtain ⟨_, middle, worked, ran⟩ := Exec.bind_eq_ok.1 ran
    split at ran
    · cases ran
    · exact last ran fun tid there => recorded_of_ok workers worked there
  · split at ran
    · cases ran
    · exact last ran fun tid there => there

/-- Once there is a fresh thread, nothing can stop it. -/
theorem takeOver_run (entry : Nat) {root fresh : ThreadId} (ne : root ≠ fresh)
    (rootRecorded : (glue.kernel.tcb root).isSome)
    (freshRecorded : (glue.kernel.tcb fresh).isSome) :
    ∃ later, takeOver clock root entry fresh glue = .ok (root, fresh) later := by
  have free : Manner.quiet ≠ .prepares := by decide
  have retires : ∀ (tid : ThreadId) (state : Glue μ),
      ∃ later, retire tid state = .ok () later := fun tid state => ⟨_, kernel_run rfl⟩
  have retiresServer : ∀ state : Glue μ, ∃ later, retireIpcServer state = .ok () later := by
    intro state
    unfold retireIpcServer
    rw [Exec.get_bind_run]
    cases state.statics.ipcServerTid with
    | none => exact ⟨state, rfl⟩
    | some tid =>
        obtain ⟨later, ran⟩ := retires tid state
        exact ⟨_, Exec.bind_of_ok ran _⟩
  have parks : ∀ state : Glue μ, ∃ later, parkFs state = .ok () later := by
    intro state
    unfold parkFs
    rw [Exec.get_bind_run]
    cases state.statics.serviceTid .fs with
    | none => exact ⟨state, rfl⟩
    | some tid =>
        exact ⟨_, kernel_run (KernelState.quietly_run (Scheduler.noteBlocked_state ..))⟩
  have dispatches : ∀ state : Glue μ, ∃ later, schedDispatch clock fresh state = .ok () later :=
    fun state => ⟨_, (Exec.bind_of_ok (nowNs_run clock state) _).trans
      (kernel_run (KernelState.quietly_run (Scheduler.dispatch_state ..)))⟩
  obtain ⟨first, started, begun⟩ : ∃ first, initUserThread clock fresh entry glue = .ok () first ∧
      ∀ tid, (glue.kernel.tcb tid).isSome → (first.kernel.tcb tid).isSome :=
    ⟨_, initUserThread_run clock fresh entry glue, fun tid there =>
      KernelState.recorded_updateTcb fresh _ there⟩
  obtain ⟨second, retired⟩ := retires root first
  obtain ⟨third, served⟩ := retiresServer second
  obtain ⟨fourth, parked⟩ := parks third
  obtain ⟨fifth, dispatched⟩ := dispatches fourth
  have reset := modifyStatics_run (fun statics => { statics with ticks := 0 }) fifth
  have kept : ∀ tid, (glue.kernel.tcb tid).isSome → (fifth.kernel.tcb tid).isSome := by
    intro tid there
    have retires : Conducts tid .quiet (retire root : GlueM μ Unit) := conducts_retire free root
    have serves : Conducts tid .quiet (retireIpcServer : GlueM μ Unit) :=
      conducts_retireIpcServer free
    have parks : Conducts tid .quiet (parkFs : GlueM μ Unit) := conducts_parkFs free
    have runs : Conducts tid .quiet (schedDispatch clock fresh : GlueM μ Unit) :=
      conducts_schedDispatch clock free fresh
    have afterRetire := recorded_of_ok retires retired (begun tid there)
    have afterServer := recorded_of_ok serves served afterRetire
    exact recorded_of_ok runs dispatched (recorded_of_ok parks parked afterServer)
  unfold takeOver
  rw [Exec.bind_of_ok started, Exec.bind_of_ok retired, Exec.bind_of_ok served,
    Exec.bind_of_ok parked, Exec.bind_of_ok dispatched, Exec.bind_of_ok reset]
  exact ⟨_, switchPtrs_run ne (kept root rootRecorded) (kept fresh freshRecorded)⟩

/-- What `PREEMPT_START` does before a thread takes over. -/
def preemptPrelude (choices : Choices) : GlueM μ ThreadId := do
  spawnDeviceManager clock choices
  let _ ← spawnFaultyDriver clock choices
  freshThread clock choices

/-- If a thread takes over, the registers go to the root task. -/
theorem preemptStart_run {choices : Choices} {fresh : ThreadId} {middle : Glue μ}
    (recorded : (glue.kernel.tcb glue.kernel.rootThread).isSome)
    (ran : preemptPrelude clock choices glue = .ok fresh middle) :
    ∃ later, preemptStart clock choices glue =
      .ok (.switchTo glue.kernel.rootThread fresh) later := by
  obtain ⟨_, first, managed, ran⟩ := Exec.bind_eq_ok.1 ran
  obtain ⟨driver, second, watched, ran⟩ := Exec.bind_eq_ok.1 ran
  have manages : Conducts fresh .prepares (spawnDeviceManager clock choices : GlueM μ Unit) :=
    conducts_spawnDeviceManager clock choices
  have drives : Conducts fresh .prepares (spawnFaultyDriver clock choices : GlueM μ _) :=
    conducts_spawnFaultyDriver clock choices
  have there := recorded_of_ok drives watched (recorded_of_ok manages managed recorded)
  obtain ⟨freshRecorded, others⟩ := freshThread_fresh clock ran
  obtain ⟨ne, rootRecorded⟩ := others _ there
  have sameRoot : second.kernel.rootThread = glue.kernel.rootThread := by
    obtain ⟨_, firstEnds, firstMoves⟩ := manages glue
    rw [managed] at firstEnds
    obtain rfl := Option.some.inj firstEnds
    obtain ⟨_, secondEnds, secondMoves⟩ := drives first
    rw [watched] at secondEnds
    obtain rfl := Option.some.inj secondEnds
    exact secondMoves.rootThread.trans firstMoves.rootThread
  obtain ⟨later, took⟩ := takeOver_run clock second.statics.aLoopEntry ne rootRecorded
    freshRecorded
  have started : p2PreemptStart clock choices second = .ok (glue.kernel.rootThread, fresh) later := by
    rw [p2PreemptStart_eq, Exec.bind_of_ok ran, sameRoot]
    exact took
  refine ⟨later, ?_⟩
  unfold preemptStart
  rw [Exec.bind_of_ok managed, Exec.bind_of_ok watched]
  exact orResume_of_ok started

/-- Otherwise there is no switch. -/
theorem preemptStart_stops {choices : Choices} (tid : ThreadId)
    (stops : (preemptPrelude clock choices glue).value? = none) :
    SavesAt tid (preemptStart clock choices) glue := by
  intro outcome later ran save saved
  obtain ⟨_, first, managed, ran⟩ := Exec.bind_eq_ok.1 ran
  obtain ⟨driver, second, watched, ran⟩ := Exec.bind_eq_ok.1 ran
  refine savesAt_orResume (fun pair final started => ?_) outcome later ran save saved
  rw [p2PreemptStart_eq] at started
  obtain ⟨fresh, middle, made, _⟩ := Exec.bind_eq_ok.1 started
  unfold preemptPrelude at stops
  rw [Exec.bind_of_ok managed, Exec.bind_of_ok watched, made] at stops
  cases stops

end Preemption

/-! ## The processes of the root task -/

section Processes

variable (clock : Nat → Nat) (hal : HalInterface μ)

theorem runSetup_append (caller : ThreadId) (choices : Choices) (first rest : List SetupStep)
    (index : Nat) (setup : Setup) :
    runSetup clock hal caller choices index (first ++ rest) setup =
      (do
        let middle ← runSetup clock hal caller choices index first setup
        runSetup clock hal caller choices (index + first.length) rest middle) := by
  induction first generalizing index setup with
  | nil => rfl
  | cons step tail ih =>
      rw [List.cons_append, runSetup, runSetup, Exec.bind_assoc, List.length_cons]
      refine congrArg _ (funext fun later => ?_)
      rw [ih, Nat.add_assoc, Nat.add_comm 1]

theorem callsAt_setup {choices : Choices} {index : Nat} {setup : Setup}
    (target : KernelObjectType) (rest : List SetupStep) (glue : Glue μ) :
    CallsAt caller
      (runSetup clock hal caller choices index (.retype target :: rest) setup) glue := by
  have retypes : CallsAt caller
      (SetupStep.run clock hal caller choices index setup (.retype target)) glue := by
    refine (callsAt_newObject clock hal target glue).bind fun cap => ?_
    split
    · exact .pure _
    · exact .pure _
  exact retypes.bind fun later =>
    (conducts_runSetup clock hal choices (index + 1) rest later).anyhow

/-- The new process takes the processor. -/
theorem conducts_finish (setup : Setup) :
    Conducts caller .anyhow (do
      schedNoteReady clock caller
      schedDispatch clock setup.tid
      let (save, into) ← switchPtrs caller setup.tid
      return (setup.endpoint, save, into) : GlueM μ (CapId × ThreadId × ThreadId)) := by
  have free : Manner.anyhow ≠ .prepares := by decide
  refine (conducts_schedNoteReady clock free caller).bind fun _ => ?_
  refine (conducts_schedDispatch clock free setup.tid).bind fun _ => ?_
  exact (conducts_switchPtrs caller setup.tid).bind fun _ => .pure _

/-- Handlers that begin with a new object call the kernel at once. -/
theorem callsAt_startProcess (choices : Choices) (target : KernelObjectType)
    (rest : List SetupStep) (glue : Glue μ) :
    CallsAt caller (startProcess clock hal caller choices (.retype target :: rest)) glue :=
  (callsAt_setup clock hal target rest glue).bind fun setup => conducts_finish clock setup

/-- What `spawn_netstack_service` does before it calls the kernel. -/
def netstackPrelude (caller : ThreadId) (choices : Choices) : GlueM μ Setup := do
  retireIpcServer
  parkFs
  retireProcessB
  let glue ← Exec.get
  let _ ← Exec.okOr .refused (glue.kernel.tcb caller)
  runSetup clock hal caller choices 0 [.spawn, .grantDriver]
    { endpoint := 0, cap := 0, tid := caller }

/-- What it does after that. -/
def netstackRest (caller : ThreadId) (choices : Choices) (setup : Setup) :
    GlueM μ (CapId × ThreadId × ThreadId) := do
  let setup ← runSetup clock hal caller choices 2
    [.retype .endpoint, .grant, .announce .netstack, .publishEndpoint .netstack, .carve 2,
      .mapRange, .carve 2, .mapRange, .carve 1, .carve 2, .mapRange, .retype .sharedRegion,
      .carve 2, .mapRange, .windows] setup
  schedNoteReady clock caller
  schedDispatch clock setup.tid
  let (save, into) ← switchPtrs caller setup.tid
  return (setup.endpoint, save, into)

theorem callsAt_netstackRest (choices : Choices) (setup : Setup) (glue : Glue μ) :
    CallsAt caller (netstackRest clock hal caller choices setup) glue :=
  (callsAt_setup clock hal .endpoint _ glue).bind fun setup => conducts_finish clock setup

theorem spawnNetstackService_eq (caller : ThreadId) (choices : Choices) :
    spawnNetstackService clock hal caller choices =
      (do
        let setup ← netstackPrelude clock hal caller choices
        netstackRest clock hal caller choices setup) := by
  have parts := runSetup_append clock hal caller choices [.spawn, .grantDriver]
    [.retype .endpoint, .grant, .announce .netstack, .publishEndpoint .netstack, .carve 2,
      .mapRange, .carve 2, .mapRange, .carve 1, .carve 2, .mapRange, .retype .sharedRegion,
      .carve 2, .mapRange, .windows] 0 { endpoint := 0, cap := 0, tid := caller }
  unfold spawnNetstackService netstackPrelude netstackRest startProcess
  simp only [Exec.bind_assoc]
  simp only [List.cons_append, List.nil_append] at parts
  rw [parts]
  simp only [Exec.bind_assoc]
  rfl

/-- The prelude calls nobody, whoever is said to be the caller. -/
theorem conducts_netstackPrelude (other : ThreadId) (choices : Choices) :
    Conducts caller .quiet (netstackPrelude clock hal other choices) := by
  have free : Manner.quiet ≠ .prepares := by decide
  refine (conducts_retireIpcServer free).bind fun _ => ?_
  refine (conducts_parkFs free).bind fun _ => ?_
  refine (conducts_retireProcessB free).bind fun _ => ?_
  refine .getBind fun glue => (Conducts.okOr _ _).bind fun _ => ?_
  have spawns : Conducts caller .quiet (spawnProcessFromElf clock choices 0 : GlueM μ _) :=
    conducts_spawnProcessFromElf clock choices 0
  refine (spawns.bind fun _ => .pure _).bind fun setup => ?_
  refine Conducts.bind (.getBind fun later => ?_) fun _ => .pure _
  exact (conducts_grantInto other _ _).bind fun _ => .pure _

end Processes

end GlueM

end Simurgh
