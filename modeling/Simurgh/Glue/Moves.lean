import Mathlib.Logic.Relation
import Simurgh.Core.Creation
import Simurgh.Glue.Faults

/-!
# What the handlers do

Every handler is a sequence of few kinds of moves.  `Conducts` says so of a program, with
the thread for which it calls the kernel, and it goes along with the parts of programs.
-/

namespace Simurgh

/-- How much a program may do. -/
inductive Manner where
  /-- It makes new objects and threads only. -/
  | prepares
  /-- It stores no message for anybody, and takes none. -/
  | quiet
  | anyhow
  deriving DecidableEq, Repr

/-- The calls of the kernel that a program may make. -/
def Manner.serves : Manner → SyscallOp → Bool
  | .anyhow, _ => true
  | .quiet, .send _ _ => false
  | .quiet, .call _ _ => false
  | .quiet, .reply _ _ => false
  | .quiet, _ => true
  | .prepares, .retype _ _ _ => true
  | .prepares, .map _ _ _ _ => true
  | .prepares, .irqBind _ _ _ => true
  | .prepares, _ => false

namespace KernelState

variable {before after : KernelState}

theorem recorded_updateTcb {tid : ThreadId} (id : ThreadId) (update : Tcb → Tcb)
    (recorded : (before.tcb tid).isSome) : ((before.updateTcb id update).tcb tid).isSome := by
  rw [tcb_updateTcb]
  split
  · rw [Option.isSome_map]
    exact recorded
  · exact recorded

theorem Spawns.recorded (spawns : Spawns before after) {tid : ThreadId}
    (recorded : (before.tcb tid).isSome) : (after.tcb tid).isSome := by
  obtain ⟨tcb, present⟩ := Option.isSome_iff_exists.1 recorded
  exact Option.isSome_iff_exists.2 ⟨tcb, spawns.tcbs.get?_of_some present⟩

theorem Spawns.rootThread (spawns : Spawns before after) :
    after.rootThread = before.rootThread := by
  rw [spawns.frame]

/-- No syscall renames the root task. -/
theorem Effect.rootThread {caller : ThreadId} {nowNs : Nat} {op : SyscallOp}
    {next : Option ThreadId} (effect : Effect caller nowNs before op next after) :
    after.rootThread = before.rootThread := by
  have kept : ∀ {threads : List ThreadId} {first second : KernelState},
      OnlyThreads threads first second → first.rootThread = before.rootThread →
        second.rootThread = before.rootThread := by
    intro threads first second only same
    rw [only.frame]
    exact same
  cases effect with
  | retyped holds present reserved created newPages =>
      rw [created.frame]
      rfl
  | sent holds present waiting => exact kept (onlyThreads_handOver ..) rfl
  | called holds present waiting admitted final chosen =>
      subst final
      exact kept (onlyThreads_block ..) (kept (onlyThreads_handOver ..) rfl)
  | callStuck holds present waiting absent => exact kept (onlyThreads_handOver ..) rfl
  | queued isSend holds present noReceiver final chosen =>
      subst final
      exact kept (onlyThreads_block ..) rfl
  | received holds present waiting => exact kept (onlyThreads_release ..) rfl
  | awaiting holds present noSender final chosen =>
      subst final
      exact kept (onlyThreads_block ..) rfl
  | @replied toThread msg next ne awaits admitted chosen =>
      change (before.storeReply toThread msg).rootThread = before.rootThread
      exact kept (onlyThreads_storeReply ..) rfl
  | replyStuck ne awaits absent => exact kept (onlyThreads_storeReply ..) rfl
  | bound region found target => rw [bindIrq_frame]
  | _ => rfl

end KernelState

namespace Glue

variable {μ : Type} {caller : ThreadId} {manner : Manner}

/-- One move. -/
inductive Move (caller : ThreadId) (manner : Manner) (before : Glue μ) : Glue μ → Prop where
  | read : Move caller manner before { before with readings := before.readings + 1 }
  | remembered (statics : Statics) : Move caller manner before { before with statics }
  | spawned {kernel} (spawns : before.kernel.Spawns kernel) :
      Move caller manner before (before.withKernel kernel)
  | granted (capSpaces) :
      Move caller manner before (before.withKernel { before.kernel with capSpaces })
  | began {kernel tid entry nowNs} (spawns : before.kernel.Spawns kernel)
      (vacant : before.kernel.tcb tid = none) (recorded : (kernel.tcb tid).isSome) :
      Move caller manner before
        { before with
          machine := { before.machine with
            kernel :=
              { kernel.updateTcb tid fun tcb => { tcb with entry, state := .runnable } with
                sched := (kernel.sched.setAdmitted tid .interactive maxPriority
                  none).setReady tid nowNs } }
          readings := before.readings + 1
          trace := before.trace.starts tid }
  | rescheduled (free : manner ≠ .prepares) (notifications) (sched) :
      Move caller manner before
        (before.withKernel { before.kernel with notifications, sched })
  | exited (free : manner ≠ .prepares) (tid : ThreadId) :
      Move caller manner before
        (before.withKernel (before.kernel.updateTcb tid fun tcb => { tcb with state := .exited }))
  | took (free : manner = .anyhow) (tid : ThreadId) (update : Tcb → Tcb) :
      Move caller manner before (before.withKernel (before.kernel.updateTcb tid update))
  | called {op machine} (serves : manner.serves op = true)
      (effect : machine = before.machine ∨ ∃ nowNs next,
        KernelState.Effect caller nowNs before.kernel op next machine.kernel) :
      Move caller manner before
        { before with
          machine
          readings := before.readings + 1
          trace := before.trace.calls caller (before.kernel.delivers caller op) }

/-- Any number of moves. -/
def Moves (caller : ThreadId) (manner : Manner) : Glue μ → Glue μ → Prop :=
  Relation.ReflTransGen (Move caller manner)

theorem Moves.refl (glue : Glue μ) : Moves caller manner glue glue :=
  Relation.ReflTransGen.refl

theorem Moves.trans {before middle after : Glue μ} (first : Moves caller manner before middle)
    (second : Moves caller manner middle after) : Moves caller manner before after :=
  Relation.ReflTransGen.trans first second

theorem Move.moves {before after : Glue μ} (move : Move caller manner before after) :
    Moves caller manner before after := .single move

/-- What every move does, they do together. -/
theorem Moves.lift {relation : Glue μ → Glue μ → Prop} {before after : Glue μ}
    (moves : Moves caller manner before after) (still : ∀ glue, relation glue glue)
    (trans : ∀ {first second third}, relation first second → relation second third →
      relation first third)
    (each : ∀ first second, Move caller manner first second → relation first second) :
    relation before after := by
  induction moves with
  | refl => exact still before
  | tail _ last ih => exact trans ih (each _ _ last)

/-- Less is allowed in a narrower manner. -/
theorem Move.anyhow {before after : Glue μ} (move : Move caller manner before after) :
    Move caller .anyhow before after := by
  cases move with
  | read => exact .read
  | remembered statics => exact .remembered statics
  | spawned spawns => exact .spawned spawns
  | granted capSpaces => exact .granted capSpaces
  | began spawns vacant recorded => exact .began spawns vacant recorded
  | rescheduled free notifications sched => exact .rescheduled (by decide) notifications sched
  | exited free tid => exact .exited (by decide) tid
  | took free tid update => exact .took rfl tid update
  | called serves effect => exact .called rfl effect

theorem Move.quiet {before after : Glue μ} (move : Move caller .prepares before after) :
    Move caller .quiet before after := by
  cases move with
  | read => exact .read
  | remembered statics => exact .remembered statics
  | spawned spawns => exact .spawned spawns
  | granted capSpaces => exact .granted capSpaces
  | began spawns vacant recorded => exact .began spawns vacant recorded
  | rescheduled free notifications sched => exact absurd rfl free
  | exited free tid => exact absurd rfl free
  | took free tid update => cases free
  | @called op machine serves effect =>
      refine .called ?_ effect
      cases op with
      | retype untyped target count => rfl
      | map pageTable frame vaddr perms => rfl
      | irqBind mmio notification handler => rfl
      | _ => cases serves

theorem Moves.anyhow {before after : Glue μ} (moves : Moves caller manner before after) :
    Moves caller .anyhow before after :=
  moves.lift .refl .trans fun _ _ move => move.anyhow.moves

theorem Moves.quiet {before after : Glue μ} (moves : Moves caller .prepares before after) :
    Moves caller .quiet before after :=
  moves.lift .refl .trans fun _ _ move => move.quiet.moves

/-! ## What moves leave alone -/

/-- No move renames the root task. -/
theorem Move.rootThread {before after : Glue μ} (move : Move caller manner before after) :
    after.kernel.rootThread = before.kernel.rootThread := by
  cases move with
  | read => rfl
  | remembered statics => rfl
  | spawned spawns => exact spawns.rootThread
  | granted capSpaces => rfl
  | began spawns vacant recorded =>
      change (KernelState.updateTcb _ _ _).rootThread = _
      rw [KernelState.updateTcb_frame]
      exact spawns.rootThread
  | rescheduled free notifications sched => rfl
  | exited free tid =>
      change (KernelState.updateTcb _ _ _).rootThread = _
      rw [KernelState.updateTcb_frame]
  | took free tid update =>
      change (KernelState.updateTcb _ _ _).rootThread = _
      rw [KernelState.updateTcb_frame]
  | called serves effect =>
      rcases effect with rfl | ⟨nowNs, next, effect⟩
      · rfl
      · exact effect.rootThread

theorem Moves.rootThread {before after : Glue μ} (moves : Moves caller manner before after) :
    after.kernel.rootThread = before.kernel.rootThread := by
  refine @Moves.lift _ _ _ (fun first second => second.kernel.rootThread = first.kernel.rootThread)
    before after moves (fun _ => rfl) ?_ fun _ _ move => move.rootThread
  intro first second third one two
  exact two.trans one

/-- No move removes the record of a thread. -/
theorem Move.recorded {before after : Glue μ} (move : Move caller manner before after)
    {tid : ThreadId} (recorded : (before.kernel.tcb tid).isSome) :
    (after.kernel.tcb tid).isSome := by
  cases move with
  | read => exact recorded
  | remembered statics => exact recorded
  | spawned spawns => exact spawns.recorded recorded
  | granted capSpaces => exact recorded
  | began spawns vacant there =>
      exact KernelState.recorded_updateTcb _ _ (spawns.recorded recorded)
  | rescheduled free notifications sched => exact recorded
  | exited free other => exact KernelState.recorded_updateTcb _ _ recorded
  | took free other update => exact KernelState.recorded_updateTcb _ _ recorded
  | called serves effect =>
      rcases effect with rfl | ⟨nowNs, next, effect⟩
      · exact recorded
      · exact effect.keeps.objects { kind := .threadControlBlock, id := tid } recorded

theorem Moves.recorded {before after : Glue μ} (moves : Moves caller manner before after)
    {tid : ThreadId} (recorded : (before.kernel.tcb tid).isSome) :
    (after.kernel.tcb tid).isSome := by
  induction moves with
  | refl => exact recorded
  | tail _ last ih => exact last.recorded ih

/-- Making new things does not change who runs. -/
theorem Move.running {before after : Glue μ} (move : Move caller .prepares before after) :
    after.kernel.sched.running = before.kernel.sched.running := by
  cases move with
  | read => rfl
  | remembered statics => rfl
  | @spawned kernel spawns =>
      change kernel.sched.running = _
      rw [spawns.frame]
  | granted capSpaces => rfl
  | @began kernel tid entry nowNs spawns vacant recorded =>
      change ((kernel.sched.setAdmitted tid .interactive maxPriority none).setReady tid
        nowNs).running = _
      rw [Scheduler.running_setReady, spawns.frame]
      rfl
  | rescheduled free notifications sched => exact absurd rfl free
  | exited free tid => exact absurd rfl free
  | took free tid update => cases free
  | @called op machine serves effect =>
      rcases effect with rfl | ⟨nowNs, next, effect⟩
      · rfl
      · have quiet : op.schedules = false := by
          cases op with
          | retype untyped target count => rfl
          | map pageTable frame vaddr perms => rfl
          | irqBind mmio notification handler => rfl
          | _ => cases serves
        have same := (effect.sched_of_quiet quiet).1
        change machine.kernel.sched.running = _
        rw [same]

theorem Moves.running {before after : Glue μ} (moves : Moves caller .prepares before after) :
    after.kernel.sched.running = before.kernel.sched.running := by
  induction moves with
  | refl => rfl
  | tail _ last ih => exact last.running.trans ih

/-! ## The trace -/

/-- The kernel is called for nobody else. -/
theorem Move.callers {before after : Glue μ} (move : Move caller manner before after) :
    ∃ n, after.trace.callers = before.trace.callers ++ List.replicate n caller := by
  cases move with
  | called serves effect => exact ⟨1, rfl⟩
  | _ => exact ⟨0, (List.append_nil _).symm⟩

theorem Moves.callers {before after : Glue μ} (moves : Moves caller manner before after) :
    ∃ n, after.trace.callers = before.trace.callers ++ List.replicate n caller := by
  induction moves with
  | refl => exact ⟨0, (List.append_nil _).symm⟩
  | tail _ last ih =>
      obtain ⟨n, first⟩ := ih
      obtain ⟨m, second⟩ := last.callers
      refine ⟨n + m, ?_⟩
      rw [second, first, List.append_assoc, List.replicate_append_replicate]

/-- Whoever was called for stays in the trace. -/
theorem Moves.called {before after : Glue μ} (moves : Moves caller manner before after)
    {other : ThreadId} (called : other ∈ before.trace.callers) :
    other ∈ after.trace.callers := by
  obtain ⟨n, same⟩ := moves.callers
  rw [same]
  exact List.mem_append_left _ called

theorem Moves.eq_of_called {before after : Glue μ} (moves : Moves caller manner before after)
    (fresh : before.trace.callers = []) {other : ThreadId}
    (called : other ∈ after.trace.callers) : other = caller := by
  obtain ⟨n, same⟩ := moves.callers
  rw [same, fresh, List.nil_append] at called
  exact List.eq_of_mem_replicate called

/-- Only new threads get registers to start with. -/
theorem Moves.started {before after : Glue μ} (moves : Moves caller manner before after)
    {tid : ThreadId} (started : tid ∈ after.trace.started) :
    tid ∈ before.trace.started ∨ before.kernel.tcb tid = none := by
  induction moves with
  | refl => exact Or.inl started
  | tail first last ih =>
      cases last with
      | began spawns vacant recorded =>
          rcases List.mem_append.1 started with old | new
          · exact ih old
          · obtain rfl := List.mem_singleton.1 new
            refine Or.inr (Option.not_isSome_iff_eq_none.1 fun recorded => ?_)
            have still := Moves.recorded first recorded
            rw [vacant] at still
            cases still
      | _ => exact ih started

end Glue

namespace GlueM

variable {μ : Type} {α β : Type} {caller : ThreadId} {manner : Manner}

/-- From this state the program ends, and all that it does are moves for `caller`. -/
def ConductsAt (caller : ThreadId) (manner : Manner) (program : GlueM μ α) (glue : Glue μ) :
    Prop :=
  ∃ later, (program glue).state? = some later ∧ Glue.Moves caller manner glue later

def Conducts (caller : ThreadId) (manner : Manner) (program : GlueM μ α) : Prop :=
  ∀ glue, ConductsAt caller manner program glue

/-- What comes next may rely on what was moved. -/
theorem ConductsAt.bind {first : GlueM μ α} {next : α → GlueM μ β} {glue : Glue μ}
    (begins : ConductsAt caller manner first glue)
    (goesOn : ∀ value later, first glue = .ok value later →
      Glue.Moves caller manner glue later → ConductsAt caller manner (next value) later) :
    ConductsAt caller manner (first >>= next) glue := by
  obtain ⟨middle, ended, moved⟩ := begins
  cases ran : first glue with
  | ok value later =>
      rw [ran] at ended
      obtain rfl := Option.some.inj ended
      obtain ⟨final, rest, after⟩ := goesOn value later ran moved
      exact ⟨final, by rw [Exec.bind_of_ok ran]; exact rest, moved.trans after⟩
  | err stop later =>
      rw [ran] at ended
      obtain rfl := Option.some.inj ended
      exact ⟨later, by rw [Exec.bind_of_err ran]; rfl, moved⟩
  | panic =>
      rw [ran] at ended
      cases ended

theorem ConductsAt.anyhow {program : GlueM μ α} {glue : Glue μ}
    (conducts : ConductsAt caller manner program glue) :
    ConductsAt caller .anyhow program glue := by
  obtain ⟨later, ended, moved⟩ := conducts
  exact ⟨later, ended, moved.anyhow⟩

theorem optional_state? (program : GlueM μ α) (glue : Glue μ) :
    (optional program glue).state? = (program glue).state? := by
  unfold optional
  cases program glue with
  | ok value later => rfl
  | err stop later =>
      cases stop with
      | refused => rfl
      | panicked => rfl
      | waits => rfl
  | panic => rfl

theorem ConductsAt.optional {program : GlueM μ α} {glue : Glue μ}
    (conducts : ConductsAt caller manner program glue) :
    ConductsAt caller manner (GlueM.optional program) glue := by
  obtain ⟨later, ended, moved⟩ := conducts
  refine ⟨later, ?_, moved⟩
  rw [optional_state?]
  exact ended

/-- Where a program of the kernel ends, if the kernel has not panicked. -/
theorem kernel_state? {ε : Type} (program : Exec KernelState ε α) (glue : Glue μ) :
    (kernel program glue).state? =
      some (((program glue.kernel).state?.map glue.withKernel).getD glue) := by
  unfold kernel
  rw [Exec.bind_run]
  unfold result Machine.onKernel Exec.zoom Glue.kernel
  beta_reduce
  cases program glue.machine.kernel with
  | ok value later => rfl
  | err error later => rfl
  | panic => rfl

theorem kernel_err {ε : Type} {program : Exec KernelState ε α} {error : ε}
    {later : KernelState} {glue : Glue μ} (failed : program glue.kernel = .err error later) :
    kernel program glue = .err .refused (glue.withKernel later) := by
  have zoomed : Machine.onKernel program glue.machine =
      .err error { glue.machine with kernel := later } := by
    unfold Machine.onKernel Exec.zoom
    change program glue.machine.kernel = _ at failed
    rw [failed]
    rfl
  have ended : result (Machine.onKernel program) glue =
      .ok (.error error) (glue.withKernel later) := by
    unfold result
    rw [zoomed]
    rfl
  unfold kernel
  rw [Exec.bind_of_ok ended]
  rfl

theorem kernel_panic {ε : Type} {program : Exec KernelState ε α} {glue : Glue μ}
    (panicked : program glue.kernel = .panic) :
    kernel program glue = .err .panicked glue := by
  have zoomed : Machine.onKernel program glue.machine = .panic := by
    unfold Machine.onKernel Exec.zoom
    change program glue.machine.kernel = _ at panicked
    rw [panicked]
  have ended : result (Machine.onKernel program) glue = .err .panicked glue := by
    unfold result
    rw [zoomed]
  unfold kernel
  exact Exec.bind_of_err ended _

theorem kernel_eq_ok {ε : Type} {program : Exec KernelState ε α} {value : α}
    {glue later : Glue μ} (ran : kernel program glue = .ok value later) :
    program glue.kernel = .ok value later.kernel ∧ later = glue.withKernel later.kernel := by
  cases here : program glue.kernel with
  | ok other final =>
      rw [kernel_run here] at ran
      obtain ⟨rfl, rfl⟩ := Outcome.ok.inj ran
      exact ⟨rfl, rfl⟩
  | err error final =>
      rw [kernel_err here] at ran
      cases ran
  | panic =>
      rw [kernel_panic here] at ran
      cases ran

namespace Conducts

theorem pure (value : α) : Conducts caller manner (Pure.pure value : GlueM μ α) :=
  fun glue => ⟨glue, rfl, .refl glue⟩

theorem throw (stop : Stop) : Conducts caller manner (Exec.throw stop : GlueM μ α) :=
  fun glue => ⟨glue, rfl, .refl glue⟩

theorem okOr (stop : Stop) (option : Option α) :
    Conducts caller manner (Exec.okOr stop option : GlueM μ α) := by
  cases option with
  | none => exact throw stop
  | some value => exact pure value

theorem bind {first : GlueM μ α} {next : α → GlueM μ β}
    (begins : Conducts caller manner first)
    (goesOn : ∀ value, Conducts caller manner (next value)) :
    Conducts caller manner (first >>= next) :=
  fun glue => (begins glue).bind fun value later _ _ => goesOn value later

/-- The program looks at the state first. -/
theorem getBind {next : Glue μ → GlueM μ α}
    (goesOn : ∀ glue, Conducts caller manner (next glue)) :
    Conducts caller manner (Exec.get >>= next) := by
  intro glue
  unfold ConductsAt
  rw [Exec.get_bind_run]
  exact goesOn glue glue

theorem modify {update : Glue μ → Glue μ}
    (moves : ∀ glue, Glue.Moves caller manner glue (update glue)) :
    Conducts caller manner (Exec.modify update : GlueM μ Unit) :=
  fun glue => ⟨update glue, rfl, moves glue⟩

theorem optional {program : GlueM μ α} (conducts : Conducts caller manner program) :
    Conducts caller manner (GlueM.optional program) :=
  fun glue => (conducts glue).optional

/-- A program of the kernel, if its ends are known. -/
theorem kernel {ε : Type} {program : Exec KernelState ε α}
    (moves : ∀ (glue : Glue μ) final, (program glue.kernel).state? = some final →
      Glue.Moves caller manner glue (glue.withKernel final)) :
    Conducts (μ := μ) caller manner (GlueM.kernel program) := by
  intro glue
  unfold ConductsAt
  rw [kernel_state?]
  cases ended : (program glue.kernel).state? with
  | none => exact ⟨glue, rfl, .refl glue⟩
  | some final => exact ⟨glue.withKernel final, rfl, moves glue final ended⟩

theorem anyhow {program : GlueM μ α} (conducts : Conducts caller manner program) :
    Conducts caller .anyhow program :=
  fun glue => (conducts glue).anyhow

theorem quiet {program : GlueM μ α} (conducts : Conducts caller .prepares program) :
    Conducts caller .quiet program := by
  intro glue
  obtain ⟨later, ended, moved⟩ := conducts glue
  exact ⟨later, ended, moved.quiet⟩

end Conducts

end GlueM

end Simurgh
