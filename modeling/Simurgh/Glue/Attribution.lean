import Simurgh.Glue.Callers
import Simurgh.Glue.Launch
import Simurgh.Glue.Supervision

/-!
# On whose behalf the handlers act

A handler should call the kernel for the thread that has trapped, and save its registers
to its own buffer.  Some arms act for the running thread, the others for the root task,
whoever has trapped.
-/

namespace Simurgh

/-- The start of the process stops before it acts for anybody. -/
def Demo.Stops {μ : Type} (clock : Nat → Nat) (hal : HalInterface μ) (choices : Choices)
    (glue : Glue μ) : Demo → Prop
  | .drvBlk => glue.kernel.deviceOf glue.kernel.rootThread glue.kernel.rootMmioBlkCap = none
  | .drvNet => glue.kernel.deviceOf glue.kernel.rootThread glue.kernel.rootMmioNetCap = none
  | .netstack =>
      (GlueM.netstackPrelude clock hal glue.kernel.rootThread choices glue).value? = none
  | .fs => False
  | .compositor => False
  | .mm => False

/-- The arm acts for the thread that runs, or this is the root task, or it stops before it
acts. -/
def Arm.Faithful {μ : Type} (clock : Nat → Nat) (hal : HalInterface μ) (choices : Choices)
    (tid : ThreadId) (glue : Glue μ) : Arm → Prop
  | .preemptStart =>
      tid = glue.kernel.rootThread ∨
        (GlueM.preemptPrelude clock choices glue).value? = none
  | .start demo => tid = glue.kernel.rootThread ∨ demo.Stops clock hal choices glue
  | .call service =>
      tid = glue.kernel.rootThread ∨ glue.statics.serviceTid service = none ∨
        (service = .netstack ∧ glue.statics.serviceEp .netstack = u32Max)
  | .retypeEndpoint => tid = glue.kernel.rootThread
  | .mapPage => tid = glue.kernel.rootThread
  | .mapAlias => tid = glue.kernel.rootThread ∨ glue.statics.lastMappedFrame = 0
  | _ => True

namespace GlueM

variable {μ : Type} {tid : ThreadId} {glue : Glue μ}

/-- The kernel is called for `tid` only, the registers of `tid` only are saved, and those
that are set up belong to threads that are new. -/
def Attributed (tid : ThreadId) (program : GlueM μ TrapOutcome) (glue : Glue μ) : Prop :=
  Exec.wp program
    (fun ended later =>
      (∀ caller ∈ later.trace.callers, caller = tid) ∧
        (∀ other ∈ later.trace.started, glue.kernel.tcb other = none) ∧
          ∀ outcome save, ended = .ok outcome → outcome.saved = some save → save = tid)
    glue

section Attributed

variable {program : GlueM μ TrapOutcome}

theorem attributed_of_conducts (fresh : glue.trace = .empty)
    (conducts : ConductsAt tid .anyhow program glue) (saves : SavesAt tid program glue) :
    Attributed tid program glue := by
  obtain ⟨final, ended, moves⟩ := conducts
  have noCalls : glue.trace.callers = [] := by rw [fresh]; rfl
  have noStarts : glue.trace.started = [] := by rw [fresh]; rfl
  have called : ∀ caller ∈ final.trace.callers, caller = tid :=
    fun caller called => moves.eq_of_called noCalls called
  have started : ∀ other ∈ final.trace.started, glue.kernel.tcb other = none := by
    intro other begun
    rcases moves.started begun with old | new
    · rw [noStarts] at old
      cases old
    · exact new
  unfold Attributed
  rw [Exec.wp_iff]
  constructor
  · intro outcome later ran
    rw [ran] at ended
    obtain rfl := Option.some.inj ended
    refine ⟨called, started, fun other save same saved => ?_⟩
    obtain rfl := Except.ok.inj same
    exact saves outcome later ran save saved
  · intro stop later ran
    rw [ran] at ended
    obtain rfl := Option.some.inj ended
    exact ⟨called, started, fun other save absurdity => by cases absurdity⟩

theorem Attributed.caller (attributed : Attributed tid program glue) {caller : ThreadId}
    (calls : CallsAt caller program glue) : tid = caller := by
  obtain ⟨final, ended, called⟩ := calls
  have holds := Exec.wp_iff.1 attributed
  cases ran : program glue with
  | ok outcome later =>
      rw [ran] at ended
      obtain rfl := Option.some.inj ended
      exact ((holds.1 outcome later ran).1 caller called).symm
  | err stop later =>
      rw [ran] at ended
      obtain rfl := Option.some.inj ended
      exact ((holds.2 stop later ran).1 caller called).symm
  | panic =>
      rw [ran] at ended
      cases ended

theorem Attributed.saved (attributed : Attributed tid program glue) {outcome : TrapOutcome}
    {later : Glue μ} (ran : program glue = .ok outcome later) {save : ThreadId}
    (saved : outcome.saved = some save) : tid = save :=
  (((Exec.wp_iff.1 attributed).1 outcome later ran).2.2 outcome save rfl saved).symm

/-- A handler that stops acts for nobody. -/
theorem attributed_of_stops {α : Type} {first : GlueM μ α}
    {next : Option α → GlueM μ TrapOutcome} {ret : Nat} (fresh : glue.trace = .empty)
    (conducts : ConductsAt tid .anyhow first glue) (stops : (first glue).value? = none)
    (refuses : ∀ later, next none later = .ok (.resume ret) later) :
    Attributed tid (optional first >>= next) glue := by
  obtain ⟨final, ended, moves⟩ := conducts.optional
  cases tried : optional first glue with
  | panic =>
      rw [tried] at ended
      cases ended
  | err stop later =>
      rw [tried] at ended
      obtain rfl := Option.some.inj ended
      refine attributed_of_conducts fresh
        ⟨later, by rw [Exec.bind_of_err tried]; rfl, moves⟩ fun outcome last ran => ?_
      rw [Exec.bind_of_err tried] at ran
      cases ran
  | ok value later =>
      rw [tried] at ended
      obtain rfl := Option.some.inj ended
      cases value with
      | some found =>
          rw [optional_eq_some.1 tried] at stops
          cases stops
      | none =>
          have resumes : (optional first >>= next) glue = .ok (.resume ret) later := by
            rw [Exec.bind_of_ok tried]
            exact refuses later
          refine attributed_of_conducts fresh ⟨later, by rw [resumes]; rfl, moves⟩
            fun outcome last ran save saved => ?_
          rw [resumes] at ran
          obtain ⟨rfl, rfl⟩ := Outcome.ok.inj ran
          cases saved

end Attributed

/-! ## The arms -/

section Arms

variable {clock : Nat → Nat} {hal : HalInterface μ} {choices : Choices}

/-- The caller that a trap finds. -/
theorem runningOrRoot_run (runs : glue.kernel.sched.running = some tid) :
    runningOrRoot glue = .ok tid glue := by
  unfold runningOrRoot
  rw [Exec.get_bind_run, runs]
  rfl

theorem SavesAt.after {α : Type} {first : GlueM μ α} {next : α → GlueM μ TrapOutcome}
    {value : α} {later : Glue μ} (ran : first glue = .ok value later)
    (saves : SavesAt tid (next value) later) : SavesAt tid (first >>= next) glue := by
  unfold SavesAt
  rw [Exec.bind_of_ok ran]
  exact saves

theorem savesAt_of_resumes {program : GlueM μ TrapOutcome}
    (resumes : Exec.Yields (fun outcome => outcome.saved = none) program) :
    SavesAt tid program glue := by
  intro outcome later ran save saved
  rw [resumes glue outcome later ran] at saved
  cases saved

theorem resumes_orReturn {ret : Nat} {program : GlueM μ Nat} :
    Exec.Yields (fun outcome => outcome.saved = none) (orReturn ret program) :=
  .after fun _ => .pure rfl

/-- The arms of the root task call the kernel for it, unless they stop. -/
theorem callsAt_startDemo {demo : Demo} (goesOn : ¬ demo.Stops clock hal choices glue) :
    CallsAt glue.kernel.rootThread
      (startDemo clock hal glue.kernel.rootThread choices demo) glue := by
  cases demo with
  | fs => exact callsAt_startProcess clock hal choices .endpoint _ glue
  | compositor => exact callsAt_startProcess clock hal choices .endpoint _ glue
  | mm => exact callsAt_startProcess clock hal choices .endpoint _ glue
  | drvBlk =>
      obtain ⟨device, present⟩ := Option.ne_none_iff_exists'.1 goesOn
      have found : Exec.okOr Stop.refused
          (glue.kernel.deviceOf glue.kernel.rootThread glue.kernel.rootMmioBlkCap) glue =
          .ok device glue := by rw [present]; rfl
      exact .after (Exec.get_run glue) (.after found
        (callsAt_startProcess clock hal choices .endpoint _ glue))
  | drvNet =>
      obtain ⟨device, present⟩ := Option.ne_none_iff_exists'.1 goesOn
      have found : Exec.okOr Stop.refused
          (glue.kernel.deviceOf glue.kernel.rootThread glue.kernel.rootMmioNetCap) glue =
          .ok device glue := by rw [present]; rfl
      exact .after (Exec.get_run glue) (.after found
        (callsAt_startProcess clock hal choices .endpoint _ glue))
  | netstack =>
      obtain ⟨setup, succeeded⟩ := Option.ne_none_iff_exists'.1 goesOn
      obtain ⟨middle, ran⟩ := Outcome.eq_ok_of_value? succeeded
      change CallsAt _ (spawnNetstackService clock hal glue.kernel.rootThread choices) glue
      rw [spawnNetstackService_eq]
      exact .after ran (callsAt_netstackRest clock hal choices setup middle)

/-- Where the start of a process stops, the kernel was not called. -/
theorem startDemo_stops {demo : Demo} (stops : demo.Stops clock hal choices glue) :
    ConductsAt tid .anyhow (startDemo clock hal glue.kernel.rootThread choices demo) glue ∧
      (startDemo clock hal glue.kernel.rootThread choices demo glue).value? = none := by
  cases demo with
  | fs => exact stops.elim
  | compositor => exact stops.elim
  | mm => exact stops.elim
  | drvBlk =>
      have refused : startDemo clock hal glue.kernel.rootThread choices .drvBlk glue =
          .err .refused glue := by
        change spawnVirtioBlkDriver clock hal glue.kernel.rootThread choices glue = _
        unfold spawnVirtioBlkDriver
        rw [Exec.get_bind_run]
        simp only [Demo.Stops] at stops
        rw [stops]
        rfl
      unfold ConductsAt
      rw [refused]
      exact ⟨⟨glue, rfl, .refl glue⟩, rfl⟩
  | drvNet =>
      have refused : startDemo clock hal glue.kernel.rootThread choices .drvNet glue =
          .err .refused glue := by
        change spawnVirtioNetDriver clock hal glue.kernel.rootThread choices glue = _
        unfold spawnVirtioNetDriver
        rw [Exec.get_bind_run]
        simp only [Demo.Stops] at stops
        rw [stops]
        rfl
      unfold ConductsAt
      rw [refused]
      exact ⟨⟨glue, rfl, .refl glue⟩, rfl⟩
  | netstack =>
      change ConductsAt _ _ (spawnNetstackService clock hal glue.kernel.rootThread choices) glue ∧
        (spawnNetstackService clock hal glue.kernel.rootThread choices glue).value? = none
      rw [spawnNetstackService_eq]
      have quiet : Conducts tid .quiet
          (netstackPrelude clock hal glue.kernel.rootThread choices) :=
        conducts_netstackPrelude clock hal glue.kernel.rootThread choices
      have prelude := quiet.anyhow glue
      have missed : ∀ setup later,
          netstackPrelude clock hal glue.kernel.rootThread choices glue ≠ .ok setup later := by
        intro setup later ran
        change (netstackPrelude clock hal glue.kernel.rootThread choices glue).value? = none
          at stops
        rw [ran] at stops
        cases stops
      refine ⟨prelude.bind fun setup later ran _ => absurd ran (missed setup later), ?_⟩
      cases ran : netstackPrelude clock hal glue.kernel.rootThread choices glue with
      | ok setup later => exact absurd ran (missed setup later)
      | err stop later => rw [Exec.bind_of_err ran]; rfl
      | panic => rw [Exec.bind_run, ran]; rfl

/-- The service is called for the caller, if it has been started. -/
theorem callsAt_callOf {service : Service} {caller : ThreadId}
    (started : glue.statics.serviceTid service ≠ none)
    (known : ¬ (service = .netstack ∧ glue.statics.serviceEp .netstack = u32Max)) :
    CallsAt caller (callOf clock hal service caller (glue.statics.serviceEp service)) glue := by
  have free : Manner.anyhow ≠ .prepares := by decide
  have calls : CallsAt caller
      (serviceIpcCall clock hal service caller (glue.statics.serviceEp service)) glue := by
    obtain ⟨server, found⟩ := Option.ne_none_iff_exists'.1 started
    have present : Exec.okOr Stop.refused (glue.statics.serviceTid service) glue =
        .ok server glue := by rw [found]; rfl
    refine .after (Exec.get_run glue) (.after present ?_)
    refine (callsAt_dispatch clock hal _ glue).bind fun result => ?_
    split
    · next next =>
      refine (conducts_schedDispatch clock free server).bind fun _ => ?_
      refine (conducts_switchPtrs caller server).bind fun switch => ?_
      obtain ⟨save, into⟩ := switch
      simp only
      split
      · exact (conducts_takeRequest server).bind fun _ => .pure _
      · exact .pure _
    · exact .throw _
  cases service with
  | netstack =>
      change CallsAt caller (if glue.statics.serviceEp .netstack = u32Max then _ else _) glue
      rw [if_neg fun unknown => known ⟨rfl, unknown⟩]
      exact calls
  | fs => exact calls
  | compositor => exact calls
  | mm => exact calls
  | drv => exact calls

/-- Otherwise nothing happens. -/
theorem callOf_stops {service : Service} {caller : ThreadId}
    (stops : glue.statics.serviceTid service = none ∨
      (service = .netstack ∧ glue.statics.serviceEp .netstack = u32Max)) :
    callOf clock hal service caller (glue.statics.serviceEp service) glue = .err .refused glue := by
  have absent : glue.statics.serviceTid service = none →
      serviceIpcCall clock hal service caller (glue.statics.serviceEp service) glue =
        .err .refused glue := by
    intro missing
    unfold serviceIpcCall
    rw [Exec.get_bind_run, missing]
    rfl
  cases service with
  | netstack =>
      change (if glue.statics.serviceEp .netstack = u32Max then _ else _ : GlueM μ _) glue = _
      split
      · rfl
      · next known =>
        rcases stops with missing | ⟨_, unknown⟩
        · exact absent missing
        · exact absurd unknown known
  | fs => exact absent (stops.resolve_right fun other => by cases other.1)
  | compositor => exact absent (stops.resolve_right fun other => by cases other.1)
  | mm => exact absent (stops.resolve_right fun other => by cases other.1)
  | drv => exact absent (stops.resolve_right fun other => by cases other.1)

/-- The map calls of the root task, as long as the handler gets to them. -/
theorem callsAt_mapRoot (frame : CapId) (vaddr : Nat) :
    CallsAt glue.kernel.rootThread (mapRoot clock hal frame vaddr) glue := by
  refine .after (Exec.get_run glue) ((callsAt_dispatch clock hal _ glue).bind fun result => ?_)
  split
  · exact .pure _
  · exact .throw _

variable (fresh : glue.trace = .empty) (runs : glue.kernel.sched.running = some tid)
  (a0 a1 : Nat)
include fresh

/-- An arm that acts for the thread that runs. -/
theorem attributed_of_actsFor (arm : Arm) (runs : glue.kernel.sched.running = some tid)
    (acts : arm.actsFor (some tid) glue.kernel.rootThread = tid)
    (saves : SavesAt tid (serve clock hal a0 a1 choices arm) glue) :
    Attributed tid (serve clock hal a0 a1 choices arm) glue := by
  have conducts := conducts_serve clock hal arm a0 a1 choices glue
  rw [runs, acts] at conducts
  exact attributed_of_conducts fresh conducts saves

include runs

theorem attributed_preemptStart
    (recorded : (glue.kernel.tcb glue.kernel.rootThread).isSome) :
    Attributed tid (serve clock hal a0 a1 choices .preemptStart) glue ↔
      Arm.Faithful clock hal choices tid glue .preemptStart := by
  change Attributed tid (preemptStart clock choices) glue ↔ _
  cases tried : (preemptPrelude clock choices glue).value? with
  | none =>
      refine ⟨fun _ => Or.inr tried, fun _ => ?_⟩
      exact @attributed_of_actsFor μ tid glue clock hal choices fresh a0 a1 .preemptStart runs
        rfl (preemptStart_stops clock tid tried)
  | some found =>
      obtain ⟨middle, ran⟩ := Outcome.eq_ok_of_value? tried
      obtain ⟨later, started⟩ := preemptStart_run clock recorded ran
      constructor
      · intro attributed
        exact Or.inl (attributed.saved started rfl)
      · rintro (isRoot | stops)
        · refine @attributed_of_actsFor μ tid glue clock hal choices fresh a0 a1 .preemptStart runs
            rfl fun outcome final ended save saved => ?_
          obtain ⟨rfl, rfl⟩ := Outcome.ok.inj (started.symm.trans ended)
          rw [isRoot]
          exact (Option.some.inj saved).symm
        · rw [tried] at stops
          cases stops

theorem attributed_start (demo : Demo) :
    Attributed tid (serve clock hal a0 a1 choices (.start demo)) glue ↔
      Arm.Faithful clock hal choices tid glue (.start demo) := by
  have begins : (rootThread : GlueM μ ThreadId) glue = .ok glue.kernel.rootThread glue := rfl
  constructor
  · intro attributed
    by_cases stops : demo.Stops clock hal choices glue
    · exact Or.inr stops
    · refine Or.inl (attributed.caller (.after begins ?_))
      refine (callsAt_startDemo stops).optional.bind fun started => ?_
      cases started with
      | none => exact .pure _
      | some found =>
          refine Conducts.bind ?_ fun _ => .pure _
          exact conducts_rememberEp found.1 demo
  · rintro (isRoot | stops)
    · refine attributed_of_actsFor fresh a0 a1 (.start demo) runs isRoot.symm (.after begins ?_)
      rw [← isRoot]
      exact savesAt_demoStart clock hal demo choices glue
    · have stop := @startDemo_stops μ tid glue clock hal choices demo stops
      obtain ⟨conducts, stopped⟩ := stop
      change Attributed tid (demoStart clock hal demo glue.kernel.rootThread choices) glue
      unfold demoStart
      exact attributed_of_stops fresh conducts stopped
        fun later => (rfl : _ = Outcome.ok (TrapOutcome.resume usizeMax) later)

theorem attributed_call (service : Service) :
    Attributed tid (serve clock hal a0 a1 choices (.call service)) glue ↔
      Arm.Faithful clock hal choices tid glue (.call service) := by
  have begins : (rootThread : GlueM μ ThreadId) glue = .ok glue.kernel.rootThread glue := rfl
  constructor
  · intro attributed
    by_cases stops : glue.statics.serviceTid service = none ∨
        (service = .netstack ∧ glue.statics.serviceEp .netstack = u32Max)
    · exact Or.inr stops
    · obtain ⟨started, known⟩ := not_or.1 stops
      refine Or.inl (attributed.caller (.after begins (.after (Exec.get_run glue) ?_)))
      refine (callsAt_callOf started known).optional.bind fun switch => ?_
      cases switch with
      | none => exact .pure _
      | some sw => exact .pure _
  · rintro (isRoot | stops)
    · refine attributed_of_actsFor fresh a0 a1 (.call service) runs isRoot.symm (.after begins ?_)
      rw [← isRoot]
      exact savesAt_serviceCall clock hal service glue
    · change Attributed tid (optional (callOf clock hal service glue.kernel.rootThread
        (glue.statics.serviceEp service)) >>= _) glue
      have refused := @callOf_stops μ glue clock hal service glue.kernel.rootThread stops
      refine attributed_of_stops fresh ?_ ?_
        fun later => (rfl : _ = Outcome.ok (TrapOutcome.resume 0) later)
      · unfold ConductsAt
        rw [refused]
        exact ⟨glue, rfl, .refl glue⟩
      · rw [refused]
        rfl

theorem attributed_retypeEndpoint :
    Attributed tid (serve clock hal a0 a1 choices .retypeEndpoint) glue ↔
      Arm.Faithful clock hal choices tid glue .retypeEndpoint := by
  have begins : (rootThread : GlueM μ ThreadId) glue = .ok glue.kernel.rootThread glue := rfl
  constructor
  · intro attributed
    refine attributed.caller (.after begins ?_)
    exact (callsAt_newObject clock hal .endpoint glue).optional.bind fun _ => .pure _
  · intro isRoot
    exact attributed_of_actsFor fresh a0 a1 .retypeEndpoint runs isRoot.symm
      (.after begins (savesAt_of_resumes resumes_orReturn))

theorem attributed_mapPage :
    Attributed tid (serve clock hal a0 a1 choices .mapPage) glue ↔
      Arm.Faithful clock hal choices tid glue .mapPage := by
  constructor
  · intro attributed
    have allocates : CallsAt glue.kernel.rootThread (allocRootFrame clock hal) glue := by
      refine .after (Exec.get_run glue) ((callsAt_newObject clock hal .untyped glue).bind
        fun cap => .getBind fun later => ?_)
      exact (Conducts.okOr _ _).bind fun _ => (Conducts.okOr _ _).bind fun _ =>
        (Conducts.okOr _ _).bind fun _ => .pure _
    have maps : CallsAt glue.kernel.rootThread (mapPage clock hal a0) glue := by
      refine allocates.bindAt fun frame later ran => ?_
      have acts : ConductsAt glue.kernel.rootThread .prepares (allocRootFrame clock hal) glue :=
        conducts_allocRootFrame clock hal rfl
      obtain ⟨final, ended, moves⟩ := acts
      rw [ran] at ended
      obtain rfl := Option.some.inj ended
      have maps := (conducts_mapRoot clock hal moves.rootThread frame.1 a0).anyhow
      refine maps.bind fun _ last _ _ => ?_
      exact ((conducts_modifyStatics _).bind fun _ => .pure _) last
    exact attributed.caller (maps.optional.bind fun _ => .pure _)
  · intro isRoot
    exact attributed_of_actsFor fresh a0 a1 .mapPage runs isRoot.symm
      (savesAt_of_resumes resumes_orReturn)

theorem attributed_mapAlias :
    Attributed tid (serve clock hal a0 a1 choices .mapAlias) glue ↔
      Arm.Faithful clock hal choices tid glue .mapAlias := by
  change Attributed tid (optional (mapAlias clock hal a0) >>= _) glue ↔ _
  by_cases stops : glue.statics.lastMappedFrame = 0
  · refine ⟨fun _ => Or.inr stops, fun _ => ?_⟩
    have refused : mapAlias clock hal a0 glue = .err .refused glue := by
      unfold mapAlias
      rw [Exec.get_bind_run, if_pos stops]
      rfl
    refine attributed_of_stops fresh ?_ ?_
      fun later => (rfl : _ = Outcome.ok (TrapOutcome.resume usizeMax) later)
    · unfold ConductsAt
      rw [refused]
      exact ⟨glue, rfl, .refl glue⟩
    · rw [refused]
      rfl
  · constructor
    · intro attributed
      refine Or.inl (attributed.caller (.bind (.optional (.after (Exec.get_run glue) ?_)) ?_))
      · rw [if_neg stops]
        exact (callsAt_mapRoot _ a0).bind fun _ => .pure _
      · exact fun _ => .pure _
    · intro faithful
      exact @attributed_of_actsFor μ tid glue clock hal choices fresh a0 a1 .mapAlias runs
        (faithful.resolve_right stops).symm (savesAt_of_resumes resumes_orReturn)

/-- Exactly the faithful arms keep to the thread that has trapped. -/
theorem attributed_serve (arm : Arm)
    (recorded : (glue.kernel.tcb glue.kernel.rootThread).isSome) :
    Attributed tid (serve clock hal a0 a1 choices arm) glue ↔
      arm.Faithful clock hal choices tid glue := by
  -- The arms that take the running thread from the scheduler do so in every case.
  have always : ∀ arm : Arm, arm.actsFor (some tid) glue.kernel.rootThread = tid →
      SavesAt tid (serve clock hal a0 a1 choices arm) glue →
        (Attributed tid (serve clock hal a0 a1 choices arm) glue ↔ True) := by
    intro arm acts saves
    exact iff_true_intro (attributed_of_actsFor fresh a0 a1 arm runs acts saves)
  have caller := runningOrRoot_run runs
  cases arm with
  | yield => exact always .yield rfl (savesAt_orResume fun _ _ ran => saves_p2Yield clock runs ran)
  | preemptStart => exact attributed_preemptStart fresh runs a0 a1 recorded
  | dmReport =>
      refine always .dmReport rfl (savesAt_of_resumes ?_)
      change Exec.Yields _ (dmReport a0)
      unfold dmReport
      split
      · exact .after fun _ => .pure rfl
      · exact .pure rfl
  | dmWaitCrash =>
      exact always .dmWaitCrash rfl
        (savesAt_orResume fun _ _ ran => saves_p2DmWaitCrash clock runs ran)
  | dmPollCrash => exact always .dmPollCrash rfl (savesAt_of_resumes resumes_orReturn)
  | dmRespawnDriver =>
      exact always .dmRespawnDriver rfl (savesAt_dmRespawnDriver clock runs choices)
  | ipcDemoStart =>
      exact always .ipcDemoStart rfl (.after caller (savesAt_ipcDemoStart clock hal choices glue))
  | ipcEndpointCap =>
      refine always .ipcEndpointCap rfl (savesAt_of_resumes ?_)
      exact .after fun _ => .pure rfl
  | ipcCall => exact always .ipcCall rfl (.after caller (savesAt_ipcCall clock hal a0 a1 glue))
  | ipcRecv => exact always .ipcRecv rfl (.after caller (savesAt_ipcRecv clock hal a0 glue))
  | ipcReply =>
      exact always .ipcReply rfl (.after caller (savesAt_ipcReply clock hal a0 a1 glue))
  | start demo => exact attributed_start fresh runs a0 a1 demo
  | call service => exact attributed_call fresh runs a0 a1 service
  | irqWait =>
      refine always .irqWait rfl (savesAt_of_resumes ?_)
      exact .after fun _ => .after fun _ => .pure rfl
  | retypeEndpoint => exact attributed_retypeEndpoint fresh runs a0 a1
  | mapPage => exact attributed_mapPage fresh runs a0 a1
  | mapAlias => exact attributed_mapAlias fresh runs a0 a1
  | report => exact always .report rfl (savesAt_of_resumes (.pure rfl))

end Arms

end GlueM

namespace UserMode

variable {μ : Type} {arch : Architecture} {clock : Nat → Nat} {hal : HalInterface μ}

/-- A system call is served on behalf of the thread that has made it if and only if its arm
is faithful. -/
theorem syscall_attributed_iff {state : UserMode μ} {tid : ThreadId}
    (reachable : (system arch clock hal).Reachable TransitionSystem.anyStep state)
    (runs : state.glue.kernel.sched.running = some tid) (opcode a0 a1 : Nat)
    (choices : Choices) :
    GlueM.Attributed tid (GlueM.handle arch clock hal (.syscall opcode a0 a1 choices))
        state.entered ↔
      (Arm.of arch opcode).Faithful clock hal choices tid state.entered := by
  have fresh : state.entered.trace = .empty := rfl
  have recorded := root_recorded reachable
  exact GlueM.attributed_serve fresh runs a0 a1 (Arm.of arch opcode) recorded

/-- The root task starts the file system. -/
theorem syscall_attributed_iff_sample :
    ∃ state : UserMode Unit, state.glue.kernel.sched.running = some 0 ∧
      GlueM.Attributed 0 (GlueM.handle .riscv64 GlueM.sampleClock sampleHal
        (.syscall 45 0 0 Supervised.sampleChoices)) state.entered := by
  have launchedRuns : launched.glue.kernel.sched.running = some 0 := by
    decide +kernel
  have launchedRoot : launched.entered.kernel.rootThread = 0 := by
    decide +kernel
  have starts : Arm.of .riscv64 45 = .start .fs := by decide
  -- Under a name of its own the machine is not evaluated.
  obtain ⟨state, same⟩ : ∃ state, state = launched := ⟨_, rfl⟩
  have runs : state.glue.kernel.sched.running = some 0 := by rw [same]; exact launchedRuns
  have root : state.entered.kernel.rootThread = 0 := by rw [same]; exact launchedRoot
  have initial : (system .riscv64 GlueM.sampleClock sampleHal).Initial state := by
    rw [same]
    exact launched_initial
  have reachable : (system .riscv64 GlueM.sampleClock sampleHal).Reachable
      TransitionSystem.anyStep state := ⟨state, initial, .refl _⟩
  have attributed := syscall_attributed_iff reachable runs 45 0 0 Supervised.sampleChoices
  rw [starts] at attributed
  exact ⟨state, runs, attributed.2 (Or.inl root.symm)⟩

/-- The worker starts the file system with the capabilities of the root task. -/
theorem worker_acts_as_root :
    ¬ ∀ (state : UserMode Unit) (tid : ThreadId),
      (system .riscv64 GlueM.sampleClock sampleHal).Reachable TransitionSystem.anyStep state →
        state.glue.kernel.sched.running = some tid →
          ∀ opcode a0 a1 choices,
            GlueM.Attributed tid (GlueM.handle .riscv64 GlueM.sampleClock sampleHal
              (.syscall opcode a0 a1 choices)) state.entered := by
  intro claimed
  have ran : (next .riscv64 GlueM.sampleClock sampleHal launched
      (.syscall 20 0 0 Supervised.sampleChoices)).any fun state =>
        state.glue.kernel.sched.running = some 1 ∧ state.glue.kernel.rootThread = 0 := by
    decide +kernel
  obtain ⟨last, reached, final⟩ := (Option.any_eq_true _ _).1 ran
  obtain ⟨runs, root⟩ := of_decide_eq_true final
  have step := step_of_next .riscv64 GlueM.sampleClock sampleHal _ _ _ reached
  have attributed := claimed last 1
    ⟨launched, launched_initial, .step (.refl _) trivial step⟩ runs 45 0 0
    Supervised.sampleChoices
  have fresh : last.entered.trace = .empty := rfl
  rcases (GlueM.attributed_start fresh runs 0 0 .fs).1 attributed with isRoot | stops
  · change 1 = last.glue.kernel.rootThread at isRoot
    rw [root] at isRoot
    cases isRoot
  · exact stops

end UserMode

end Simurgh
