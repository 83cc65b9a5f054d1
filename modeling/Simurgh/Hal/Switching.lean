import Simurgh.Hal.Context

/-!
# Switching between user threads

The trap vector executes what the handlers decide.  It suspends the trapping thread with
one of the two routines and resumes another thread.  The buffers behave as those of
`ContextSwitch`.
-/

namespace Simurgh

open ContextSwitch (Mode History)

/-- A processor in user mode, with the saved registers of all threads and where they are in
memory. -/
structure Board (code : ContextCode) where
  current : ThreadId
  live : code.Reg → Word
  contexts : ThreadId → code.Context
  places : ThreadId → Nat

/-- What happens to the registers. -/
inductive SwitchEvent (code : ContextCode) where
  /-- The current thread computes. -/
  | compute (live : code.Reg → Word)
  /-- A trap returns to the current thread, or traps again in its own frame. -/
  | resume (live : code.Reg → Word)
  /-- `init_user_context`. -/
  | initUserContext (thread : ThreadId) (context : code.Context)
  /-- A system call ends with `SwitchTo`. -/
  | switchTo (save into : ThreadId)
  /-- A system call ends with `SwitchToFast`, maybe after `poke_saved_a0_a1`. -/
  | switchToFast (save into : ThreadId) (poke : Option (Word × Word))
  /-- A tick of the timer ends with `SwitchTo`. -/
  | preempt (save into : ThreadId)
  /-- A fault ends with `Terminate`. -/
  | terminate (into : ThreadId)

variable {code : ContextCode}

/-- An event of which a trap is a part. -/
def SwitchEvent.traps : SwitchEvent code → Bool
  | compute _ => false
  | initUserContext _ _ => false
  | _ => true

/-- An event, with the words that the functions of the trap vector put below its frame. -/
structure SwitchStep (code : ContextCode) where
  change : SwitchEvent code
  spills : List (Nat × Word)

/-- The thread that resumes. -/
def SwitchEvent.into : SwitchEvent code → Option ThreadId
  | compute _ => none
  | resume _ => none
  | initUserContext _ _ => none
  | switchTo _ into => some into
  | switchToFast _ into _ => some into
  | preempt _ into => some into
  | terminate into => some into

/-- The thread whose buffer takes the registers. -/
def SwitchEvent.saved : SwitchEvent code → Option ThreadId
  | switchTo save _ => some save
  | switchToFast save _ _ => some save
  | preempt save _ => some save
  | _ => none

/-- The result registers that the handler has poked. -/
def SwitchEvent.poked : SwitchEvent code → code.Reg → Option Word
  | switchToFast _ _ (some (a0, a1)) => code.results a0 a1
  | _ => fun _ => none

namespace Board

/-- Save the registers to one buffer and restore them from another one. -/
def switch (board : Board code) (store : code.Context → code.Context)
    (restore : code.Context → code.Reg → Word) (save into : ThreadId) :
    Option (Board code) :=
  -- `user_ctx_switch_ptrs` refuses to switch a thread to itself.
  if into = save then none
  else
    let contexts := ContextSwitch.assign save (store (board.contexts save)) board.contexts
    some { board with current := into, live := restore (contexts into), contexts }

/-- Write the result registers of a suspended thread. -/
def pokeInto (board : Board code) (into : ThreadId) : Option (Word × Word) → Board code
  | none => board
  | some (a0, a1) =>
      { board with
        contexts := ContextSwitch.assign into (code.poke a0 a1 (board.contexts into))
          board.contexts }

/-- The board after an event. -/
def next (board : Board code) : SwitchEvent code → Option (Board code)
  | .compute live => some { board with live }
  | .resume live => some { board with live }
  | .initUserContext thread context =>
      some { board with contexts := ContextSwitch.assign thread context board.contexts }
  | .switchTo save into =>
      board.switch (code.saveFull (code.pastCall board.live)) code.restoreFull save into
  | .switchToFast save into poke =>
      (board.pokeInto into poke).switch (code.saveFast (code.pastCall board.live))
        code.restoreFast save into
  | .preempt save into =>
      board.switch (code.saveFull board.live) code.restoreFull save into
  | .terminate into =>
      some { board with current := into, live := code.restoreFull (board.contexts into) }

/-- The board after the stores of a trap. -/
def trapped (board : Board code) (spills : List (Nat × Word)) : Board code :=
  { board with
    contexts := fun thread =>
      code.trapped board.live spills (board.places thread) (board.contexts thread) }

/-- The board after an event, and after the stores of its trap. -/
def step (board : Board code) (taken : SwitchStep code) : Option (Board code) :=
  (if taken.change.traps then board.trapped taken.spills else board).next taken.change

/-- The stores of the trap reach no saved context. -/
def missesContexts (board : Board code) (taken : SwitchStep code) : Prop :=
  taken.change.traps = true →
    ∀ thread, ¬ code.trapHits board.live taken.spills (board.places thread)

theorem step_of_misses {board : Board code} {taken : SwitchStep code}
    (misses : board.missesContexts taken) : board.step taken = board.next taken.change := by
  unfold Board.step
  cases trap : taken.change.traps with
  | false => rfl
  | true =>
      have kept : board.trapped taken.spills = board := by
        unfold trapped
        congr 1
        funext thread
        exact code.trapped_of_not_hits _ _ _ _ (misses trap thread)
      rw [if_pos rfl, kept]

/-! ## The processor behind a board -/

/-- The registers that the buffers stand for. -/
def processor (board : Board code) : ContextSwitch.Processor ThreadId code.Reg Word where
  current := board.current
  live := board.live
  buffers := fun thread => code.view (board.contexts thread)

/-- What an event does to the processor. -/
def event (event : SwitchEvent code) : ContextSwitch.Event ThreadId code.Reg Word :=
  match event with
  | .compute live => .compute live
  | .resume live => .compute live
  | .initUserContext thread context => .setUp thread (code.view context)
  | .switchTo _ into => .switch .full code.pastCall (fun _ => none) into
  | .switchToFast _ into none => .switch .short code.pastCall (fun _ => none) into
  | .switchToFast _ into (some (a0, a1)) =>
      .switch .short code.pastCall (code.results a0 a1) into
  | .preempt _ into => .switch .full id (fun _ => none) into
  | .terminate into => .abandon into

theorem view_assign (place : ThreadId) (context : code.Context)
    (contexts : ThreadId → code.Context) :
    (fun thread => code.view (ContextSwitch.assign place context contexts thread)) =
      ContextSwitch.assign place (code.view context)
        fun thread => code.view (contexts thread) := by
  funext thread
  unfold ContextSwitch.assign
  by_cases same : thread = place
  · rw [if_pos same, if_pos same]
  · rw [if_neg same, if_neg same]

/-- Writing nothing into a buffer. -/
theorem assign_unwritten (place : ThreadId) (buffers : ThreadId → code.Reg → Word) :
    ContextSwitch.assign place
      (ContextSwitch.overwrite (fun _ => none) (buffers place)) buffers = buffers := by
  funext thread
  unfold ContextSwitch.assign
  by_cases same : thread = place
  · rw [if_pos same, same]
    rfl
  · rw [if_neg same]

/-- A pair of routines that moves what `mode` says switches the processor. -/
theorem switch_simulates {board later : Board code} {mode : Mode}
    {store : code.Context → code.Context} {restore : code.Context → code.Reg → Word}
    {adjust : (code.Reg → Word) → code.Reg → Word} {save into : ThreadId}
    {patch : code.Reg → Option Word} {before : ContextSwitch.Processor ThreadId code.Reg Word}
    (saves : ∀ context,
      code.view (store context) =
        ContextSwitch.save code.kept mode (adjust before.live) (code.view context))
    (restores : ∀ context,
      restore context = ContextSwitch.restore code.kept 0 mode (code.view context))
    (current : save = before.current)
    (patched : (fun thread => code.view (board.contexts thread)) =
      ContextSwitch.assign into
        (ContextSwitch.overwrite patch (before.buffers into)) before.buffers)
    (taken : board.switch store restore save into = some later) :
    (ContextSwitch.system code.kept 0).Step before (.switch mode adjust patch into)
      later.processor := by
  unfold Board.switch at taken
  by_cases same : into = save
  · simp [same] at taken
  · rw [if_neg same] at taken
    obtain rfl := Option.some.inj taken
    have distinct : into ≠ before.current := current ▸ same
    have untouched : code.view (board.contexts before.current) =
        before.buffers before.current := by
      have there := congrFun patched before.current
      rwa [ContextSwitch.assign_of_ne (Ne.symm distinct)] at there
    have buffers : (fun thread => code.view
        (ContextSwitch.assign save (store (board.contexts save)) board.contexts thread)) =
        before.stored code.kept mode adjust patch into := by
      rw [view_assign, patched, saves, current, untouched]
      rfl
    change before.next code.kept 0 _ = _
    unfold ContextSwitch.Processor.next
    change (if into = before.current then none else some _) = _
    rw [if_neg distinct, ← buffers, ← restores]
    rfl

/-- The board, with other registers of the current thread. -/
def withLive (board : Board code) (live : code.Reg → Word) : Board code :=
  { board with live }

/-- The registers are saved to the buffer of the thread that they belong to. -/
def ownBuffer (board : Board code) (change : SwitchEvent code) : Prop :=
  ∀ save, change.saved = some save → save = board.current

/-- The trap vector switches the processor as the library says. -/
theorem next_simulates {board later : Board code} {change : SwitchEvent code}
    (own : board.ownBuffer change) (taken : board.next change = some later) :
    (ContextSwitch.system code.kept 0).Step board.processor (event change)
      later.processor := by
  have unwritten : ∀ into : ThreadId,
      (fun thread => code.view (board.contexts thread)) =
        ContextSwitch.assign into
          (ContextSwitch.overwrite (fun _ => none) (board.processor.buffers into))
          board.processor.buffers := fun into => (assign_unwritten into _).symm
  cases change with
  | compute live =>
      obtain rfl := Option.some.inj taken
      rfl
  | resume live =>
      obtain rfl := Option.some.inj taken
      rfl
  | initUserContext thread context =>
      obtain rfl := Option.some.inj taken
      change some _ = some _
      rw [Option.some.injEq]
      unfold processor
      rw [view_assign]
  | terminate into =>
      obtain rfl := Option.some.inj taken
      change some _ = some _
      rw [Option.some.injEq]
      unfold processor
      rw [code.restoreFull_eq]
  | switchTo save into =>
      exact switch_simulates (fun context => code.view_saveFull _ context)
        code.restoreFull_eq (own save rfl) (unwritten into) taken
  | preempt save into =>
      exact switch_simulates (fun context => code.view_saveFull _ context)
        code.restoreFull_eq (own save rfl) (unwritten into) taken
  | switchToFast save into poke =>
      cases poke with
      | none =>
          exact switch_simulates (fun context => code.view_saveFast _ context)
            code.restoreFast_eq (own save rfl) (unwritten into) taken
      | some results =>
          obtain ⟨a0, a1⟩ := results
          have patched : (fun thread =>
              code.view ((board.pokeInto into (some (a0, a1))).contexts thread)) =
              ContextSwitch.assign into
                (ContextSwitch.overwrite (code.results a0 a1)
                  (board.processor.buffers into)) board.processor.buffers := by
            unfold pokeInto
            rw [view_assign, code.view_poke]
            rfl
          exact switch_simulates (fun context => code.view_saveFast _ context)
            code.restoreFast_eq (own save rfl) patched taken

/-! ## Runs -/

/-- Boards and what happens to them, with the history of suspensions. -/
def system (code : ContextCode) :
    TransitionSystem (Board code × History ThreadId code.Reg Word) (SwitchStep code) :=
  TransitionSystem.recording
    { Initial := fun _ => True
      Step := fun before taken after => before.step taken = some after }
    (fun before taken after =>
      ContextSwitch.record before.processor (event taken.change) after.processor)
    fun _ => none

/-- No `SwitchToFast` resumes a thread that a full routine has suspended. -/
def resumesFastOnly (state : Board code × History ThreadId code.Reg Word) :
    SwitchEvent code → Prop
  | .switchToFast _ into _ => ∀ registers, state.2 into ≠ some (.full, registers)
  | _ => True

/-- Threads are saved to their own buffers, which no trap stores into by its stack. -/
def undisturbed (state : Board code × History ThreadId code.Reg Word)
    (taken : SwitchStep code) : Prop :=
  state.1.ownBuffer taken.change ∧ state.1.missesContexts taken

/-- Besides, the fast routine resumes what it has suspended. -/
def paired (state : Board code × History ThreadId code.Reg Word)
    (taken : SwitchStep code) : Prop :=
  undisturbed state taken ∧ resumesFastOnly state taken.change

/-- A thread resumes as it was suspended.  One that was suspended in full has all its
registers.  One that was suspended by `SwitchToFast` has those that are kept, up to the
results that were poked.  Nothing depends on the registers of the outgoing thread, nor on
what the trap put on its stack. -/
structure Resumes (state : Board code × History ThreadId code.Reg Word)
    (change : SwitchEvent code) (into : ThreadId) (later : Board code) : Prop where
  full : ∀ registers, state.2 into = some (.full, registers) → later.live = registers
  short : ∀ registers, state.2 into = some (.short, registers) →
    ∀ register, code.kept register = true →
      later.live register = (change.poked register).getD (registers register)
  independent : ∀ live spills other, (state.1.withLive live).missesContexts ⟨change, spills⟩ →
    (state.1.withLive live).step ⟨change, spills⟩ = some other → other.live = later.live

/-- The buffers of every reachable board hold what was saved. -/
theorem holds_of_reachable
    {admits : Board code × History ThreadId code.Reg Word → SwitchStep code → Prop}
    (calm : ∀ state taken, admits state taken → undisturbed state taken)
    {state : Board code × History ThreadId code.Reg Word}
    (reachable : (system code).Reachable admits state) :
    ContextSwitch.Holds code.kept state.1.processor state.2 := by
  let holds (state : Board code × History ThreadId code.Reg Word) : Prop :=
    ContextSwitch.Holds code.kept state.1.processor state.2
  have initially : ∀ start, (system code).Initial start → holds start := by
    rintro ⟨board, history⟩ ⟨_, same⟩ thread mode registers recorded
    have empty : history = fun _ => none := same
    rw [empty] at recorded
    simp at recorded
  have steps : ∀ before taken after, admits before taken → holds before →
      (system code).Step before taken after → holds after := by
    rintro before taken ⟨board, history⟩ admitted kept ⟨ran, same⟩
    have recorded : history = ContextSwitch.record before.1.processor (event taken.change)
        board.processor before.2 := same
    obtain ⟨own, misses⟩ := calm before taken admitted
    have moved : before.1.next taken.change = some board := (step_of_misses misses).symm.trans ran
    change ContextSwitch.Holds code.kept board.processor history
    rw [recorded]
    exact kept.step (next_simulates own moved)
  exact @TransitionSystem.Reachable.invariant _ _ _ _ holds _ reachable initially steps

/-- What a switch restores in full, and what it restores fast. -/
private theorem resumes_of_switch {state : Board code × History ThreadId code.Reg Word}
    {change : SwitchEvent code} {later : Board code} {into : ThreadId} {mode : Mode}
    {adjust : (code.Reg → Word) → code.Reg → Word} {patch : code.Reg → Option Word}
    (holds : ContextSwitch.Holds code.kept state.1.processor state.2)
    (own : state.1.ownBuffer change)
    (same : event change = .switch mode adjust patch into)
    (poked : change.poked = patch)
    (unpatched : mode = .full → patch = fun _ => none)
    (admitted : mode = .short → ∀ registers, state.2 into ≠ some (.full, registers))
    (taken : state.1.next change = some later) : Resumes state change into later where
  full := by
    intro registers recorded
    have step := next_simulates own taken
    rw [same] at step
    cases mode with
    | short => exact absurd recorded (admitted rfl registers)
    | full =>
        funext register
        have resumed : later.processor.live register =
            (patch register).getD (registers register) := holds.resumes recorded step rfl rfl
        rw [unpatched rfl] at resumed
        exact resumed
  short := by
    intro registers recorded register kept
    have step := next_simulates own taken
    rw [same] at step
    rw [poked]
    exact holds.resumes recorded step kept (ContextSwitch.carries_of_short code.kept kept mode)
  independent := by
    intro live spills other misses varied
    have step := next_simulates own taken
    have ownToo : (state.1.withLive live).ownBuffer change := own
    rw [step_of_misses misses] at varied
    have changed := next_simulates ownToo varied
    rw [same] at step changed
    exact ContextSwitch.live_independent step changed

end Board

/-- On every architecture, in every run in which threads are saved to their own buffers, no
trap stores into a buffer by its stack, and `SwitchToFast` only resumes threads that
`SwitchToFast` has suspended, threads resume as they were suspended. -/
theorem registers_resume_as_saved (arch : Architecture)
    {state : Board arch.contextCode × History ThreadId arch.contextCode.Reg Word}
    {taken : SwitchStep arch.contextCode} {into : ThreadId}
    {later : Board arch.contextCode}
    (reachable : (Board.system arch.contextCode).Reachable Board.paired state)
    (admitted : Board.paired state taken)
    (resumed : taken.change.into = some into)
    (ran : state.1.step taken = some later) :
    Board.Resumes state taken.change into later := by
  have holds := Board.holds_of_reachable (fun _ _ paired => paired.1) reachable
  obtain ⟨change, spills⟩ := taken
  obtain ⟨⟨own, misses⟩, fastOnly⟩ := admitted
  have taken : state.1.next change = some later := (Board.step_of_misses misses).symm.trans ran
  cases change with
  | compute live => simp [SwitchEvent.into] at resumed
  | resume live => simp [SwitchEvent.into] at resumed
  | initUserContext thread context => simp [SwitchEvent.into] at resumed
  | switchTo save other =>
      obtain rfl := Option.some.inj resumed
      exact Board.resumes_of_switch holds own rfl rfl (fun _ => rfl) (by simp) taken
  | preempt save other =>
      obtain rfl := Option.some.inj resumed
      exact Board.resumes_of_switch holds own rfl rfl (fun _ => rfl) (by simp) taken
  | switchToFast save other poke =>
      obtain rfl := Option.some.inj resumed
      cases poke with
      | none =>
          exact Board.resumes_of_switch holds own rfl rfl (by simp) (fun _ => fastOnly) taken
      | some results =>
          exact Board.resumes_of_switch holds own rfl rfl (by simp) (fun _ => fastOnly) taken
  | terminate other =>
      obtain rfl := Option.some.inj resumed
      have step := Board.next_simulates own taken
      constructor
      · intro registers recorded
        funext register
        exact holds.inherits recorded step rfl
      · intro registers recorded register kept
        exact holds.inherits recorded step kept
      · intro live spills varied missesToo changed
        rw [Board.step_of_misses missesToo] at changed
        obtain rfl := Option.some.inj taken
        obtain rfl := Option.some.inj changed
        rfl

/-! ## Small runs -/

section Samples

/-- Thread 0 runs on RISC-V, with the same word in every register. -/
def sampleBoard : Board Riscv64.code where
  current := 0
  live := fun _ => 7
  contexts := fun _ =>
    ({ regs := fun _ => 0, sepc := 0, sstatus := 0, satp := 0 } : Riscv64.RiscvUserContext)
  places := fun thread => if thread = 0 then 0x1000 else 0x2000

/-- The board after thread 0 has left the processor to thread 1. -/
def leaves (change : SwitchEvent Riscv64.code) : Board Riscv64.code :=
  (sampleBoard.next change).getD sampleBoard

/-- What is recorded then. -/
def leavesRecord (change : SwitchEvent Riscv64.code) :
    History ThreadId Riscv64.code.Reg Word :=
  ContextSwitch.record sampleBoard.processor (Board.event change) (leaves change).processor
    fun _ => none

/-- The frame below a small stack pointer is at the end of the address space. -/
theorem misses_of_pointer {board : Board Riscv64.code} {change : SwitchEvent Riscv64.code}
    (pointer : board.live (.x 1) = (0 : Word) ∨ board.live (.x 1) = (7 : Word))
    (places : board.places = sampleBoard.places) : board.missesContexts ⟨change, []⟩ := by
  rintro _ thread ⟨store, member, before, -⟩
  have low : board.places thread ≤ 0x2000 := by
    rw [places]
    change (if thread = 0 then 0x1000 else 0x2000) ≤ 0x2000
    split <;> decide
  have high : ∀ i : Fin 31, 0x10000 ≤ ((0 : Word) - 248 + BitVec.ofNat 64 (8 * i)).toNat ∧
      0x10000 ≤ ((7 : Word) - 248 + BitVec.ofNat 64 (8 * i)).toNat := by decide
  rcases List.mem_append.1 member with frame | spilled
  case inr => exact absurd spilled List.not_mem_nil
  obtain ⟨i, -, rfl⟩ := List.mem_map.1 frame
  change (board.live (.x 1) - 248 + BitVec.ofNat 64 (8 * i)).toNat < _ at before
  rcases pointer with same | same
  · rw [same] at before
    have := (high i).1
    omega
  · rw [same] at before
    have := (high i).2
    omega

theorem reachable_leaves
    {admits : Board Riscv64.code × History ThreadId Riscv64.code.Reg Word →
      SwitchStep Riscv64.code → Prop} {change : SwitchEvent Riscv64.code}
    (admitted : admits (sampleBoard, fun _ => none) ⟨change, []⟩)
    (possible : (sampleBoard.next change).isSome = true) :
    (Board.system Riscv64.code).Reachable admits (leaves change, leavesRecord change) := by
  have initially : (Board.system Riscv64.code).Initial (sampleBoard, fun _ => none) :=
    ⟨trivial, rfl⟩
  have taken : sampleBoard.step ⟨change, []⟩ = some (leaves change) := by
    obtain ⟨later, reached⟩ := Option.isSome_iff_exists.1 possible
    rw [Board.step_of_misses (misses_of_pointer (.inr rfl) rfl), leaves]
    change sampleBoard.next change = _
    rw [reached]
    rfl
  exact ⟨_, initially, .step (.refl _) admitted ⟨taken, rfl⟩⟩

/-- The board after thread 1 has left the processor to thread 0. -/
def returns (first second : SwitchEvent Riscv64.code) : Board Riscv64.code :=
  ((leaves first).next second).getD (leaves first)

/-- A thread that called and is called back keeps `s0` and finds the message in `a0`. -/
theorem registers_resume_as_saved_sample :
    let later := returns (.switchToFast 0 1 none) (.switchToFast 1 0 (some (3, 4)))
    later.live (.x 7) = (7 : Word) ∧ later.live (.x 9) = (3 : Word) := by
  let call : SwitchEvent Riscv64.code := .switchToFast 0 1 none
  let reply : SwitchEvent Riscv64.code := .switchToFast 1 0 (some (3, 4))
  have own : ∀ (board : Board Riscv64.code) (save into : ThreadId)
      (poke : Option (Word × Word)), save = board.current →
      board.ownBuffer (.switchToFast save into poke) := by
    intro board save into poke same other saved
    rw [← Option.some.inj saved]
    exact same
  have called : Board.paired (sampleBoard, fun _ => none) ⟨call, []⟩ := by
    refine ⟨⟨own _ _ _ _ rfl, misses_of_pointer (.inr rfl) rfl⟩, fun registers => ?_⟩
    simp
  have reachable : (Board.system Riscv64.code).Reachable Board.paired
      (leaves call, leavesRecord call) := reachable_leaves called rfl
  have recorded : leavesRecord call 0 =
      some (.short, Riscv64.code.pastCall sampleBoard.live) := rfl
  have quiet : (leaves call).missesContexts ⟨reply, []⟩ := misses_of_pointer (.inl rfl) rfl
  have replied : Board.paired (leaves call, leavesRecord call) ⟨reply, []⟩ := by
    refine ⟨⟨own _ _ _ _ rfl, quiet⟩, fun registers full => ?_⟩
    have clash := recorded.symm.trans full
    simp at clash
  have taken : (leaves call).step ⟨reply, []⟩ = some (returns call reply) :=
    Board.step_of_misses quiet
  have resumes : Board.Resumes (leaves call, leavesRecord call) reply 0
      (returns call reply) :=
    registers_resume_as_saved .riscv64 reachable replied rfl taken
  constructor
  · exact resumes.short _ recorded (.x 7) rfl
  · exact resumes.short _ recorded (.x 9) rfl

/-- A thread that a tick has suspended loses `t0` when a message resumes it. -/
theorem preempted_loses_registers :
    ¬ ∀ (arch : Architecture)
      (state : Board arch.contextCode × History ThreadId arch.contextCode.Reg Word)
      (taken : SwitchStep arch.contextCode) (into : ThreadId)
      (later : Board arch.contextCode),
      (Board.system arch.contextCode).Reachable Board.undisturbed state →
      Board.undisturbed state taken → taken.change.into = some into →
      state.1.step taken = some later →
      Board.Resumes state taken.change into later := by
  intro claimed
  let tick : SwitchEvent Riscv64.code := .preempt 0 1
  let reply : SwitchEvent Riscv64.code := .switchToFast 1 0 none
  have ticked : sampleBoard.ownBuffer tick := by
    intro save saved
    exact (Option.some.inj saved).symm
  have replied : (leaves tick).ownBuffer reply := by
    intro save saved
    exact (Option.some.inj saved).symm
  have quiet : (leaves tick).missesContexts ⟨reply, []⟩ := misses_of_pointer (.inl rfl) rfl
  have reachable : (Board.system Riscv64.code).Reachable Board.undisturbed
      (leaves tick, leavesRecord tick) :=
    reachable_leaves ⟨ticked, misses_of_pointer (.inr rfl) rfl⟩ rfl
  have recorded : leavesRecord tick 0 = some (.full, sampleBoard.live) := rfl
  have resumes : Board.Resumes (leaves tick, leavesRecord tick) reply 0
      (returns tick reply) :=
    claimed .riscv64 (leaves tick, leavesRecord tick) ⟨reply, []⟩ 0 _ reachable ⟨replied, quiet⟩
      rfl (Board.step_of_misses quiet)
  have same := congrFun (resumes.full _ recorded) (.x 4)
  have lost : (returns tick reply).live (.x 4) = (0 : Word) := rfl
  rw [lost] at same
  exact absurd same (by decide)

end Samples

end Simurgh
