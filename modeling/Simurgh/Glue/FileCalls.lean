import Simurgh.Protocol.Fs
import Simurgh.Glue.Supervision

/-!
# Calls of the file system

A call writes its request into a page that is shared with the file system, which writes
its response into the same page.  Later the result is read from there.
-/

namespace Simurgh

/-! ## The shared page -/

/-- A label and all the words of a message. -/
structure SharedPage where
  label : Nat
  words : Vector Nat msgMaxWords
  deriving DecidableEq, Repr

namespace SharedPage

def zeroed : SharedPage := { label := 0, words := Vector.replicate msgMaxWords 0 }

/-- `write_shared_fs_message`.  Words that the message does not have are zero. -/
def write (msg : SmallMessage) : SharedPage :=
  { label := msg.label, words := Vector.ofFn fun i => msg.payload.getD i 0 }

/-- `read_shared_fs_message`. -/
def read (page : SharedPage) : SmallMessage := .ofWords page.label page.words.toList

@[simp]
theorem payload_read (page : SharedPage) : page.read.payload = page.words.toList :=
  SmallMessage.payload_ofWords _ (Nat.le_of_eq page.words.length_toList)

theorem payload_read_full (page : SharedPage) : msgMaxWords ≤ page.read.payload.length := by
  rw [payload_read, Vector.length_toList]

/-- The page keeps what a message carries. -/
theorem read_write_carries {msg : SmallMessage} {label : Nat} {fields : List Nat}
    (carries : msg.Carries label fields) (fits : fields.length ≤ msgMaxWords) :
    (write msg).read.Carries label fields := by
  constructor
  · exact (SmallMessage.label_ofWords _ _).trans carries.labelled
  · exact Nat.le_trans fits (payload_read_full _)
  · intro i inside
    have small : i < msgMaxWords := Nat.lt_of_lt_of_le inside fits
    rw [← carries.word i inside]
    unfold SmallMessage.word
    rw [payload_read]
    simp [write, List.getD, small]

end SharedPage

/-! ## Calls and results -/

/-- The operations that have opcodes for a call and for its result. -/
inductive FsCall where
  | open
  | stat
  | close
  | write
  | read
  deriving DecidableEq, Repr

/-- `FS_DATA_SHARED_CAP_SLOT`. -/
def fsDataSharedCapSlot : UInt32 := 1

/-- The length of `FS_DEMO_WRITE_DATA`. -/
def fsDemoWriteLen : UInt32 := 4096

namespace FsCall

/-- `FS_OPEN`, `FS_STAT`, `FS_CLOSE`, `FS_WRITE` and `FS_READ`. -/
def opcode : FsCall → Nat
  | .open => 46
  | stat => 48
  | close => 50
  | write => 52
  | read => 54

/-- The request of a call, from its registers. -/
def request (a0 a1 : Nat) : FsCall → FsRequest
  | .open => .open (.ofNat a0) ((OpenFlags.fromBits (.ofNat a1)).getD .empty)
  | stat => .stat (.ofNat a0)
  | close => .close (.ofNat a0)
  | write => .write (.ofNat a0) 0 fsDemoWriteLen fsDataSharedCapSlot
  | read => .read (.ofNat a0) 0 (.ofNat a1) fsDataSharedCapSlot

end FsCall

def fsOpenResult (page : SharedPage) : Nat :=
  match decodeFsResponse page.read with
  | .ok (.opened handle) => handle.toNat
  | _ => usizeMax

def fsStatResult (page : SharedPage) : Nat :=
  match decodeFsResponse page.read with
  | .ok (.stat size _) => size.toNat
  | _ => usizeMax

def fsCloseResult (page : SharedPage) : Nat :=
  match decodeFsResponse page.read with
  | .ok .closed => 1
  | _ => 0

def fsWriteResult (page : SharedPage) : Nat :=
  match decodeFsResponse page.read with
  | .ok (.written bytes) => bytes.toNat
  | _ => usizeMax

/-- Also `fs_read_result_quiet`. -/
def fsReadResult (page : SharedPage) : Nat :=
  match decodeFsResponse page.read with
  | .ok (.read bytes) => bytes.toNat
  | _ => usizeMax

namespace FsCall

/-- The opcode for the result. -/
def result (page : SharedPage) : FsCall → Nat
  | .open => fsOpenResult page
  | stat => fsStatResult page
  | close => fsCloseResult page
  | write => fsWriteResult page
  | read => fsReadResult page

/-- What tells that a call has failed. -/
def failure : FsCall → Nat
  | close => 0
  | _ => usizeMax

/-- The value of a response that is of the kind of the call. -/
def value : FsCall → FsResponse → Option Nat
  | .open, .opened handle => some handle.toNat
  | stat, .stat size _ => some size.toNat
  | close, .closed => some 1
  | write, .written bytes => some bytes.toNat
  | read, .read bytes => some bytes.toNat
  | _, _ => none

/-- What the opcode for the result should report, when the service has given the answer
to the call before. -/
def outcome (call : FsCall) (answer : Option FsResponse) : Nat :=
  (answer.bind call.value).getD call.failure

/-- The response tells of no success of the call. -/
def Fails (call : FsCall) (response : FsResponse) : Prop :=
  call.value response = none ∨ call.value response = some call.failure

instance decidableFails (call : FsCall) (response : FsResponse) :
    Decidable (call.Fails response) :=
  inferInstanceAs (Decidable (_ ∨ _))

/-- The call that a request belongs to. -/
def ofRequest : FsRequest → FsCall
  | .open .. => .open
  | .read .. => read
  | .write .. => write
  | .stat .. => stat
  | .close .. => close

theorem result_of_decode (call : FsCall) {page : SharedPage} {response : FsResponse}
    (decoded : decodeFsResponse page.read = .ok response) :
    call.result page = call.outcome (some response) := by
  cases call with
  | «open» =>
      unfold result fsOpenResult
      rw [decoded]
      cases response <;> rfl
  | stat =>
      unfold result fsStatResult
      rw [decoded]
      cases response <;> rfl
  | close =>
      unfold result fsCloseResult
      rw [decoded]
      cases response <;> rfl
  | write =>
      unfold result fsWriteResult
      rw [decoded]
      cases response <;> rfl
  | read =>
      unfold result fsReadResult
      rw [decoded]
      cases response <;> rfl

theorem outcome_eq_failure_iff (call : FsCall) (response : FsResponse) :
    call.outcome (some response) = call.failure ↔ call.Fails response := by
  unfold outcome Fails
  rw [Option.bind_some]
  cases call.value response with
  | none => simp
  | some value => simp

theorem toNat_ne_usizeMax (word : UInt32) : word.toNat ≠ usizeMax := by
  have bound := word.toNat_lt
  unfold usizeMax
  omega

theorem value_misread_of_ne {call : FsCall} {req : FsRequest} (other : ofRequest req ≠ call)
    (isDir : Bool) : call.value (req.misread isDir) = none := by
  cases req <;> cases call <;> first | rfl | exact absurd rfl other

/-- A request tells of a success of its own call: a number that is no failure. -/
theorem not_fails_misread (req : FsRequest) (isDir : Bool) :
    ¬ (ofRequest req).Fails (req.misread isDir) := by
  cases req with
  | «open» path flags =>
      rintro (nothing | failed)
      · cases nothing
      · exact toNat_ne_usizeMax path (Option.some.inj failed)
  | read handle offset len sharedCap =>
      rintro (nothing | failed)
      · cases nothing
      · exact toNat_ne_usizeMax handle (Option.some.inj failed)
  | write handle offset len sharedCap =>
      rintro (nothing | failed)
      · cases nothing
      · exact toNat_ne_usizeMax handle (Option.some.inj failed)
  | stat path =>
      rintro (nothing | failed)
      · cases nothing
      · exact toNat_ne_usizeMax path (Option.some.inj failed)
  | close handle =>
      rintro (nothing | failed)
      · cases nothing
      · cases Option.some.inj failed

theorem misread_fails_iff (call : FsCall) (req : FsRequest) (isDir : Bool) :
    call.Fails (req.misread isDir) ↔ ofRequest req ≠ call := by
  constructor
  · rintro fails rfl
    exact not_fails_misread req isDir fails
  · exact fun other => Or.inl (value_misread_of_ne other isDir)

end FsCall

/-! ## Histories -/

/-- Who has written the page last. -/
inductive PageAuthor where
  | nobody
  | client (req : FsRequest)
  /-- The file system, in answer to the call with the number. -/
  | service (number : Nat) (response : FsResponse)
  deriving DecidableEq

/-- A machine with the page, and the history of the calls. -/
structure FileExchange (μ : Type) where
  glue : Glue μ
  page : SharedPage
  author : PageAuthor
  /-- The number of calls that there were. -/
  calls : Nat
  /-- The last call that the file system has taken. -/
  served : Nat
  /-- The response that was written and not yet replied. -/
  unsent : Option (Nat × FsResponse)
  /-- The reply to the last call. -/
  answer : Option FsResponse

inductive FileEvent where
  | call (call : FsCall) (a0 a1 : Nat) (choices : Choices)
  /-- The file system writes its response to a call. -/
  | publish (number : Nat) (response : FsResponse)
  | trap (trap : Trap)

/-- The trap is not one that writes the page or replaces it. -/
def Trap.KeepsFilePage (arch : Architecture) : Trap → Prop
  | .syscall opcode _ _ _ =>
      Arm.of arch opcode ≠ .call .fs ∧ Arm.of arch opcode ≠ .start .fs
  | _ => True

instance decidableKeepsFilePage (arch : Architecture) :
    (trap : Trap) → Decidable (trap.KeepsFilePage arch)
  | .syscall opcode _ _ _ => inferInstanceAs
      (Decidable (Arm.of arch opcode ≠ .call .fs ∧ Arm.of arch opcode ≠ .start .fs))
  | .tick => isTrue trivial
  | .fault _ => isTrue trivial
  | .device _ => isTrue trivial

/-- Is the trap a reply of the file system to the root task, which waits for it? -/
def Glue.filesReply {μ : Type} (arch : Architecture) (glue : Glue μ) : Trap → Bool
  | .syscall opcode a0 _ _ =>
      Arm.of arch opcode = .ipcReply ∧ asU32 a0 = glue.kernel.rootThread ∧
        glue.kernel.sched.running = glue.statics.serviceTid .fs ∧
        glue.kernel.isBlockedOnReply glue.kernel.rootThread
  | _ => false

namespace FileExchange

variable {μ : Type}

/-- The root task has called. -/
def called (req : FsRequest) (later : Glue μ) (before : FileExchange μ) : FileExchange μ where
  glue := later
  page := .write (encodeFsRequest req)
  author := .client req
  calls := before.calls + 1
  served := before.served
  unsent := before.unsent
  answer := none

/-- The file system has written its response. -/
def published (number : Nat) (response : FsResponse) (before : FileExchange μ) :
    FileExchange μ where
  glue := before.glue
  page := .write (encodeFsResponse response)
  author := .service number response
  calls := before.calls
  served := number
  unsent := some (number, response)
  answer := before.answer

/-- The file system has replied.  A reply to an earlier call answers no call. -/
def replied (later : Glue μ) (before : FileExchange μ) : FileExchange μ :=
  match before.unsent with
  | none => { before with glue := later }
  | some (number, response) =>
      { before with
        glue := later
        unsent := none
        answer := if number = before.calls then some response else before.answer }

/-- A result opcode reports what the service has encoded for the call before, and
failure where there is no such answer. -/
def Genuine (call : FsCall) (state : FileExchange μ) : Prop :=
  call.result state.page = call.outcome state.answer

/-- The page does not hold a request of the same kind, and a response that would count as
a success answers the last call and was replied. -/
def Trusted (call : FsCall) (state : FileExchange μ) : Prop :=
  match state.author with
  | .nobody => True
  | .client req => FsCall.ofRequest req ≠ call
  | .service number response =>
      (number = state.calls ∧ state.unsent = none) ∨ call.Fails response

variable (arch : Architecture) (clock : Nat → Nat) (hal : HalInterface μ)

/-- Machines in which the file system was started.  The file system answers the calls in
order, and none of them twice. -/
def system : TransitionSystem (FileExchange μ) FileEvent where
  Initial start :=
    (∃ before a0 a1 choices save into,
      GlueM.handle arch clock hal (.syscall 45 a0 a1 choices) before =
        .ok (.switchTo save into) start.glue) ∧
      start.page = .zeroed ∧ start.author = .nobody ∧ start.calls = 0 ∧ start.served = 0 ∧
      start.unsent = none ∧ start.answer = none
  Step before event after :=
    match event with
    | .call call a0 a1 choices => ∃ outcome later,
        GlueM.handle arch clock hal (.syscall call.opcode a0 a1 choices) before.glue =
            .ok outcome later ∧
          after = before.called (call.request a0 a1) later
    | .publish number response =>
        (before.served < number ∧ number ≤ before.calls) ∧
          before.glue.kernel.sched.running = before.glue.statics.serviceTid .fs ∧
          after = before.published number response
    | .trap trap => ∃ outcome later, trap.KeepsFilePage arch ∧
        GlueM.handle arch clock hal trap before.glue = .ok outcome later ∧
          after = if before.glue.filesReply arch trap then before.replied later
            else { before with glue := later }

/-! ## The page and the history agree -/

/-- Only the response to the last call can be its answer. -/
structure Sound (state : FileExchange μ) : Prop where
  taken : state.served ≤ state.calls
  unsent : ∀ number response, state.unsent = some (number, response) → number = state.served
  author : match state.author with
    | .nobody => state.page = .zeroed ∧ state.unsent = none ∧ state.answer = none
    | .client req =>
        state.page = .write (encodeFsRequest req) ∧ state.served < state.calls ∧
          state.answer = none
    | .service number response =>
        state.page = .write (encodeFsResponse response) ∧ number = state.served ∧
          ((state.unsent = some (number, response) ∧ state.answer = none) ∨
            (state.unsent = none ∧
              state.answer = if number = state.calls then some response else none))

variable {arch clock hal}

theorem Sound.of_initial {start : FileExchange μ}
    (initial : (system arch clock hal).Initial start) : start.Sound := by
  obtain ⟨_, page, author, calls, served, unsent, answer⟩ := initial
  constructor
  · rw [served]
    exact Nat.zero_le _
  · intro number response sent
    rw [unsent] at sent
    cases sent
  · rw [author]
    exact ⟨page, unsent, answer⟩

theorem Sound.called {before : FileExchange μ} (sound : before.Sound) (req : FsRequest)
    (later : Glue μ) : (before.called req later).Sound := by
  constructor
  · exact Nat.le_succ_of_le sound.taken
  · exact sound.unsent
  · exact ⟨rfl, Nat.lt_succ_of_le sound.taken, rfl⟩

/-- As long as a call is open, there is no answer. -/
theorem Sound.open {state : FileExchange μ} (sound : state.Sound)
    (waits : state.served < state.calls) : state.answer = none := by
  have author := sound.author
  cases written : state.author with
  | nobody =>
      rw [written] at author
      exact author.2.2
  | client req =>
      rw [written] at author
      exact author.2.2
  | service number response =>
      rw [written] at author
      obtain ⟨_, same, ⟨_, nothing⟩ | ⟨_, replied⟩⟩ := author
      · exact nothing
      · rw [replied, if_neg (by omega)]

theorem Sound.published {before : FileExchange μ} (sound : before.Sound) {number : Nat}
    (response : FsResponse) (fresh : before.served < number) (called : number ≤ before.calls) :
    (before.published number response).Sound := by
  constructor
  · exact called
  · rintro _ _ ⟨⟩
    rfl
  · exact ⟨rfl, rfl, Or.inl ⟨rfl, sound.open (by omega)⟩⟩

theorem Sound.goesOn {before : FileExchange μ} (sound : before.Sound) (later : Glue μ) :
    Sound { before with glue := later } := ⟨sound.taken, sound.unsent, sound.author⟩

theorem replied_of_unsent {before : FileExchange μ} {number : Nat} {response : FsResponse}
    (sent : before.unsent = some (number, response)) (later : Glue μ) :
    before.replied later =
      { before with
        glue := later
        unsent := none
        answer := if number = before.calls then some response else before.answer } := by
  unfold FileExchange.replied
  rw [sent]

theorem replied_of_nothing {before : FileExchange μ} (nothing : before.unsent = none)
    (later : Glue μ) : before.replied later = { before with glue := later } := by
  unfold FileExchange.replied
  rw [nothing]

theorem Sound.replied {before : FileExchange μ} (sound : before.Sound) (later : Glue μ) :
    (before.replied later).Sound := by
  cases sent : before.unsent with
  | none =>
      rw [replied_of_nothing sent]
      exact sound.goesOn later
  | some published =>
      obtain ⟨number, response⟩ := published
      have last := sound.unsent number response sent
      rw [replied_of_unsent sent]
      have author := sound.author
      constructor
      · exact sound.taken
      · rintro _ _ ⟨⟩
      · cases written : before.author with
        | nobody =>
            rw [written] at author
            rw [author.2.1] at sent
            cases sent
        | client req =>
            rw [written] at author
            obtain ⟨page, waits, nothing⟩ := author
            have late : number ≠ before.calls := by omega
            rw [if_neg late]
            exact ⟨page, waits, nothing⟩
        | service number' response' =>
            rw [written] at author
            obtain ⟨page, same, ⟨unsent, nothing⟩ | ⟨unsent, _⟩⟩ := author
            · rw [sent] at unsent
              obtain ⟨rfl, rfl⟩ := Prod.mk.inj (Option.some.inj unsent)
              rw [nothing]
              exact ⟨page, last, Or.inr ⟨rfl, rfl⟩⟩
            · rw [sent] at unsent
              cases unsent

theorem Sound.step {before after : FileExchange μ} (sound : before.Sound) {event : FileEvent}
    (taken : (system arch clock hal).Step before event after) : after.Sound := by
  cases event with
  | call call a0 a1 choices =>
      obtain ⟨_, later, _, rfl⟩ := taken
      exact sound.called (call.request a0 a1) later
  | publish number response =>
      obtain ⟨⟨fresh, called⟩, _, rfl⟩ := taken
      exact sound.published response fresh called
  | trap trap =>
      obtain ⟨_, later, _, _, rfl⟩ := taken
      split
      · exact sound.replied later
      · exact sound.goesOn later

/-! ## Results -/

theorem result_zeroed (call : FsCall) : call.result .zeroed = call.failure := by
  cases call <;> rfl

theorem result_request (call : FsCall) (req : FsRequest) :
    ∃ isDir, call.result (.write (encodeFsRequest req)) =
      call.outcome (some (req.misread isDir)) := by
  have carried := SharedPage.read_write_carries (encodeFsRequest_carries req) req.fields_fit
  obtain ⟨isDir, decoded⟩ :=
    decodeFsResponse_of_request carried (SharedPage.payload_read_full _)
  exact ⟨isDir, call.result_of_decode decoded⟩

theorem result_response (call : FsCall) (response : FsResponse) :
    call.result (.write (encodeFsResponse response)) = call.outcome (some response) := by
  have carried :=
    SharedPage.read_write_carries (encodeFsResponse_carries response) response.fields_fit
  exact call.result_of_decode (decodeFsResponse_of_carries carried)

theorem genuine_iff_trusted {state : FileExchange μ}
    (reachable : (system arch clock hal).Reachable TransitionSystem.anyStep state)
    (call : FsCall) : state.Genuine call ↔ state.Trusted call := by
  have sound : state.Sound := by
    refine reachable.invariant (fun _ initial => .of_initial initial) ?_
    intro before event after _ sound taken
    exact sound.step taken
  have author := sound.author
  unfold Genuine Trusted
  cases written : state.author with
  | nobody =>
      rw [written] at author
      obtain ⟨page, _, nothing⟩ := author
      rw [page, nothing, result_zeroed]
      exact iff_of_true rfl trivial
  | client req =>
      rw [written] at author
      obtain ⟨page, _, nothing⟩ := author
      obtain ⟨isDir, reported⟩ := result_request call req
      rw [page, nothing, reported]
      change call.outcome _ = call.failure ↔ _
      rw [call.outcome_eq_failure_iff, call.misread_fails_iff]
  | service number response =>
      rw [written] at author
      obtain ⟨page, _, ⟨unsent, nothing⟩ | ⟨sent, replied⟩⟩ := author
      · rw [page, nothing, unsent, result_response]
        change call.outcome _ = call.failure ↔ _
        rw [call.outcome_eq_failure_iff]
        simp
      · rw [page, replied, sent, result_response]
        by_cases last : number = state.calls
        · rw [if_pos last]
          exact iff_of_true rfl (Or.inl ⟨last, rfl⟩)
        · rw [if_neg last]
          change call.outcome _ = call.failure ↔ _
          rw [call.outcome_eq_failure_iff]
          simp [last]

/-! ## A file system that answers, and one that does not -/

/-- The step of a small machine. -/
def next (before : FileExchange Unit) : FileEvent → Option (FileExchange Unit)
  | .call call a0 a1 choices =>
      match GlueM.handle .riscv64 GlueM.sampleClock sampleHal
          (.syscall call.opcode a0 a1 choices) before.glue with
      | .ok _ later => some (before.called (call.request a0 a1) later)
      | _ => none
  | .publish number response =>
      if (before.served < number ∧ number ≤ before.calls) ∧
          before.glue.kernel.sched.running = before.glue.statics.serviceTid .fs then
        some (before.published number response)
      else none
  | .trap trap =>
      if trap.KeepsFilePage .riscv64 then
        match GlueM.handle .riscv64 GlueM.sampleClock sampleHal trap before.glue with
        | .ok _ later => some <|
            if before.glue.filesReply .riscv64 trap then before.replied later
            else { before with glue := later }
        | _ => none
      else none

theorem step_of_next (before : FileExchange Unit) (event : FileEvent)
    (after : FileExchange Unit) (taken : next before event = some after) :
    (system .riscv64 GlueM.sampleClock sampleHal).Step before event after := by
  cases event with
  | call call a0 a1 choices =>
      simp only [next] at taken
      split at taken
      · next outcome later ran =>
        exact ⟨outcome, later, ran, (Option.some.inj taken).symm⟩
      · cases taken
  | publish number response =>
      obtain ⟨⟨fresh, runs⟩, same⟩ := Option.ite_none_right_eq_some.1 taken
      exact ⟨fresh, runs, (Option.some.inj same).symm⟩
  | trap trap =>
      obtain ⟨keeps, ended⟩ := Option.ite_none_right_eq_some.1 taken
      split at ended
      · next outcome later ran =>
        exact ⟨outcome, later, keeps, ran, (Option.some.inj ended).symm⟩
      · cases ended

/-- The root task runs and has started nothing. -/
def sampleBefore : Glue Unit :=
  (GlueM.handle .riscv64 GlueM.sampleClock sampleHal .tick
    (GlueM.untrapped sampleMachine)).state?.getD (GlueM.untrapped sampleMachine)

/-- The root task starts the file system. -/
def starts : Outcome (Glue Unit) Stop TrapOutcome :=
  GlueM.handle .riscv64 GlueM.sampleClock sampleHal (.syscall 45 0 0 Supervised.sampleChoices)
    sampleBefore

def sampleStart : FileExchange Unit where
  glue := starts.state?.getD sampleBefore
  page := .zeroed
  author := .nobody
  calls := 0
  served := 0
  unsent := none
  answer := none

theorem sampleStart_initial :
    (system .riscv64 GlueM.sampleClock sampleHal).Initial sampleStart := by
  have switches : starts.value? = some (.switchTo 0 1) := by
    decide +kernel
  obtain ⟨later, ran⟩ := Outcome.eq_ok_of_value? switches
  have same : sampleStart.glue = later := by
    unfold sampleStart
    rw [ran]
    rfl
  rw [← same] at ran
  exact ⟨⟨sampleBefore, 0, 0, Supervised.sampleChoices, 0, 1, ran⟩, rfl, rfl, rfl, rfl, rfl, rfl⟩

/-- The file system waits, is called, and replies with a handle. -/
def answers : List FileEvent :=
  [.trap (.syscall 43 0 0 Supervised.sampleChoices),
    .call .open 7 1 Supervised.sampleChoices, .publish 1 (.opened 3),
    .trap (.syscall 44 0 0 Supervised.sampleChoices)]

instance decidableTrusted (call : FsCall) (state : FileExchange μ) :
    Decidable (state.Trusted call) :=
  match author : state.author with
  | .nobody => isTrue (by unfold Trusted; rw [author]; trivial)
  | .client req =>
      decidable_of_iff (FsCall.ofRequest req ≠ call) (by unfold Trusted; rw [author])
  | .service number response =>
      decidable_of_iff ((number = state.calls ∧ state.unsent = none) ∨ call.Fails response)
        (by unfold Trusted; rw [author])

theorem genuine_iff_trusted_sample :
    ∃ state : FileExchange Unit, state.Genuine .open ∧ state.answer = some (.opened 3) := by
  have ran : (TransitionSystem.runWhile next (fun _ _ => true) answers sampleStart).any
      fun state => state.answer = some (.opened 3) ∧ state.Trusted .open := by
    decide +kernel
  obtain ⟨last, reached, final⟩ := (Option.any_eq_true _ _).1 ran
  obtain ⟨answer, trusted⟩ := of_decide_eq_true final
  have run := TransitionSystem.Reaches.runWhile step_of_next (.refl _) reached
  exact ⟨last, (genuine_iff_trusted ⟨sampleStart, sampleStart_initial,
    run.mono fun _ _ _ => trivial⟩ .open).2 trusted, answer⟩

/-- The file system crashes, and the kernel refuses the call that follows. -/
def refuses : List FileEvent :=
  [.trap (.fault 2), .call .open 7 1 Supervised.sampleChoices]

/-- The path of the request is reported as the handle. -/
theorem open_result_reports_request :
    ¬ ∀ state : FileExchange Unit,
      (system .riscv64 GlueM.sampleClock sampleHal).Reachable TransitionSystem.anyStep state →
        ∀ call, state.Genuine call := by
  intro claimed
  have ran : (TransitionSystem.runWhile next (fun _ _ => true) refuses sampleStart).any
      fun state => state.answer = none ∧ fsOpenResult state.page = 7 := by
    decide +kernel
  obtain ⟨last, reached, final⟩ := (Option.any_eq_true _ _).1 ran
  obtain ⟨nothing, reported⟩ := of_decide_eq_true final
  have run := TransitionSystem.Reaches.runWhile step_of_next (.refl _) reached
  have genuine := claimed last ⟨sampleStart, sampleStart_initial,
    run.mono fun _ _ _ => trivial⟩ .open
  change fsOpenResult last.page = FsCall.open.outcome last.answer at genuine
  rw [reported, nothing] at genuine
  cases genuine

end FileExchange

end Simurgh
