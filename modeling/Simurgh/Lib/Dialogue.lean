import Simurgh.Lib.Simulation

/-!
# Programs that talk to their environment

A dialogue makes requests, and goes on with the answers.  What the environment answers is not
part of it.  A talk lists the requests that were made with their answers, and `Obeys` is the
precondition under which all talks keep to the rules of a monitor.  `implement` replaces each
request by a dialogue with another environment.
-/

/-- A program that asks its environment, and ends with a value or an error. -/
inductive Dialogue (ρ : Type) (Ans : ρ → Type) (ε α : Type) where
  | done (value : α)
  | stop (error : ε)
  | ask (request : ρ) (next : Ans request → Dialogue ρ Ans ε α)

namespace Dialogue

variable {ρ κ σ τ ε α β : Type} {Ans : ρ → Type}

/-- Sequencing.  An error ends the whole dialogue. -/
def bind : Dialogue ρ Ans ε α → (α → Dialogue ρ Ans ε β) → Dialogue ρ Ans ε β
  | done value, after => after value
  | stop error, _ => stop error
  | ask request next, after => ask request fun answer => (next answer).bind after

instance : Monad (Dialogue ρ Ans ε) where
  pure := done
  bind := bind

/-- One request. -/
def request (request : ρ) : Dialogue ρ Ans ε (Ans request) := ask request done

/-- A `for` loop. -/
def forEach {ι : Type} (body : ι → Dialogue ρ Ans ε α) : List ι → Dialogue ρ Ans ε (List α)
  | [] => done []
  | item :: rest => body item >>= fun value => forEach body rest >>= fun values =>
      done (value :: values)

/-- End with an error unless the condition holds. -/
def guard (condition : Bool) (error : ε) : Dialogue ρ Ans ε Unit :=
  if condition then done () else stop error

@[simp]
theorem pure_eq (value : α) : (pure value : Dialogue ρ Ans ε α) = done value := rfl

@[simp]
theorem done_bind (value : α) (after : α → Dialogue ρ Ans ε β) :
    done value >>= after = after value := rfl

@[simp]
theorem stop_bind (error : ε) (after : α → Dialogue ρ Ans ε β) :
    stop error >>= after = stop error := rfl

@[simp]
theorem ask_bind (request : ρ) (next : Ans request → Dialogue ρ Ans ε α)
    (after : α → Dialogue ρ Ans ε β) :
    ask request next >>= after = ask request fun answer => next answer >>= after := rfl

@[simp]
theorem request_bind (asked : ρ) (after : Ans asked → Dialogue ρ Ans ε β) :
    request asked >>= after = ask asked after := rfl

theorem bind_done (program : Dialogue ρ Ans ε α) : program >>= done = program := by
  induction program with
  | done value => rfl
  | stop error => rfl
  | ask request next ih =>
      rw [ask_bind]
      exact congrArg (ask request) (funext ih)

/-! ## Talks -/

/-- A request with its answer. -/
structure Exchange (Ans : ρ → Type) where
  request : ρ
  answer : Ans request

/-- The dialogue can lead to this talk and end like this. -/
inductive Talks : Dialogue ρ Ans ε α → List (Exchange Ans) → Except ε α → Prop where
  | done (value : α) : Talks (.done value) [] (.ok value)
  | stop (error : ε) : Talks (.stop error) [] (.error error)
  | ask (request : ρ) (next : Ans request → Dialogue ρ Ans ε α) (answer : Ans request)
      {rest : List (Exchange Ans)} {result : Except ε α} (talks : Talks (next answer) rest result) :
      Talks (.ask request next) (⟨request, answer⟩ :: rest) result

section Talks

variable {talk : List (Exchange Ans)}

theorem talks_done_iff {value : α} {result : Except ε α} :
    (done value : Dialogue ρ Ans ε α).Talks talk result ↔ talk = [] ∧ result = .ok value := by
  constructor
  · rintro ⟨⟩
    exact ⟨rfl, rfl⟩
  · rintro ⟨rfl, rfl⟩
    exact .done value

theorem talks_ask_iff {asked : ρ} {next : Ans asked → Dialogue ρ Ans ε α} {result : Except ε α} :
    (ask asked next).Talks talk result ↔
      ∃ answer rest, talk = ⟨asked, answer⟩ :: rest ∧ (next answer).Talks rest result := by
  constructor
  · rintro ⟨⟩
    exact ⟨_, _, rfl, ‹_›⟩
  · rintro ⟨answer, rest, rfl, talks⟩
    exact .ask asked next answer talks

/-- The program ends with an error behind exchanges of this kind, and nowhere else. -/
def StopsAt (fatal : Exchange Ans → Prop) : Dialogue ρ Ans ε α → Prop
  | .done _ => True
  | .stop _ => False
  | .ask request next => ∀ answer,
      (fatal ⟨request, answer⟩ → ∃ error, next answer = .stop error) ∧
        (¬ fatal ⟨request, answer⟩ → StopsAt fatal (next answer))

variable {fatal : Exchange Ans → Prop}

theorem StopsAt.bind {program : Dialogue ρ Ans ε α} {after : α → Dialogue ρ Ans ε β}
    (stops : program.StopsAt fatal) (goesOn : ∀ value, (after value).StopsAt fatal) :
    (program >>= after).StopsAt fatal := by
  induction program with
  | done value => exact goesOn value
  | stop error => exact stops.elim
  | ask request next ih =>
      intro answer
      constructor
      · intro ends
        obtain ⟨error, same⟩ := (stops answer).1 ends
        exact ⟨error, congrArg (fun program => program >>= after) same⟩
      · intro harmless
        exact ih answer ((stops answer).2 harmless)

/-- A run ends with a value, or with an error at the first fatal exchange. -/
theorem StopsAt.ends {program : Dialogue ρ Ans ε α} {result : Except ε α}
    (stops : program.StopsAt fatal) (talks : program.Talks talk result) :
    ((∃ value, result = .ok value) ∧ ∀ exchange ∈ talk, ¬ fatal exchange) ∨
      ∃ before last error, talk = before ++ [last] ∧ fatal last ∧
        (∀ exchange ∈ before, ¬ fatal exchange) ∧ result = .error error := by
  induction talks with
  | done value => exact .inl ⟨⟨value, rfl⟩, fun _ here => absurd here List.not_mem_nil⟩
  | stop error => exact stops.elim
  | ask request next answer talks ih =>
      by_cases ends : fatal ⟨request, answer⟩
      · obtain ⟨error, same⟩ := (stops answer).1 ends
        rw [same] at talks
        cases talks
        exact .inr ⟨[], _, error, rfl, ends, fun _ here => absurd here List.not_mem_nil, rfl⟩
      · rcases ih ((stops answer).2 ends) with
          ⟨value, harmless⟩ | ⟨before, last, error, rfl, fails, harmless, rfl⟩
        · exact .inl ⟨value, List.forall_mem_cons.mpr ⟨ends, harmless⟩⟩
        · exact .inr ⟨_ :: before, last, error, rfl, fails,
            List.forall_mem_cons.mpr ⟨ends, harmless⟩, rfl⟩

/-- The dialogue can lead to this talk, and nothing in it is fatal. -/
def TalksSafely (fatal : Exchange Ans → Prop) (program : Dialogue ρ Ans ε α)
    (talk : List (Exchange Ans)) (result : Except ε α) : Prop :=
  program.Talks talk result ∧ ∀ exchange ∈ talk, ¬ fatal exchange

theorem safely_done_iff {value : α} {result : Except ε α} :
    (done value : Dialogue ρ Ans ε α).TalksSafely fatal talk result ↔
      talk = [] ∧ result = .ok value := by
  rw [TalksSafely, talks_done_iff]
  constructor
  · exact And.left
  · rintro ⟨rfl, rfl⟩
    exact ⟨⟨rfl, rfl⟩, fun _ here => absurd here List.not_mem_nil⟩

theorem safely_ask_iff {asked : ρ} {next : Ans asked → Dialogue ρ Ans ε α} {result : Except ε α} :
    (ask asked next).TalksSafely fatal talk result ↔
      ∃ answer rest, talk = ⟨asked, answer⟩ :: rest ∧ ¬ fatal ⟨asked, answer⟩ ∧
        (next answer).TalksSafely fatal rest result := by
  rw [TalksSafely, talks_ask_iff]
  constructor
  · rintro ⟨⟨answer, rest, rfl, talks⟩, harmless⟩
    obtain ⟨first, others⟩ := List.forall_mem_cons.mp harmless
    exact ⟨answer, rest, rfl, first, talks, others⟩
  · rintro ⟨answer, rest, rfl, first, talks, others⟩
    exact ⟨⟨answer, rest, rfl, talks⟩, List.forall_mem_cons.mpr ⟨first, others⟩⟩

/-- A request that cannot be fatal. -/
theorem safely_ask_iff_of_harmless {asked : ρ} {next : Ans asked → Dialogue ρ Ans ε α}
    {result : Except ε α} (harmless : ∀ answer, ¬ fatal ⟨asked, answer⟩) :
    (ask asked next).TalksSafely fatal talk result ↔
      ∃ answer rest, talk = ⟨asked, answer⟩ :: rest ∧
        (next answer).TalksSafely fatal rest result := by
  rw [safely_ask_iff]
  refine exists₂_congr fun answer rest => and_congr_right fun _ => ?_
  exact and_iff_right (harmless answer)

/-- A safe talk of two programs in sequence. -/
theorem StopsAt.safely_bind_iff {program : Dialogue ρ Ans ε α} {after : α → Dialogue ρ Ans ε β}
    {result : Except ε β} (stops : program.StopsAt fatal) :
    (program >>= after).TalksSafely fatal talk result ↔
      ∃ first value rest, program.TalksSafely fatal first (.ok value) ∧
        (after value).TalksSafely fatal rest result ∧ talk = first ++ rest := by
  induction program generalizing talk with
  | done value =>
      rw [done_bind]
      constructor
      · intro talks
        exact ⟨[], value, talk, safely_done_iff.mpr ⟨rfl, rfl⟩, talks, rfl⟩
      · rintro ⟨first, _, rest, ran, talks, rfl⟩
        obtain ⟨rfl, ⟨⟩⟩ := safely_done_iff.mp ran
        exact talks
  | stop error => exact stops.elim
  | ask asked next ih =>
      rw [ask_bind, safely_ask_iff]
      constructor
      · rintro ⟨answer, rest, rfl, harmless, talks⟩
        obtain ⟨first, value, second, ran, goesOn, rfl⟩ :=
          (ih answer ((stops answer).2 harmless)).mp talks
        exact ⟨_, value, second, safely_ask_iff.mpr ⟨answer, first, rfl, harmless, ran⟩, goesOn,
          rfl⟩
      · rintro ⟨first, value, second, ran, goesOn, rfl⟩
        obtain ⟨answer, rest, rfl, harmless, talked⟩ := safely_ask_iff.mp ran
        refine ⟨answer, rest ++ second, rfl, harmless, ?_⟩
        exact (ih answer ((stops answer).2 harmless)).mpr
          ⟨rest, value, second, talked, goesOn, rfl⟩

end Talks

/-- Rules for the requests, which may depend on the talk so far. -/
structure Monitor (Ans : ρ → Type) (κ : Type) where
  allows : κ → ρ → Prop
  next : κ → (request : ρ) → Ans request → κ

namespace Monitor

variable (monitor : Monitor Ans κ)

/-- The state after a talk. -/
def after (start : κ) (talk : List (Exchange Ans)) : κ :=
  talk.foldl (fun state exchange => monitor.next state exchange.request exchange.answer) start

/-- Every request was allowed when it was made. -/
def Accepts : κ → List (Exchange Ans) → Prop
  | _, [] => True
  | state, exchange :: rest =>
      monitor.allows state exchange.request ∧
        Accepts (monitor.next state exchange.request exchange.answer) rest

end Monitor

/-- Whatever is answered, the requests are allowed, and the end is as `post` says. -/
def Obeys (monitor : Monitor Ans κ) (post : Except ε α → κ → Prop) :
    Dialogue ρ Ans ε α → κ → Prop
  | done value, state => post (.ok value) state
  | stop error, state => post (.error error) state
  | ask request next, state =>
      monitor.allows state request ∧
        ∀ answer, Obeys monitor post (next answer) (monitor.next state request answer)

variable {monitor : Monitor Ans κ} {post other : Except ε α → κ → Prop}

theorem Obeys.of_talks {program : Dialogue ρ Ans ε α} {start : κ} {talk : List (Exchange Ans)}
    {result : Except ε α} (obeys : program.Obeys monitor post start)
    (talks : program.Talks talk result) :
    monitor.Accepts start talk ∧ post result (monitor.after start talk) := by
  induction talks generalizing start with
  | done value => exact ⟨trivial, obeys⟩
  | stop error => exact ⟨trivial, obeys⟩
  | ask request next answer talks ih =>
      obtain ⟨accepted, ended⟩ := ih (obeys.2 answer)
      exact ⟨⟨obeys.1, accepted⟩, ended⟩

theorem Obeys.mono {program : Dialogue ρ Ans ε α} {start : κ}
    (obeys : program.Obeys monitor post start)
    (weaker : ∀ result state, post result state → other result state) :
    program.Obeys monitor other start := by
  induction program generalizing start with
  | done value => exact weaker _ _ obeys
  | stop error => exact weaker _ _ obeys
  | ask request next ih =>
      exact ⟨obeys.1, fun answer => ih answer (obeys.2 answer)⟩

theorem obeys_bind {program : Dialogue ρ Ans ε α} {after : α → Dialogue ρ Ans ε β} {start : κ}
    {post : Except ε β → κ → Prop} :
    (program >>= after).Obeys monitor post start ↔
      program.Obeys monitor
        (fun result state =>
          match result with
          | .ok value => (after value).Obeys monitor post state
          | .error error => post (.error error) state)
        start := by
  induction program generalizing start with
  | done value => exact Iff.rfl
  | stop error => exact Iff.rfl
  | ask request next ih =>
      rw [ask_bind, Obeys, Obeys]
      exact and_congr_right fun _ => forall_congr' fun answer => ih answer

/-! ## Environments that answer -/

/-- Run a dialogue with an environment that keeps a state. -/
def run (serve : (request : ρ) → σ → Ans request × σ) : Dialogue ρ Ans ε α → Exec σ ε α
  | done value => pure value
  | stop error => Exec.throw error
  | ask request next => fun state =>
      (next (serve request state).1).run serve (serve request state).2

variable {serve : (request : ρ) → σ → Ans request × σ}

@[simp]
theorem run_done (value : α) (state : σ) :
    (done value : Dialogue ρ Ans ε α).run serve state = .ok value state := rfl

@[simp]
theorem run_stop (error : ε) (state : σ) :
    (stop error : Dialogue ρ Ans ε α).run serve state = .err error state := rfl

@[simp]
theorem run_ask (request : ρ) (next : Ans request → Dialogue ρ Ans ε α) (state : σ) :
    (ask request next).run serve state =
      (next (serve request state).1).run serve (serve request state).2 := rfl

theorem run_bind (program : Dialogue ρ Ans ε α) (after : α → Dialogue ρ Ans ε β) :
    (program >>= after).run serve = program.run serve >>= fun value => (after value).run serve := by
  induction program with
  | done value => rfl
  | stop error => rfl
  | ask request next ih =>
      funext state
      rw [ask_bind, run_ask, ih]
      rfl

/-- The environment can answer like this, and ends in this state. -/
inductive Served (serve : (request : ρ) → σ → Ans request × σ) : σ → List (Exchange Ans) → σ → Prop
  | nil (state : σ) : Served serve state [] state
  | cons (request : ρ) (state : σ) {rest : List (Exchange Ans)} {later : σ}
      (served : Served serve (serve request state).2 rest later) :
      Served serve state (⟨request, (serve request state).1⟩ :: rest) later

/-- How a run ends. -/
def ending : Except ε α → σ → Outcome σ ε α
  | .ok value, state => .ok value state
  | .error error, state => .err error state

/-- Every run is a talk. -/
theorem exists_talks (program : Dialogue ρ Ans ε α) (state : σ) :
    ∃ talk result later, program.Talks talk result ∧ Served serve state talk later ∧
      program.run serve state = ending result later := by
  induction program generalizing state with
  | done value => exact ⟨[], .ok value, state, .done value, .nil state, rfl⟩
  | stop error => exact ⟨[], .error error, state, .stop error, .nil state, rfl⟩
  | ask request next ih =>
      obtain ⟨talk, result, later, talks, served, ran⟩ :=
        ih (serve request state).1 (serve request state).2
      exact ⟨_, result, later, .ask request next _ talks, .cons request state served, ran⟩

/-! ## Implementing the requests -/

variable {ρ' : Type} {Ans' : ρ' → Type}

/-- Each request becomes a dialogue with another environment. -/
def implement (device : (request : ρ) → Dialogue ρ' Ans' ε (Ans request)) :
    Dialogue ρ Ans ε α → Dialogue ρ' Ans' ε α
  | done value => done value
  | stop error => stop error
  | ask request next => device request >>= fun answer => (next answer).implement device

/-- Every request of the run is inside. -/
def Within (serve : (request : ρ) → σ → Ans request × σ) (inside : ρ → Prop) :
    Dialogue ρ Ans ε α → σ → Prop
  | done _, _ => True
  | stop _, _ => True
  | ask request next, state =>
      inside request ∧
        Within serve inside (next (serve request state).1) (serve request state).2

theorem within_of_forall {inside : ρ → Prop} (all : ∀ request, inside request)
    (program : Dialogue ρ Ans ε α) (state : σ) : program.Within serve inside state := by
  induction program generalizing state with
  | done value => trivial
  | stop error => trivial
  | ask request next ih =>
      exact ⟨all request, ih _ _⟩

/-- A monitor that the environment follows shows what is inside. -/
theorem within_of_obeys {inside : ρ → Prop} (related : κ → σ → Prop)
    (allowed : ∀ {state world request}, related state world → monitor.allows state request →
      inside request)
    (follows : ∀ {state world} (request : ρ), related state world →
      related (monitor.next state request (serve request world).1) (serve request world).2)
    {program : Dialogue ρ Ans ε α} {state : κ} {world : σ}
    (obeys : program.Obeys monitor post state) (relates : related state world) :
    program.Within serve inside world := by
  induction program generalizing state world with
  | done value => trivial
  | stop error => trivial
  | ask request next ih =>
      exact ⟨allowed relates obeys.1, ih _ (obeys.2 _) (follows request relates)⟩

/-- An environment that does what another does, for each request inside, gives the same result. -/
theorem run_implement {device : (request : ρ) → Dialogue ρ' Ans' ε (Ans request)}
    {low : (request : ρ') → τ → Ans' request × τ} {related : τ → σ → Prop} {inside : ρ → Prop}
    (simulates : ∀ request first second, inside request → related first second →
      ∃ later, (device request).run low first = .ok (serve request second).1 later ∧
        related later (serve request second).2)
    {program : Dialogue ρ Ans ε α} {first : τ} {second : σ}
    (within : program.Within serve inside second) (relates : related first second) :
    Exec.Matches related ((program.implement device).run low first)
      (program.run serve second) := by
  induction program generalizing first second with
  | done value => exact .ok value relates
  | stop error => exact .err error relates
  | ask request next ih =>
      obtain ⟨later, ran, relatesLater⟩ := simulates request first second within.1 relates
      rw [implement, run_bind, Exec.bind_of_ok ran, run_ask]
      exact ih (serve request second).1 within.2 relatesLater

end Dialogue
