import Simurgh.Drivers.Receive

/-!
# The buffers of the network driver

The driver serves one request after another, while the device works on both queues at any
time.  Frames to send are put into the transmit buffer before the request, and frames that
were received are copied from the receive buffer after the answer.
-/

namespace Simurgh

/-! ## The driver without the kernel's own path -/

/-- Is the event one of the driver, its clients or the device? -/
def TxEvent.ofDriver : TxEvent → Bool
  | .directSend | .poll | .timeout => false
  | .stage _ | .sendFrame | .look | .take | .giveBack => true

theorem TxRegion.room_describe (len other : Nat) (region : TxRegion) :
    (region.describe len).room other = region.room other := by
  unfold room describe
  apply ByteMemory.read_write_of_disjoint
  rw [List.length_replicate]
  exact Or.inr (Nat.le_refl _)

namespace Transmission

/-- Only the driver sends, and what was put into the buffer last is still there. -/
structure Alone (state : Transmission) : Prop where
  quiet : state.machine.polling = none
  fresh : state.machine.txNextIdx = state.machine.queue.availIdx
  kept : state.machine.queue.chain.room state.staged.length = state.staged

namespace Alone

variable {state after : Transmission}

theorem of_initial (region : TxRegion) : (initial region).Alone := ⟨rfl, rfl, rfl⟩

theorem stage (alone : state.Alone) {frame : List UInt8}
    (taken : state.next (.stage frame) = some after) : after.Alone := by
  obtain ⟨_, same⟩ := Option.ite_none_right_eq_some.1 taken
  obtain rfl := Option.some.inj same
  exact ⟨alone.quiet, alone.fresh, TxRegion.room_stage _ _⟩

theorem sendFrame (alone : state.Alone) (taken : state.next .sendFrame = some after) :
    after.Alone := by
  obtain ⟨_, submitted⟩ := Option.ite_none_right_eq_some.1 taken
  by_cases long : frameMax < state.staged.length
  · rw [if_pos long] at submitted
    obtain rfl := Option.some.inj submitted
    exact alone
  · rw [if_neg long] at submitted
    obtain rfl := Option.some.inj submitted
    have machine : state.machine.handleSendFrame state.staged.length =
        state.machine.submitTxRequest state.staged.length := if_neg long
    simp only [machine]
    exact ⟨alone.quiet, rfl, (TxRegion.room_describe _ _ _).trans alone.kept⟩

theorem look (alone : state.Alone) (taken : state.next .look = some after) :
    after.Alone := by
  cases waits : state.machine.waiting with
  | none =>
      simp only [next, waits] at taken
      cases taken
  | some retries =>
      simp only [next, waits] at taken
      obtain ⟨_, same⟩ := Option.ite_none_right_eq_some.1 taken
      obtain rfl := Option.some.inj same
      unfold TxMachine.lookAfterWait
      by_cases pending : state.machine.txCompletionPending
      · rw [if_pos pending]
        exact ⟨alone.quiet, alone.fresh, alone.kept⟩
      · rw [if_neg pending]
        exact ⟨alone.quiet, alone.fresh, alone.kept⟩

theorem step (alone : state.Alone) {event : TxEvent} (driver : event.ofDriver = true)
    (taken : state.next event = some after) : after.Alone := by
  cases event with
  | stage frame => exact alone.stage taken
  | sendFrame => exact alone.sendFrame taken
  | look => exact alone.look taken
  | directSend => cases driver
  | poll => cases driver
  | timeout => cases driver
  | take =>
      obtain ⟨_, same⟩ := Option.ite_none_left_eq_some.1 taken
      obtain rfl := Option.some.inj same
      exact ⟨alone.quiet, alone.fresh, alone.kept⟩
  | giveBack =>
      obtain ⟨_, same⟩ := Option.ite_none_left_eq_some.1 taken
      obtain rfl := Option.some.inj same
      exact ⟨alone.quiet, alone.fresh, alone.kept⟩

end Alone

end Transmission

/-! ## Both queues -/

inductive NetEvent where
  | tx (event : TxEvent)
  | rx (event : RxEvent)
  deriving DecidableEq, Repr

/-- The histories of both queues. -/
structure NetBuffers where
  tx : Transmission
  rx : Reception

namespace NetBuffers

def initial (txRegion : TxRegion) (rxRegion : RxRegion) : NetBuffers where
  tx := .initial txRegion
  rx := .initial rxRegion

/-- Is the driver free for the request, if it is one? -/
def serves (state : NetBuffers) : RxEvent → Bool
  | .pollFrame => state.tx.machine.waiting.isNone
  | .fill _ _ | .deliver => true

/-- What an event leads to, if it can happen. -/
def next (before : NetBuffers) : NetEvent → Option NetBuffers
  | .tx event =>
      if event.ofDriver then (before.tx.next event).map fun tx => { before with tx } else none
  | .rx event =>
      if before.serves event then (before.rx.next event).map fun rx => { before with rx }
      else none

def system : TransitionSystem NetBuffers NetEvent where
  Initial start := ∃ txRegion rxRegion, start = initial txRegion rxRegion
  Step before event after := before.next event = some after

/-- Frames stay in the buffers as long as they are needed there. -/
structure Owned (state : NetBuffers) : Prop where
  intact : state.rx.Intact
  exact : state.rx.Exact
  untouched : state.tx.overwritten = false

/-- A frame is put into the transmit buffer, or sent, when the device has returned all frames
before.  A frame that arrives while another one is announced has the same bytes. -/
def Safe (state : NetBuffers) : NetEvent → Prop
  | .tx (.stage _) => state.tx.machine.queue.usedIdx = state.tx.machine.queue.availIdx
  | .tx .sendFrame => state.tx.staged.length ≤ frameMax →
      state.tx.machine.queue.usedIdx = state.tx.machine.queue.availIdx
  | .rx event => state.rx.Safe event
  | _ => True

structure Sound (state : NetBuffers) : Prop where
  tx : state.tx.Sound
  alone : state.tx.Alone
  rx : state.rx.Sound
  intact : state.rx.Intact

namespace Sound

variable {state after : NetBuffers}

theorem of_initial (txRegion : TxRegion) (rxRegion : RxRegion) :
    (initial txRegion rxRegion).Sound where
  tx := .of_initial txRegion
  alone := .of_initial txRegion
  rx := .of_initial rxRegion
  intact _ announced := by cases announced

theorem owned (sound : state.Sound) : state.Owned :=
  ⟨sound.intact, sound.rx.exact, sound.tx.untouched⟩

/-- The index of the driver is the published one, and the frame is still in the buffer. -/
theorem txSafe (sound : state.Sound) {event : TxEvent} (safe : state.Safe (.tx event)) :
    state.tx.Safe event := by
  cases event with
  | stage frame => exact safe
  | sendFrame => exact fun short => ⟨safe short, sound.alone.fresh, sound.alone.kept⟩
  | look => trivial
  | directSend => trivial
  | poll => trivial
  | timeout => trivial
  | take => trivial
  | giveBack => trivial

theorem step (sound : state.Sound) {event : NetEvent} (safe : state.Safe event)
    (taken : state.next event = some after) : after.Sound := by
  cases event with
  | tx event =>
      obtain ⟨driver, stepped⟩ := Option.ite_none_right_eq_some.1 taken
      obtain ⟨tx, ran, rfl⟩ := Option.map_eq_some_iff.1 stepped
      exact ⟨sound.tx.step (sound.txSafe safe) ran, sound.alone.step driver ran, sound.rx,
        sound.intact⟩
  | rx event =>
      obtain ⟨_, stepped⟩ := Option.ite_none_right_eq_some.1 taken
      obtain ⟨rx, ran, rfl⟩ := Option.map_eq_some_iff.1 stepped
      exact ⟨sound.tx, sound.alone, sound.rx.step ran, sound.rx.intact_step sound.intact safe ran⟩

/-- While a frame is under way, the transmit buffer is overwritten. -/
theorem busy (sound : state.Sound)
    (busy : state.tx.machine.queue.usedIdx ≠ state.tx.machine.queue.availIdx) :
    (state.tx.overwritten || state.tx.underWay) = true := by
  have accounts := sound.tx.accounts
  have ne := mt accounts.idle_iff.2 busy
  have early := accounts.early
  have fewer := accounts.taken_le
  rw [Transmission.underWay, decide_eq_true (by omega), Bool.or_true]

/-- Every other event breaks the property. -/
theorem breaks (sound : state.Sound) {event : NetEvent} (misused : ¬ state.Safe event)
    (taken : state.next event = some after) : ¬ after.Owned := by
  intro owned
  cases event with
  | rx event =>
      obtain ⟨_, stepped⟩ := Option.ite_none_right_eq_some.1 taken
      obtain ⟨rx, ran, rfl⟩ := Option.map_eq_some_iff.1 stepped
      cases event with
      | fill header frame =>
          exact misused ((sound.rx.intact_fill_iff sound.intact ran).1 owned.intact)
      | pollFrame => exact misused trivial
      | deliver => exact misused trivial
  | tx event =>
      obtain ⟨_, stepped⟩ := Option.ite_none_right_eq_some.1 taken
      obtain ⟨tx, ran, rfl⟩ := Option.map_eq_some_iff.1 stepped
      have untouched := owned.untouched
      cases event with
      | stage frame =>
          obtain ⟨_, same⟩ := Option.ite_none_right_eq_some.1 ran
          obtain rfl := Option.some.inj same
          cases (sound.busy misused).symm.trans untouched
      | sendFrame =>
          obtain ⟨short, busy⟩ := Classical.not_imp.1 misused
          obtain ⟨_, same⟩ := Option.ite_none_right_eq_some.1 ran
          rw [if_neg (Nat.not_lt.2 short)] at same
          obtain rfl := Option.some.inj same
          cases (sound.busy busy).symm.trans untouched
      | look => exact misused trivial
      | directSend => exact misused trivial
      | poll => exact misused trivial
      | timeout => exact misused trivial
      | take => exact misused trivial
      | giveBack => exact misused trivial

end Sound

/-- In a run where the transmit buffer is used only when it is free, and announced frames are
not overwritten by others, all buffers are owned by one side.  Any other event breaks this. -/
theorem buffers_owned {state : NetBuffers} (reachable : system.Reachable Safe state) :
    state.Owned ∧ ∀ event after, ¬ state.Safe event → state.next event = some after →
      ¬ after.Owned := by
  have sound : state.Sound := by
    refine reachable.invariant ?_ fun before event after safe sound taken =>
      sound.step safe taken
    rintro start ⟨txRegion, rxRegion, rfl⟩
    exact .of_initial txRegion rxRegion
  exact ⟨sound.owned, fun event after misused taken => sound.breaks misused taken⟩

/-- Whatever happens, each frame is reported once. -/
theorem frames_reported_once {state : NetBuffers}
    (reachable : system.Reachable TransitionSystem.anyStep state) : state.rx.Exact := by
  have sound : state.rx.Sound := by
    refine @TransitionSystem.Reachable.invariant _ _ _ _
      (fun state : NetBuffers => state.rx.Sound) _ reachable ?_ ?_
    · rintro start ⟨txRegion, rxRegion, rfl⟩
      exact .of_initial rxRegion
    · intro before event after _ sound taken
      cases event with
      | tx event =>
          obtain ⟨_, stepped⟩ := Option.ite_none_right_eq_some.1 taken
          obtain ⟨tx, _, rfl⟩ := Option.map_eq_some_iff.1 stepped
          exact sound
      | rx event =>
          obtain ⟨_, stepped⟩ := Option.ite_none_right_eq_some.1 taken
          obtain ⟨rx, ran, rfl⟩ := Option.map_eq_some_iff.1 stepped
          exact sound.step ran
  exact sound.exact

/-! ## Runs with frames in both directions -/

theorem step_of_next (before : NetBuffers) (event : NetEvent) (after : NetBuffers)
    (taken : before.next event = some after) : system.Step before event after := taken

def sampleRegion : RxRegion where
  physBase := 8192
  desc := { addr := 0, len := 0, flags := 0, next := 0 }
  mem := fun _ => 0
  usedLen := fun _ => 0

def sampleStart : NetBuffers := initial Transmission.sampleRegion sampleRegion

/-- Does the event meet the condition?  Arriving frames meet it while none is announced. -/
def quiet (state : NetBuffers) : NetEvent → Bool
  | .tx (.stage _) | .tx .sendFrame =>
      state.tx.machine.queue.usedIdx == state.tx.machine.queue.availIdx
  | .rx (.fill _ _) => state.rx.announced.isNone
  | _ => true

theorem safe_of_quiet {state : NetBuffers} {event : NetEvent}
    (quiet : state.quiet event = true) : state.Safe event := by
  cases event with
  | tx event =>
      cases event with
      | stage frame => exact beq_iff_eq.1 quiet
      | sendFrame => exact fun _ => beq_iff_eq.1 quiet
      | look => trivial
      | directSend => trivial
      | poll => trivial
      | timeout => trivial
      | take => trivial
      | giveBack => trivial
  | rx event =>
      cases event with
      | pollFrame => trivial
      | deliver => trivial
      | fill header frame =>
          intro old announced
          have none := Option.isNone_iff_eq_none.1 quiet
          rw [announced] at none
          cases none

def zeroHeader : List UInt8 := List.replicate virtioNetHdrLen 0

/-- A frame is sent and two are received. -/
def bothWays : List NetEvent :=
  [.tx (.stage [1, 2, 3]), .tx .sendFrame, .rx (.fill zeroHeader [7, 8]), .tx .take, .tx .look,
    .rx .deliver, .tx .giveBack, .tx .look, .rx .pollFrame, .rx .pollFrame,
    .rx (.fill zeroHeader [9]), .rx .deliver, .rx .pollFrame]

theorem buffers_owned_sample :
    ∃ state : NetBuffers, state.Owned ∧ state.rx.reported = [[7, 8], [9]] ∧
      state.tx.transmitted = [[1, 2, 3]] := by
  have ran : (TransitionSystem.runWhile next quiet bothWays sampleStart).any fun state =>
      state.rx.reported = [[7, 8], [9]] ∧ state.tx.transmitted = [[1, 2, 3]] := by
    decide +kernel
  obtain ⟨last, reached, final⟩ := (Option.any_eq_true _ _).1 ran
  have run := TransitionSystem.Reaches.runWhile step_of_next (.refl _) reached
  have reachable : system.Reachable Safe last :=
    ⟨sampleStart, ⟨_, _, rfl⟩, run.mono fun _ _ admitted => safe_of_quiet admitted⟩
  exact ⟨last, (buffers_owned reachable).1, of_decide_eq_true final⟩

/-- The second frame arrives before the client has copied the first one. -/
def secondFrame : List NetEvent :=
  [.rx (.fill zeroHeader [7, 8]), .rx .deliver, .rx .pollFrame, .rx (.fill zeroHeader [9, 9])]

/-- The driver gives up waiting, and the next frame is put into the buffer. -/
def lateFrame : List NetEvent :=
  [.tx (.stage [1, 2, 3]), .tx .sendFrame] ++ List.replicate 8 (.tx .look) ++
    [.tx (.stage [4])]

/-- A received frame is overwritten before it is copied, and a frame to send while the device
has it. -/
theorem buffers_overwritten :
    (¬ ∀ state, system.Reachable TransitionSystem.anyStep state → state.rx.Intact) ∧
      ¬ ∀ state, system.Reachable TransitionSystem.anyStep state →
        state.tx.overwritten = false := by
  have reach : ∀ events last, TransitionSystem.runWhile next (fun _ _ => true) events
      sampleStart = some last → system.Reachable TransitionSystem.anyStep last := by
    intro events last reached
    have run := TransitionSystem.Reaches.runWhile step_of_next (.refl _) reached
    exact ⟨sampleStart, ⟨_, _, rfl⟩, run.mono fun _ _ _ => trivial⟩
  constructor
  · intro intact
    have ran : (TransitionSystem.runWhile next (fun _ _ => true) secondFrame sampleStart).any
        fun state => state.rx.announced = some [7, 8] ∧
          state.rx.region.copyReceivedFrame 2 = [9, 9] := by
      decide +kernel
    obtain ⟨last, reached, final⟩ := (Option.any_eq_true _ _).1 ran
    obtain ⟨announced, copied⟩ := of_decide_eq_true final
    have same := intact last (reach _ _ reached) _ announced
    rw [List.length_cons, List.length_singleton, copied] at same
    revert same
    decide
  · intro untouched
    have ran : (TransitionSystem.runWhile next (fun _ _ => true) lateFrame sampleStart).any
        fun state => state.tx.overwritten := by
      decide +kernel
    obtain ⟨last, reached, overwritten⟩ := (Option.any_eq_true _ _).1 ran
    rw [untouched last (reach _ _ reached)] at overwritten
    cases overwritten

end NetBuffers

end Simurgh
