import Simurgh.Lib.Bytes
import Simurgh.Lib.TransitionSystem
import Simurgh.Lib.Virtqueue

/-!
# Sending frames

Frames are sent in two ways.  A process asks the driver, for which it has put the frame
into the buffer of the transmit queue.  The kernel also writes into the memory of the same
queue, without the driver.  Both use the descriptor 0, whose buffer has room for one frame.
-/

namespace Simurgh

/-! ## The memory of the transmit queue -/

def virtioNetHdrLen : Nat := 12

def frameMax : Nat := 700

/-- `layout::BUFFER_OFFSET`. -/
def bufferOffset : Nat := 256

structure VirtqDescRaw where
  addr : Nat
  len : Nat
  flags : Nat
  next : Nat
  deriving DecidableEq, Repr

/-- The region of the queue, without its indices.  Every entry of its rings names the
descriptor 0. -/
structure TxRegion where
  physBase : Nat
  desc : VirtqDescRaw
  mem : ByteMemory

namespace TxRegion

def buf (region : TxRegion) : Nat := region.physBase + bufferOffset

/-- What the device sends: the bytes of the descriptor without the header. -/
def frame (region : TxRegion) : List UInt8 :=
  (region.mem.read region.desc.addr region.desc.len).drop virtioNetHdrLen

/-- The bytes where a frame of this length is put. -/
def room (len : Nat) (region : TxRegion) : List UInt8 :=
  region.mem.read (region.buf + virtioNetHdrLen) len

/-- `stage_frame_for_tx`. -/
def stage (frame : List UInt8) (region : TxRegion) : TxRegion :=
  { region with mem := region.mem.write (region.buf + virtioNetHdrLen) frame }

/-- Clear the header and describe a frame of this length. -/
def describe (len : Nat) (region : TxRegion) : TxRegion where
  physBase := region.physBase
  desc := { addr := region.buf, len := virtioNetHdrLen + len, flags := 0, next := 0 }
  mem := region.mem.write region.buf (List.replicate virtioNetHdrLen 0)

/-- The described frame is the one that was put there. -/
theorem frame_describe (len : Nat) (region : TxRegion) :
    (region.describe len).frame = region.room len := by
  unfold frame describe
  rw [ByteMemory.drop_read]
  apply ByteMemory.read_write_of_disjoint
  rw [List.length_replicate]
  exact Or.inr (Nat.le_refl _)

theorem room_stage (frame : List UInt8) (region : TxRegion) :
    (region.stage frame).room frame.length = frame := ByteMemory.read_write_self _ frame

end TxRegion

/-! ## The two paths -/

/-- The transmit queue, with what the driver and the kernel keep for themselves. -/
structure TxMachine where
  queue : Virtqueue TxRegion
  /-- `tx_next_idx` of the driver. -/
  txNextIdx : UInt16
  /-- The retries of a request whose completion the driver awaits. -/
  waiting : Option Nat
  /-- `new_avail_idx` of a frame whose completion the kernel awaits. -/
  polling : Option UInt16

namespace TxMachine

/-- After `do_probe`. -/
def probed (region : TxRegion) : TxMachine where
  queue := { chain := region, availIdx := 0, usedIdx := 0, takenIdx := 0 }
  txNextIdx := 0
  waiting := none
  polling := none

/-- `publish_and_notify` of the transmit queue, with the descriptor and its header. -/
def submitTxRequest (len : Nat) (machine : TxMachine) : TxMachine where
  queue := machine.queue.publish (machine.queue.chain.describe len) (machine.txNextIdx + 1)
  txNextIdx := machine.txNextIdx + 1
  waiting := some 0
  polling := machine.polling

def txCompletionPending (machine : TxMachine) : Bool :=
  machine.queue.usedIdx == machine.txNextIdx

/-- `MAX_WAIT_RETRIES`. -/
def maxWaitRetries : Nat := 8

/-- `handle_send_frame` up to its loop.  A frame that is too long is not submitted. -/
def handleSendFrame (len : Nat) (machine : TxMachine) : TxMachine :=
  if frameMax < len then machine else machine.submitTxRequest len

/-- The loop of `handle_send_frame` after an interrupt: is the frame sent? -/
def lookAfterWait (retries : Nat) (machine : TxMachine) : Bool × TxMachine :=
  if machine.txCompletionPending then (true, { machine with waiting := none })
  else
    (false, { machine with
      waiting := if maxWaitRetries ≤ retries + 1 then none else some (retries + 1) })

/-- The frame of `net_bypass_direct_send`. -/
def bypassFrame : List UInt8 :=
  List.replicate 6 0xff ++ List.replicate 6 0xb9 ++ [0xff, 0xff] ++ List.replicate 50 0xb5

/-- `net_bypass_direct_send` up to its loop.  It refuses while a frame is under way. -/
def netBypassDirectSend (machine : TxMachine) : Option TxMachine :=
  let nextIdx := machine.queue.availIdx
  if machine.queue.usedIdx ≠ nextIdx then none
  else
    let region := (machine.queue.chain.stage bypassFrame).describe bypassFrame.length
    some { machine with
      queue := machine.queue.publish region (nextIdx + 1)
      polling := some (nextIdx + 1) }

end TxMachine

/-! ## Histories -/

inductive TxEvent where
  /-- A process puts a frame into the buffer, to be sent by the driver. -/
  | stage (frame : List UInt8)
  /-- The driver takes the request to send what was put there. -/
  | sendFrame
  /-- The driver looks whether its frame is sent. -/
  | look
  | directSend
  /-- The kernel looks whether its frame is sent. -/
  | poll
  /-- The kernel has looked too often. -/
  | timeout
  /-- The device sends a frame. -/
  | take
  /-- The device returns a frame. -/
  | giveBack
  deriving DecidableEq, Repr

/-- A machine with the history of its frames, which are numbered from 1. -/
structure Transmission where
  machine : TxMachine
  /-- What was put into the buffer last. -/
  staged : List UInt8
  submitted : List (List UInt8)
  transmitted : List (List UInt8)
  /-- How many frames the device has returned. -/
  returned : Nat
  /-- The number of the last frame of the driver. -/
  driverFrame : Nat
  /-- The number of the last frame of the kernel. -/
  bypassFrame : Nat
  /-- The numbers that were reported as sent. -/
  confirmed : List Nat
  /-- Was the buffer or its descriptor rewritten while the device had it? -/
  overwritten : Bool

namespace Transmission

/-- Does the device have a frame? -/
def underWay (state : Transmission) : Bool := state.returned < state.submitted.length

def initial (region : TxRegion) : Transmission where
  machine := .probed region
  staged := []
  submitted := []
  transmitted := []
  returned := 0
  driverFrame := 0
  bypassFrame := 0
  confirmed := []
  overwritten := false

/-- What an event leads to, if it can happen.  The kernel does not leave its loop for
another thread. -/
def next (before : Transmission) : TxEvent → Option Transmission
  | .stage frame =>
      if before.machine.polling = none then
        some { before with
          machine := { before.machine with
            queue := { before.machine.queue with
              chain := before.machine.queue.chain.stage frame } }
          staged := frame
          overwritten := before.overwritten || before.underWay }
      else none
  | .sendFrame =>
      if before.machine.polling = none ∧ before.machine.waiting = none then
        if frameMax < before.staged.length then some before
        else
          some { before with
            machine := before.machine.handleSendFrame before.staged.length
            submitted := before.submitted ++ [before.staged]
            driverFrame := before.submitted.length + 1
            overwritten := before.overwritten || before.underWay }
      else none
  | .look =>
      match before.machine.waiting with
      | none => none
      | some retries =>
          if before.machine.polling = none then
            let (sent, machine) := before.machine.lookAfterWait retries
            some { before with
              machine
              confirmed :=
                if sent then before.driverFrame :: before.confirmed else before.confirmed }
          else none
  | .directSend =>
      if before.machine.polling = none then
        match before.machine.netBypassDirectSend with
        | none => some before
        | some machine =>
            some { before with
              machine
              submitted := before.submitted ++ [TxMachine.bypassFrame]
              bypassFrame := before.submitted.length + 1
              overwritten := before.overwritten || before.underWay }
      else none
  | .poll =>
      match before.machine.polling with
      | none => none
      | some newAvailIdx =>
          if before.machine.queue.usedIdx = newAvailIdx then
            some { before with
              machine := { before.machine with polling := none }
              confirmed := before.bypassFrame :: before.confirmed }
          else some before
  | .timeout =>
      match before.machine.polling with
      | none => none
      | some newAvailIdx =>
          if before.machine.queue.usedIdx = newAvailIdx then none
          else some { before with machine := { before.machine with polling := none } }
  | .take =>
      if before.machine.queue.takenIdx = before.machine.queue.availIdx then none
      else
        some { before with
          machine := { before.machine with queue := before.machine.queue.take }
          transmitted := before.transmitted ++ [before.machine.queue.chain.frame] }
  | .giveBack =>
      if before.machine.queue.usedIdx = before.machine.queue.takenIdx then none
      else
        some { before with
          machine := { before.machine with queue := before.machine.queue.giveBack }
          returned := before.returned + 1 }

def system : TransitionSystem Transmission TxEvent where
  Initial start := ∃ region, start = initial region
  Step before event after := before.next event = some after

/-- The two paths do not disturb each other. -/
structure Undisturbed (state : Transmission) : Prop where
  /-- The published index has advanced by one for each frame. -/
  advanced : state.machine.queue.availIdx = .ofNat state.submitted.length
  /-- Each frame was sent once, or the device is about to send it. -/
  once : state.submitted = state.transmitted ++
    if state.machine.queue.takenIdx = state.machine.queue.availIdx then []
    else [state.machine.queue.chain.frame]
  untouched : state.overwritten = false
  /-- A frame that was reported as sent has come back. -/
  honest : ∀ number ∈ state.confirmed, 0 < number ∧ number ≤ state.returned

/-- Nothing is under way when a frame is put into the buffer or submitted.  When the driver
submits, its index is the published one, and the frame is still in the buffer. -/
def Safe (state : Transmission) : TxEvent → Prop
  | .stage _ => state.machine.queue.usedIdx = state.machine.queue.availIdx
  | .sendFrame =>
      state.staged.length ≤ frameMax →
        state.machine.queue.usedIdx = state.machine.queue.availIdx ∧
          state.machine.txNextIdx = state.machine.queue.availIdx ∧
          state.machine.queue.chain.room state.staged.length = state.staged
  | _ => True

/-! ## The invariant -/

/-- The indices count the frames, and whoever awaits a completion knows its frame. -/
structure Sound (state : Transmission) : Prop where
  accounts : state.machine.queue.Accounts TxRegion.frame state.submitted state.transmitted
    state.returned
  waiting : state.machine.waiting.isSome →
    state.machine.txNextIdx = .ofNat state.driverFrame ∧ 0 < state.driverFrame ∧
      state.driverFrame ≤ state.submitted.length
  polling : ∀ newAvailIdx, state.machine.polling = some newAvailIdx →
    newAvailIdx = .ofNat state.bypassFrame ∧ 0 < state.bypassFrame ∧
      state.bypassFrame ≤ state.submitted.length
  untouched : state.overwritten = false
  honest : ∀ number ∈ state.confirmed, 0 < number ∧ number ≤ state.returned

namespace Sound

variable {state : Transmission}

theorem undisturbed (sound : state.Sound) : state.Undisturbed := by
  have accounts := sound.accounts
  constructor
  · exact accounts.avail
  · rw [if_congr (accounts.taken_iff.trans (by have := accounts.taken_le; omega :
      _ ↔ ¬ state.transmitted.length < state.submitted.length)) rfl rfl, ite_not]
    exact accounts.conserved
  · exact sound.untouched
  · exact sound.honest

theorem of_initial (region : TxRegion) : (initial region).Sound := by
  constructor
  · exact .empty region
  · exact fun absurdity => by cases absurdity
  · exact fun _ absurdity => by cases absurdity
  · rfl
  · exact fun _ member => by cases member

/-- While nothing is under way, nothing is overwritten. -/
theorem idle (sound : state.Sound)
    (idle : state.machine.queue.usedIdx = state.machine.queue.availIdx) :
    (state.overwritten || state.underWay) = false := by
  have all := sound.accounts.idle_iff.1 idle
  unfold underWay
  rw [sound.untouched, all]
  simp

theorem stage (sound : state.Sound) {frame : List UInt8} (safe : state.Safe (.stage frame))
    {after : Transmission} (taken : state.next (.stage frame) = some after) : after.Sound := by
  obtain ⟨_, same⟩ := Option.ite_none_right_eq_some.1 taken
  obtain rfl := Option.some.inj same
  constructor
  · exact sound.accounts.rewrite safe _
  · exact sound.waiting
  · exact sound.polling
  · exact sound.idle safe
  · exact sound.honest

theorem sendFrame (sound : state.Sound) (safe : state.Safe .sendFrame)
    {after : Transmission} (taken : state.next .sendFrame = some after) : after.Sound := by
  obtain ⟨⟨quiet, _⟩, submitted⟩ := Option.ite_none_right_eq_some.1 taken
  by_cases long : frameMax < state.staged.length
  · rw [if_pos long] at submitted
    obtain rfl := Option.some.inj submitted
    exact sound
  · rw [if_neg long] at submitted
    obtain rfl := Option.some.inj submitted
    obtain ⟨idle, fresh, intact⟩ := safe (Nat.le_of_not_lt long)
    have machine : state.machine.handleSendFrame state.staged.length =
        state.machine.submitTxRequest state.staged.length := if_neg long
    have published := sound.accounts.publish idle (congrArg (· + 1) fresh)
      (state.machine.queue.chain.describe state.staged.length)
    rw [TxRegion.frame_describe, intact] at published
    simp only [machine]
    constructor
    · exact published
    · intro _
      refine ⟨?_, Nat.succ_pos _, ?_⟩
      · change state.machine.txNextIdx + 1 = _
        rw [fresh, sound.accounts.avail, UInt16.ofNat_add]
        rfl
      · rw [List.length_append, List.length_singleton]
    · intro newAvailIdx polls
      change state.machine.polling = _ at polls
      rw [quiet] at polls
      cases polls
    · exact sound.idle idle
    · exact sound.honest

/-- The driver confirms its frame only when it is back. -/
theorem look (sound : state.Sound) {after : Transmission}
    (taken : state.next .look = some after) : after.Sound := by
  cases waits : state.machine.waiting with
  | none =>
      simp only [next, waits] at taken
      cases taken
  | some retries =>
      simp only [next, waits] at taken
      obtain ⟨quiet, same⟩ := Option.ite_none_right_eq_some.1 taken
      obtain rfl := Option.some.inj same
      obtain ⟨number, positive, submitted⟩ :=
        sound.waiting (Option.isSome_iff_exists.2 ⟨retries, waits⟩)
      unfold TxMachine.lookAfterWait
      by_cases pending : state.machine.txCompletionPending
      · have found : state.machine.queue.usedIdx = .ofNat state.driverFrame :=
          (beq_iff_eq.1 pending).trans number
        rw [if_pos pending]
        constructor
        · exact sound.accounts
        · exact fun absurdity => by cases absurdity
        · exact sound.polling
        · exact sound.untouched
        · intro confirmed member
          rcases List.mem_cons.1 member with rfl | earlier
          · exact ⟨positive, sound.accounts.completed submitted found⟩
          · exact sound.honest confirmed earlier
      · rw [if_neg pending]
        constructor
        · exact sound.accounts
        · exact fun _ => ⟨number, positive, submitted⟩
        · exact sound.polling
        · exact sound.untouched
        · exact sound.honest

theorem directSend (sound : state.Sound) {after : Transmission}
    (taken : state.next .directSend = some after) : after.Sound := by
  obtain ⟨quiet, sent⟩ := Option.ite_none_right_eq_some.1 taken
  by_cases idle : state.machine.queue.usedIdx = state.machine.queue.availIdx
  · have sends : state.machine.netBypassDirectSend = some _ := if_neg (not_not.2 idle)
    rw [sends] at sent
    obtain rfl := Option.some.inj sent
    have published := sound.accounts.publish idle rfl
      ((state.machine.queue.chain.stage TxMachine.bypassFrame).describe
        TxMachine.bypassFrame.length)
    rw [TxRegion.frame_describe, TxRegion.room_stage] at published
    have avail := sound.accounts.avail
    constructor
    · exact published
    · intro waits
      obtain ⟨number, positive, submitted⟩ := sound.waiting waits
      refine ⟨number, positive, ?_⟩
      rw [List.length_append]
      exact Nat.le_add_right_of_le submitted
    · rintro newAvailIdx ⟨⟩
      refine ⟨?_, Nat.succ_pos _, ?_⟩
      · rw [avail, UInt16.ofNat_add]
        rfl
      · rw [List.length_append, List.length_singleton]
    · exact sound.idle idle
    · exact sound.honest
  · have refuses : state.machine.netBypassDirectSend = none := if_pos idle
    rw [refuses] at sent
    obtain rfl := Option.some.inj sent
    exact sound

/-- The kernel confirms its frame only when it is back. -/
theorem poll (sound : state.Sound) {after : Transmission}
    (taken : state.next .poll = some after) : after.Sound := by
  cases polls : state.machine.polling with
  | none =>
      simp only [next, polls] at taken
      cases taken
  | some newAvailIdx =>
      simp only [next, polls] at taken
      obtain ⟨number, positive, submitted⟩ := sound.polling newAvailIdx polls
      split at taken
      · next found =>
        obtain rfl := Option.some.inj taken
        constructor
        · exact sound.accounts
        · exact sound.waiting
        · exact fun _ absurdity => by cases absurdity
        · exact sound.untouched
        · intro confirmed member
          rcases List.mem_cons.1 member with rfl | earlier
          · exact ⟨positive, sound.accounts.completed submitted (found.trans number)⟩
          · exact sound.honest confirmed earlier
      · obtain rfl := Option.some.inj taken
        exact sound

theorem timeout (sound : state.Sound) {after : Transmission}
    (taken : state.next .timeout = some after) : after.Sound := by
  cases polls : state.machine.polling with
  | none =>
      simp only [next, polls] at taken
      cases taken
  | some newAvailIdx =>
      simp only [next, polls] at taken
      obtain ⟨_, same⟩ := Option.ite_none_left_eq_some.1 taken
      obtain rfl := Option.some.inj same
      constructor
      · exact sound.accounts
      · exact sound.waiting
      · exact fun _ absurdity => by cases absurdity
      · exact sound.untouched
      · exact sound.honest

theorem take (sound : state.Sound) {after : Transmission}
    (taken : state.next .take = some after) : after.Sound := by
  obtain ⟨waits, same⟩ := Option.ite_none_left_eq_some.1 taken
  obtain rfl := Option.some.inj same
  exact ⟨sound.accounts.take waits, sound.waiting, sound.polling, sound.untouched,
    sound.honest⟩

theorem giveBack (sound : state.Sound) {after : Transmission}
    (taken : state.next .giveBack = some after) : after.Sound := by
  obtain ⟨holds, same⟩ := Option.ite_none_left_eq_some.1 taken
  obtain rfl := Option.some.inj same
  constructor
  · exact sound.accounts.giveBack holds
  · exact sound.waiting
  · exact sound.polling
  · exact sound.untouched
  · intro number member
    obtain ⟨positive, back⟩ := sound.honest number member
    exact ⟨positive, Nat.le_succ_of_le back⟩

theorem step {before after : Transmission} (sound : before.Sound) {event : TxEvent}
    (safe : before.Safe event) (taken : system.Step before event after) : after.Sound := by
  cases event with
  | stage frame => exact sound.stage safe taken
  | sendFrame => exact sound.sendFrame safe taken
  | look => exact sound.look taken
  | directSend => exact sound.directSend taken
  | poll => exact sound.poll taken
  | timeout => exact sound.timeout taken
  | take => exact sound.take taken
  | giveBack => exact sound.giveBack taken

end Sound

theorem paths_undisturbed {state : Transmission} (reachable : system.Reachable Safe state) :
    state.Undisturbed := by
  have sound : state.Sound := by
    refine reachable.invariant ?_ fun before event after safe sound taken =>
      sound.step safe taken
    rintro start ⟨region, rfl⟩
    exact .of_initial region
  exact sound.undisturbed

/-! ## Runs with both paths -/

theorem step_of_next (before : Transmission) (event : TxEvent) (after : Transmission)
    (taken : before.next event = some after) : system.Step before event after := taken

def sampleRegion : TxRegion where
  physBase := 4096
  desc := { addr := 0, len := 0, flags := 0, next := 0 }
  mem := fun _ => 0

instance decidableSafe (state : Transmission) :
    (event : TxEvent) → Decidable (state.Safe event)
  | .stage _ => inferInstanceAs (Decidable (_ = _))
  | .sendFrame => inferInstanceAs (Decidable (_ → _ ∧ _ ∧ _))
  | .look => isTrue trivial
  | .directSend => isTrue trivial
  | .poll => isTrue trivial
  | .timeout => isTrue trivial
  | .take => isTrue trivial
  | .giveBack => isTrue trivial

/-- First the driver sends, then the kernel. -/
def driverFirst : List TxEvent :=
  [.stage [1, 2, 3], .sendFrame, .take, .look, .giveBack, .look, .directSend, .take, .giveBack,
    .poll]

theorem paths_undisturbed_sample :
    ∃ state : Transmission, state.Undisturbed ∧ state.confirmed = [2, 1] ∧
      state.transmitted = [[1, 2, 3], TxMachine.bypassFrame] := by
  have ran : (TransitionSystem.runWhile next (fun state event => state.Safe event) driverFirst
      (initial sampleRegion)).any fun state => state.confirmed = [2, 1] ∧
        state.transmitted = [[1, 2, 3], TxMachine.bypassFrame] := by
    decide +kernel
  obtain ⟨last, reached, final⟩ := (Option.any_eq_true _ _).1 ran
  obtain ⟨confirmed, transmitted⟩ := of_decide_eq_true final
  have run := TransitionSystem.Reaches.runWhile step_of_next (.refl _) reached
  exact ⟨last, paths_undisturbed ⟨initial sampleRegion, ⟨sampleRegion, rfl⟩,
    run.mono fun _ _ admitted => of_decide_eq_true admitted⟩, confirmed, transmitted⟩

/-- First the kernel sends, then the driver. -/
def kernelFirst : List TxEvent :=
  [.directSend, .take, .giveBack, .poll, .stage [1, 2, 3], .sendFrame, .look]

/-- The driver publishes an index that is published already, and confirms a frame that the
device never sees. -/
theorem driver_confirms_unsent_frame :
    ¬ ∀ state : Transmission, system.Reachable TransitionSystem.anyStep state →
      state.Undisturbed := by
  intro claimed
  have ran : (TransitionSystem.runWhile next (fun _ _ => true) kernelFirst
      (initial sampleRegion)).any fun state => 2 ∈ state.confirmed ∧ state.returned = 1 := by
    decide +kernel
  obtain ⟨last, reached, final⟩ := (Option.any_eq_true _ _).1 ran
  obtain ⟨confirmed, returned⟩ := of_decide_eq_true final
  have run := TransitionSystem.Reaches.runWhile step_of_next (.refl _) reached
  have undisturbed := claimed last ⟨initial sampleRegion, ⟨sampleRegion, rfl⟩,
    run.mono fun _ _ _ => trivial⟩
  have back := (undisturbed.honest 2 confirmed).2
  rw [returned] at back
  omega

end Transmission

end Simurgh
