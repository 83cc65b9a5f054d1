import Simurgh.Drivers.VirtioNet
import Mathlib.Logic.Function.Basic

/-!
# Receiving frames

The receive queue has one buffer.  The device fills it with a frame and returns it with the
length, and `poll_rx` reports the frame and gives the buffer back to the device at once.
-/

namespace Simurgh

/-! ## The memory of the receive queue -/

/-- `VIRTQ_DESC_F_WRITE`. -/
def descWrite : Nat := 2

/-- `QUEUE_SIZE`. -/
def netQueueSize : Nat := 2

/-- The region of the queue, without its indices. -/
structure RxRegion where
  physBase : Nat
  desc : VirtqDescRaw
  mem : ByteMemory
  /-- The lengths in the used ring. -/
  usedLen : Nat → Nat

namespace RxRegion

def buf (region : RxRegion) : Nat := region.physBase + bufferOffset

/-- The bytes behind the header. -/
def frame (region : RxRegion) (len : Nat) : List UInt8 :=
  region.mem.read (region.buf + virtioNetHdrLen) len

@[simp]
theorem length_frame (region : RxRegion) (len : Nat) : (region.frame len).length = len :=
  ByteMemory.length_read _ _

/-- `copy_received_frame`. -/
def copyReceivedFrame (region : RxRegion) (len : Nat) : List UInt8 :=
  region.frame (min len frameMax)

/-- Describe the buffer. -/
def describe (region : RxRegion) : RxRegion :=
  { region with
    desc := { addr := region.buf, len := virtioNetHdrLen + frameMax, flags := descWrite,
              next := 0 } }

/-- The device writes a header and a frame into the described buffer. -/
def fill (header frame : List UInt8) (region : RxRegion) : RxRegion :=
  { region with
    mem := (region.mem.write region.desc.addr header).write
      (region.desc.addr + header.length) frame }

/-- The device notes how many bytes it has written. -/
def note (slot len : Nat) (region : RxRegion) : RxRegion :=
  { region with usedLen := Function.update region.usedLen slot len }

end RxRegion

/-! ## The driver -/

/-- The receive queue, with what the driver keeps for itself. -/
structure RxMachine where
  queue : Virtqueue RxRegion
  /-- `rx_next_idx`. -/
  rxNextIdx : UInt16

namespace RxMachine

def postRxBuffer (machine : RxMachine) : RxMachine where
  queue := machine.queue.publish machine.queue.chain.describe (machine.rxNextIdx + 1)
  rxNextIdx := machine.rxNextIdx + 1

/-- After `do_probe`. -/
def probed (region : RxRegion) : RxMachine :=
  postRxBuffer
    { queue := { chain := region, availIdx := 0, usedIdx := 0, takenIdx := 0 }, rxNextIdx := 0 }

/-- The slot of the used ring that `poll_rx` reads. -/
def slot (machine : RxMachine) : Nat := (machine.rxNextIdx - 1).toNat % netQueueSize

/-- The length of a frame that has arrived. -/
def pollRx (machine : RxMachine) : Option Nat × RxMachine :=
  if machine.queue.usedIdx ≠ machine.rxNextIdx then (none, machine)
  else
    let totalLen := machine.queue.chain.usedLen machine.slot
    (some (totalLen - virtioNetHdrLen), machine.postRxBuffer)

theorem pollRx_of_eq {machine : RxMachine} (ready : machine.queue.usedIdx = machine.rxNextIdx) :
    machine.pollRx =
      (some (machine.queue.chain.usedLen machine.slot - virtioNetHdrLen),
        machine.postRxBuffer) := if_neg (not_not.2 ready)

theorem pollRx_of_ne {machine : RxMachine} (busy : machine.queue.usedIdx ≠ machine.rxNextIdx) :
    machine.pollRx = (none, machine) := if_pos busy

end RxMachine

/-! ## Histories -/

inductive RxEvent where
  | pollFrame
  /-- The device takes the buffer and writes a frame into it. -/
  | fill (header frame : List UInt8)
  /-- The device returns the buffer. -/
  | deliver
  deriving DecidableEq, Repr

/-- A machine with the history of its frames. -/
structure Reception where
  machine : RxMachine
  /-- The buffers that were given to the device, and those that it took. -/
  posted : List VirtqDescRaw
  filled : List VirtqDescRaw
  /-- The frames that are written, but not returned. -/
  arriving : List (List UInt8)
  delivered : List (List UInt8)
  /-- The frames that polls have reported. -/
  reported : List (List UInt8)
  /-- The frame of the last poll, if it had one. -/
  announced : Option (List UInt8)

namespace Reception

def region (state : Reception) : RxRegion := state.machine.queue.chain

def initial (region : RxRegion) : Reception where
  machine := .probed region
  posted := [region.describe.desc]
  filled := []
  arriving := []
  delivered := []
  reported := []
  announced := none

/-- What an event leads to, if it can happen.  The device stays in the described buffer. -/
def next (before : Reception) : RxEvent → Option Reception
  | .pollFrame =>
      match before.machine.pollRx with
      | (none, machine) => some { before with machine, announced := none }
      | (some len, machine) =>
          some { before with
            machine
            posted := before.posted ++ [machine.queue.chain.desc]
            reported := before.reported ++ [before.region.frame len]
            announced := some (before.region.frame len) }
  | .fill header frame =>
      if before.machine.queue.takenIdx ≠ before.machine.queue.availIdx ∧
          header.length = virtioNetHdrLen ∧
          header.length + frame.length ≤ before.region.desc.len then
        let queue := { before.machine.queue with chain := before.region.fill header frame }
        some { before with
          machine := { before.machine with queue := queue.take }
          filled := before.filled ++ [before.region.desc]
          arriving := before.arriving ++ [frame] }
      else none
  | .deliver =>
      match before.arriving with
      | [] => none
      | frame :: rest =>
          let slot := before.machine.queue.usedIdx.toNat % netQueueSize
          let region := before.region.note slot (virtioNetHdrLen + frame.length)
          let queue := { before.machine.queue with chain := region }
          some { before with
            machine := { before.machine with queue := queue.giveBack }
            arriving := rest
            delivered := before.delivered ++ [frame] }

/-- The frames that are delivered, but not yet reported. -/
def waiting (state : Reception) : List (List UInt8) :=
  if state.machine.queue.usedIdx = state.machine.rxNextIdx then
    state.delivered.getLast?.toList
  else []

/-- Frames are reported once each, in their order. -/
structure Exact (state : Reception) : Prop where
  once : state.delivered = state.reported ++ state.waiting
  short : ∀ frame ∈ state.reported, frame.length ≤ frameMax

/-- A client that copies the announced frame gets it as it was when it was announced. -/
def Intact (state : Reception) : Prop :=
  ∀ frame, state.announced = some frame →
    state.region.copyReceivedFrame frame.length = frame

/-- A frame that arrives after an announced one has the same bytes. -/
def Safe (state : Reception) : RxEvent → Prop
  | .fill _ frame => ∀ old, state.announced = some old →
      frame.take old.length = old.take frame.length
  | _ => True

/-! ## The invariant -/

/-- The buffer has a frame. -/
def Holds (state : Reception) (frame : List UInt8) : Prop :=
  frame.length ≤ frameMax ∧ state.region.frame frame.length = frame

/-- Where the last buffer is: it waits for a frame, it has one, or it is returned. -/
inductive Place (state : Reception) : Prop where
  | open (none : state.arriving = []) (filled : state.filled.length = state.delivered.length)
      (posted : state.posted.length = state.delivered.length + 1)
      (reported : state.delivered = state.reported)
  | arriving (frame : List UInt8) (one : state.arriving = [frame])
      (filled : state.filled.length = state.delivered.length + 1)
      (posted : state.posted.length = state.delivered.length + 1)
      (reported : state.delivered = state.reported) (holds : state.Holds frame)
  | returned (frame : List UInt8) (none : state.arriving = [])
      (filled : state.filled.length = state.delivered.length)
      (posted : state.posted.length = state.delivered.length)
      (reported : state.delivered = state.reported ++ [frame]) (holds : state.Holds frame)
      (noted : state.region.usedLen state.machine.slot = virtioNetHdrLen + frame.length)

structure Sound (state : Reception) : Prop where
  accounts : state.machine.queue.Accounts RxRegion.desc state.posted state.filled
    state.delivered.length
  index : state.machine.rxNextIdx = state.machine.queue.availIdx
  described : state.region.desc = state.region.describe.desc
  place : state.Place
  short : ∀ frame ∈ state.reported, frame.length ≤ frameMax
  latest : ∀ frame, state.announced = some frame → frame ∈ state.reported

namespace Sound

variable {state after : Reception}

theorem of_initial (region : RxRegion) : (initial region).Sound where
  accounts := Virtqueue.Accounts.publish (.empty region) rfl rfl region.describe
  index := rfl
  described := rfl
  place := .open rfl rfl rfl rfl
  short _ member := by cases member
  latest _ announced := by cases announced

/-- The driver sees the completion exactly if no buffer is under way. -/
theorem pending_iff (sound : state.Sound) :
    state.machine.queue.usedIdx = state.machine.rxNextIdx ↔
      state.delivered.length = state.posted.length := by
  rw [sound.index]
  exact sound.accounts.idle_iff

theorem exact (sound : state.Sound) : state.Exact where
  once := by
    unfold waiting
    cases sound.place with
    | «open» none filled posted reported =>
        rw [if_neg (fun pending => by
          have := sound.pending_iff.1 pending
          omega), List.append_nil]
        exact reported
    | arriving frame one filled posted reported holds =>
        rw [if_neg (fun pending => by
          have := sound.pending_iff.1 pending
          omega), List.append_nil]
        exact reported
    | returned frame none filled posted reported holds noted =>
        rw [if_pos (sound.pending_iff.2 posted.symm), reported, List.getLast?_concat]
        rfl
  short := sound.short

theorem pollFrame (sound : state.Sound) (taken : state.next .pollFrame = some after) :
    after.Sound := by
  by_cases pending : state.machine.queue.usedIdx = state.machine.rxNextIdx
  · simp only [next, RxMachine.pollRx_of_eq pending] at taken
    obtain rfl := Option.some.inj taken
    have all := sound.pending_iff.1 pending
    cases sound.place with
    | «open» none filled posted reported => omega
    | arriving frame one filled posted reported holds => omega
    | returned frame none filled posted reported holds noted =>
        have len : state.machine.queue.chain.usedLen state.machine.slot - virtioNetHdrLen =
            frame.length := by
          change state.region.usedLen state.machine.slot - virtioNetHdrLen = _
          rw [noted, Nat.add_sub_cancel_left]
        rw [len, holds.2]
        have idle := sound.accounts.idle_iff.2 all
        have published := sound.accounts.publish idle (congrArg (· + 1) sound.index)
          state.region.describe
        refine ⟨published, rfl, rfl, .open none filled ?_ reported, ?_, ?_⟩
        · change (state.posted ++ [state.region.describe.desc]).length = _
          rw [List.length_append, List.length_singleton, posted]
        · intro other member
          rcases List.mem_append.1 member with earlier | last
          · exact sound.short other earlier
          · rw [List.mem_singleton.1 last]
            exact holds.1
        · intro other announced
          obtain rfl := Option.some.inj announced
          exact List.mem_append_right _ (List.mem_singleton.2 rfl)
  · simp only [next, RxMachine.pollRx_of_ne pending] at taken
    obtain rfl := Option.some.inj taken
    exact ⟨sound.accounts, sound.index, sound.described, by
      cases sound.place with
      | «open» none filled posted reported => exact .open none filled posted reported
      | arriving frame one filled posted reported holds =>
          exact .arriving frame one filled posted reported holds
      | returned frame none filled posted reported holds noted =>
          exact .returned frame none filled posted reported holds noted, sound.short,
      fun _ announced => by cases announced⟩

/-- The device writes the frame behind the header. -/
theorem frame_fill (sound : state.Sound) {header frame : List UInt8}
    (long : header.length = virtioNetHdrLen) (len : Nat) :
    (state.region.fill header frame).frame len =
      ((state.region.mem.write state.region.buf header).write
        (state.region.buf + virtioNetHdrLen) frame).read
          (state.region.buf + virtioNetHdrLen) len := by
  have addr : state.region.desc.addr = state.region.buf := by
    rw [sound.described]
    rfl
  unfold RxRegion.fill RxRegion.frame
  rw [addr, long]
  rfl

theorem fill (sound : state.Sound) {header frame : List UInt8}
    (taken : state.next (.fill header frame) = some after) : after.Sound := by
  obtain ⟨⟨waits, long, fits⟩, same⟩ := Option.ite_none_right_eq_some.1 taken
  obtain rfl := Option.some.inj same
  have missing : state.filled.length < state.posted.length :=
    Nat.lt_of_le_of_ne sound.accounts.taken_le fun all => waits (sound.accounts.taken_iff.2 all)
  have described : state.region.desc.len = virtioNetHdrLen + frameMax := by
    rw [sound.described]
    rfl
  cases sound.place with
  | arriving other one filled posted reported holds => omega
  | returned other none filled posted reported holds noted => omega
  | «open» none filled posted reported =>
      refine ⟨(sound.accounts.keep (state.region.fill header frame) rfl).take waits,
        sound.index, sound.described, .arriving frame ?_ ?_ posted reported ⟨by omega, ?_⟩,
        sound.short, sound.latest⟩
      · change state.arriving ++ [frame] = [frame]
        rw [none, List.nil_append]
      · change (state.filled ++ [state.region.desc]).length = _
        rw [List.length_append, List.length_singleton, filled]
      · change (state.region.fill header frame).frame frame.length = frame
        rw [sound.frame_fill long, ByteMemory.read_write_self]

theorem deliver (sound : state.Sound) (taken : state.next .deliver = some after) :
    after.Sound := by
  cases sound.place with
  | «open» none filled posted reported =>
      simp only [next, none] at taken
      cases taken
  | returned other none filled posted reported holds noted =>
      simp only [next, none] at taken
      cases taken
  | arriving frame one filled posted reported holds =>
      simp only [next, one] at taken
      obtain rfl := Option.some.inj taken
      have back : state.machine.queue.usedIdx ≠ state.machine.queue.takenIdx := by
        intro all
        have := sound.accounts.returned_iff.1 all
        omega
      have slot : state.machine.slot = state.machine.queue.usedIdx.toNat % netQueueSize := by
        have next : state.machine.rxNextIdx - 1 = state.machine.queue.usedIdx := by
          rw [sound.index, sound.accounts.avail, sound.accounts.used, posted, UInt16.ofNat_add]
          exact UInt16.add_sub_cancel _ _
        rw [RxMachine.slot, next]
      have longer : (state.delivered ++ [frame]).length = state.delivered.length + 1 := by
        rw [List.length_append, List.length_singleton]
      have accounts := (sound.accounts.keep (state.region.note
        (state.machine.queue.usedIdx.toNat % netQueueSize) (virtioNetHdrLen + frame.length))
          rfl).giveBack back
      refine ⟨?_, sound.index, sound.described,
        .returned frame rfl ?_ ?_ ?_ holds ?_, sound.short, sound.latest⟩
      · change Virtqueue.Accounts _ _ _ (state.delivered ++ [frame]).length _
        rw [longer]
        exact accounts
      · exact filled.trans longer.symm
      · exact posted.trans longer.symm
      · change state.delivered ++ [frame] = _
        rw [reported]
      · change Function.update _ _ _ state.machine.slot = _
        rw [slot, Function.update_self]

theorem step {before after : Reception} (sound : before.Sound) {event : RxEvent}
    (taken : before.next event = some after) : after.Sound := by
  cases event with
  | pollFrame => exact sound.pollFrame taken
  | fill header frame => exact sound.fill taken
  | deliver => exact sound.deliver taken

/-! ## The announced frame -/

theorem intact_iff (sound : state.Sound) :
    state.Intact ↔ ∀ frame, state.announced = some frame →
      state.region.frame frame.length = frame := by
  refine forall_congr' fun frame => imp_congr_right fun announced => ?_
  have short := sound.short frame (sound.latest frame announced)
  rw [RxRegion.copyReceivedFrame, Nat.min_eq_left short]

/-- The announced frame survives another one exactly if their bytes agree. -/
theorem intact_fill_iff (sound : state.Sound) (intact : state.Intact)
    {header frame : List UInt8} (taken : state.next (.fill header frame) = some after) :
    after.Intact ↔ state.Safe (.fill header frame) := by
  rw [(sound.fill taken).intact_iff]
  obtain ⟨⟨_, long, _⟩, same⟩ := Option.ite_none_right_eq_some.1 taken
  obtain rfl := Option.some.inj same
  refine forall_congr' fun old => imp_congr_right fun announced => ?_
  change (state.region.fill header frame).frame old.length = old ↔ _
  have here : (state.region.mem.write state.region.buf header).read
      (state.region.buf + virtioNetHdrLen) old.length = old := by
    rw [ByteMemory.read_write_of_disjoint (.inr (by rw [long]))]
    exact sound.intact_iff.1 intact old announced
  rw [sound.frame_fill long, ByteMemory.read_write_eq_iff here]

theorem intact_step (sound : state.Sound) (intact : state.Intact) {event : RxEvent}
    (safe : state.Safe event) (taken : state.next event = some after) : after.Intact := by
  cases event with
  | fill header frame => exact (sound.intact_fill_iff intact taken).2 safe
  | pollFrame =>
      rw [(sound.pollFrame taken).intact_iff]
      intro frame announced
      by_cases pending : state.machine.queue.usedIdx = state.machine.rxNextIdx
      · simp only [next, RxMachine.pollRx_of_eq pending] at taken
        obtain rfl := Option.some.inj taken
        obtain rfl := Option.some.inj announced
        rw [RxRegion.length_frame]
        rfl
      · simp only [next, RxMachine.pollRx_of_ne pending] at taken
        obtain rfl := Option.some.inj taken
        cases announced
  | deliver =>
      rw [(sound.deliver taken).intact_iff]
      intro frame announced
      cases arriving : state.arriving with
      | nil =>
          simp only [next, arriving] at taken
          cases taken
      | cons first rest =>
          simp only [next, arriving] at taken
          obtain rfl := Option.some.inj taken
          exact sound.intact_iff.1 intact frame announced

end Sound

end Reception

end Simurgh
