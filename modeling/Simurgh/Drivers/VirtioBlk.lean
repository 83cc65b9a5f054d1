import Simurgh.Lib.TransitionSystem
import Simurgh.Lib.Virtqueue
import Simurgh.Protocol.Driver
import Mathlib.Algebra.Order.Ring.Nat
import Mathlib.Logic.Function.Basic

/-!
# The block driver

A request is a chain of three descriptors: its header, a sector of data and a status byte.
The driver writes all chains to the same place, and knows that the last one is done when the
index of the used ring is the index that it has published.  It gives up waiting after a
number of looks.
-/

namespace Simurgh

/-! ## The memory of the request queue -/

namespace VirtioBlk

inductive BlkReqType where
  | «in»
  | out
  | flush
  deriving DecidableEq, Repr

def BlkReqType.code : BlkReqType → Nat
  | .in => 0
  | .out => 1
  | .flush => 4

structure BlkReqHeader where
  reqType : Nat
  reserved : Nat
  sector : UInt64
  deriving DecidableEq, Repr

structure VirtqDescRaw where
  addr : Nat
  len : Nat
  flags : Nat
  next : Nat
  deriving DecidableEq, Repr

def sectorSize : UInt32 := 512

/-- `layout::HEADER_OFFSET`. -/
def headerOffset : Nat := 256

/-- `layout::STATUS_OFFSET`. -/
def statusOffset : Nat := 272

/-- `layout::DATA_OFFSET`. -/
def dataOffset : Nat := 512

/-- `VIRTQ_DESC_F_NEXT`. -/
def descNext : Nat := 1

/-- `VIRTQ_DESC_F_WRITE`. -/
def descWrite : Nat := 2

/-- The region of the queue, without its indices.  Every entry of its rings names the
descriptor 0. -/
structure BlkRegion where
  physBase : Nat
  desc : Nat → VirtqDescRaw
  header : BlkReqHeader
  status : UInt8
  data : List UInt8

/-- What tells the device what to do. -/
structure BlkChain where
  header : BlkReqHeader
  first : VirtqDescRaw
  second : VirtqDescRaw
  third : VirtqDescRaw
  deriving DecidableEq, Repr

def BlkRegion.blkChain (region : BlkRegion) : BlkChain where
  header := region.header
  first := region.desc 0
  second := region.desc 1
  third := region.desc 2

/-! ## Submitting a request -/

/-- The stores of `submit_request` before it publishes the chain. -/
inductive BlkWrite where
  | header (header : BlkReqHeader)
  | status (value : UInt8)
  | desc (i : Nat) (desc : VirtqDescRaw)
  deriving DecidableEq, Repr

def BlkRegion.store (region : BlkRegion) : BlkWrite → BlkRegion
  | .header header => { region with header }
  | .status status => { region with status }
  | .desc i desc => { region with desc := Function.update region.desc i desc }

/-- The chain of a request. -/
def requestChain (physBase : Nat) (reqType : BlkReqType) (sector : UInt64) (dataLen : Nat) :
    BlkChain where
  header := { reqType := reqType.code, reserved := 0, sector }
  first := { addr := physBase + headerOffset, len := 16, flags := descNext, next := 1 }
  second :=
    { addr := physBase + dataOffset, len := dataLen,
      flags := descNext ||| (if reqType = .out then 0 else descWrite), next := 2 }
  third := { addr := physBase + statusOffset, len := 1, flags := descWrite, next := 0 }

/-- `submit_request` up to the available ring. -/
def submitRequest (chain : BlkChain) : List BlkWrite :=
  [.header chain.header, .status 0xff, .desc 0 chain.first, .desc 1 chain.second,
    .desc 2 chain.third]

theorem foldl_submitRequest (chain : BlkChain) (region : BlkRegion) :
    ((submitRequest chain).foldl BlkRegion.store region).blkChain = chain := rfl

/-- The driver does not write the data buffer. -/
theorem foldl_store_data (todo : List BlkWrite) (region : BlkRegion) (data : List UInt8) :
    todo.foldl BlkRegion.store { region with data } =
      { todo.foldl BlkRegion.store region with data } := by
  induction todo generalizing region with
  | nil => rfl
  | cons write rest ih =>
      have same : BlkRegion.store { region with data } write =
          { region.store write with data } := by
        cases write with
        | header header => rfl
        | status status => rfl
        | desc i desc => rfl
      rw [List.foldl_cons, List.foldl_cons, same, ih]

/-! ## The driver -/

/-- `lba + 1 > capacity_sectors` panics on the last number in builds with overflow checks. -/
def validateIo (checks : Bool) (capacitySectors : UInt64) (sectorCount : UInt32)
    (lba : UInt64) : Option (Except DriverErrorCode Unit) :=
  if sectorCount ≠ 1 then some (.error .unsupported)
  else if capacitySectors = 0 then some (.ok ())
  else if checks ∧ lba.toNat + 1 = 2 ^ 64 then none
  else if capacitySectors < lba + 1 then some (.error .outOfRange)
  else some (.ok ())

/-- What the driver does with a request that does not panic. -/
inductive Handling where
  | answer (resp : DriverResponse)
  | submit (reqType : BlkReqType) (lba : UInt64)
  deriving DecidableEq, Repr

/-- Does the request need a chain? -/
def Handling.submits : Handling → Bool
  | .answer _ => false
  | .submit _ _ => true

def handleIo (checks : Bool) (capacitySectors : UInt64) (reqType : BlkReqType)
    (sectorCount : UInt32) (lba : UInt64) : Option Handling :=
  (validateIo checks capacitySectors sectorCount lba).map fun
    | .error code => .answer (.failed code)
    | .ok () => .submit reqType lba

/-- `handle_request`, and `handle_io` up to its loop. -/
def handleRequest (checks ready : Bool) (capacitySectors : UInt64) :
    DriverRequest → Option Handling
  | req =>
      if ready = false then some (.answer (.failed .probeFailed))
      else
        match req with
        | .readBlocks lba sectorCount _ => handleIo checks capacitySectors .in sectorCount lba
        | .writeBlocks lba sectorCount _ => handleIo checks capacitySectors .out sectorCount lba
        | .probe | .quiesce => some (.answer (.ready sectorSize capacitySectors))
        | .irq _ => some (.answer (.completed 0))
        | .sendFrame _ | .pollFrame => some (.answer (.failed .unsupported))

/-- Behind the check of the count.  The capacity 0 is not known. -/
theorem validateIo_one {checks : Bool} {capacitySectors lba : UInt64} (known : capacitySectors ≠ 0)
    (noWrap : lba.toNat + 1 < 2 ^ 64) :
    validateIo checks capacitySectors 1 lba = some (.ok ()) ↔
      lba.toNat + 1 ≤ capacitySectors.toNat := by
  have next : (lba + 1).toNat = lba.toNat + 1 := by
    rw [UInt64.toNat_add]
    exact Nat.mod_eq_of_lt noWrap
  have fits : ¬ (checks = true ∧ lba.toNat + 1 = 2 ^ 64) :=
    fun wraps => Nat.ne_of_lt noWrap wraps.2
  rw [validateIo, if_neg (fun ne => ne rfl), if_neg known, if_neg fits]
  by_cases outside : capacitySectors < lba + 1
  · rw [if_pos outside]
    rw [UInt64.lt_iff_toNat_lt, next] at outside
    exact iff_of_false (fun passes => nomatch passes) (Nat.not_le_of_lt outside)
  · rw [if_neg outside]
    rw [UInt64.lt_iff_toNat_lt, next] at outside
    exact iff_of_true rfl (Nat.le_of_not_lt outside)

/-- One sector passes if it lies in the device, or if the capacity is not known. -/
theorem validateIo_iff (checks : Bool) (capacitySectors : UInt64) (sectorCount : UInt32)
    (lba : UInt64)
    (noWrap : sectorCount = 1 → capacitySectors ≠ 0 → lba.toNat + 1 < 2 ^ 64) :
    validateIo checks capacitySectors sectorCount lba = some (.ok ()) ↔
      sectorCount = 1 ∧
        (capacitySectors = 0 ∨ lba.toNat + sectorCount.toNat ≤ capacitySectors.toNat) := by
  by_cases one : sectorCount = 1
  · obtain rfl := one
    by_cases known : capacitySectors = 0
    · rw [validateIo, if_neg (fun ne => ne rfl), if_pos known]
      exact iff_of_true rfl ⟨rfl, Or.inl known⟩
    · rw [validateIo_one known (noWrap rfl known), or_iff_right known, and_iff_right rfl]
      exact Iff.rfl
  · rw [validateIo, if_pos one]
    exact iff_of_false (fun passes => nomatch passes) (fun passes => one passes.1)

theorem validateIo_iff_sample :
    validateIo true 100 1 99 = some (.ok ()) ∧ validateIo true 100 1 100 ≠ some (.ok ()) := by
  constructor
  · exact (validateIo_iff true 100 1 99 (fun _ _ => by decide)).2 ⟨rfl, Or.inr (by decide)⟩
  · intro passes
    have inside := ((validateIo_iff true 100 1 100 (fun _ _ => by decide)).1 passes).2
    revert inside
    decide

/-- A device without sectors passes every request for one. -/
theorem empty_device_not_checked :
    validateIo true 0 1 5 = some (.ok ()) ∧
      ¬ ((5 : UInt64).toNat + (1 : UInt32).toNat ≤ (0 : UInt64).toNat) := by
  decide

/-- How the driver waits: for interrupts, or polling. -/
inductive Strategy where
  | irq
  | poll
  deriving DecidableEq, Repr

/-- `MAX_WAIT_RETRIES` and `MAX_SPINS`. -/
def Strategy.maxLooks : Strategy → Nat
  | .irq => 8
  | .poll => 20000000

/-- Where the driver is in a request. -/
inductive Phase where
  | idle
  | writing (strategy : Strategy) (chain : BlkChain) (todo : List BlkWrite)
  | waiting (strategy : Strategy) (looks : Nat)
  /-- The completion is seen, the status is not yet read. -/
  | acking

/-- The request queue with the driver. -/
structure Machine where
  queue : Virtqueue BlkRegion
  nextIdx : UInt16
  capacitySectors : UInt64
  ready : Bool
  phase : Phase

namespace Machine

/-- Before or after `do_probe`. -/
def probed (region : BlkRegion) (capacitySectors : UInt64) (ready : Bool) : Machine where
  queue := { chain := region, availIdx := 0, usedIdx := 0, takenIdx := 0 }
  nextIdx := 0
  capacitySectors := capacitySectors
  ready := ready
  phase := .idle

def setRegion (region : BlkRegion) (machine : Machine) : Machine :=
  { machine with queue := { machine.queue with chain := region } }

/-- The end of `submit_request`. -/
def publish (strategy : Strategy) (machine : Machine) : Machine :=
  { machine with
    queue := machine.queue.publish machine.queue.chain (machine.nextIdx + 1)
    nextIdx := machine.nextIdx + 1
    phase := .waiting strategy 0 }

def completionPending (machine : Machine) : Bool :=
  machine.queue.usedIdx == machine.nextIdx

/-- The answer for the status byte of a request. -/
def respond (status : UInt8) : DriverResponse :=
  if status = 0 then .completed 1 else .failed .deviceIo

end Machine

/-! ## Histories -/

inductive Event where
  /-- A client puts a sector into the data buffer. -/
  | stage (data : List UInt8)
  | request (strategy : Strategy) (req : DriverRequest)
  /-- The next store of the driver. -/
  | store
  | publish
  /-- The driver looks for the completion. -/
  | look
  | ack
  /-- The device takes a chain. -/
  | take
  /-- The device writes the data buffer, or the status byte of a chain that it has. -/
  | fill (data : List UInt8)
  | report (number : Nat) (status : UInt8)
  /-- The device returns a chain. -/
  | giveBack (number : Nat) (status : UInt8)
  deriving DecidableEq, Repr

/-- A machine with the history of its chains, which are numbered from 1. -/
structure Traffic where
  machine : Machine
  submitted : List BlkChain
  /-- The chains as the device has read them. -/
  taken : List BlkChain
  /-- The chains that the device has, with the status that it has written. -/
  working : List (Nat × Option UInt8)
  /-- The chains that the device has returned, with their status, newest first. -/
  outcomes : List (Nat × UInt8)
  /-- The number of the last chain of the driver. -/
  serving : Nat
  /-- The answers of the driver, each with the number of the chain of its request. -/
  answers : List (Option Nat × DriverResponse)
  /-- Did the driver write to a chain that was not returned? -/
  overwritten : Bool

namespace Traffic

/-- Is a chain not yet returned? -/
def underWay (state : Traffic) : Bool := state.outcomes.length < state.submitted.length

def region (state : Traffic) : BlkRegion := state.machine.queue.chain

def initial (region : BlkRegion) (capacitySectors : UInt64) (ready : Bool) : Traffic where
  machine := .probed region capacitySectors ready
  submitted := []
  taken := []
  working := []
  outcomes := []
  serving := 0
  answers := []
  overwritten := false

def setRegion (state : Traffic) (region : BlkRegion) : Traffic :=
  { state with machine := state.machine.setRegion region }

def setPhase (state : Traffic) (phase : Phase) : Traffic :=
  { state with machine := { state.machine with phase } }

def answer (state : Traffic) (own : Option Nat) (resp : DriverResponse) : Traffic :=
  { state.setPhase .idle with answers := (own, resp) :: state.answers }

/-- The driver starts with a request. -/
def start (state : Traffic) (strategy : Strategy) : Handling → Traffic
  | .answer resp => state.answer none resp
  | .submit reqType lba =>
      let chain := requestChain state.region.physBase reqType lba sectorSize.toNat
      state.setPhase (.writing strategy chain (submitRequest chain))

/-- The driver has looked at the used ring. -/
def looked (state : Traffic) (strategy : Strategy) (looks : Nat) : Traffic :=
  if state.machine.completionPending then state.setPhase .acking
  else if strategy.maxLooks ≤ looks + 1 then
    state.answer (some state.serving) (.failed .deviceIo)
  else state.setPhase (.waiting strategy (looks + 1))

/-- What an event leads to, if it can happen. -/
def next (checks : Bool) (before : Traffic) : Event → Option Traffic
  | .stage data => some (before.setRegion { before.region with data })
  | .request strategy req =>
      match before.machine.phase with
      | .idle =>
          (handleRequest checks before.machine.ready before.machine.capacitySectors req).map
            (before.start strategy)
      | _ => none
  | .store =>
      match before.machine.phase with
      | .writing strategy chain (write :: rest) =>
          some { (before.setRegion (before.region.store write)).setPhase
              (.writing strategy chain rest) with
            overwritten := before.overwritten || before.underWay }
      | _ => none
  | .publish =>
      match before.machine.phase with
      | .writing strategy chain [] =>
          some { before with
            machine := before.machine.publish strategy
            submitted := before.submitted ++ [chain]
            serving := before.submitted.length + 1 }
      | _ => none
  | .look =>
      match before.machine.phase with
      | .waiting strategy looks => some (before.looked strategy looks)
      | _ => none
  | .ack =>
      match before.machine.phase with
      | .acking =>
          some (before.answer (some before.serving) (Machine.respond before.region.status))
      | _ => none
  | .take =>
      if before.machine.queue.takenIdx = before.machine.queue.availIdx then none
      else
        some { before with
          machine := { before.machine with queue := before.machine.queue.take }
          taken := before.taken ++ [before.region.blkChain]
          working := before.working ++ [(before.taken.length + 1, none)] }
  | .fill data =>
      if before.working = [] then none
      else some (before.setRegion { before.region with data })
  | .report number status =>
      if number ∈ before.working.map Prod.fst then
        some { before.setRegion { before.region with status } with
          working := before.working.map fun work =>
            if work.1 = number then (number, some status) else work }
      else none
  | .giveBack number status =>
      if (number, some status) ∈ before.working then
        some { before with
          machine := { before.machine with queue := before.machine.queue.giveBack }
          working := before.working.filter fun work => work.1 ≠ number
          outcomes := (number, status) :: before.outcomes }
      else none

def system (checks : Bool) : TransitionSystem Traffic Event where
  Initial start := ∃ region capacitySectors ready, start = initial region capacitySectors ready
  Step before event after := before.next checks event = some after

/-- The driver keeps away from chains that are not returned. -/
structure Owned (state : Traffic) : Prop where
  untouched : state.overwritten = false
  /-- The device reads what was submitted. -/
  intact : state.taken <+: state.submitted
  /-- A completed request had a chain that the device returned with status OK. -/
  honest : ∀ number sectors, (some number, .completed sectors) ∈ state.answers →
    (number, 0) ∈ state.outcomes
  /-- A request without a chain moves no sectors. -/
  chainless : ∀ sectors, (none, .completed sectors) ∈ state.answers → sectors = 0

/-- A request that needs a chain comes when all chains are returned. -/
def Safe (checks : Bool) (state : Traffic) : Event → Prop
  | .request _ req =>
      (handleRequest checks state.machine.ready state.machine.capacitySectors req).any
          Handling.submits →
        state.machine.queue.usedIdx = state.machine.nextIdx
  | _ => True

/-! ## The invariant -/

/-- The request of the driver is the last one, and if its chain is returned, its status is
still there. -/
structure Awaits (state : Traffic) : Prop where
  serving : state.serving = state.submitted.length
  positive : 0 < state.submitted.length
  last : state.outcomes.length = state.submitted.length →
    state.outcomes.head? = some (state.submitted.length, state.region.status)

/-- What holds while the driver is in a phase. -/
def Keeps (state : Traffic) : Phase → Prop
  | .idle => True
  | .writing _ chain todo =>
      state.outcomes.length = state.submitted.length ∧
        (todo.foldl BlkRegion.store state.region).blkChain = chain
  | .waiting _ _ => state.Awaits
  | .acking => state.Awaits ∧ state.outcomes.length = state.submitted.length

/-- The device has no chain, or the last one. -/
def Single (state : Traffic) : Prop :=
  (state.working = [] ∧ state.outcomes.length = state.taken.length) ∨
    ∃ written, state.working = [(state.taken.length, written)] ∧
      state.taken.length = state.outcomes.length + 1 ∧
      ∀ status, written = some status → state.region.status = status

structure Sound (state : Traffic) : Prop where
  accounts : state.machine.queue.Accounts BlkRegion.blkChain state.submitted state.taken
    state.outcomes.length
  index : state.machine.nextIdx = state.machine.queue.availIdx
  single : state.Single
  keeps : state.Keeps state.machine.phase
  untouched : state.overwritten = false
  honest : ∀ number sectors, (some number, .completed sectors) ∈ state.answers →
    (number, 0) ∈ state.outcomes
  chainless : ∀ sectors, (none, .completed sectors) ∈ state.answers → sectors = 0

namespace Sound

variable {state : Traffic}

theorem owned (sound : state.Sound) : state.Owned where
  untouched := sound.untouched
  intact := by
    rw [sound.accounts.conserved]
    exact List.prefix_append _ _
  honest := sound.honest
  chainless := sound.chainless

theorem of_initial (region : BlkRegion) (capacitySectors : UInt64) (ready : Bool) :
    (initial region capacitySectors ready).Sound where
  accounts := .empty region
  index := rfl
  single := .inl ⟨rfl, rfl⟩
  keeps := trivial
  untouched := rfl
  honest _ _ member := by cases member
  chainless _ member := by cases member

/-- The driver sees the completion exactly if nothing is under way. -/
theorem completionPending_iff (sound : state.Sound) :
    state.machine.completionPending = true ↔ state.outcomes.length = state.submitted.length := by
  unfold Machine.completionPending
  rw [beq_iff_eq, sound.index]
  exact sound.accounts.idle_iff

theorem idle_iff (sound : state.Sound) :
    state.machine.queue.usedIdx = state.machine.queue.availIdx ↔
      state.outcomes.length = state.submitted.length := sound.accounts.idle_iff

/-- Nothing changes but the phase and the answers. -/
theorem setPhase (sound : state.Sound) {phase : Phase} (keeps : state.Keeps phase) :
    (state.setPhase phase).Sound where
  accounts := sound.accounts
  index := sound.index
  single := sound.single
  keeps := by
    cases phase with
    | idle => trivial
    | writing strategy chain todo => exact keeps
    | waiting strategy looks => exact ⟨keeps.serving, keeps.positive, keeps.last⟩
    | acking => exact ⟨⟨keeps.1.serving, keeps.1.positive, keeps.1.last⟩, keeps.2⟩
  untouched := sound.untouched
  honest := sound.honest
  chainless := sound.chainless

theorem answer (sound : state.Sound) {own : Option Nat} {resp : DriverResponse}
    (honest : ∀ number sectors, own = some number → resp = .completed sectors →
      (number, 0) ∈ state.outcomes)
    (chainless : ∀ sectors, own = none → resp = .completed sectors → sectors = 0) :
    (state.answer own resp).Sound where
  accounts := sound.accounts
  index := sound.index
  single := sound.single
  keeps := trivial
  untouched := sound.untouched
  honest number sectors member := by
    rcases List.mem_cons.1 member with same | earlier
    · obtain ⟨rfl, rfl⟩ := Prod.mk.inj same
      exact honest number sectors rfl rfl
    · exact sound.honest number sectors earlier
  chainless sectors member := by
    rcases List.mem_cons.1 member with same | earlier
    · obtain ⟨rfl, rfl⟩ := Prod.mk.inj same
      exact chainless sectors rfl rfl
    · exact sound.chainless sectors earlier

/-! ## Steps of the driver -/

variable {checks : Bool} {after : Traffic}

/-- Only an interrupt is answered as completed without a chain. -/
theorem completed_of_handleRequest {ready : Bool} {capacitySectors : UInt64}
    {req : DriverRequest} {sectors : UInt32}
    (handled : handleRequest checks ready capacitySectors req =
      some (.answer (.completed sectors))) : sectors = 0 := by
  have block : ∀ reqType sectorCount lba, handleIo checks capacitySectors reqType sectorCount lba ≠
      some (.answer (.completed sectors)) := by
    intro reqType sectorCount lba submits
    unfold handleIo at submits
    obtain ⟨valid, _, same⟩ := Option.map_eq_some_iff.1 submits
    cases valid with
    | error code => cases same
    | ok => cases same
  cases ready with
  | false => cases handled
  | true =>
      cases req with
      | irq line =>
          cases handled
          rfl
      | readBlocks lba sectorCount sharedCap => exact absurd handled (block _ _ _)
      | writeBlocks lba sectorCount sharedCap => exact absurd handled (block _ _ _)
      | probe => cases handled
      | quiesce => cases handled
      | sendFrame len => cases handled
      | pollFrame => cases handled

theorem request (sound : state.Sound) {strategy : Strategy} {req : DriverRequest}
    (safe : state.Safe checks (.request strategy req))
    (taken : state.next checks (.request strategy req) = some after) : after.Sound := by
  cases phase : state.machine.phase with
  | idle =>
      simp only [next, phase] at taken
      obtain ⟨handling, handled, rfl⟩ := Option.map_eq_some_iff.1 taken
      cases handling with
      | answer resp =>
          refine sound.answer (fun _ _ own => by cases own) ?_
          rintro sectors _ rfl
          exact completed_of_handleRequest handled
      | submit reqType lba =>
          have idle := safe (by rw [handled]; rfl)
          refine sound.setPhase ⟨?_, foldl_submitRequest _ _⟩
          rw [← sound.idle_iff, idle, sound.index]
  | _ =>
      simp only [next, phase] at taken
      cases taken

/-- While all chains are returned, the driver writes what it wants. -/
theorem store (sound : state.Sound) (taken : state.next checks .store = some after) :
    after.Sound := by
  cases phase : state.machine.phase with
  | writing strategy chain todo =>
      cases todo with
      | nil =>
          simp only [next, phase] at taken
          cases taken
      | cons write rest =>
          simp only [next, phase] at taken
          obtain rfl := Option.some.inj taken
          have keeps := sound.keeps
          rw [phase] at keeps
          obtain ⟨idle, target⟩ := keeps
          refine ⟨sound.accounts.rewrite (sound.idle_iff.2 idle) _, sound.index, ?_,
            ⟨idle, target⟩, ?_, sound.honest, sound.chainless⟩
          · refine .inl ?_
            rcases sound.single with nothing | ⟨written, _, held, _⟩
            · exact nothing
            · have fewer := sound.accounts.taken_le
              omega
          · change (state.overwritten || decide (_ < _)) = false
            rw [sound.untouched, decide_eq_false (by omega), Bool.or_self]
  | _ =>
      simp only [next, phase] at taken
      cases taken

theorem publish (sound : state.Sound) (taken : state.next checks .publish = some after) :
    after.Sound := by
  cases phase : state.machine.phase with
  | writing strategy chain todo =>
      cases todo with
      | cons write rest =>
          simp only [next, phase] at taken
          cases taken
      | nil =>
          simp only [next, phase] at taken
          obtain rfl := Option.some.inj taken
          have keeps := sound.keeps
          rw [phase] at keeps
          obtain ⟨idle, target⟩ := keeps
          have published := sound.accounts.publish (sound.idle_iff.2 idle)
            (congrArg (· + 1) sound.index) state.region
          have described : state.region.blkChain = chain := target
          rw [described] at published
          have longer : (state.submitted ++ [chain]).length = state.submitted.length + 1 := by
            rw [List.length_append, List.length_singleton]
          refine ⟨published, rfl, sound.single, ?_, sound.untouched, sound.honest,
            sound.chainless⟩
          refine ⟨longer.symm, ?_, ?_⟩
          · change 0 < (state.submitted ++ [chain]).length
            omega
          · intro all
            change state.outcomes.length = (state.submitted ++ [chain]).length at all
            omega
  | _ =>
      simp only [next, phase] at taken
      cases taken

theorem look (sound : state.Sound) (taken : state.next checks .look = some after) :
    after.Sound := by
  cases phase : state.machine.phase with
  | waiting strategy looks =>
      simp only [next, phase] at taken
      obtain rfl := Option.some.inj taken
      have awaits : state.Awaits := by
        have keeps := sound.keeps
        rw [phase] at keeps
        exact keeps
      unfold looked
      by_cases pending : state.machine.completionPending
      · rw [if_pos pending]
        exact sound.setPhase ⟨awaits, sound.completionPending_iff.1 pending⟩
      · rw [if_neg pending]
        by_cases last : strategy.maxLooks ≤ looks + 1
        · rw [if_pos last]
          exact sound.answer (fun _ _ _ failed => by cases failed)
            (fun _ own => by cases own)
        · rw [if_neg last]
          exact sound.setPhase awaits
  | _ =>
      simp only [next, phase] at taken
      cases taken

/-- The status byte is the one of the own chain. -/
theorem ack (sound : state.Sound) (taken : state.next checks .ack = some after) :
    after.Sound := by
  cases phase : state.machine.phase with
  | acking =>
      simp only [next, phase] at taken
      obtain rfl := Option.some.inj taken
      have keeps := sound.keeps
      rw [phase] at keeps
      obtain ⟨awaits, all⟩ := keeps
      refine sound.answer ?_ (fun _ own => by cases own)
      intro number sectors own completed
      obtain rfl := Option.some.inj own
      have fine : state.region.status = 0 := by
        by_contra failed
        rw [Machine.respond, if_neg failed] at completed
        cases completed
      have returned := awaits.last all
      rw [fine, ← awaits.serving] at returned
      exact List.mem_of_head? returned
  | _ =>
      simp only [next, phase] at taken
      cases taken

/-! ## Steps of the clients and the device -/

theorem setData (sound : state.Sound) (data : List UInt8) :
    (state.setRegion { state.region with data }).Sound where
  accounts := sound.accounts.keep _ rfl
  index := sound.index
  single := sound.single
  keeps := by
    have keeps := sound.keeps
    change Keeps _ state.machine.phase
    cases phase : state.machine.phase with
    | idle => trivial
    | writing strategy chain todo =>
        rw [phase] at keeps
        refine ⟨keeps.1, ?_⟩
        change (todo.foldl BlkRegion.store { state.region with data }).blkChain = chain
        rw [foldl_store_data]
        exact keeps.2
    | waiting strategy looks =>
        rw [phase] at keeps
        exact ⟨keeps.serving, keeps.positive, keeps.last⟩
    | acking =>
        rw [phase] at keeps
        exact ⟨⟨keeps.1.serving, keeps.1.positive, keeps.1.last⟩, keeps.2⟩
  untouched := sound.untouched
  honest := sound.honest
  chainless := sound.chainless

/-- The device has a chain only while the driver waits or does nothing, and it is the last
one. -/
theorem working (sound : state.Sound) {work : Nat × Option UInt8}
    (holds : work ∈ state.working) :
    state.working = [work] ∧ work.1 = state.submitted.length ∧
      state.taken.length = state.submitted.length ∧
      state.submitted.length = state.outcomes.length + 1 ∧
      ∀ status, work.2 = some status → state.region.status = status := by
  rcases sound.single with ⟨nothing, _⟩ | ⟨written, one, held, status⟩
  · rw [nothing] at holds
    cases holds
  · rw [one] at holds
    obtain rfl := List.mem_singleton.1 holds
    have fewer := sound.accounts.taken_le
    have late := sound.accounts.late
    exact ⟨one, by omega, by omega, by omega, status⟩

/-- What the driver awaits does not change as long as the chain is not returned. -/
theorem keeps_of_open (sound : state.Sound) (missing : state.outcomes.length <
    state.submitted.length) {later : Traffic} (serving : later.serving = state.serving)
    (submitted : later.submitted = state.submitted)
    (last : later.outcomes.length = state.submitted.length →
      later.outcomes.head? = some (state.submitted.length, later.region.status)) :
    later.Keeps state.machine.phase := by
  have keeps := sound.keeps
  cases phase : state.machine.phase with
  | idle => trivial
  | writing strategy chain todo =>
      rw [phase] at keeps
      exact absurd keeps.1 (Nat.ne_of_lt missing)
  | waiting strategy looks =>
      rw [phase] at keeps
      refine ⟨?_, ?_, ?_⟩
      · rw [serving, submitted, keeps.serving]
      · rw [submitted]
        exact keeps.positive
      · rw [submitted]
        exact last
  | acking =>
      rw [phase] at keeps
      exact absurd keeps.2 (Nat.ne_of_lt missing)

theorem take (sound : state.Sound) (taken : state.next checks .take = some after) :
    after.Sound := by
  obtain ⟨waits, same⟩ := Option.ite_none_left_eq_some.1 taken
  obtain rfl := Option.some.inj same
  have fewer : state.taken.length < state.submitted.length :=
    Nat.lt_of_le_of_ne sound.accounts.taken_le fun all => waits (sound.accounts.taken_iff.2 all)
  have longer : (state.taken ++ [state.region.blkChain]).length = state.taken.length + 1 := by
    rw [List.length_append, List.length_singleton]
  have late := sound.accounts.late
  have early := sound.accounts.early
  refine ⟨sound.accounts.take waits, sound.index, .inr ⟨none, ?_, ?_, ?_⟩, ?_, sound.untouched,
    sound.honest, sound.chainless⟩
  · rcases sound.single with ⟨nothing, _⟩ | ⟨_, _, held, _⟩
    · change state.working ++ _ = [((state.taken ++ [state.region.blkChain]).length, none)]
      rw [nothing, longer]
      rfl
    · omega
  · change (state.taken ++ [state.region.blkChain]).length = state.outcomes.length + 1
    omega
  · intro status written
    cases written
  · refine sound.keeps_of_open (by omega) rfl rfl fun all => ?_
    change state.outcomes.length = _ at all
    omega

theorem report (sound : state.Sound) {number : Nat} {status : UInt8}
    (taken : state.next checks (.report number status) = some after) : after.Sound := by
  obtain ⟨member, same⟩ := Option.ite_none_right_eq_some.1 taken
  obtain rfl := Option.some.inj same
  obtain ⟨work, holds, rfl⟩ := List.mem_map.1 member
  obtain ⟨one, last, held, missing, _⟩ := sound.working holds
  refine ⟨sound.accounts.keep _ rfl, sound.index, .inr ⟨some status, ?_, ?_, ?_⟩, ?_,
    sound.untouched, sound.honest, sound.chainless⟩
  · change state.working.map _ = [(state.taken.length, some status)]
    rw [one, List.map_singleton, if_pos rfl, last, held]
  · exact held.trans missing
  · exact fun _ same => Option.some.inj same
  · refine sound.keeps_of_open (by omega) rfl rfl fun all => ?_
    change state.outcomes.length = _ at all
    omega

theorem giveBack (sound : state.Sound) {number : Nat} {status : UInt8}
    (taken : state.next checks (.giveBack number status) = some after) : after.Sound := by
  obtain ⟨holds, same⟩ := Option.ite_none_right_eq_some.1 taken
  obtain rfl := Option.some.inj same
  obtain ⟨one, last, held, missing, written⟩ := sound.working holds
  have back : state.machine.queue.usedIdx ≠ state.machine.queue.takenIdx := by
    intro all
    have := sound.accounts.returned_iff.1 all
    omega
  refine ⟨sound.accounts.giveBack back, sound.index, .inl ⟨?_, ?_⟩, ?_, sound.untouched, ?_,
    sound.chainless⟩
  · change state.working.filter _ = []
    rw [one]
    simp
  · exact (held.trans missing).symm
  · refine sound.keeps_of_open (by omega) rfl rfl fun _ => ?_
    change some (number, status) = some (state.submitted.length, state.region.status)
    rw [written status rfl, ← last]
  · exact fun earlier sectors member => List.mem_cons_of_mem _ (sound.honest earlier sectors member)

theorem step {before after : Traffic} (sound : before.Sound) {event : Event}
    (safe : before.Safe checks event) (taken : (system checks).Step before event after) :
    after.Sound := by
  cases event with
  | stage data =>
      obtain rfl := Option.some.inj taken
      exact sound.setData data
  | request strategy req => exact sound.request safe taken
  | store => exact sound.store taken
  | publish => exact sound.publish taken
  | look => exact sound.look taken
  | ack => exact sound.ack taken
  | take => exact sound.take taken
  | fill data =>
      obtain ⟨_, same⟩ := Option.ite_none_left_eq_some.1 taken
      obtain rfl := Option.some.inj same
      exact sound.setData data
  | report number status => exact sound.report taken
  | giveBack number status => exact sound.giveBack taken

end Sound

/-- A chain that is submitted too early is written over the one before. -/
theorem Sound.overwrites {checks : Bool} {state between later : Traffic} (sound : state.Sound)
    {strategy : Strategy} {req : DriverRequest}
    (early : ¬ state.Safe checks (.request strategy req))
    (requested : state.next checks (.request strategy req) = some between)
    (stored : between.next checks .store = some later) : later.overwritten = true := by
  obtain ⟨needs, busy⟩ := Classical.not_imp.1 early
  rw [sound.index, sound.idle_iff] at busy
  obtain ⟨handling, handled, submits⟩ := (Option.any_eq_true _ _).1 needs
  cases handling with
  | answer resp => cases submits
  | submit reqType lba =>
      cases phase : state.machine.phase with
      | idle =>
          simp only [next, phase, handled] at requested
          obtain rfl := Option.some.inj requested
          obtain rfl := Option.some.inj stored
          have fewer := sound.accounts.early
          have less := sound.accounts.taken_le
          change (state.overwritten ||
            decide (state.outcomes.length < state.submitted.length)) = true
          rw [decide_eq_true (by omega), Bool.or_true]
      | writing strategy chain todo =>
          simp only [next, phase] at requested
          cases requested
      | waiting strategy looks =>
          simp only [next, phase] at requested
          cases requested
      | acking =>
          simp only [next, phase] at requested
          cases requested

/-- In a run where every request for blocks comes when all chains are returned, no chain is
rewritten and no request is completed for another one.  Any other request for blocks rewrites
a chain. -/
theorem chains_owned {checks : Bool} {state : Traffic}
    (reachable : (system checks).Reachable (Safe checks) state) :
    state.Owned ∧ ∀ strategy req between later, ¬ state.Safe checks (.request strategy req) →
      state.next checks (.request strategy req) = some between →
        between.next checks .store = some later → ¬ later.Owned := by
  have sound : state.Sound := by
    refine reachable.invariant ?_ fun before event after safe sound taken =>
      sound.step safe taken
    rintro start ⟨region, capacitySectors, ready, rfl⟩
    exact .of_initial region capacitySectors ready
  refine ⟨sound.owned, fun strategy req between later early requested stored owned => ?_⟩
  have overwritten := sound.overwrites early requested stored
  rw [owned.untouched] at overwritten
  cases overwritten

/-! ## Runs of the driver -/

theorem step_of_next (checks : Bool) (before : Traffic) (event : Event) (after : Traffic)
    (taken : before.next checks event = some after) :
    (system checks).Step before event after := taken

def sampleRegion : BlkRegion where
  physBase := 4096
  desc _ := { addr := 0, len := 0, flags := 0, next := 0 }
  header := { reqType := 0, reserved := 0, sector := 0 }
  status := 0
  data := []

instance decidableSafe (checks : Bool) (state : Traffic) :
    (event : Event) → Decidable (state.Safe checks event)
  | .request _ _ => inferInstanceAs (Decidable (_ → _))
  | .stage _ => isTrue trivial
  | .store => isTrue trivial
  | .publish => isTrue trivial
  | .look => isTrue trivial
  | .ack => isTrue trivial
  | .take => isTrue trivial
  | .fill _ => isTrue trivial
  | .report _ _ => isTrue trivial
  | .giveBack _ _ => isTrue trivial

/-- The driver submits a chain for one sector. -/
def submission (lba : UInt64) : List Event :=
  .request .irq (.readBlocks lba 1 0) :: List.replicate 5 .store ++ [.publish]

/-- A request whose completion is seen at the second interrupt. -/
def goodRun : List Event :=
  submission 5 ++ [.look, .take, .fill [7], .report 1 0, .giveBack 1 0, .look, .ack]

theorem chains_owned_sample :
    ∃ state : Traffic, state.Owned ∧ state.answers = [(some 1, .completed 1)] := by
  have ran : (TransitionSystem.runWhile (next false) (fun state event => state.Safe false event)
      goodRun (initial sampleRegion 100 true)).any fun state =>
        state.answers = [(some 1, .completed 1)] := by
    decide +kernel
  obtain ⟨last, reached, final⟩ := (Option.any_eq_true _ _).1 ran
  have run := TransitionSystem.Reaches.runWhile (step_of_next false) (.refl _) reached
  have reachable : (system false).Reachable (Safe false) last :=
    ⟨initial sampleRegion 100 true, ⟨sampleRegion, 100, true, rfl⟩,
      run.mono fun _ _ admitted => of_decide_eq_true admitted⟩
  exact ⟨last, (chains_owned reachable).1, of_decide_eq_true final⟩

/-- The driver gives up the first chain and submits a second one.  The device fails the second
and then completes the first. -/
def lateRun : List Event :=
  submission 5 ++ .take :: List.replicate 8 .look ++ submission 6 ++
    [.take, .report 2 1, .giveBack 2 1, .report 1 0, .giveBack 1 0, .look, .ack]

/-- The first chain is rewritten while the device has it, and the second request is completed
although the device has failed it. -/
theorem late_chain_completes_other :
    (¬ ∀ state, (system false).Reachable TransitionSystem.anyStep state →
        state.overwritten = false) ∧
      ¬ ∀ state, (system false).Reachable TransitionSystem.anyStep state →
        ∀ number sectors, (some number, .completed sectors) ∈ state.answers →
          (number, 0) ∈ state.outcomes := by
  have ran : (TransitionSystem.runWhile (next false) (fun _ _ => true) lateRun
      (initial sampleRegion 100 true)).any fun state =>
        state.overwritten = true ∧ (some 2, .completed 1) ∈ state.answers ∧
          (2, 0) ∉ state.outcomes := by
    decide +kernel
  obtain ⟨last, reached, final⟩ := (Option.any_eq_true _ _).1 ran
  obtain ⟨overwritten, completed, failed⟩ := of_decide_eq_true final
  have run := TransitionSystem.Reaches.runWhile (step_of_next false) (.refl _) reached
  have reachable : (system false).Reachable TransitionSystem.anyStep last :=
    ⟨initial sampleRegion 100 true, ⟨sampleRegion, 100, true, rfl⟩,
      run.mono fun _ _ _ => trivial⟩
  constructor
  · intro untouched
    rw [untouched last reachable] at overwritten
    cases overwritten
  · intro honest
    exact failed (honest last reachable 2 1 completed)

end Traffic

end VirtioBlk

end Simurgh
