import Simurgh.Drivers.VirtioTransport

/-!
# Finding a virtio device

Both drivers reset their device, agree with it on features, set up its queues and start it.  The
rules for this are a monitor over what they do with the device.  They are kept whatever the device
answers.  With a device that keeps to its side the drivers end with a device that works.
-/

namespace Simurgh

namespace Virtio

/-! ## The drivers -/

inductive ProbeStop where
  | probeFailed
  | panicked
  deriving DecidableEq, Repr

abbrev ProbeM := Dialogue Act Act.Ans ProbeStop

def act (op : Op) : ProbeM op.Ans := .request (Act.device op)

def ramLoad (bits addr : Nat) : ProbeM (BitVec bits) := .request (Act.ram (.read bits addr))

def ramStore (bits addr : Nat) (value : BitVec bits) : ProbeM Unit :=
  .request (Act.ram (.write bits addr value))

/-- The status bits. -/
def acknowledge : BitVec 32 := 1
def driver : BitVec 32 := 2
def driverOk : BitVec 32 := 4
def featuresOk : BitVec 32 := 8
def failed : BitVec 32 := 128

/-- `VIRTIO_F_VERSION_1`, in the second word. -/
def versionOne : BitVec 32 := 1

/-- `VIRTIO_NET_F_MAC`, in the first word. -/
def netFeatureMac : BitVec 32 := 1 <<< 5

def giveUp {α : Type} : ProbeM α := do
  act (.writeStatus failed)
  .stop .probeFailed

/-- The first block of `do_probe`. -/
def checkIdentity (deviceId : BitVec 32) : ProbeM Unit := do
  match ← act .identify with
  | none => return ()
  | some (magic, found, version) =>
      if magic ≠ 0x74726976 ∨ found ≠ deviceId then .stop .probeFailed
      else if version ≠ 2 then .stop .probeFailed
      else return ()

/-- Where a region has its queue. -/
structure QueueLayout where
  queueSize : BitVec 16
  descOffset : Nat
  availOffset : Nat
  usedOffset : Nat

/-- `queue_phys` and `region_phys`. -/
def regionPhys (checks : Bool) (regionBase offset : Nat) : ProbeM (BitVec 64) := do
  let base ← ramLoad 64 regionBase
  Dialogue.guard (!checks || decide (base.toNat + offset < 2 ^ 64)) .panicked
  return base + .ofNat 64 offset

/-- What both drivers do for one queue. -/
def setUpQueue (checks : Bool) (layout : QueueLayout) (vector : BitVec 16) (idx : BitVec 32)
    (regionBase : Nat) : ProbeM (BitVec 16) := do
  act (.selectQueue idx)
  act (.writeQueueMsixVector vector)
  let max ← act .readQueueSizeMax
  if max = 0 ∨ max.setWidth 16 < layout.queueSize then giveUp
  else
    act (.writeQueueSize (layout.queueSize.setWidth 32))
    let desc ← regionPhys checks regionBase layout.descOffset
    let avail ← regionPhys checks regionBase layout.availOffset
    let used ← regionPhys checks regionBase layout.usedOffset
    act (.writeQueueAddrs desc avail used)
    act .enableQueue

/-- The end of the negotiation. -/
def settleFeatures : ProbeM Unit := do
  act (.writeStatus (acknowledge ||| driver ||| featuresOk))
  let afterFeatures ← act .readStatus
  if afterFeatures &&& featuresOk = 0 then giveUp else return ()

namespace Blk

def layout : QueueLayout where
  queueSize := 4
  descOffset := 16
  availOffset := 80
  usedOffset := 128

/-- What is kept of the probe: the doorbell and the capacity. -/
structure Probed where
  queueNotifyOff : BitVec 16
  capacitySectors : BitVec 64
  deriving DecidableEq, Repr

/-- The second half of `do_probe`. -/
def startDevice (checks : Bool) (queueBase : Nat) (msixVector : BitVec 16) : ProbeM Probed := do
  let queueNotifyOff ← setUpQueue checks layout msixVector 0 queueBase
  act (.writeStatus (acknowledge ||| driver ||| featuresOk ||| driverOk))
  let capLo ← act (.readConfig 32 0)
  let capHi ← act (.readConfig 32 4)
  return { queueNotifyOff, capacitySectors := capLo.setWidth 64 ||| capHi.setWidth 64 <<< 32 }

def doProbe (checks : Bool) (queueBase : Nat) (msixVector : BitVec 16) : ProbeM Probed := do
  checkIdentity 2
  act (.writeStatus 0)
  act (.writeStatus acknowledge)
  act (.writeStatus (acknowledge ||| driver))
  let devFeaturesHi ← act (.readDeviceFeature 1)
  act (.writeDriverFeature 0 0)
  act (.writeDriverFeature 1 (devFeaturesHi &&& versionOne))
  settleFeatures
  startDevice checks queueBase msixVector

end Blk

namespace Net

def layout : QueueLayout where
  queueSize := 2
  descOffset := 16
  availOffset := 48
  usedOffset := 64

def fallbackMac : List (BitVec 8) := [0x02, 0x00, 0x00, 0x00, 0x00, 0x01]

structure Probed where
  rxNotifyOff : BitVec 16
  txNotifyOff : BitVec 16
  mac : List (BitVec 8)
  deriving DecidableEq, Repr

/-- `post_rx_buffer`, for the first time. -/
def postRxBuffer (checks : Bool) (rxBase : Nat) (rxNotifyOff : BitVec 16) : ProbeM Unit := do
  let bufPhys ← regionPhys checks rxBase 256
  ramStore 128 (rxBase + layout.descOffset) ((0 : BitVec 16) ++ (2 : BitVec 16) ++
    (712 : BitVec 32) ++ bufPhys)
  ramStore 16 (rxBase + layout.availOffset + 4) 0
  ramStore 16 (rxBase + layout.availOffset + 2) 1
  act (.notifyQueue 0 rxNotifyOff)

/-- A device without a MAC gets one. -/
def readMac (macOffered : Bool) : ProbeM (List (BitVec 8)) :=
  if macOffered then Dialogue.forEach (fun i => act (.readConfig 8 i)) (List.range 6)
  else return fallbackMac

/-- The second half of `do_probe`. -/
def startDevice (checks : Bool) (rxBase txBase : Nat) (msixVector : BitVec 16)
    (macOffered : Bool) : ProbeM Probed := do
  let rxNotifyOff ← setUpQueue checks layout msixVector 0 rxBase
  let txNotifyOff ← setUpQueue checks layout msixVector 1 txBase
  act (.writeStatus (acknowledge ||| driver ||| featuresOk ||| driverOk))
  let mac ← readMac macOffered
  let _ ← Dialogue.forEach (fun entry => ramStore 8 (rxBase + 8 + entry.2) entry.1) mac.zipIdx
  ramStore 64 (rxBase + 152) (txNotifyOff.setWidth 64)
  postRxBuffer checks rxBase rxNotifyOff
  return { rxNotifyOff, txNotifyOff, mac }

def doProbe (checks : Bool) (rxBase txBase : Nat) (msixVector : BitVec 16) : ProbeM Probed := do
  checkIdentity 1
  act (.writeStatus 0)
  act (.writeStatus acknowledge)
  act (.writeStatus (acknowledge ||| driver))
  let devFeaturesLo ← act (.readDeviceFeature 0)
  let devFeaturesHi ← act (.readDeviceFeature 1)
  let macOffered := decide (devFeaturesLo &&& netFeatureMac ≠ 0)
  act (.writeDriverFeature 0 (if macOffered then netFeatureMac else 0))
  act (.writeDriverFeature 1 (devFeaturesHi &&& versionOne))
  settleFeatures
  startDevice checks rxBase txBase msixVector macOffered

end Net

/-! ## The rules -/

inductive Stage where
  /-- As the device was found. -/
  | found
  | reset
  | acknowledged
  | driving
  | negotiating
  | agreed
  | refused
  | live
  | failed
  deriving DecidableEq, Repr

/-- What was done with a device since it was reset. -/
structure Handshake where
  stage : Stage
  offered : BitVec 32 → Option (BitVec 32)
  accepted : BitVec 32 → BitVec 32
  queue : Option (BitVec 32)
  /-- The limit of the selected queue, if it was read. -/
  limit : Option (BitVec 32)
  sized : Bool
  addressed : Bool
  /-- What was returned when the queue was enabled. -/
  doorbell : BitVec 32 → Option (BitVec 16)

namespace Handshake

/-- Nothing is known about the device. -/
def start : Handshake where
  stage := .found
  offered := fun _ => none
  accepted := fun _ => 0
  queue := none
  limit := none
  sized := false
  addressed := false
  doorbell := fun _ => none

/-- Only what is offered is accepted. -/
def Honest (handshake : Handshake) : Prop :=
  ∀ word feature, (handshake.accepted word).getLsbD feature = true →
    ∃ features, handshake.offered word = some features ∧ features.getLsbD feature = true

/-- When a status may be written.  A device is started only if its queues are enabled. -/
inductive MayWrite (queues : List (BitVec 32)) (handshake : Handshake) : BitVec 32 → Prop where
  | reset (found : handshake.stage = .found) : MayWrite queues handshake 0
  | acknowledge (reset : handshake.stage = .reset) : MayWrite queues handshake 1
  | drive (acknowledged : handshake.stage = .acknowledged) : MayWrite queues handshake 3
  | negotiate (driving : handshake.stage = .driving) (honest : handshake.Honest) :
      MayWrite queues handshake 11
  | start (agreed : handshake.stage = .agreed)
      (enabled : ∀ idx ∈ queues, (handshake.doorbell idx).isSome = true) :
      MayWrite queues handshake 15
  | fail (ended : handshake.stage = .refused ∨ handshake.stage = .agreed) :
      MayWrite queues handshake 128

/-- May this be done now? -/
def Allows (queues : List (BitVec 32)) (configLen : Nat) (handshake : Handshake) : Act → Prop
  | .ram _ => True
  | .device .identify => handshake.stage = .found
  | .device (.writeStatus value) => handshake.MayWrite queues value
  | .device (.readDeviceFeature _) => handshake.stage = .driving
  | .device (.writeDriverFeature _ _) => handshake.stage = .driving
  | .device .readStatus => handshake.stage = .negotiating
  | .device (.selectQueue _) => handshake.stage = .agreed
  | .device .readQueueSizeMax => handshake.stage = .agreed ∧ handshake.queue.isSome = true
  | .device (.writeQueueMsixVector _) => handshake.stage = .agreed ∧ handshake.queue.isSome = true
  | .device (.writeQueueSize size) =>
      handshake.stage = .agreed ∧ size.toNat.isPowerOfTwo ∧
        ∃ limit, handshake.limit = some limit ∧ size ≤ limit
  | .device (.writeQueueAddrs _ _ _) =>
      handshake.stage = .agreed ∧ handshake.queue.isSome = true
  | .device .enableQueue =>
      handshake.stage = .agreed ∧ handshake.sized = true ∧ handshake.addressed = true
  | .device (.notifyQueue idx notifyOff) =>
      handshake.stage = .live ∧ handshake.doorbell idx = some notifyOff
  | .device .ackInterrupt => handshake.stage = .live
  | .device (.readConfig bits offset) =>
      handshake.stage = .live ∧ 8 ≤ bits ∧ offset + bits / 8 ≤ configLen

def stageOf (value : BitVec 32) : Stage :=
  if value = 0 then .reset
  else if value = 1 then .acknowledged
  else if value = 3 then .driving
  else if value = 11 then .negotiating
  else if value = 15 then .live
  else .failed

def next (handshake : Handshake) : (act : Act) → act.Ans → Handshake
  | .device (.writeStatus value), _ =>
      if value = 0 then { start with stage := .reset }
      else { handshake with stage := stageOf value }
  | .device (.readDeviceFeature word), (features : BitVec 32) =>
      { handshake with offered := Function.update handshake.offered word (some features) }
  | .device (.writeDriverFeature word value), _ =>
      { handshake with accepted := Function.update handshake.accepted word value }
  | .device .readStatus, (status : BitVec 32) =>
      { handshake with stage := if status &&& featuresOk = 0 then .refused else .agreed }
  | .device (.selectQueue idx), _ =>
      { handshake with queue := some idx, limit := none, sized := false, addressed := false }
  | .device .readQueueSizeMax, (limit : BitVec 32) => { handshake with limit := some limit }
  | .device (.writeQueueSize _), _ => { handshake with sized := true }
  | .device (.writeQueueAddrs _ _ _), _ => { handshake with addressed := true }
  | .device .enableQueue, (notifyOff : BitVec 16) =>
      match handshake.queue with
      | some idx =>
          { handshake with doorbell := Function.update handshake.doorbell idx (some notifyOff) }
      | none => handshake
  | _, _ => handshake

/-- The rules for a driver that uses these queues, and so much of the configuration. -/
def rules (queues : List (BitVec 32)) (configLen : Nat) : Dialogue.Monitor Act.Ans Handshake where
  allows := Allows queues configLen
  next := next

/-- A part of a driver that returns leaves the device as `good` says.  One that fails has told the
device so, if it has touched it at all. -/
def Ends {α : Type} (good : α → Handshake → Prop) : Except ProbeStop α → Handshake → Prop
  | .ok value, handshake => good value handshake
  | .error .probeFailed, handshake => handshake.stage = .found ∨ handshake.stage = .failed
  | .error .panicked, _ => True

end Handshake

/-! ## The rules are kept -/

namespace Handshake

variable {α β : Type} {queues : List (BitVec 32)} {configLen : Nat} {handshake : Handshake}

theorem obeys_act {op : Op} {after : op.Ans → ProbeM α}
    {post : Except ProbeStop α → Handshake → Prop}
    (allowed : Allows queues configLen handshake (.device op))
    (goes : ∀ answer : op.Ans,
      (after answer).Obeys (rules queues configLen) post (handshake.next (.device op) answer)) :
    (act op >>= after).Obeys (rules queues configLen) post handshake :=
  ⟨allowed, goes⟩

theorem obeys_ramStore {bits addr : Nat} {value : BitVec bits} {after : Unit → ProbeM α}
    {post : Except ProbeStop α → Handshake → Prop}
    (goes : (after ()).Obeys (rules queues configLen) post handshake) :
    (ramStore bits addr value >>= after).Obeys (rules queues configLen) post handshake :=
  ⟨trivial, fun _ => goes⟩

/-- Before the device is live a driver gives up by writing `FAILED`. -/
theorem obeys_giveUp {good : α → Handshake → Prop}
    (ended : handshake.stage = .refused ∨ handshake.stage = .agreed) :
    (giveUp : ProbeM α).Obeys (rules queues configLen) (Ends good) handshake :=
  obeys_act (.fail ended) fun _ => Or.inr rfl

/-- The parts of a driver one after the other. -/
theorem obeys_then {part : ProbeM α} {after : α → ProbeM β} {good : α → Handshake → Prop}
    {better : β → Handshake → Prop}
    (first : part.Obeys (rules queues configLen) (Ends good) handshake)
    (second : ∀ value later, good value later →
      (after value).Obeys (rules queues configLen) (Ends better) later) :
    (part >>= after).Obeys (rules queues configLen) (Ends better) handshake := by
  rw [Dialogue.obeys_bind]
  refine first.mono ?_
  rintro (error | value) later holds
  · cases error with
    | probeFailed => exact holds
    | panicked => trivial
  · exact second value later holds

theorem obeys_regionPhys (checks : Bool) (regionBase offset : Nat) :
    (regionPhys checks regionBase offset).Obeys (rules queues configLen)
      (Ends fun _ later => later = handshake) handshake := by
  refine ⟨trivial, fun base => ?_⟩
  change (Dialogue.guard _ _ >>= _).Obeys _ _ _
  rw [Dialogue.guard]
  split
  · exact (rfl : handshake = handshake)
  · trivial

theorem getLsbD_of_and {features mask : BitVec 32} {feature : Nat}
    (both : (features &&& mask).getLsbD feature = true) : features.getLsbD feature = true := by
  rw [BitVec.getLsbD_and] at both
  exact (Bool.and_eq_true_iff.mp both).1

/-- The network driver accepts a MAC only from a device that has one. -/
theorem getLsbD_of_macOffered {features : BitVec 32} {feature : Nat}
    (accepted : (if decide (features &&& netFeatureMac ≠ 0) then netFeatureMac
      else 0).getLsbD feature = true) : features.getLsbD feature = true := by
  have mac : netFeatureMac = BitVec.twoPow 32 5 := rfl
  rw [mac, BitVec.and_twoPow] at accepted
  by_cases offered : features.getLsbD 5 = true
  · rw [if_pos offered, if_pos (by decide), BitVec.getLsbD_twoPow] at accepted
    have five : 5 = feature := of_decide_eq_true (Bool.and_eq_true_iff.mp accepted).2
    exact five ▸ offered
  · rw [if_neg offered, if_neg (by decide), show (0 : BitVec 32) = 0#32 from rfl,
      BitVec.getLsbD_zero] at accepted
    cases accepted

theorem honest_of_nothing (nothing : ∀ word, handshake.accepted word = 0) : handshake.Honest := by
  intro word feature accepted
  rw [nothing, show (0 : BitVec 32) = 0#32 from rfl, BitVec.getLsbD_zero] at accepted
  cases accepted

theorem Honest.accept (honest : handshake.Honest) {word value : BitVec 32}
    (offered : ∀ feature, value.getLsbD feature = true →
      ∃ features, handshake.offered word = some features ∧ features.getLsbD feature = true) :
    (handshake.next (.device (.writeDriverFeature word value)) ()).Honest := by
  intro other feature accepted
  change (Function.update handshake.accepted word value other).getLsbD feature = true at accepted
  by_cases same : other = word
  · subst same
    rw [Function.update_self] at accepted
    exact offered feature accepted
  · rw [Function.update_of_ne same] at accepted
    exact honest other feature accepted

theorem obeys_settleFeatures (driving : handshake.stage = .driving) (honest : handshake.Honest) :
    settleFeatures.Obeys (rules queues configLen)
      (Ends fun _ later => later.stage = .agreed ∧ later.doorbell = handshake.doorbell)
      handshake := by
  refine obeys_act (.negotiate driving honest) fun _ => obeys_act rfl fun status => ?_
  split
  next refused =>
    refine obeys_giveUp (Or.inl ?_)
    exact if_pos refused
  next agreed => exact ⟨if_neg agreed, rfl⟩

/-- Both drivers use queues whose size is a power of two. -/
theorem obeys_setUpQueue (checks : Bool) {layout : QueueLayout}
    (power : (layout.queueSize.setWidth 32 : BitVec 32).toNat.isPowerOfTwo)
    (vector : BitVec 16) (idx : BitVec 32) (regionBase : Nat) (agreed : handshake.stage = .agreed) :
    (setUpQueue checks layout vector idx regionBase).Obeys (rules queues configLen)
      (Ends fun notifyOff later => later.stage = .agreed ∧
        later.doorbell = Function.update handshake.doorbell idx (some notifyOff))
      handshake := by
  refine obeys_act agreed fun _ => obeys_act ⟨agreed, rfl⟩ fun _ =>
    obeys_act ⟨agreed, rfl⟩ fun max => ?_
  split
  next small => exact obeys_giveUp (Or.inr agreed)
  next large =>
    have fits : layout.queueSize.setWidth 32 ≤ max := by
      have truncated := (not_or.mp large).2
      rw [BitVec.not_lt, BitVec.le_def, BitVec.toNat_setWidth] at truncated
      rw [BitVec.le_def, BitVec.toNat_setWidth]
      exact (Nat.mod_le _ _).trans (truncated.trans (Nat.mod_le _ _))
    refine obeys_act ⟨agreed, power, max, rfl, fits⟩ fun _ => ?_
    refine obeys_then (obeys_regionPhys checks regionBase _) ?_
    rintro desc _ rfl
    refine obeys_then (obeys_regionPhys checks regionBase _) ?_
    rintro avail _ rfl
    refine obeys_then (obeys_regionPhys checks regionBase _) ?_
    rintro used _ rfl
    exact obeys_act ⟨agreed, rfl⟩ fun _ => ⟨⟨agreed, rfl, rfl⟩, fun notifyOff => ⟨agreed, rfl⟩⟩

/-- A loop that does not change what is known about the device. -/
theorem obeys_each {ι : Type} {body : ι → ProbeM α} (items : List ι)
    (round : ∀ item ∈ items,
      (body item).Obeys (rules queues configLen) (Ends fun _ later => later = handshake)
        handshake) :
    (Dialogue.forEach body items).Obeys (rules queues configLen)
      (Ends fun _ later => later = handshake) handshake := by
  induction items with
  | nil => exact rfl
  | cons item rest ih =>
      refine obeys_then (round item (List.mem_cons_self ..)) ?_
      rintro value _ rfl
      refine obeys_then (ih fun other inside =>
        round other (List.mem_cons_of_mem _ inside)) ?_
      rintro values _ rfl
      exact rfl

theorem obeys_readMac (macOffered : Bool) (live : handshake.stage = .live) (six : 6 ≤ configLen) :
    (Net.readMac macOffered).Obeys (rules queues configLen) (Ends fun _ later => later = handshake)
      handshake := by
  rw [Net.readMac]
  split
  · refine obeys_each _ fun idx below => ?_
    have inside : idx < 6 := List.mem_range.mp below
    exact ⟨⟨live, by decide, by omega⟩, fun _ => rfl⟩
  · exact rfl

theorem obeys_postRxBuffer (checks : Bool) (rxBase : Nat) (rxNotifyOff : BitVec 16)
    (live : handshake.stage = .live) (enabled : handshake.doorbell 0 = some rxNotifyOff) :
    (Net.postRxBuffer checks rxBase rxNotifyOff).Obeys (rules queues configLen)
      (Ends fun _ later => later = handshake) handshake := by
  refine obeys_then (obeys_regionPhys checks rxBase _) ?_
  rintro bufPhys _ rfl
  refine obeys_ramStore (obeys_ramStore (obeys_ramStore ?_))
  exact ⟨⟨live, enabled⟩, fun _ => rfl⟩

theorem obeys_checkIdentity (deviceId : BitVec 32) (found : handshake.stage = .found) :
    (checkIdentity deviceId).Obeys (rules queues configLen) (Ends fun _ later => later = handshake)
      handshake := by
  refine obeys_act found fun answer => ?_
  cases answer with
  | none => exact rfl
  | some identity =>
      change Dialogue.Obeys _ _ (if _ then _ else _) _
      split
      · exact Or.inl found
      · split
        · exact Or.inl found
        · exact rfl

end Handshake

theorem Blk.obeys_doProbe (checks : Bool) (queueBase : Nat) (msixVector : BitVec 16)
    {configLen : Nat} (enough : 8 ≤ configLen) :
    (Blk.doProbe checks queueBase msixVector).Obeys (Handshake.rules [0] configLen)
      (Handshake.Ends fun _ later => later.stage = .live) .start := by
  refine Handshake.obeys_then (Handshake.obeys_checkIdentity 2 rfl) ?_
  rintro _ _ rfl
  refine Handshake.obeys_act (.reset rfl) fun _ => Handshake.obeys_act (.acknowledge rfl) fun _ =>
    Handshake.obeys_act (.drive rfl) fun _ => Handshake.obeys_act rfl fun features =>
    Handshake.obeys_act rfl fun _ => Handshake.obeys_act rfl fun _ => ?_
  refine Handshake.obeys_then (Handshake.obeys_settleFeatures rfl ?_) ?_
  · refine (Handshake.Honest.accept (Handshake.honest_of_nothing fun _ => rfl) ?_).accept ?_
    · intro feature accepted
      rw [show (0 : BitVec 32) = 0#32 from rfl, BitVec.getLsbD_zero] at accepted
      cases accepted
    · intro feature accepted
      exact ⟨features, rfl, Handshake.getLsbD_of_and accepted⟩
  rintro _ later ⟨agreed, -⟩
  refine Handshake.obeys_then (Handshake.obeys_setUpQueue checks ⟨2, rfl⟩ _ 0 _ agreed) ?_
  rintro notifyOff later ⟨agreed, doorbell⟩
  refine Handshake.obeys_act (.start agreed ?_) fun _ =>
    Handshake.obeys_act ⟨rfl, by decide, Nat.le_of_succ_le (by omega)⟩ fun _ =>
    Handshake.obeys_act ⟨rfl, by decide, enough⟩ fun _ => rfl
  rw [doorbell]
  intro idx used
  rw [List.mem_singleton.mp used, Function.update_self]
  rfl

theorem Net.obeys_doProbe (checks : Bool) (rxBase txBase : Nat) (msixVector : BitVec 16)
    {configLen : Nat} (enough : 6 ≤ configLen) :
    (Net.doProbe checks rxBase txBase msixVector).Obeys (Handshake.rules [0, 1] configLen)
      (Handshake.Ends fun _ later => later.stage = .live) .start := by
  refine Handshake.obeys_then (Handshake.obeys_checkIdentity 1 rfl) ?_
  rintro _ _ rfl
  refine Handshake.obeys_act (.reset rfl) fun _ => Handshake.obeys_act (.acknowledge rfl) fun _ =>
    Handshake.obeys_act (.drive rfl) fun _ => Handshake.obeys_act rfl fun featuresLo =>
    Handshake.obeys_act rfl fun featuresHi =>
    Handshake.obeys_act rfl fun _ => Handshake.obeys_act rfl fun _ => ?_
  refine Handshake.obeys_then (Handshake.obeys_settleFeatures rfl ?_) ?_
  · refine (Handshake.Honest.accept (Handshake.honest_of_nothing fun _ => rfl) ?_).accept ?_
    · intro feature accepted
      exact ⟨featuresLo, rfl, Handshake.getLsbD_of_macOffered accepted⟩
    · intro feature accepted
      exact ⟨featuresHi, rfl, Handshake.getLsbD_of_and accepted⟩
  rintro _ later ⟨agreed, -⟩
  refine Handshake.obeys_then (Handshake.obeys_setUpQueue checks ⟨1, rfl⟩ _ 0 _ agreed) ?_
  rintro rxNotifyOff later ⟨agreed, rxDoorbell⟩
  refine Handshake.obeys_then (Handshake.obeys_setUpQueue checks ⟨1, rfl⟩ _ 1 _ agreed) ?_
  rintro txNotifyOff later ⟨agreed, txDoorbell⟩
  have first : later.doorbell 0 = some rxNotifyOff := by
    rw [txDoorbell, rxDoorbell, Function.update_of_ne (by decide), Function.update_self]
  have second : later.doorbell 1 = some txNotifyOff := by
    rw [txDoorbell, Function.update_self]
  refine Handshake.obeys_act (.start agreed ?_) fun _ => ?_
  · intro idx used
    rcases List.mem_cons.mp used with rfl | used
    · rw [first]
      rfl
    · rw [List.mem_singleton.mp used, second]
      rfl
  refine Handshake.obeys_then (Handshake.obeys_readMac _ rfl enough) ?_
  rintro mac _ rfl
  refine Handshake.obeys_then (Handshake.obeys_each _ fun entry _ => ?_) ?_
  · exact ⟨trivial, fun _ => rfl⟩
  rintro _ _ rfl
  refine Handshake.obeys_ramStore ?_
  refine Handshake.obeys_then (Handshake.obeys_postRxBuffer checks rxBase rxNotifyOff rfl first) ?_
  rintro _ _ rfl
  exact rfl

/-- Every run of `do_probe` of the block driver keeps to the rules, whatever the device answers. -/
theorem Blk.blkProbe_obeys (checks : Bool) (queueBase : Nat) (msixVector : BitVec 16)
    {talk : List (Dialogue.Exchange Act.Ans)} {result : Except ProbeStop Blk.Probed}
    (talks : (Blk.doProbe checks queueBase msixVector).Talks talk result) :
    (Handshake.rules [0] 8).Accepts .start talk ∧
      Handshake.Ends (fun _ later => later.stage = .live) result
        ((Handshake.rules [0] 8).after .start talk) :=
  (Blk.obeys_doProbe checks queueBase msixVector le_rfl).of_talks talks

/-- A PCI device that offers all and answers always the same. -/
def Handshake.willing : (act : Act) → Unit → act.Ans × Unit
  | .device .identify, _ => (none, ())
  | .device (.readDeviceFeature _), _ => ((0xffffffff : BitVec 32), ())
  | .device .readStatus, _ => ((11 : BitVec 32), ())
  | .device .readQueueSizeMax, _ => ((256 : BitVec 32), ())
  | .device .enableQueue, _ => ((3 : BitVec 16), ())
  | .device (.readConfig bits offset), _ => (.ofNat bits (offset + 1), ())
  | .device (.writeDriverFeature _ _), _ => ((), ())
  | .device (.writeStatus _), _ => ((), ())
  | .device (.selectQueue _), _ => ((), ())
  | .device (.writeQueueSize _), _ => ((), ())
  | .device (.writeQueueMsixVector _), _ => ((), ())
  | .device (.writeQueueAddrs _ _ _), _ => ((), ())
  | .device (.notifyQueue _ _), _ => ((), ())
  | .device .ackInterrupt, _ => ((), ())
  | .ram (.read bits _), _ => (.ofNat bits 0x80000, ())
  | .ram (.write _ _ _), _ => ((), ())

theorem Blk.blkProbe_obeys_willing : ∃ talk,
    (Blk.doProbe true 4096 7).Talks talk (.ok ⟨3, 0x500000001⟩) ∧
      (Handshake.rules [0] 8).Accepts .start talk ∧
      ((Handshake.rules [0] 8).after .start talk).stage = .live := by
  obtain ⟨talk, result, later, talks, -, ran⟩ : ∃ talk result later,
      (Blk.doProbe true 4096 7).Talks talk result ∧
      Dialogue.Served Handshake.willing () talk later ∧
      (Blk.doProbe true 4096 7).run Handshake.willing () = Dialogue.ending result later :=
    Dialogue.exists_talks _ ()
  have ends : (Blk.doProbe true 4096 7).run Handshake.willing () =
      .ok ⟨3, 0x500000001⟩ () := rfl
  rw [ends] at ran
  cases result with
  | error error => cases ran
  | ok value =>
      cases ran
      exact ⟨talk, talks, Blk.blkProbe_obeys true 4096 7 talks⟩

/-- And so does every run of `do_probe` of the network driver, for its two queues. -/
theorem Net.netProbe_obeys (checks : Bool) (rxBase txBase : Nat) (msixVector : BitVec 16)
    {talk : List (Dialogue.Exchange Act.Ans)} {result : Except ProbeStop Net.Probed}
    (talks : (Net.doProbe checks rxBase txBase msixVector).Talks talk result) :
    (Handshake.rules [0, 1] 6).Accepts .start talk ∧
      Handshake.Ends (fun _ later => later.stage = .live) result
        ((Handshake.rules [0, 1] 6).after .start talk) :=
  (Net.obeys_doProbe checks rxBase txBase msixVector le_rfl).of_talks talks

theorem Net.netProbe_obeys_willing : ∃ talk,
    (Net.doProbe false 4096 8192 7).Talks talk (.ok ⟨3, 3, [1, 2, 3, 4, 5, 6]⟩) ∧
      (Handshake.rules [0, 1] 6).Accepts .start talk ∧
      ((Handshake.rules [0, 1] 6).after .start talk).stage = .live := by
  obtain ⟨talk, result, later, talks, -, ran⟩ : ∃ talk result later,
      (Net.doProbe false 4096 8192 7).Talks talk result ∧
      Dialogue.Served Handshake.willing () talk later ∧
      (Net.doProbe false 4096 8192 7).run Handshake.willing () = Dialogue.ending result later :=
    Dialogue.exists_talks _ ()
  have ends : (Net.doProbe false 4096 8192 7).run Handshake.willing () =
      .ok ⟨3, 3, [1, 2, 3, 4, 5, 6]⟩ () := by decide +kernel
  rw [ends] at ran
  cases result with
  | error error => cases ran
  | ok value =>
      cases ran
      exact ⟨talk, talks, Net.netProbe_obeys false 4096 8192 7 talks⟩

end Virtio

end Simurgh
