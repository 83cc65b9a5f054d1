import Simurgh.Drivers.VirtioProbe
import Simurgh.Lib.Bytes

/-!
# A virtio device that is started

On a device that keeps to its side the drivers succeed exactly if they can use the device, and what
they leave behind is known: the same through both transports, but for the vectors.
-/

namespace Simurgh

namespace Virtio

/-! ## A device that answers -/

/-- Memory is read and written in whole bytes. -/
def ramServe : (access : BusAccess) → ByteMemory → access.Ans × ByteMemory
  | .read bits addr, memory => (.ofNat bits (memory.readNat addr (bits / 8)), memory)
  | .write bits addr value, memory => ((), memory.writeNat addr (bits / 8) value.toNat)

/-- Where a region starts, as the kernel has written into it. -/
def physOf (memory : ByteMemory) (regionBase : Nat) : BitVec 64 :=
  .ofNat 64 (memory.readNat regionBase 8)

/-- A device that is not a PCI device must be the right one. -/
def Device.Answers (device : Device) (deviceId : BitVec 32) : Transport → Prop
  | .mmio _ => device.magic = 0x74726976 ∧ device.deviceId = deviceId ∧ device.version = 2
  | .pci .. => True

instance (device : Device) (deviceId : BitVec 32) (transport : Transport) :
    Decidable (device.Answers deviceId transport) := by
  cases transport <;> unfold Device.Answers <;> infer_instance

/-- Only a PCI device is told a vector. -/
def QueueRegs.told (queue : QueueRegs) (transport : Transport) (vector : BitVec 16) : QueueRegs :=
  { queue with
    vector := match transport with
      | .mmio _ => queue.vector
      | .pci .. => vector }

/-- A queue as a driver leaves it. -/
def QueueRegs.setUp (queue : QueueRegs) (transport : Transport) (layout : QueueLayout)
    (vector : BitVec 16) (phys : BitVec 64) : QueueRegs :=
  { queue.told transport vector with
    size := layout.queueSize
    desc := phys + .ofNat 64 layout.descOffset
    driver := phys + .ofNat 64 layout.availOffset
    device := phys + .ofNat 64 layout.usedOffset
    enabled := true }

/-- What enabling a queue returns. -/
def QueueRegs.doorbell (queue : QueueRegs) : Transport → BitVec 16
  | .mmio _ => 0
  | .pci .. => queue.notifyOff

namespace Device

variable (device : Device)

def negotiated (accepted : BitVec 32 → BitVec 32) : Device :=
  { device.reset with deviceFeatureSel := 1, driverFeatureSel := 1, accepted }

def withStatus (status : BitVec 8) : Device := { device with status }

def withQueue (idx : BitVec 16) (queue : QueueRegs) : Device :=
  { device with queueSel := idx, queues := Function.update device.queues idx queue }

end Device

@[simp]
theorem Device.selected_withQueue (device : Device) (idx : BitVec 16) (queue : QueueRegs) :
    (device.withQueue idx queue).selected = queue :=
  Function.update_self ..

@[simp]
theorem Device.setSelected_withQueue (device : Device) (idx : BitVec 16) (queue : QueueRegs)
    (update : QueueRegs → QueueRegs) :
    (device.withQueue idx queue).setSelected update = device.withQueue idx (update queue) := by
  rw [setSelected, selected_withQueue]
  unfold withQueue
  rw [Function.update_idem]

theorem Device.withStatus_withStatus (device : Device) (first second : BitVec 8) :
    (device.withStatus first).withStatus second = device.withStatus second := rfl

section Runs

variable {transport : Transport} {device : Device} {memory : ByteMemory} {α : Type}

theorem run_act (op : Op) (after : op.Ans → ProbeM α) :
    (act op >>= after).run (onRegisters ramServe transport) (device, memory) =
      (after (Device.serve transport op device).1).run (onRegisters ramServe transport)
        ((Device.serve transport op device).2, memory) := rfl

theorem run_ramStore (bits addr : Nat) (value : BitVec bits) (after : Unit → ProbeM α) :
    (ramStore bits addr value >>= after).run (onRegisters ramServe transport) (device, memory) =
      (after ()).run (onRegisters ramServe transport)
        (device, memory.writeNat addr (bits / 8) value.toNat) := rfl

theorem run_regionPhys {checks : Bool} {regionBase offset : Nat}
    (fits : (physOf memory regionBase).toNat + offset < 2 ^ 64) :
    (regionPhys checks regionBase offset).run (onRegisters ramServe transport) (device, memory) =
      .ok (physOf memory regionBase + .ofNat 64 offset) (device, memory) := by
  change (Dialogue.guard (!checks || decide ((physOf memory regionBase).toNat + offset < 2 ^ 64))
    ProbeStop.panicked >>= fun _ => .done _).run _ (device, memory) = _
  rw [decide_eq_true fits, Bool.or_true]
  rfl

theorem setStatus_plain {value : BitVec 8} (zero : value ≠ 0) (plain : value &&& ~~~8 = value) :
    device.setStatus value = device.withStatus value := by
  rw [Device.setStatus, if_neg zero, plain, ite_self, Device.withStatus]

theorem run_giveUp {world : Device × ByteMemory} :
    (giveUp : ProbeM α).run (onRegisters ramServe transport) world =
      .err .probeFailed (world.1.withStatus 128, world.2) := by
  change Outcome.err ProbeStop.probeFailed (world.1.setStatus 128, world.2) = _
  rw [setStatus_plain (by decide) (by decide)]

theorem run_settleFeatures :
    settleFeatures.run (onRegisters ramServe transport) (device, memory) =
      if device.agrees device.accepted = true then .ok () (device.withStatus 11, memory)
      else .err .probeFailed (device.withStatus 128, memory) := by
  change (if (device.setStatus 11).status.setWidth 32 &&& featuresOk = 0 then giveUp
    else .done ()).run _ (device.setStatus 11, memory) = _
  have written : device.setStatus 11 =
      device.withStatus (if device.agrees device.accepted then 11 else 3) := rfl
  rw [written]
  by_cases agreed : device.agrees device.accepted = true
  · simp only [agreed, if_true]
    rw [if_neg (show ¬ (device.withStatus 11).status.setWidth 32 &&& featuresOk = 0 from
      show ¬ (11 : BitVec 8).setWidth 32 &&& featuresOk = 0 by decide)]
    rfl
  · simp only [agreed, if_false, Bool.false_eq_true]
    rw [if_pos (show (device.withStatus 3).status.setWidth 32 &&& featuresOk = 0 from
      show (3 : BitVec 8).setWidth 32 &&& featuresOk = 0 by decide), run_giveUp]
    rfl

/-- The features are settled behind the negotiation. -/
theorem run_settleFeatures_negotiated {accepted : BitVec 32 → BitVec 32} :
    settleFeatures.run (onRegisters ramServe transport)
      ((device.negotiated accepted).withStatus 3, memory) =
      if device.agrees accepted = true then
        .ok () ((device.negotiated accepted).withStatus 11, memory)
      else .err .probeFailed ((device.negotiated accepted).withStatus 128, memory) :=
  run_settleFeatures

theorem serve_selectQueue (idx : BitVec 32) (vector : BitVec 16) :
    (Device.serve transport (.writeQueueMsixVector vector)
      (Device.serve transport (.selectQueue idx) device).2).2 =
      device.withQueue (idx.setWidth 16)
        ((device.queues (idx.setWidth 16)).told transport vector) := by
  cases transport with
  | mmio base =>
      change { device with queueSel := idx.setWidth 16 } =
        device.withQueue (idx.setWidth 16) (device.queues (idx.setWidth 16))
      rw [Device.withQueue, Function.update_eq_self]
  | pci common notify multiplier isr deviceCfg => rfl

theorem serve_readQueueSizeMax (idx : BitVec 16) {queue : QueueRegs}
    (fresh : queue.size = queue.sizeMax) :
    Device.serve transport .readQueueSizeMax (device.withQueue idx queue) =
      (queue.sizeMax.setWidth 32, device.withQueue idx queue) := by
  cases transport with
  | mmio base => rw [Device.serve, Device.selected_withQueue]
  | pci common notify multiplier isr deviceCfg =>
      rw [Device.serve, Device.selected_withQueue, fresh]

theorem setWidth_wide (size : BitVec 16) : (size.setWidth 32).setWidth 16 = size := by
  rw [BitVec.setWidth_setWidth_of_le _ (by decide), BitVec.setWidth_eq]

theorem tooSmall_iff {size limit : BitVec 16} (positive : 0 < size) :
    (limit.setWidth 32 = (0 : BitVec 32) ∨ (limit.setWidth 32 : BitVec 32).setWidth 16 < size) ↔
      ¬ size ≤ limit := by
  rw [setWidth_wide, BitVec.not_le]
  refine ⟨fun either => either.elim (fun zero => ?_) id, Or.inr⟩
  have none := setWidth_wide limit
  rw [zero] at none
  rw [← none]
  exact positive

theorem run_enableQueue {idx : BitVec 16} {queue : QueueRegs} :
    (act .enableQueue).run (onRegisters ramServe transport) (device.withQueue idx queue, memory) =
      .ok (queue.doorbell transport)
        (device.withQueue idx { queue with enabled := true }, memory) := by
  change Outcome.ok (Device.serve transport .enableQueue _).1
    ((Device.serve transport .enableQueue _).2, memory) = _
  cases transport with
  | mmio base =>
      rw [Device.serve, Device.setSelected_withQueue]
      rfl
  | pci common notify multiplier isr deviceCfg =>
      rw [Device.serve, Device.setSelected_withQueue, Device.selected_withQueue]
      rfl

/-- A queue of the right size fits, or the driver gives up. -/
theorem run_setUpQueue {checks : Bool} {layout : QueueLayout} {vector : BitVec 16}
    {idx : BitVec 32} {regionBase : Nat} (positive : 0 < layout.queueSize)
    (inOrder : layout.descOffset ≤ layout.usedOffset ∧ layout.availOffset ≤ layout.usedOffset)
    (fits : (physOf memory regionBase).toNat + layout.usedOffset < 2 ^ 64)
    (fresh : (device.queues (idx.setWidth 16)).size = (device.queues (idx.setWidth 16)).sizeMax) :
    (setUpQueue checks layout vector idx regionBase).run (onRegisters ramServe transport)
        (device, memory) =
      if layout.queueSize ≤ (device.queues (idx.setWidth 16)).sizeMax then
        .ok ((device.queues (idx.setWidth 16)).doorbell transport)
          (device.withQueue (idx.setWidth 16) ((device.queues (idx.setWidth 16)).setUp transport
            layout vector (physOf memory regionBase)), memory)
      else
        .err .probeFailed
          ((device.withQueue (idx.setWidth 16)
            ((device.queues (idx.setWidth 16)).told transport vector)).withStatus 128,
            memory) := by
  rw [setUpQueue, run_act, run_act, run_act, serve_selectQueue]
  generalize device.queues (idx.setWidth 16) = queue at fresh ⊢
  have told : (queue.told transport vector).size = (queue.told transport vector).sizeMax := fresh
  rw [serve_readQueueSizeMax _ told]
  change (if queue.sizeMax.setWidth 32 = (0 : BitVec 32) ∨
    (queue.sizeMax.setWidth 32 : BitVec 32).setWidth 16 < layout.queueSize then giveUp
    else _).run _ (_, _) = _
  by_cases enough : layout.queueSize ≤ queue.sizeMax
  · rw [if_neg ((tooSmall_iff positive).not.mpr (not_not.mpr enough)), if_pos enough, run_act,
      Dialogue.run_bind, Exec.bind_of_ok (run_regionPhys (by omega)), Dialogue.run_bind,
      Exec.bind_of_ok (run_regionPhys (by omega)), Dialogue.run_bind,
      Exec.bind_of_ok (run_regionPhys fits), run_act]
    have sized : (Device.serve transport (.writeQueueSize (layout.queueSize.setWidth 32))
        (device.withQueue (idx.setWidth 16) (queue.told transport vector))).2 =
        device.withQueue (idx.setWidth 16)
          { queue.told transport vector with size := layout.queueSize } := by
      rw [Device.serve, Device.setSelected_withQueue, setWidth_wide]
    have addressed : (Device.serve transport (.writeQueueAddrs
        (physOf memory regionBase + .ofNat 64 layout.descOffset)
        (physOf memory regionBase + .ofNat 64 layout.availOffset)
        (physOf memory regionBase + .ofNat 64 layout.usedOffset))
        (device.withQueue (idx.setWidth 16)
          { queue.told transport vector with size := layout.queueSize })).2 =
        device.withQueue (idx.setWidth 16) { queue.setUp transport layout vector
          (physOf memory regionBase) with enabled := queue.enabled } := by
      rw [Device.serve, Device.setSelected_withQueue]
      rfl
    rw [sized, addressed]
    exact run_enableQueue
  · rw [if_pos ((tooSmall_iff positive).mpr enough), if_neg enough, run_giveUp]

theorem run_checkIdentity (deviceId : BitVec 32) :
    (checkIdentity deviceId).run (onRegisters ramServe transport) (device, memory) =
      if device.Answers deviceId transport then .ok () (device, memory)
      else .err .probeFailed (device, memory) := by
  cases transport with
  | pci common notify multiplier isr deviceCfg => exact (if_pos trivial).symm
  | mmio base =>
      change ((if device.magic ≠ 0x74726976 ∨ device.deviceId ≠ deviceId then .stop .probeFailed
        else if device.version ≠ 2 then .stop .probeFailed else .done () : ProbeM Unit)).run _ _ = _
      by_cases answers : device.Answers deviceId (.mmio base)
      · obtain ⟨magic, kind, version⟩ := id answers
        rw [if_pos answers, if_neg (not_or.mpr ⟨not_not.mpr magic, not_not.mpr kind⟩),
          if_neg (not_not.mpr version)]
        rfl
      · rw [if_neg answers]
        by_cases wrong : device.magic ≠ 0x74726976 ∨ device.deviceId ≠ deviceId
        · rw [if_pos wrong]
          rfl
        · have version : device.version ≠ 2 := fun version =>
            answers ⟨not_not.mp (not_or.mp wrong).1, not_not.mp (not_or.mp wrong).2, version⟩
          rw [if_neg wrong, if_pos version]
          rfl

/-- The status is reset, then the driver makes itself known. -/
theorem run_makeKnown (after : Unit → ProbeM α) :
    (act (.writeStatus 0) >>= fun _ => act (.writeStatus acknowledge) >>= fun _ =>
      act (.writeStatus (acknowledge ||| driver)) >>= after).run (onRegisters ramServe transport)
        (device, memory) =
      (after ()).run (onRegisters ramServe transport) (device.reset.withStatus 3, memory) := by
  rw [run_act, run_act, run_act]
  change (after ()).run _ (((device.setStatus 0).setStatus 1).setStatus 3, memory) = _
  rw [show device.setStatus 0 = device.reset from rfl,
    setStatus_plain (by decide) (by decide), setStatus_plain (by decide) (by decide)]
  rfl

/-- `DRIVER_OK`. -/
theorem run_start (agreed : device.agrees device.accepted = true) (after : Unit → ProbeM α) :
    (act (.writeStatus (acknowledge ||| driver ||| featuresOk ||| driverOk)) >>= after).run
        (onRegisters ramServe transport) (device, memory) =
      (after ()).run (onRegisters ramServe transport) (device.withStatus 15, memory) := by
  rw [run_act]
  change (after ()).run _ (device.setStatus 15, memory) = _
  have written : device.setStatus 15 = device.withStatus 15 := by
    rw [Device.setStatus, if_neg (by decide), if_pos agreed, Device.withStatus]
  rw [written]

theorem setWidth_or_shiftLeft (low high : BitVec 32) :
    low.setWidth 64 ||| high.setWidth 64 <<< 32 = (high ++ low : BitVec 64) := by
  apply BitVec.eq_of_getLsbD_eq
  intro i inside
  rw [BitVec.getLsbD_or, BitVec.getLsbD_setWidth, BitVec.getLsbD_shiftLeft,
    BitVec.getLsbD_setWidth, BitVec.getLsbD_append]
  by_cases below : i < 32
  · simp [below, inside]
  · have shifted : i - 32 < 64 := by omega
    simp [below, inside, shifted, BitVec.getLsbD_of_ge low i (by omega)]

end Runs

namespace Blk

/-- The features that the driver accepts. -/
def accepts (device : Device) : BitVec 32 → BitVec 32 :=
  Function.update (Function.update (fun _ => 0) 0 0) 1 (device.offered 1 &&& versionOne)

/-- A device that the driver can use. -/
def Usable (device : Device) (transport : Transport) : Prop :=
  device.Answers 2 transport ∧ device.agrees (accepts device) = true ∧
    4 ≤ (device.queues 0).sizeMax

/-- The device as the driver leaves it. -/
def started (device : Device) (transport : Transport) (msixVector : BitVec 16)
    (phys : BitVec 64) : Device :=
  ((device.negotiated (accepts device)).withQueue 0
    ((device.queues 0).reset.setUp transport layout msixVector phys)).withStatus 15

theorem doProbe_exact (checks : Bool) (transport : Transport) (device : Device)
    {memory : ByteMemory} {queueBase : Nat} (msixVector : BitVec 16)
    (fits : (physOf memory queueBase).toNat + layout.usedOffset < 2 ^ 64) :
    (Usable device transport →
      (doProbe checks queueBase msixVector).run (onRegisters ramServe transport)
          (device, memory) =
        .ok { queueNotifyOff := (device.queues 0).doorbell transport
              capacitySectors := device.config 32 4 ++ device.config 32 0 }
          (started device transport msixVector (physOf memory queueBase), memory)) ∧
    (¬ Usable device transport →
      ∃ later, (doProbe checks queueBase msixVector).run (onRegisters ramServe transport)
          (device, memory) = .err .probeFailed (later, memory) ∧
        (later = device ∨ later.status = 128)) := by
  by_cases answers : device.Answers 2 transport
  case neg =>
    rw [doProbe, Dialogue.run_bind,
      Exec.bind_of_err ((run_checkIdentity 2).trans (if_neg answers))]
    exact ⟨fun usable => absurd usable.1 answers, fun _ => ⟨device, rfl, Or.inl rfl⟩⟩
  have begins : (doProbe checks queueBase msixVector).run (onRegisters ramServe transport)
      (device, memory) =
      (settleFeatures >>= fun _ => startDevice checks queueBase msixVector).run
        (onRegisters ramServe transport)
        ((device.negotiated (accepts device)).withStatus 3, memory) := by
    rw [doProbe, Dialogue.run_bind,
      Exec.bind_of_ok ((run_checkIdentity 2).trans (if_pos answers)), run_makeKnown]
    rfl
  rw [begins, Dialogue.run_bind]
  have settles := @run_settleFeatures_negotiated transport device memory (accepts device)
  by_cases agreed : device.agrees (accepts device) = true
  case neg =>
    rw [Exec.bind_of_err (settles.trans (if_neg agreed))]
    exact ⟨fun usable => absurd usable.2.1 agreed, fun _ => ⟨_, rfl, Or.inr rfl⟩⟩
  rw [Exec.bind_of_ok (settles.trans (if_pos agreed)), startDevice, Dialogue.run_bind]
  have setsUp : (setUpQueue checks layout msixVector 0 queueBase).run
      (onRegisters ramServe transport)
        ((device.negotiated (accepts device)).withStatus 11, memory) =
      if 4 ≤ (device.queues 0).sizeMax then
        .ok ((device.queues 0).doorbell transport)
          (((device.negotiated (accepts device)).withQueue 0 ((device.queues 0).reset.setUp
            transport layout msixVector (physOf memory queueBase))).withStatus 11, memory)
      else .err .probeFailed (_, memory) :=
    run_setUpQueue (by decide) (by decide) fits rfl
  by_cases enough : 4 ≤ (device.queues 0).sizeMax
  case neg =>
    rw [Exec.bind_of_err (setsUp.trans (if_neg enough))]
    exact ⟨fun usable => absurd usable.2.2 enough, fun _ => ⟨_, rfl, Or.inr rfl⟩⟩
  rw [Exec.bind_of_ok (setsUp.trans (if_pos enough))]
  refine ⟨fun _ => ?_, fun unusable => absurd ⟨answers, agreed, enough⟩ unusable⟩
  rw [run_start agreed, Device.withStatus_withStatus, run_act, run_act]
  have capacity := setWidth_or_shiftLeft (device.config 32 0) (device.config 32 4)
  exact congrArg (fun sectors => Outcome.ok (Probed.mk _ sectors) _) capacity

end Blk

namespace Net

/-- Does the device have a MAC? -/
def macOffered (device : Device) : Bool := decide (device.offered 0 &&& netFeatureMac ≠ 0)

/-- The features that the driver accepts. -/
def accepts (device : Device) : BitVec 32 → BitVec 32 :=
  Function.update
    (Function.update (fun _ => 0) 0 (if macOffered device then netFeatureMac else 0)) 1
    (device.offered 1 &&& versionOne)

/-- A device that the driver can use. -/
def Usable (device : Device) (transport : Transport) : Prop :=
  device.Answers 1 transport ∧ device.agrees (accepts device) = true ∧
    2 ≤ (device.queues 0).sizeMax ∧ 2 ≤ (device.queues 1).sizeMax

def macOf (device : Device) : List (BitVec 8) :=
  if macOffered device then (List.range 6).map (device.config 8) else fallbackMac

/-- The device as the driver leaves it: a buffer for a frame is posted. -/
def started (device : Device) (transport : Transport) (msixVector : BitVec 16)
    (rxPhys txPhys : BitVec 64) : Device :=
  { (((device.negotiated (accepts device)).withQueue 0
      ((device.queues 0).reset.setUp transport layout msixVector rxPhys)).withQueue 1
      ((device.queues 1).reset.setUp transport layout msixVector txPhys)).withStatus 15 with
    notified := [0] }

/-- The region of the receive queue has the MAC and the doorbell for sending, and the one
descriptor is available. -/
def posted (device : Device) (transport : Transport) (rxBase : Nat) (memory : ByteMemory) :
    ByteMemory :=
  let mirrored := ((macOf device).zipIdx.foldl
    (fun memory entry => memory.writeNat (rxBase + 8 + entry.2) 1 entry.1.toNat) memory).writeNat
      (rxBase + 152) 8 ((device.queues 1).doorbell transport).toNat
  ((mirrored.writeNat (rxBase + 16) 16 ((0 : BitVec 16) ++ (2 : BitVec 16) ++ (712 : BitVec 32) ++
    (physOf memory rxBase + 256)).toNat).writeNat (rxBase + 52) 2 0).writeNat (rxBase + 50) 2 1

section Runs

variable {transport : Transport} {device : Device} {memory : ByteMemory}

theorem run_readMac {other : Device} (same : other.config = device.config) :
    (readMac (macOffered device)).run (onRegisters ramServe transport) (other, memory) =
      .ok (macOf device) (other, memory) := by
  have reads : ∀ items : List Nat,
      (Dialogue.forEach (fun i => (act (.readConfig 8 i) : ProbeM (BitVec 8))) items).run
        (onRegisters ramServe transport) (other, memory) =
        .ok (items.map (other.config 8)) (other, memory) := by
    intro items
    induction items with
    | nil => rfl
    | cons item rest ih =>
        rw [Dialogue.forEach, run_act, Dialogue.run_bind]
        exact Exec.bind_of_ok ih _
  rw [readMac, macOf, ← same]
  split
  · exact reads _
  · rfl

theorem run_mirror (rxBase : Nat) (entries : List (BitVec 8 × Nat)) :
    (Dialogue.forEach (fun entry => (ramStore 8 (rxBase + 8 + entry.2) entry.1 : ProbeM Unit))
      entries).run (onRegisters ramServe transport) (device, memory) =
      .ok (entries.map fun _ => ()) (device, entries.foldl
        (fun memory entry => memory.writeNat (rxBase + 8 + entry.2) 1 entry.1.toNat) memory) := by
  induction entries generalizing memory with
  | nil => rfl
  | cons entry rest ih =>
      rw [Dialogue.forEach, run_ramStore, Dialogue.run_bind, Exec.bind_of_ok ih]
      rfl

theorem physOf_mirror (rxBase : Nat) (entries : List (BitVec 8 × Nat)) :
    physOf (entries.foldl
      (fun memory entry => memory.writeNat (rxBase + 8 + entry.2) 1 entry.1.toNat) memory) rxBase =
      physOf memory rxBase := by
  induction entries generalizing memory with
  | nil => rfl
  | cons entry rest ih =>
      rw [List.foldl_cons, ih, physOf, physOf,
        ByteMemory.readNat_writeNat_of_disjoint _ (Or.inl (by omega))]

theorem run_postRxBuffer {checks : Bool} {rxBase : Nat} {rxNotifyOff : BitVec 16}
    (fits : (physOf memory rxBase).toNat + 256 < 2 ^ 64) :
    (postRxBuffer checks rxBase rxNotifyOff).run (onRegisters ramServe transport)
        (device, memory) =
      .ok () ((Device.serve transport (.notifyQueue 0 rxNotifyOff) device).2,
        ((memory.writeNat (rxBase + 16) 16 ((0 : BitVec 16) ++ (2 : BitVec 16) ++
          (712 : BitVec 32) ++ (physOf memory rxBase + 256)).toNat).writeNat (rxBase + 52) 2
          0).writeNat (rxBase + 50) 2 1) := by
  rw [postRxBuffer, Dialogue.run_bind, Exec.bind_of_ok (run_regionPhys fits), run_ramStore,
    run_ramStore, run_ramStore]
  rfl

theorem serve_notifyQueue_started (device : Device) (msixVector : BitVec 16)
    (rxPhys txPhys : BitVec 64) :
    (Device.serve transport (.notifyQueue 0 ((device.queues 0).doorbell transport))
      ((((device.negotiated (accepts device)).withQueue 0
        ((device.queues 0).reset.setUp transport layout msixVector rxPhys)).withQueue 1
        ((device.queues 1).reset.setUp transport layout msixVector txPhys)).withStatus 15)).2 =
      started device transport msixVector rxPhys txPhys := by
  cases transport with
  | mmio base => rfl
  | pci common notify multiplier isr deviceCfg => exact if_pos rfl

/-- What the driver does when the device is live. -/
theorem run_publish (device : Device) {checks : Bool} {rxBase : Nat} {other final : Device}
    {rxNotifyOff : BitVec 16} (same : other.config = device.config)
    (fits : (physOf memory rxBase).toNat + 256 < 2 ^ 64)
    (rings : (Device.serve transport (.notifyQueue 0 rxNotifyOff) other).2 = final) :
    (do
      let mac ← readMac (macOffered device)
      let _ ← Dialogue.forEach (fun entry => ramStore 8 (rxBase + 8 + entry.2) entry.1)
        mac.zipIdx
      ramStore 64 (rxBase + 152) (((device.queues 1).doorbell transport).setWidth 64)
      postRxBuffer checks rxBase rxNotifyOff
      return { rxNotifyOff, txNotifyOff := (device.queues 1).doorbell transport, mac } :
        ProbeM Probed).run (onRegisters ramServe transport) (other, memory) =
      .ok { rxNotifyOff, txNotifyOff := (device.queues 1).doorbell transport, mac := macOf device }
        (final, posted device transport rxBase memory) := by
  have kept : physOf (((macOf device).zipIdx.foldl (fun memory entry =>
      memory.writeNat (rxBase + 8 + entry.2) 1 entry.1.toNat) memory).writeNat (rxBase + 152)
        (64 / 8) ((device.queues 1).doorbell transport).toNat) rxBase = physOf memory rxBase := by
    rw [physOf, ByteMemory.readNat_writeNat_of_disjoint _ (Or.inl (by omega))]
    exact physOf_mirror rxBase _
  rw [Dialogue.run_bind, Exec.bind_of_ok (run_readMac same), Dialogue.run_bind,
    Exec.bind_of_ok (run_mirror rxBase _), run_ramStore, Dialogue.run_bind,
    BitVec.toNat_setWidth_of_le (by decide),
    Exec.bind_of_ok (run_postRxBuffer (by rw [kept]; exact fits)), kept, rings]
  rfl

end Runs

theorem doProbe_exact (checks : Bool) (transport : Transport) (device : Device)
    {memory : ByteMemory} {rxBase txBase : Nat} (msixVector : BitVec 16)
    (rxFits : (physOf memory rxBase).toNat + 256 < 2 ^ 64)
    (txFits : (physOf memory txBase).toNat + layout.usedOffset < 2 ^ 64) :
    (Usable device transport →
      (doProbe checks rxBase txBase msixVector).run (onRegisters ramServe transport)
          (device, memory) =
        .ok { rxNotifyOff := (device.queues 0).doorbell transport
              txNotifyOff := (device.queues 1).doorbell transport
              mac := macOf device }
          (started device transport msixVector (physOf memory rxBase) (physOf memory txBase),
            posted device transport rxBase memory)) ∧
    (¬ Usable device transport →
      ∃ later, (doProbe checks rxBase txBase msixVector).run (onRegisters ramServe transport)
          (device, memory) = .err .probeFailed (later, memory) ∧
        (later = device ∨ later.status = 128)) := by
  by_cases answers : device.Answers 1 transport
  case neg =>
    rw [doProbe, Dialogue.run_bind,
      Exec.bind_of_err ((run_checkIdentity 1).trans (if_neg answers))]
    exact ⟨fun usable => absurd usable.1 answers, fun _ => ⟨device, rfl, Or.inl rfl⟩⟩
  have begins : (doProbe checks rxBase txBase msixVector).run (onRegisters ramServe transport)
      (device, memory) =
      (settleFeatures >>= fun _ => startDevice checks rxBase txBase msixVector
        (macOffered device)).run (onRegisters ramServe transport)
        ((device.negotiated (accepts device)).withStatus 3, memory) := by
    rw [doProbe, Dialogue.run_bind,
      Exec.bind_of_ok ((run_checkIdentity 1).trans (if_pos answers)), run_makeKnown]
    rfl
  rw [begins, Dialogue.run_bind]
  have settles := @run_settleFeatures_negotiated transport device memory (accepts device)
  by_cases agreed : device.agrees (accepts device) = true
  case neg =>
    rw [Exec.bind_of_err (settles.trans (if_neg agreed))]
    exact ⟨fun usable => absurd usable.2.1 agreed, fun _ => ⟨_, rfl, Or.inr rfl⟩⟩
  rw [Exec.bind_of_ok (settles.trans (if_pos agreed)), startDevice, Dialogue.run_bind]
  have rxSetsUp : (setUpQueue checks layout msixVector 0 rxBase).run
      (onRegisters ramServe transport) ((device.negotiated (accepts device)).withStatus 11, memory) =
      if 2 ≤ (device.queues 0).sizeMax then
        .ok ((device.queues 0).doorbell transport)
          (((device.negotiated (accepts device)).withQueue 0
            ((device.queues 0).reset.setUp transport layout msixVector
              (physOf memory rxBase))).withStatus 11, memory)
      else .err .probeFailed (_, memory) :=
    run_setUpQueue (by decide) (by decide) (Nat.lt_of_le_of_lt (Nat.add_le_add_left (by decide) _)
      rxFits) rfl
  by_cases rxEnough : 2 ≤ (device.queues 0).sizeMax
  case neg =>
    rw [Exec.bind_of_err (rxSetsUp.trans (if_neg rxEnough))]
    exact ⟨fun usable => absurd usable.2.2.1 rxEnough, fun _ => ⟨_, rfl, Or.inr rfl⟩⟩
  rw [Exec.bind_of_ok (rxSetsUp.trans (if_pos rxEnough)), Dialogue.run_bind]
  have txSetsUp : (setUpQueue checks layout msixVector 1 txBase).run
      (onRegisters ramServe transport)
      (((device.negotiated (accepts device)).withQueue 0 ((device.queues 0).reset.setUp transport
        layout msixVector (physOf memory rxBase))).withStatus 11, memory) =
      if 2 ≤ (device.queues 1).sizeMax then
        .ok ((device.queues 1).doorbell transport)
          ((((device.negotiated (accepts device)).withQueue 0 ((device.queues 0).reset.setUp
            transport layout msixVector (physOf memory rxBase))).withQueue 1
            ((device.queues 1).reset.setUp transport layout msixVector
              (physOf memory txBase))).withStatus 11, memory)
      else .err .probeFailed (_, memory) :=
    run_setUpQueue (by decide) (by decide) txFits rfl
  by_cases txEnough : 2 ≤ (device.queues 1).sizeMax
  case neg =>
    rw [Exec.bind_of_err (txSetsUp.trans (if_neg txEnough))]
    exact ⟨fun usable => absurd usable.2.2.2 txEnough, fun _ => ⟨_, rfl, Or.inr rfl⟩⟩
  rw [Exec.bind_of_ok (txSetsUp.trans (if_pos txEnough))]
  refine ⟨fun _ => ?_, fun unusable => absurd ⟨answers, agreed, rxEnough, txEnough⟩ unusable⟩
  rw [run_start agreed, Device.withStatus_withStatus]
  exact run_publish device rfl rxFits (serve_notifyQueue_started device msixVector _ _)

end Net

/-! ## Both transports -/

namespace Device

/-- No driver changes where the doorbells are. -/
theorem notifyOff_serve (transport : Transport) (op : Op) (device : Device) (idx : BitVec 16) :
    ((serve transport op device).2.queues idx).notifyOff = (device.queues idx).notifyOff := by
  have selected : ∀ update : QueueRegs → QueueRegs,
      (∀ queue, (update queue).notifyOff = queue.notifyOff) →
      ((device.setSelected update).queues idx).notifyOff = (device.queues idx).notifyOff := by
    intro update keeps
    change (Function.update device.queues device.queueSel (update device.selected)
      idx).notifyOff = _
    by_cases same : idx = device.queueSel
    · subst same
      rw [Function.update_self, keeps, Device.selected]
    · rw [Function.update_of_ne same]
  cases op with
  | identify => cases transport <;> rfl
  | readDeviceFeature word => rfl
  | writeDriverFeature word value => rfl
  | readStatus => rfl
  | writeStatus value =>
      rw [serve, setStatus]
      split
      · rfl
      · rfl
  | selectQueue idx => rfl
  | readQueueSizeMax => cases transport <;> rfl
  | writeQueueSize size =>
      exact selected (fun queue => { queue with size := size.setWidth 16 }) fun _ => rfl
  | writeQueueMsixVector vector =>
      cases transport with
      | mmio base => rfl
      | pci common notify multiplier isr deviceCfg =>
          exact selected (fun queue => { queue with vector }) fun _ => rfl
  | writeQueueAddrs desc avail used =>
      exact selected (fun queue => { queue with desc, driver := avail, device := used })
        fun _ => rfl
  | enableQueue =>
      cases transport with
      | mmio base =>
          exact selected (fun queue => { queue with enabled := true }) fun _ => rfl
      | pci common notify multiplier isr deviceCfg =>
          exact selected (fun queue => { queue with enabled := true }) fun _ => rfl
  | notifyQueue idx notifyOff =>
      cases transport with
      | mmio base => rfl
      | pci common notify multiplier isr deviceCfg =>
          rw [serve, ring]
          split
          · rfl
          · rfl
  | ackInterrupt => rfl
  | readConfig bits offset => rfl

end Device

/-- The window of the doorbells has a place for every queue. -/
def PciWindows.Holds (windows : PciWindows) (device : Device) : Prop :=
  ∀ idx, (device.queues idx).notifyOff.toNat * windows.notifyOffMultiplier < windows.notifyLen

/-- A driver that keeps to the rules stays inside the windows. -/
theorem PciWindows.within_of_obeys {windows : PciWindows} {queues : List (BitVec 32)} {α : Type}
    {post : Except ProbeStop α → Handshake → Prop} {program : ProbeM α}
    (obeys : program.Obeys (Handshake.rules queues windows.configLen) post .start) {device : Device}
    (holds : windows.Holds device) (memory : ByteMemory) :
    program.Within (onRegisters ramServe windows.transport) windows.Inside (device, memory) := by
  refine Dialogue.within_of_obeys
    (fun (handshake : Handshake) (world : Device × ByteMemory) => windows.Holds world.1 ∧
      ∀ idx notifyOff, handshake.doorbell idx = some notifyOff →
        notifyOff.toNat * windows.notifyOffMultiplier < windows.notifyLen) ?_ ?_ obeys
    ⟨holds, fun _ _ known => nomatch known⟩
  · rintro handshake world (op | access) ⟨-, known⟩ allowed
    · cases op with
      | notifyQueue idx notifyOff => exact known idx notifyOff allowed.2
      | readConfig bits offset =>
          obtain ⟨-, byte, inside⟩ := allowed
          have wide : 1 ≤ bits / 8 := Nat.div_pos byte (by decide)
          exact Nat.lt_of_lt_of_le (Nat.lt_add_of_pos_right wide) inside
      | _ => trivial
    · trivial
  · rintro handshake ⟨device, memory⟩ (op | access) ⟨holds, known⟩
    · have stays : windows.Holds (Device.serve windows.transport op device).2 := fun idx => by
        rw [Device.notifyOff_serve]
        exact holds idx
      refine ⟨stays, ?_⟩
      cases op with
      | enableQueue =>
          change ∀ idx notifyOff, (Handshake.next handshake (.device .enableQueue)
            device.selected.notifyOff).doorbell idx = some notifyOff → _
          rw [Handshake.next]
          cases handshake.queue with
          | none => exact known
          | some queue =>
              intro idx notifyOff rung
              change Function.update handshake.doorbell queue _ idx = some notifyOff at rung
              by_cases same : idx = queue
              · subst same
                rw [Function.update_self] at rung
                exact Option.some.inj rung ▸ holds device.queueSel
              · rw [Function.update_of_ne same] at rung
                exact known idx notifyOff rung
      | writeStatus value =>
          change ∀ idx notifyOff, (Handshake.next handshake (.device (.writeStatus value))
            ()).doorbell idx = some notifyOff → _
          rw [Handshake.next]
          split
          · exact fun _ _ rung => nomatch rung
          · exact known
      | _ => exact known
    · exact ⟨holds, known⟩

def QueueRegs.unvectored (queue : QueueRegs) : QueueRegs := { queue with vector := 0 }

/-- The device, but for the vectors. -/
def Device.unvectored (device : Device) : Device :=
  { device with queues := fun idx => (device.queues idx).unvectored }

theorem Device.unvectored_eq {first second : Device}
    (others : { first with queues := second.queues } = second)
    (same : ∀ idx, (first.queues idx).unvectored = (second.queues idx).unvectored) :
    first.unvectored = second.unvectored := by
  rw [unvectored, funext same, ← others]
  rfl

theorem QueueRegs.unvectored_update {first second : BitVec 16 → QueueRegs}
    (same : ∀ idx, (first idx).unvectored = (second idx).unvectored) (set : BitVec 16)
    {queue other : QueueRegs} (equal : queue.unvectored = other.unvectored) (idx : BitVec 16) :
    (Function.update first set queue idx).unvectored =
      (Function.update second set other idx).unvectored := by
  by_cases here : idx = set
  · subst here
    rw [Function.update_self, Function.update_self, equal]
  · rw [Function.update_of_ne here, Function.update_of_ne here, same]

/-- A device with two queues of 8 entries. -/
def Device.sample (deviceId : BitVec 32) : Device where
  magic := 0x74726976
  deviceId := deviceId
  version := 2
  offered := fun _ => 0xffffffff
  agrees := fun accepted => accepted 1 == 1
  config := fun bits offset => .ofNat bits (offset + 1)
  deviceFeatureSel := 0
  driverFeatureSel := 0
  accepted := fun _ => 0
  status := 0
  queueSel := 0
  queues := fun idx => { sizeMax := 8, size := 8, vector := 0xffff, desc := 0, driver := 0,
                         device := 0, enabled := false, notifyOff := idx &&& 1 }
  cause := 0
  notified := []

def PciWindows.sample : PciWindows where
  common := 0x1000
  notify := 0x2000
  notifyOffMultiplier := 4
  notifyLen := 0x1000
  isr := 0x3000
  deviceCfg := 0x4000
  configLen := 0x1000
  isr_common := by decide
  config_common := by decide
  config_isr := by decide
  notify_common := by decide
  notify_isr := by decide
  notify_config := by decide

theorem PciWindows.holds_sample (deviceId : BitVec 32) :
    PciWindows.sample.Holds (.sample deviceId) := by
  intro idx
  change (idx &&& 1).toNat * 4 < 0x1000
  have below : (idx &&& 1).toNat ≤ 1 := by
    rw [BitVec.toNat_and]
    exact Nat.and_le_right
  omega

section Both

variable (checks : Bool) (base : Nat) (windows : PciWindows) (device : Device) {memory : ByteMemory}
  (msixVector : BitVec 16)

/-- The block driver finds the same device through both transports. -/
theorem Blk.blkProbe_transports {queueBase : Nat}
    (fits : (physOf memory queueBase).toNat + layout.usedOffset < 2 ^ 64)
    (answers : device.Answers 2 (.mmio base)) (enough : 8 ≤ windows.configLen)
    (holds : windows.Holds device) :
    (Usable device (.mmio base) →
      ((doProbe checks queueBase msixVector).implement (Transport.mmio base).perform).run
          (onBus ramServe (Device.mmio base)) (device, memory) =
        .ok { queueNotifyOff := 0, capacitySectors := device.config 32 4 ++ device.config 32 0 }
          (started device (.mmio base) msixVector (physOf memory queueBase), memory) ∧
      ((doProbe checks queueBase msixVector).implement windows.transport.perform).run
          (onBus ramServe (Device.pci windows)) (device, memory) =
        .ok { queueNotifyOff := (device.queues 0).notifyOff
              capacitySectors := device.config 32 4 ++ device.config 32 0 }
          (started device windows.transport msixVector (physOf memory queueBase), memory) ∧
      (started device (.mmio base) msixVector (physOf memory queueBase)).unvectored =
        (started device windows.transport msixVector (physOf memory queueBase)).unvectored) ∧
    (¬ Usable device (.mmio base) → ∃ first second,
      ((doProbe checks queueBase msixVector).implement (Transport.mmio base).perform).run
          (onBus ramServe (Device.mmio base)) (device, memory) =
        .err .probeFailed (first, memory) ∧
      ((doProbe checks queueBase msixVector).implement windows.transport.perform).run
          (onBus ramServe (Device.pci windows)) (device, memory) =
        .err .probeFailed (second, memory)) := by
  rw [implement_mmio, implement_pci windows
    (PciWindows.within_of_obeys (obeys_doProbe checks queueBase msixVector enough) holds memory)]
  have mmio := doProbe_exact checks (.mmio base) device msixVector fits
  have pci := doProbe_exact checks windows.transport device msixVector fits
  have same : Usable device windows.transport ↔ Usable device (.mmio base) :=
    ⟨fun usable => ⟨answers, usable.2⟩, fun usable => ⟨trivial, usable.2⟩⟩
  refine ⟨fun usable => ⟨mmio.1 usable, pci.1 (same.mpr usable), ?_⟩, fun unusable => ?_⟩
  · refine Device.unvectored_eq rfl ?_
    exact QueueRegs.unvectored_update (fun _ => rfl) 0 rfl
  · obtain ⟨first, firstRan, -⟩ := mmio.2 unusable
    obtain ⟨second, secondRan, -⟩ := pci.2 (same.not.mpr unusable)
    exact ⟨first, second, firstRan, secondRan⟩

theorem Blk.blkProbe_transports_sample :
    ((doProbe true 0 7).implement PciWindows.sample.transport.perform).run
        (onBus ramServe (Device.pci .sample)) (.sample 2, fun _ => 0) =
      .ok { queueNotifyOff := 0, capacitySectors := 0x500000001 }
        (started (.sample 2) PciWindows.sample.transport 7 0, fun _ => 0) :=
  ((Blk.blkProbe_transports true 0x10001000 .sample (.sample 2) 7 (by decide) ⟨rfl, rfl, rfl⟩
    (by decide) (PciWindows.holds_sample 2)).1 ⟨⟨rfl, rfl, rfl⟩, by decide, by decide⟩).2.1

/-- And so does the network driver. -/
theorem Net.netProbe_transports {rxBase txBase : Nat}
    (rxFits : (physOf memory rxBase).toNat + 256 < 2 ^ 64)
    (txFits : (physOf memory txBase).toNat + layout.usedOffset < 2 ^ 64)
    (answers : device.Answers 1 (.mmio base)) (enough : 6 ≤ windows.configLen)
    (holds : windows.Holds device) :
    (Usable device (.mmio base) →
      ((doProbe checks rxBase txBase msixVector).implement (Transport.mmio base).perform).run
          (onBus ramServe (Device.mmio base)) (device, memory) =
        .ok { rxNotifyOff := 0, txNotifyOff := 0, mac := macOf device }
          (started device (.mmio base) msixVector (physOf memory rxBase) (physOf memory txBase),
            posted device (.mmio base) rxBase memory) ∧
      ((doProbe checks rxBase txBase msixVector).implement windows.transport.perform).run
          (onBus ramServe (Device.pci windows)) (device, memory) =
        .ok { rxNotifyOff := (device.queues 0).notifyOff
              txNotifyOff := (device.queues 1).notifyOff
              mac := macOf device }
          (started device windows.transport msixVector (physOf memory rxBase)
            (physOf memory txBase), posted device windows.transport rxBase memory) ∧
      (started device (.mmio base) msixVector (physOf memory rxBase)
        (physOf memory txBase)).unvectored =
        (started device windows.transport msixVector (physOf memory rxBase)
          (physOf memory txBase)).unvectored) ∧
    (¬ Usable device (.mmio base) → ∃ first second,
      ((doProbe checks rxBase txBase msixVector).implement (Transport.mmio base).perform).run
          (onBus ramServe (Device.mmio base)) (device, memory) =
        .err .probeFailed (first, memory) ∧
      ((doProbe checks rxBase txBase msixVector).implement windows.transport.perform).run
          (onBus ramServe (Device.pci windows)) (device, memory) =
        .err .probeFailed (second, memory)) := by
  rw [implement_mmio, implement_pci windows
    (PciWindows.within_of_obeys (obeys_doProbe checks rxBase txBase msixVector enough) holds
      memory)]
  have mmio := doProbe_exact checks (.mmio base) device msixVector rxFits txFits
  have pci := doProbe_exact checks windows.transport device msixVector rxFits txFits
  have same : Usable device windows.transport ↔ Usable device (.mmio base) :=
    ⟨fun usable => ⟨answers, usable.2⟩, fun usable => ⟨trivial, usable.2⟩⟩
  refine ⟨fun usable => ⟨mmio.1 usable, pci.1 (same.mpr usable), ?_⟩, fun unusable => ?_⟩
  · refine Device.unvectored_eq rfl ?_
    refine QueueRegs.unvectored_update ?_ 1 rfl
    exact QueueRegs.unvectored_update (fun _ => rfl) 0 rfl
  · obtain ⟨first, firstRan, -⟩ := mmio.2 unusable
    obtain ⟨second, secondRan, -⟩ := pci.2 (same.not.mpr unusable)
    exact ⟨first, second, firstRan, secondRan⟩

theorem Net.netProbe_transports_sample :
    ((doProbe true 0 0x1000 7).implement PciWindows.sample.transport.perform).run
        (onBus ramServe (Device.pci .sample)) (.sample 1, fun _ => 0) =
      .ok { rxNotifyOff := 0, txNotifyOff := 1, mac := [1, 2, 3, 4, 5, 6] }
        (started (.sample 1) PciWindows.sample.transport 7 0 0,
          posted (.sample 1) PciWindows.sample.transport 0 fun _ => 0) :=
  ((Net.netProbe_transports true 0x10001000 .sample (.sample 1) 7 (by decide) (by decide)
    ⟨rfl, rfl, rfl⟩ (by decide) (PciWindows.holds_sample 1)).1
    ⟨⟨rfl, rfl, rfl⟩, by decide, by decide, by decide⟩).2.1

end Both

end Virtio

end Simurgh
