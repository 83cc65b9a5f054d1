import Mathlib.Logic.Function.Basic
import Mathlib.Algebra.Order.Ring.Nat
import Simurgh.Lib.Dialogue

/-!
# The two transports of a virtio device

The drivers reach a device through registers of 32 bits in one window, or through the windows
of a PCI device, whose registers have different widths.  Their accessors hide the difference.
Here a device is its registers, both maps lead to the same ones, and whatever a driver does
with the accessors comes to the same on the maps as on the registers themselves.
-/

namespace Simurgh

namespace Virtio

/-! ## What the drivers do to the bus -/

/-- A volatile access of so many bits. -/
inductive BusAccess where
  | read (bits addr : Nat)
  | write (bits addr : Nat) (value : BitVec bits)

abbrev BusAccess.Ans : BusAccess → Type
  | read bits _ => BitVec bits
  | write _ _ _ => Unit

/-- The windows of the device and the regions in memory are mapped apart. -/
inductive BusRequest where
  | register (access : BusAccess)
  | ram (access : BusAccess)

abbrev BusRequest.Ans : BusRequest → Type
  | register access => access.Ans
  | ram access => access.Ans

inductive Transport where
  | mmio (base : Nat)
  | pci (common notify notifyOffMultiplier isr deviceCfg : Nat)

abbrev BusM (ε : Type) := Dialogue BusRequest BusRequest.Ans ε

variable {ε : Type}

def load (bits addr : Nat) : BusM ε (BitVec bits) :=
  .request (BusRequest.register (.read bits addr))

def store (bits addr : Nat) (value : BitVec bits) : BusM ε Unit :=
  .request (BusRequest.register (.write bits addr value))

namespace Transport

variable (transport : Transport)

/-! ## The accessors -/

/-- The magic number, the kind and the version of a device that is not a PCI device. -/
def identify : BusM ε (Option (BitVec 32 × BitVec 32 × BitVec 32)) :=
  match transport with
  | mmio base => do
      let magic ← load 32 (base + 0x000)
      let deviceId ← load 32 (base + 0x008)
      let version ← load 32 (base + 0x004)
      return some (magic, deviceId, version)
  | pci .. => return none

/-- One word of the feature bits of the device. -/
def readDeviceFeature (word : BitVec 32) : BusM ε (BitVec 32) :=
  match transport with
  | mmio base => do
      store 32 (base + 0x014) word
      load 32 (base + 0x010)
  | pci common .. => do
      store 32 (common + 0x00) word
      load 32 (common + 0x04)

def writeDriverFeature (word value : BitVec 32) : BusM ε Unit :=
  match transport with
  | mmio base => do
      store 32 (base + 0x024) word
      store 32 (base + 0x020) value
  | pci common .. => do
      store 32 (common + 0x08) word
      store 32 (common + 0x0c) value

def readStatus : BusM ε (BitVec 32) :=
  match transport with
  | mmio base => load 32 (base + 0x070)
  | pci common .. => do
      let status ← load 8 (common + 0x14)
      return status.setWidth 32

def writeStatus (value : BitVec 32) : BusM ε Unit :=
  match transport with
  | mmio base => store 32 (base + 0x070) value
  | pci common .. => store 8 (common + 0x14) (value.setWidth 8)

def selectQueue (idx : BitVec 32) : BusM ε Unit :=
  match transport with
  | mmio base => store 32 (base + 0x030) idx
  | pci common .. => store 16 (common + 0x16) (idx.setWidth 16)

def readQueueSizeMax : BusM ε (BitVec 32) :=
  match transport with
  | mmio base => load 32 (base + 0x034)
  | pci common .. => do
      let size ← load 16 (common + 0x18)
      return size.setWidth 32

def writeQueueSize (size : BitVec 32) : BusM ε Unit :=
  match transport with
  | mmio base => store 32 (base + 0x038) size
  | pci common .. => store 16 (common + 0x18) (size.setWidth 16)

/-- Only a PCI device has the register. -/
def writeQueueMsixVector (vector : BitVec 16) : BusM ε Unit :=
  match transport with
  | mmio _ => return ()
  | pci common .. => store 16 (common + 0x1a) vector

def writeQueueAddrs (desc avail used : BitVec 64) : BusM ε Unit :=
  match transport with
  | mmio base => do
      store 32 (base + 0x080) (desc.setWidth 32)
      store 32 (base + 0x084) ((desc >>> 32).setWidth 32)
      store 32 (base + 0x090) (avail.setWidth 32)
      store 32 (base + 0x094) ((avail >>> 32).setWidth 32)
      store 32 (base + 0x0a0) (used.setWidth 32)
      store 32 (base + 0x0a4) ((used >>> 32).setWidth 32)
  | pci common .. => do
      store 64 (common + 0x20) desc
      store 64 (common + 0x28) avail
      store 64 (common + 0x30) used

/-- What is returned tells a PCI driver where the doorbell of the queue is. -/
def enableQueue : BusM ε (BitVec 16) :=
  match transport with
  | mmio base => do
      store 32 (base + 0x044) 1
      return 0
  | pci common .. => do
      let notifyOff ← load 16 (common + 0x1e)
      store 16 (common + 0x1c) 1
      return notifyOff

def notifyQueue (idx : BitVec 32) (notifyOff : BitVec 16) : BusM ε Unit :=
  match transport with
  | mmio base => store 32 (base + 0x050) idx
  | pci _ notify notifyOffMultiplier .. =>
      store 16 (notify + notifyOff.toNat * notifyOffMultiplier) (idx.setWidth 16)

def ackInterrupt : BusM ε Unit :=
  match transport with
  | mmio base => do
      let cause ← load 32 (base + 0x060)
      store 32 (base + 0x064) cause
  | pci _ _ _ isr _ => do
      let _ ← load 8 isr
      return ()

/-- `read_config32` and `read_config_byte`. -/
def readConfig (bits offset : Nat) : BusM ε (BitVec bits) :=
  match transport with
  | mmio base => load bits (base + 0x100 + offset)
  | pci _ _ _ _ deviceCfg => load bits (deviceCfg + offset)

end Transport

/-- What the drivers do with a device. -/
inductive Op where
  | identify
  | readDeviceFeature (word : BitVec 32)
  | writeDriverFeature (word value : BitVec 32)
  | readStatus
  | writeStatus (value : BitVec 32)
  | selectQueue (idx : BitVec 32)
  | readQueueSizeMax
  | writeQueueSize (size : BitVec 32)
  | writeQueueMsixVector (vector : BitVec 16)
  | writeQueueAddrs (desc avail used : BitVec 64)
  | enableQueue
  | notifyQueue (idx : BitVec 32) (notifyOff : BitVec 16)
  | ackInterrupt
  | readConfig (bits offset : Nat)

abbrev Op.Ans : Op → Type
  | identify => Option (BitVec 32 × BitVec 32 × BitVec 32)
  | readDeviceFeature _ | readStatus | readQueueSizeMax => BitVec 32
  | enableQueue => BitVec 16
  | readConfig bits _ => BitVec bits
  | _ => Unit

/-- What they do with the device, or with their regions in memory. -/
inductive Act where
  | device (op : Op)
  | ram (access : BusAccess)

abbrev Act.Ans : Act → Type
  | device op => op.Ans
  | ram access => access.Ans

/-- The accessor that does this. -/
def Transport.access (transport : Transport) : (op : Op) → BusM ε op.Ans
  | .identify => transport.identify
  | .readDeviceFeature word => transport.readDeviceFeature word
  | .writeDriverFeature word value => transport.writeDriverFeature word value
  | .readStatus => transport.readStatus
  | .writeStatus value => transport.writeStatus value
  | .selectQueue idx => transport.selectQueue idx
  | .readQueueSizeMax => transport.readQueueSizeMax
  | .writeQueueSize size => transport.writeQueueSize size
  | .writeQueueMsixVector vector => transport.writeQueueMsixVector vector
  | .writeQueueAddrs desc avail used => transport.writeQueueAddrs desc avail used
  | .enableQueue => transport.enableQueue
  | .notifyQueue idx notifyOff => transport.notifyQueue idx notifyOff
  | .ackInterrupt => transport.ackInterrupt
  | .readConfig bits offset => transport.readConfig bits offset

/-- The accesses that an act comes to. -/
def Transport.perform (transport : Transport) : (act : Act) → BusM ε act.Ans
  | .device op => transport.access op
  | .ram access => .request (BusRequest.ram access)

/-! ## The device -/

structure QueueRegs where
  sizeMax : BitVec 16
  size : BitVec 16
  vector : BitVec 16
  desc : BitVec 64
  driver : BitVec 64
  device : BitVec 64
  enabled : Bool
  notifyOff : BitVec 16

/-- A queue after a reset. -/
def QueueRegs.reset (queue : QueueRegs) : QueueRegs where
  sizeMax := queue.sizeMax
  size := queue.sizeMax
  vector := 0xffff
  desc := 0
  driver := 0
  device := 0
  enabled := false
  notifyOff := queue.notifyOff

/-- The registers of a device, with what it offers and which features it can do with. -/
structure Device where
  magic : BitVec 32
  deviceId : BitVec 32
  version : BitVec 32
  offered : BitVec 32 → BitVec 32
  agrees : (BitVec 32 → BitVec 32) → Bool
  config : (bits : Nat) → Nat → BitVec bits
  deviceFeatureSel : BitVec 32
  driverFeatureSel : BitVec 32
  accepted : BitVec 32 → BitVec 32
  status : BitVec 8
  queueSel : BitVec 16
  queues : BitVec 16 → QueueRegs
  cause : BitVec 8
  /-- The queues whose doorbell was rung. -/
  notified : List (BitVec 16)

namespace Device

variable (device : Device)

def selected : QueueRegs := device.queues device.queueSel

def setSelected (update : QueueRegs → QueueRegs) : Device :=
  { device with
    queues := Function.update device.queues device.queueSel (update device.selected) }

/-- The device forgets what it was told. -/
def reset : Device :=
  { device with
    deviceFeatureSel := 0
    driverFeatureSel := 0
    accepted := fun _ => 0
    status := 0
    queueSel := 0
    queues := fun idx => (device.queues idx).reset
    cause := 0
    notified := [] }

/-- Writing 0 resets the device.  `FEATURES_OK` stays only if the device agrees. -/
def setStatus (value : BitVec 8) : Device :=
  if value = 0 then device.reset
  else { device with status := if device.agrees device.accepted then value else value &&& ~~~8 }

def setLow (low : BitVec 32) (addr : BitVec 64) : BitVec 64 :=
  (addr.extractLsb' 32 32 ++ low : BitVec 64)

def setHigh (high : BitVec 32) (addr : BitVec 64) : BitVec 64 :=
  (high ++ addr.extractLsb' 0 32 : BitVec 64)

/-! ### The window of 32-bit registers -/

def registerRead : (bits offset : Nat) → BitVec bits
  | 32, 0x000 => device.magic
  | 32, 0x004 => device.version
  | 32, 0x008 => device.deviceId
  | 32, 0x010 => device.offered device.deviceFeatureSel
  | 32, 0x034 => device.selected.sizeMax.setWidth 32
  | 32, 0x060 => device.cause.setWidth 32
  | 32, 0x070 => device.status.setWidth 32
  | _, _ => 0

/-- The configuration lies behind the registers. -/
def mmioRead (bits offset : Nat) : BitVec bits :=
  if 0x100 ≤ offset then device.config bits (offset - 0x100)
  else device.registerRead bits offset

def mmioWrite : (bits offset : Nat) → BitVec bits → Device
  | 32, 0x014, value => { device with deviceFeatureSel := value }
  | 32, 0x020, value =>
      { device with accepted := Function.update device.accepted device.driverFeatureSel value }
  | 32, 0x024, value => { device with driverFeatureSel := value }
  | 32, 0x030, value => { device with queueSel := value.setWidth 16 }
  | 32, 0x038, value => device.setSelected fun queue => { queue with size := value.setWidth 16 }
  | 32, 0x044, value => device.setSelected fun queue => { queue with enabled := value == 1 }
  | 32, 0x050, value => { device with notified := device.notified ++ [value.setWidth 16] }
  | 32, 0x064, value => { device with cause := device.cause &&& ~~~(value.setWidth 8) }
  | 32, 0x070, value => device.setStatus (value.setWidth 8)
  | 32, 0x080, value =>
      device.setSelected fun queue => { queue with desc := setLow value queue.desc }
  | 32, 0x084, value =>
      device.setSelected fun queue => { queue with desc := setHigh value queue.desc }
  | 32, 0x090, value =>
      device.setSelected fun queue => { queue with driver := setLow value queue.driver }
  | 32, 0x094, value =>
      device.setSelected fun queue => { queue with driver := setHigh value queue.driver }
  | 32, 0x0a0, value =>
      device.setSelected fun queue => { queue with device := setLow value queue.device }
  | 32, 0x0a4, value =>
      device.setSelected fun queue => { queue with device := setHigh value queue.device }
  | _, _, _ => device

def mmio (base : Nat) : (access : BusAccess) → Device → access.Ans × Device
  | .read bits addr, device => (device.mmioRead bits (addr - base), device)
  | .write bits addr value, device => ((), device.mmioWrite bits (addr - base) value)

/-! ### The windows of a PCI device -/

end Device

/-- The windows do not share an address. -/
structure PciWindows where
  common : Nat
  notify : Nat
  notifyOffMultiplier : Nat
  notifyLen : Nat
  isr : Nat
  deviceCfg : Nat
  configLen : Nat
  isr_common : isr < common ∨ common + 0x38 ≤ isr
  config_common : deviceCfg + configLen ≤ common ∨ common + 0x38 ≤ deviceCfg
  config_isr : deviceCfg + configLen ≤ isr ∨ isr < deviceCfg
  notify_common : notify + notifyLen ≤ common ∨ common + 0x38 ≤ notify
  notify_isr : notify + notifyLen ≤ isr ∨ isr < notify
  notify_config : notify + notifyLen ≤ deviceCfg ∨ deviceCfg + configLen ≤ notify

def PciWindows.transport (windows : PciWindows) : Transport :=
  .pci windows.common windows.notify windows.notifyOffMultiplier windows.isr windows.deviceCfg

namespace Device

variable (device : Device)

def commonRead : (bits offset : Nat) → BitVec bits
  | 32, 0x04 => device.offered device.deviceFeatureSel
  | 8, 0x14 => device.status
  | 16, 0x18 => device.selected.size
  | 16, 0x1e => device.selected.notifyOff
  | _, _ => 0

def commonWrite : (bits offset : Nat) → BitVec bits → Device
  | 32, 0x00, value => { device with deviceFeatureSel := value }
  | 32, 0x08, value => { device with driverFeatureSel := value }
  | 32, 0x0c, value =>
      { device with accepted := Function.update device.accepted device.driverFeatureSel value }
  | 8, 0x14, value => device.setStatus value
  | 16, 0x16, value => { device with queueSel := value }
  | 16, 0x18, value => device.setSelected fun queue => { queue with size := value }
  | 16, 0x1a, value => device.setSelected fun queue => { queue with vector := value }
  | 16, 0x1c, value => device.setSelected fun queue => { queue with enabled := value == 1 }
  | 64, 0x20, value => device.setSelected fun queue => { queue with desc := value }
  | 64, 0x28, value => device.setSelected fun queue => { queue with driver := value }
  | 64, 0x30, value => device.setSelected fun queue => { queue with device := value }
  | _, _, _ => device

/-- A doorbell rings if it is the one of the queue that is named. -/
def ring (doorbell multiplier : Nat) (idx : BitVec 16) : Device :=
  if doorbell = (device.queues idx).notifyOff.toNat * multiplier then
    { device with notified := device.notified ++ [idx] }
  else device

def pci (windows : PciWindows) : (access : BusAccess) → Device → access.Ans × Device
  | .read bits addr, device =>
      if windows.common ≤ addr ∧ addr < windows.common + 0x38 then
        (device.commonRead bits (addr - windows.common), device)
      else if addr = windows.isr then
        (device.cause.setWidth bits, { device with cause := 0 })
      else if windows.deviceCfg ≤ addr ∧ addr < windows.deviceCfg + windows.configLen then
        (device.config bits (addr - windows.deviceCfg), device)
      else ((0 : BitVec bits), device)
  | .write bits addr value, device =>
      if windows.common ≤ addr ∧ addr < windows.common + 0x38 then
        ((), device.commonWrite bits (addr - windows.common) value)
      else if windows.notify ≤ addr ∧ addr < windows.notify + windows.notifyLen then
        ((), device.ring (addr - windows.notify) windows.notifyOffMultiplier (value.setWidth 16))
      else ((), device)

/-! ### The registers themselves -/

/-- How the drivers see the registers.  Only a PCI device has vectors, shows the size of a queue in
place of its limit, and has a doorbell for each queue. -/
def serve (transport : Transport) : (op : Op) → Device → op.Ans × Device
  | .identify, device =>
      match transport with
      | .mmio _ => (some (device.magic, device.deviceId, device.version), device)
      | .pci .. => (none, device)
  | .readDeviceFeature word, device =>
      (device.offered word, { device with deviceFeatureSel := word })
  | .writeDriverFeature word value, device =>
      ((), { device with
        driverFeatureSel := word
        accepted := Function.update device.accepted word value })
  | .readStatus, device => (device.status.setWidth 32, device)
  | .writeStatus value, device => ((), device.setStatus (value.setWidth 8))
  | .selectQueue idx, device => ((), { device with queueSel := idx.setWidth 16 })
  | .readQueueSizeMax, device =>
      match transport with
      | .mmio _ => (device.selected.sizeMax.setWidth 32, device)
      | .pci .. => (device.selected.size.setWidth 32, device)
  | .writeQueueSize size, device =>
      ((), device.setSelected fun queue => { queue with size := size.setWidth 16 })
  | .writeQueueMsixVector vector, device =>
      match transport with
      | .mmio _ => ((), device)
      | .pci .. => ((), device.setSelected fun queue => { queue with vector })
  | .writeQueueAddrs desc avail used, device =>
      ((), device.setSelected fun queue => { queue with desc, driver := avail, device := used })
  | .enableQueue, device =>
      match transport with
      | .mmio _ => ((0 : BitVec 16), device.setSelected fun queue => { queue with enabled := true })
      | .pci .. =>
          (device.selected.notifyOff,
            device.setSelected fun queue => { queue with enabled := true })
  | .notifyQueue idx notifyOff, device =>
      match transport with
      | .mmio _ => ((), { device with notified := device.notified ++ [idx.setWidth 16] })
      | .pci _ _ multiplier _ _ =>
          ((), device.ring (notifyOff.toNat * multiplier) multiplier (idx.setWidth 16))
  | .ackInterrupt, device => ((), { device with cause := 0 })
  | .readConfig bits offset, device => (device.config bits offset, device)

end Device

/-! ## A device and the memory -/

section Worlds

variable {μ : Type} (ram : (access : BusAccess) → μ → access.Ans × μ)

/-- The bus leads to the windows of the device, and to memory. -/
def onBus (windows : (access : BusAccess) → Device → access.Ans × Device) :
    (request : BusRequest) → Device × μ → request.Ans × Device × μ
  | .register access, world =>
      ((windows access world.1).1, (windows access world.1).2, world.2)
  | .ram access, world => ((ram access world.2).1, world.1, (ram access world.2).2)

def onRegisters (transport : Transport) : (act : Act) → Device × μ → act.Ans × Device × μ
  | .device op, world =>
      ((Device.serve transport op world.1).1, (Device.serve transport op world.1).2, world.2)
  | .ram access, world => ((ram access world.2).1, world.1, (ram access world.2).2)

end Worlds

/-! ## The accessors on the windows -/

namespace Device

theorem setHigh_setLow (addr old : BitVec 64) :
    setHigh ((addr >>> 32).setWidth 32) (setLow (addr.setWidth 32) old) = addr := by
  apply BitVec.eq_of_getLsbD_eq
  intro i inside
  rw [setHigh, setLow, BitVec.getLsbD_append, BitVec.getLsbD_extractLsb', BitVec.getLsbD_append]
  by_cases low : i < 32
  · simp [low]
  · have position : 32 + (i - 32) = i := by omega
    simp [low, position]
    omega

variable {device : Device}

theorem setSelected_setSelected (first second : QueueRegs → QueueRegs) :
    (device.setSelected first).setSelected second =
      device.setSelected fun queue => second (first queue) := by
  unfold setSelected selected
  simp

theorem mmioWrite_addrs (desc avail used : BitVec 64) :
    ((((((device.mmioWrite 32 0x080 (desc.setWidth 32)).mmioWrite 32 0x084
      ((desc >>> 32).setWidth 32)).mmioWrite 32 0x090 (avail.setWidth 32)).mmioWrite 32 0x094
      ((avail >>> 32).setWidth 32)).mmioWrite 32 0x0a0 (used.setWidth 32)).mmioWrite 32 0x0a4
      ((used >>> 32).setWidth 32)) =
      device.setSelected fun queue => { queue with desc, driver := avail, device := used } := by
  simp only [mmioWrite, setSelected_setSelected, setHigh_setLow]

theorem commonWrite_addrs (desc avail used : BitVec 64) :
    (((device.commonWrite 64 0x20 desc).commonWrite 64 0x28 avail).commonWrite 64 0x30 used) =
      device.setSelected fun queue => { queue with desc, driver := avail, device := used } := by
  simp only [commonWrite, setSelected_setSelected]

theorem mmioWrite_cause :
    device.mmioWrite 32 0x064 (device.mmioRead 32 0x060) = { device with cause := 0 } := by
  change { device with cause := device.cause &&& ~~~((device.cause.setWidth 32).setWidth 8) } = _
  congr 1
  rw [BitVec.setWidth_setWidth_of_le _ (by decide), BitVec.setWidth_eq, BitVec.and_not_self]

theorem mmioRead_config (bits offset : Nat) :
    device.mmioRead bits (0x100 + offset) = device.config bits offset := by
  rw [mmioRead, if_pos (Nat.le_add_right _ _), Nat.add_sub_cancel_left]

end Device

section Simulation

variable {μ : Type} {ram : (access : BusAccess) → μ → access.Ans × μ}

section Mmio

variable {base : Nat} {device : Device} {memory : μ} {α : Type}

theorem load_mmio (bits offset : Nat) (next : BitVec bits → BusM ε α) :
    (load bits (base + offset) >>= next).run (onBus ram (Device.mmio base)) (device, memory) =
      (next (device.mmioRead bits offset)).run (onBus ram (Device.mmio base)) (device, memory) := by
  change (next (device.mmioRead bits (base + offset - base))).run _ (device, memory) = _
  rw [Nat.add_sub_cancel_left]

theorem store_mmio (bits offset : Nat) (value : BitVec bits) (next : Unit → BusM ε α) :
    (store bits (base + offset) value >>= next).run (onBus ram (Device.mmio base))
        (device, memory) =
      (next ()).run (onBus ram (Device.mmio base))
        (device.mmioWrite bits offset value, memory) := by
  change (next ()).run _ (device.mmioWrite bits (base + offset - base) value, memory) = _
  rw [Nat.add_sub_cancel_left]

/-- On the window of 32-bit registers the accessors do what they stand for. -/
theorem perform_mmio (act : Act) :
    ((Transport.mmio base).perform act : BusM ε act.Ans).run (onBus ram (Device.mmio base))
        (device, memory) =
      .ok (onRegisters ram (.mmio base) act (device, memory)).1
        (onRegisters ram (.mmio base) act (device, memory)).2 := by
  cases act with
  | ram access => rfl
  | device op =>
      change ((Transport.mmio base).access op).run _ _ = _
      rw [← Dialogue.bind_done ((Transport.mmio base).access op)]
      cases op with
      | identify =>
          change (load 32 (base + 0x000) >>= fun _ => load 32 (base + 0x008) >>= fun _ =>
            load 32 (base + 0x004) >>= _).run _ _ = _
          rw [load_mmio, load_mmio, load_mmio]
          rfl
      | readDeviceFeature word =>
          change (store 32 (base + 0x014) word >>= fun _ =>
            load 32 (base + 0x010) >>= _).run _ _ = _
          rw [store_mmio, load_mmio]
          rfl
      | writeDriverFeature word value =>
          change (store 32 (base + 0x024) word >>= fun _ =>
            store 32 (base + 0x020) value >>= _).run _ _ = _
          rw [store_mmio, store_mmio]
          rfl
      | readStatus =>
          change (load 32 (base + 0x070) >>= _).run _ _ = _
          rw [load_mmio]
          rfl
      | writeStatus value =>
          change (store 32 (base + 0x070) value >>= _).run _ _ = _
          rw [store_mmio]
          rfl
      | selectQueue idx =>
          change (store 32 (base + 0x030) idx >>= _).run _ _ = _
          rw [store_mmio]
          rfl
      | readQueueSizeMax =>
          change (load 32 (base + 0x034) >>= _).run _ _ = _
          rw [load_mmio]
          rfl
      | writeQueueSize size =>
          change (store 32 (base + 0x038) size >>= _).run _ _ = _
          rw [store_mmio]
          rfl
      | writeQueueMsixVector vector => rfl
      | writeQueueAddrs desc avail used =>
          change (store 32 (base + 0x080) (desc.setWidth 32) >>= fun _ =>
            store 32 (base + 0x084) ((desc >>> 32).setWidth 32) >>= fun _ =>
            store 32 (base + 0x090) (avail.setWidth 32) >>= fun _ =>
            store 32 (base + 0x094) ((avail >>> 32).setWidth 32) >>= fun _ =>
            store 32 (base + 0x0a0) (used.setWidth 32) >>= fun _ =>
            store 32 (base + 0x0a4) ((used >>> 32).setWidth 32) >>= _).run _ _ = _
          rw [store_mmio, store_mmio, store_mmio, store_mmio, store_mmio, store_mmio]
          exact congrArg (fun later => Outcome.ok () (later, memory))
            (Device.mmioWrite_addrs desc avail used)
      | enableQueue =>
          change (store 32 (base + 0x044) 1 >>= _).run _ _ = _
          rw [store_mmio]
          rfl
      | notifyQueue idx notifyOff =>
          change (store 32 (base + 0x050) idx >>= _).run _ _ = _
          rw [store_mmio]
          rfl
      | ackInterrupt =>
          change (load 32 (base + 0x060) >>= fun cause =>
            store 32 (base + 0x064) cause >>= _).run _ _ = _
          rw [load_mmio, store_mmio]
          exact congrArg (fun later => Outcome.ok () (later, memory)) Device.mmioWrite_cause
      | readConfig bits offset =>
          change (load bits (base + 0x100 + offset) >>= _).run _ _ = _
          rw [Nat.add_assoc, load_mmio, Device.mmioRead_config]
          rfl

end Mmio

section Pci

variable {windows : PciWindows} {device : Device} {memory : μ} {α : Type}

theorem load_common (bits : Nat) {offset : Nat} (inside : offset < 0x38)
    (next : BitVec bits → BusM ε α) :
    (load bits (windows.common + offset) >>= next).run (onBus ram (Device.pci windows))
        (device, memory) =
      (next (device.commonRead bits offset)).run (onBus ram (Device.pci windows))
        (device, memory) := by
  have answers : Device.pci windows (.read bits (windows.common + offset)) device =
      (device.commonRead bits offset, device) := by
    rw [Device.pci, if_pos ⟨Nat.le_add_right _ _, Nat.add_lt_add_left inside _⟩,
      Nat.add_sub_cancel_left]
  change (next (Device.pci windows (.read bits (windows.common + offset)) device).1).run _
    ((Device.pci windows (.read bits (windows.common + offset)) device).2, memory) = _
  rw [answers]

theorem store_common (bits : Nat) {offset : Nat} (inside : offset < 0x38) (value : BitVec bits)
    (next : Unit → BusM ε α) :
    (store bits (windows.common + offset) value >>= next).run (onBus ram (Device.pci windows))
        (device, memory) =
      (next ()).run (onBus ram (Device.pci windows))
        (device.commonWrite bits offset value, memory) := by
  have answers : Device.pci windows (.write bits (windows.common + offset) value) device =
      ((), device.commonWrite bits offset value) := by
    rw [Device.pci, if_pos ⟨Nat.le_add_right _ _, Nat.add_lt_add_left inside _⟩,
      Nat.add_sub_cancel_left]
  change (next ()).run _
    ((Device.pci windows (.write bits (windows.common + offset) value) device).2, memory) = _
  rw [answers]

/-- Is what is touched behind the end of a window? -/
def PciWindows.Inside (windows : PciWindows) : Act → Prop
  | .device (.notifyQueue _ notifyOff) =>
      notifyOff.toNat * windows.notifyOffMultiplier < windows.notifyLen
  | .device (.readConfig _ offset) => offset < windows.configLen
  | _ => True

/-- On the windows of a PCI device the accessors do what they stand for. -/
theorem perform_pci (act : Act) (inside : windows.Inside act) :
    (windows.transport.perform act : BusM ε act.Ans).run (onBus ram (Device.pci windows))
        (device, memory) =
      .ok (onRegisters ram windows.transport act (device, memory)).1
        (onRegisters ram windows.transport act (device, memory)).2 := by
  cases act with
  | ram access => rfl
  | device op =>
      change (windows.transport.access op).run _ _ = _
      rw [← Dialogue.bind_done (windows.transport.access op)]
      cases op with
      | identify => rfl
      | readDeviceFeature word =>
          change (store 32 (windows.common + 0x00) word >>= fun _ =>
            load 32 (windows.common + 0x04) >>= _).run _ _ = _
          rw [store_common 32 (by decide), load_common 32 (by decide)]
          rfl
      | writeDriverFeature word value =>
          change (store 32 (windows.common + 0x08) word >>= fun _ =>
            store 32 (windows.common + 0x0c) value >>= _).run _ _ = _
          rw [store_common 32 (by decide), store_common 32 (by decide)]
          rfl
      | readStatus =>
          change (load 8 (windows.common + 0x14) >>= _).run _ _ = _
          rw [load_common 8 (by decide)]
          rfl
      | writeStatus value =>
          change (store 8 (windows.common + 0x14) (value.setWidth 8) >>= _).run _ _ = _
          rw [store_common 8 (by decide)]
          rfl
      | selectQueue idx =>
          change (store 16 (windows.common + 0x16) (idx.setWidth 16) >>= _).run _ _ = _
          rw [store_common 16 (by decide)]
          rfl
      | readQueueSizeMax =>
          change (load 16 (windows.common + 0x18) >>= _).run _ _ = _
          rw [load_common 16 (by decide)]
          rfl
      | writeQueueSize size =>
          change (store 16 (windows.common + 0x18) (size.setWidth 16) >>= _).run _ _ = _
          rw [store_common 16 (by decide)]
          rfl
      | writeQueueMsixVector vector =>
          change (store 16 (windows.common + 0x1a) vector >>= _).run _ _ = _
          rw [store_common 16 (by decide)]
          rfl
      | writeQueueAddrs desc avail used =>
          change (store 64 (windows.common + 0x20) desc >>= fun _ =>
            store 64 (windows.common + 0x28) avail >>= fun _ =>
            store 64 (windows.common + 0x30) used >>= _).run _ _ = _
          rw [store_common 64 (by decide), store_common 64 (by decide),
            store_common 64 (by decide)]
          exact congrArg (fun later => Outcome.ok () (later, memory))
            (Device.commonWrite_addrs desc avail used)
      | enableQueue =>
          change (load 16 (windows.common + 0x1e) >>= fun _ =>
            store 16 (windows.common + 0x1c) 1 >>= _).run _ _ = _
          rw [load_common 16 (by decide), store_common 16 (by decide)]
          rfl
      | notifyQueue idx notifyOff =>
          have answers : Device.pci windows (.write 16 (windows.notify +
              notifyOff.toNat * windows.notifyOffMultiplier) (idx.setWidth 16)) device =
              ((), device.ring (notifyOff.toNat * windows.notifyOffMultiplier)
                windows.notifyOffMultiplier (idx.setWidth 16)) := by
            have apart := windows.notify_common
            have below : notifyOff.toNat * windows.notifyOffMultiplier < windows.notifyLen := inside
            rw [Device.pci, if_neg (by omega), if_pos (by omega), Nat.add_sub_cancel_left,
              BitVec.setWidth_eq]
          change Outcome.ok _ ((Device.pci windows _ device).2, memory) = _
          rw [answers]
          rfl
      | ackInterrupt =>
          have answers : Device.pci windows (.read 8 windows.isr) device =
              (device.cause.setWidth 8, { device with cause := 0 }) := by
            have apart := windows.isr_common
            rw [Device.pci, if_neg (by omega), if_pos rfl]
          change Outcome.ok _ ((Device.pci windows _ device).2, memory) = _
          rw [answers]
          rfl
      | readConfig bits offset =>
          have answers : Device.pci windows (.read bits (windows.deviceCfg + offset)) device =
              (device.config bits offset, device) := by
            have apart := windows.config_common
            have apartIsr := windows.config_isr
            have below : offset < windows.configLen := inside
            rw [Device.pci, if_neg (by omega), if_neg (by omega), if_pos (by omega),
              Nat.add_sub_cancel_left]
          change Outcome.ok (Device.pci windows _ device).1
            ((Device.pci windows _ device).2, memory) = _
          rw [answers]
          rfl

end Pci

/-! ## Whole programs -/

variable {α : Type}

/-- A driver does the same through the window of 32-bit registers. -/
theorem implement_mmio (base : Nat) (program : Dialogue Act Act.Ans ε α) (world : Device × μ) :
    (program.implement (Transport.mmio base).perform).run (onBus ram (Device.mmio base)) world =
      program.run (onRegisters ram (.mmio base)) world := by
  have within : program.Within (onRegisters ram (.mmio base)) (fun _ => True) world :=
    Dialogue.within_of_forall (fun _ => trivial) program world
  refine (Dialogue.run_implement ?_ within rfl).eq
  rintro act _ ⟨device, memory⟩ _ rfl
  exact ⟨_, perform_mmio act, rfl⟩

/-- And through the windows of a PCI device, as long as it stays inside. -/
theorem implement_pci (windows : PciWindows) {program : Dialogue Act Act.Ans ε α}
    {world : Device × μ}
    (within : program.Within (onRegisters ram windows.transport) windows.Inside world) :
    (program.implement windows.transport.perform).run (onBus ram (Device.pci windows)) world =
      program.run (onRegisters ram windows.transport) world := by
  refine (Dialogue.run_implement ?_ within rfl).eq
  rintro act _ ⟨device, memory⟩ inside rfl
  exact ⟨_, perform_pci act inside, rfl⟩

end Simulation

end Virtio

end Simurgh
