import Simurgh.Cap.Reachable
import Simurgh.Core.Blocking
import Simurgh.Core.Charging
import Simurgh.Core.Confinement
import Simurgh.Core.Creation
import Simurgh.Core.FailedIpc
import Simurgh.Core.FastPath
import Simurgh.Core.FreeMemory
import Simurgh.Core.Integrity
import Simurgh.Core.IrqBinding
import Simurgh.Core.Mapping
import Simurgh.Core.NewCaps
import Simurgh.Core.Queues
import Simurgh.Core.Rendezvous
import Simurgh.Core.Reservation
import Simurgh.Core.Resting
import Simurgh.Core.Returns
import Simurgh.Core.ScheduleStep
import Simurgh.Core.Signals
import Simurgh.Core.SubtractHoles
import Simurgh.Core.Termination
import Simurgh.Drivers.NetBuffers
import Simurgh.Drivers.VirtioBlk
import Simurgh.Drivers.VirtioStarted
import Simurgh.Elf.KernelSegments
import Simurgh.Elf.Loader
import Simurgh.Fs.AccessMode
import Simurgh.Fs.Isolation
import Simurgh.Glue.Attribution
import Simurgh.Glue.InterruptDelivery
import Simurgh.Glue.IrqWaiting
import Simurgh.Glue.PciTransport
import Simurgh.Glue.ProcessImage
import Simurgh.Glue.Supervision
import Simurgh.Hal.AcpiRight
import Simurgh.Hal.BootChain
import Simurgh.Hal.Direct
import Simurgh.Hal.IdentityMapping
import Simurgh.Hal.MapRange
import Simurgh.Hal.PeripheralNodes
import Simurgh.Hal.SignedToken
import Simurgh.Hal.Sv39Pages
import Simurgh.Hal.Switching
import Simurgh.Hal.Timers
import Simurgh.Hal.TrapEntry
import Simurgh.Ipc.Fifo
import Simurgh.Mm.Carving
import Simurgh.Mm.Mappings
import Simurgh.Protocol.Messages
import Simurgh.Sched.Membership
import Simurgh.Sched.Picking
import Simurgh.Sched.VirtualTime
import Simurgh.Subsystems.BumpAllocator
import Simurgh.Subsystems.Compositor
import Simurgh.Subsystems.MemoryReplies
import Simurgh.Subsystems.MountTable
import Simurgh.Subsystems.RequestLog
import Simurgh.Subsystems.Supervised
import Simurgh.Glue.FileCalls
import Simurgh.Lib.OnesComplement
import Simurgh.Subsystems.Echo
import Simurgh.Subsystems.EchoFraming
import Simurgh.Subsystems.Netstack
