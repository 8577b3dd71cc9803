import DriverModules.Lib.Transition
import DriverModules.Lib.Folds
import DriverModules.Lib.Maps
import DriverModules.Lib.Counting
import DriverModules.Lib.Pairing
import DriverModules.Lib.Mutex
import DriverModules.Lib.Slots
import DriverModules.Lib.Bytes
import DriverModules.Lib.Decimal
import DriverModules.Lib.Virtqueue
import DriverModules.Lib.Delivery
import DriverModules.Lib.Fifo
import DriverModules.Lib.WaitQueue
import DriverModules.Lib.Overlay
import DriverModules.Lib.Ledger
import DriverModules.Lib.Lifecycle
import DriverModules.Lib.Staged
import DriverModules.Lib.Pieces
import DriverModules.Lib.Stores
import DriverModules.Lib.Windows
import DriverModules.Lib.IntLoop
import DriverModules.Lib.Replica
import DriverModules.Lib.LockOrder
import DriverModules.Lib.FirstFit
import DriverModules.Kernel.Errno
import DriverModules.Kernel.Idr
import DriverModules.Kernel.Paging
import DriverModules.Kernel.Vfs
import DriverModules.Kernel.DevT
import DriverModules.Rpmsg.Types
import DriverModules.Rpmsg.Endpoint
import DriverModules.Rpmsg.Recv
import DriverModules.Rpmsg.RecvRing
import DriverModules.Rpmsg.RecvRoom
import DriverModules.Rpmsg.Send
import DriverModules.Rpmsg.TxState
import DriverModules.Rpmsg.TxRules
import DriverModules.Rpmsg.TxBufs
import DriverModules.Rpmsg.TxSleepers
import DriverModules.Rpmsg.TxFailures
import DriverModules.Rpmsg.TxWait
import DriverModules.Rpmsg.TxWire
import DriverModules.Rpmsg.TxWake
import DriverModules.Rpmsg.EptLife
import DriverModules.Rpmsg.EptRules
import DriverModules.Rpmsg.EptTable
import DriverModules.Rpmsg.EptSafe
import DriverModules.Rpmsg.EptAddrs
import DriverModules.Rpmsg.Device
import DriverModules.Rpmsg.Stack
import DriverModules.Rpmsg.StackRules
import DriverModules.Rpmsg.StackTables
import DriverModules.Rpmsg.StackFiles
import DriverModules.Rpmsg.StackBus
import DriverModules.Rpmsg.StackRefs
import DriverModules.Rpmsg.StackEndpoints
import DriverModules.Rpmsg.StackWrite
import DriverModules.Rpmsg.StackChannels
import DriverModules.Rpmsg.ChannelKeys
import DriverModules.Rpmsg.DeviceNames
import DriverModules.Rpmsg.DevBind
import DriverModules.Rpmsg.DevProbe
import DriverModules.Rpmsg.NsMirror
import DriverModules.Rpmsg.Locks
import DriverModules.Rpmsg.DriverOverride
import DriverModules.Rpmsg.BusMatch
import DriverModules.Rpmsg.Minors
import DriverModules.Rpmsg.MinorEntries
import DriverModules.Rpmsg.ReadState
import DriverModules.Rpmsg.ReadRules
import DriverModules.Rpmsg.ReadFifo
import DriverModules.Rpmsg.ReadFaults
import DriverModules.Rpmsg.ReadWake
import DriverModules.Rpmsg.Datagram
import DriverModules.Rpmsg.Link
import DriverModules.Hello.Mailbox
import DriverModules.Hello.LostWakeup
import DriverModules.Hello.Rules
import DriverModules.Hello.Notify
import DriverModules.Hello.Snapshot
import DriverModules.MemMap.Driver
import DriverModules.MemMap.Read
import DriverModules.MemMap.Libmem
import DriverModules.MemMap.Write
import DriverModules.MemMap.Fpos
import DriverModules.MemMap.LibWrite
import DriverModules.MemMap.LibResources
import DriverModules.MemMap.ReadChunks
import DriverModules.MemMap.Calls
import DriverModules.MemMap.Mmap
import DriverModules.MemMap.LibErrors
import DriverModules.MemMap.History
import DriverModules.CharDriver.Isolation
import DriverModules.CharDriver.Numbers
import DriverModules.CharDriver.CopyLoops
import DriverModules.Load.Modules
import DriverModules.Load.Clean
import DriverModules.Load.CharModules
import DriverModules.Load.RpmsgModules
