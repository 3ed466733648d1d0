import Amdtop.Stdio
import Amdtop.Proofs.Stdio
import Amdtop.GpuDevice
import Amdtop.DriDebug
import Amdtop.DebugText
import Amdtop.Proofs.ClientInfo
import Amdtop.GpuRings
import Amdtop.Carry
import Amdtop.Proofs.DeviceByBus
import Amdtop.Proofs.OwnCards
import Amdtop.Proofs.PciInfo
import Amdtop.GpuListing
import Amdtop.Proofs.GpuListing
import Amdtop.Proofs.Descriptors
import Amdtop.Proofs.FenceInfo
import Amdtop.CpuLoad
import Amdtop.Proofs.CpuLoad
import Amdtop.TextRow
import Amdtop.WindowBar
import Amdtop.Proofs.WindowBar
import Amdtop.Heap
import Amdtop.Proofs.Heap
import Amdtop.GpuMode
import Amdtop.Proofs.ModeResource
import Amdtop.Proofs.Connector
import Amdtop.Proofs.GpuMode
import Amdtop.Proofs.GetFree
import Amdtop.DeviceContext
import Amdtop.Proofs.DeviceContext
import Amdtop.Command
import Amdtop.GpuInfo
import Amdtop.Proofs.DeviceInfo
import Amdtop.BiosInfo
import Amdtop.Proofs.BiosInfo
import Amdtop.Reads
import Amdtop.AtomTables
import Amdtop.Proofs.AtomTables
import Amdtop.DebugTabs
import Amdtop.Proofs.DebugTabs
import Amdtop.ClientTable
import Amdtop.Proofs.ClientTable
import Amdtop.Edid
import Amdtop.DisplayInfo
import Amdtop.DisplayQuery
import Amdtop.Proofs.DisplayQuery
import Amdtop.Proofs.DisplayRoom
import Amdtop.Proofs.DisplayInfo
import Amdtop.ByteString
import Amdtop.Proofs.ByteString
import Amdtop.LabelLine
import Amdtop.Proofs.LabelLine
import Amdtop.ScanSet
import Amdtop.DeviceName
import Amdtop.Proofs.IdsEntry
import Amdtop.Proofs.DeviceName
import Amdtop.FirmwareInfo
import Amdtop.Proofs.FirmwareInfo
import Amdtop.RingInfo
import Amdtop.Proofs.RingInfo
import Amdtop.GpuCap
import Amdtop.Proofs.Leftovers
import Amdtop.Proofs.DriverInfo
import Amdtop.Proofs.PropOrder
import Amdtop.Proofs.EnumValue
import Amdtop.CpuInfo
import Amdtop.Proofs.CpuInfo
import Amdtop.ValueScan
import Amdtop.Proofs.ValueScan
import Amdtop.ReadLoop
import Amdtop.Proofs.ReadErrors
import Amdtop.RingName
import Amdtop.Proofs.RingName
import Amdtop.IrqCount
import Amdtop.Proofs.IrqCount
import Amdtop.EdidText
import Amdtop.Proofs.EdidText
import Amdtop.MainLoop
import Amdtop.Proofs.MainLoop
import Amdtop.Proofs.Isolation
import Amdtop.Proofs.Screen
import Amdtop.Proofs.Timeout
import Amdtop.Proofs.Spacing
import Amdtop.Rect
import Amdtop.Layout
import Amdtop.Proofs.Layout
import Amdtop.StateInfo
import Amdtop.Proofs.StateInfo
import Amdtop.Proofs.BarValues
import Amdtop.Proofs.StateBars
import Amdtop.Proofs.BarCalls
import Amdtop.Links
import Amdtop.ListHead
import Amdtop.Proofs.ListHead
import Amdtop.Navigation
import Amdtop.Proofs.Navigation
import Amdtop.Asks
import Amdtop.DrmHelper
import Amdtop.Proofs.DrmHelper
import Amdtop.SysFile
import Amdtop.Proofs.SysFile
import Amdtop.Latch
import Amdtop.InfoTabs
import Amdtop.Proofs.InfoTabs
import Amdtop.Blocks
import Amdtop.DisplayTab
import Amdtop.Proofs.DisplayTab
import Amdtop.Proofs.Redraw
import Amdtop.Retry
import Amdtop.Proofs.Binding
import Amdtop.EdidBlock
import Amdtop.Proofs.EdidBlock
