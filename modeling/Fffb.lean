import Fffb.Foundation.Nibble
import Fffb.Foundation.Transition
import Fffb.Foundation.Latch
import Fffb.Foundation.Line
import Fffb.Hid.Report
import Fffb.Hid.Device
import Fffb.Joy.Protocol
import Fffb.Joy.Wheel
import Fffb.Force.Arithmetic
import Fffb.Force.Truncation
import Fffb.Force.Simulator
import Fffb.Plugin.Channels
import Fffb.Plugin.Callbacks
import Fffb.Joy.WheelDelivery
import Fffb.Joy.WheelQueue
import Fffb.Joy.Commands
import Fffb.Joy.ReportCodec
import Fffb.Foundation.Overlay
import Fffb.Joy.Slots
import Fffb.Foundation.Selection
import Fffb.Joy.WheelChoice
import Fffb.Joy.WheelSlots
import Fffb.Joy.WheelObject
import Fffb.Joy.WheelPlaying
import Fffb.Foundation.CallLog
import Fffb.Joy.WheelHandle
import Fffb.Joy.CalibrationResult
import Fffb.Joy.WheelBatch
import Fffb.Joy.ReportFields
import Fffb.Joy.Autocenter
import Fffb.Joy.Rejection
import Fffb.Plugin.ChannelSafety
import Fffb.Plugin.Entry
import Fffb.Force.Updates
import Fffb.Force.Exact
import Fffb.Force.Runs
import Fffb.Force.Ranges
import Fffb.Force.Monotone
import Fffb.Foundation.Steady
import Fffb.Force.Smoothness
import Fffb.Force.Balance
import Fffb.Plugin.Reporting
import Fffb.Plugin.Tracking
import Fffb.Plugin.Playback
import Fffb.Joy.WheelLoads
import Fffb.Plugin.Freshness
import Fffb.Plugin.Silence
import Fffb.Plugin.Cycle
import Fffb.Foundation.Segments
import Fffb.Plugin.Timestamp
import Fffb.Plugin.Shutdown
import Fffb.Joy.Calibration
import Fffb.Plugin.Reachable
import Fffb.Plugin.Alike
import Fffb.Plugin.Reinit
import Fffb.Foundation.Simulation
import Fffb.Foundation.Heap
import Fffb.Uti.Vector
import Fffb.Uti.Sequence
import Fffb.Uti.VectorStorage
import Fffb.Uti.VectorRuns
import Fffb.Uti.VectorHeld
import Fffb.Uti.Rounds
import Fffb.Joy.WheelUnload
import Fffb.Joy.WheelUnqueued
import Fffb.Joy.StoredWheel
import Fffb.Joy.StoredWheelRuns
import Fffb.Plugin.StoredReset
import Fffb.Foundation.Unread
import Fffb.Plugin.OpenLoop
import Fffb.Plugin.Progress
import Fffb.Foundation.Footprint
import Fffb.Plugin.Interleaving
import Fffb.Foundation.Register
import Fffb.Plugin.Latest
import Fffb.Joy.Leds
import Fffb.Plugin.Outline
import Fffb.Plugin.Unload
import Fffb.Foundation.Traffic
import Fffb.Plugin.Recovery
import Fffb.Plugin.Traffic
import Fffb.Plugin.Journal
import Fffb.Hid.Registry
import Fffb.Plugin.DeviceOrder
import Fffb.Joy.Vocabulary
import Fffb.Plugin.Vocabulary
import Fffb.Joy.WheelContent
import Fffb.Plugin.Felt
