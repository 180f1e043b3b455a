import Px4.Lib.Mem
import Px4.Lib.Incremental
import Px4.Lib.Run
import Px4.Lib.Ring
import Px4.Lib.Slots
import Px4.Lib.Keeps
import Px4.Lib.Faulty
import Px4.Lib.Lockstep
import Px4.Lib.Grammar
import Px4.Lib.LittleEndian
import Px4.Lib.StrictWeak
import Px4.Lib.Interleave
import Px4.Lib.Loop
import Px4.Lib.Oracle
import Px4.Lib.Past
import Px4.Lib.Plays
import Px4.Lib.Program
import Px4.Lib.Cutting
import Px4.Lib.Hoare
import Px4.Lib.Custody
import Px4.Lib.SigmaDelta
import Px4.Lib.Separated
import Px4.Lib.Walk
import Px4.Lib.Blocks
import Px4.Lib.Sha256
import Px4.Px4d.Arguments
import Px4.Px4d.Proof.Arguments
import Px4.Tuner.Bus
import Px4.Tuner.Rt710
import Px4.Tuner.Pll
import Px4.Tuner.R850
import Px4.Tuner.Cxd2858er
import Px4.Tuner.Proof.Bus
import Px4.Tuner.Proof.Rt710
import Px4.Tuner.Proof.R850
import Px4.Tuner.Proof.Cxd2858er
import Px4.Tuner.Hz
import Px4.Tuner.Proof.Drivers
import Px4.Core
import Px4.Card.Atr
import Px4.Card.Session
import Px4.Card.Link
import Px4.Card.Proof.Atr
import Px4.Card.Proof.Hardware
import Px4.Card.Proof.ReadAtr
import Px4.Card.Proof.Ifsd
import Px4.Card.Proof.Link
import Px4.Card.Proof.Transmit
import Px4.Card.Proof.Reset
import Px4.Card.Proof.Once
import Px4.Pcsc.DeviceName
import Px4.Pcsc.Proof.DeviceName
import Px4.Pcsc.IfdAdapter
import Px4.Pcsc.Proof.IfdAdapter
import Px4.Pcsc.Proof.Survival
import Px4.Tools.BatchedOutput
import Px4.Tools.Proof.BatchedOutput
import Px4.Tools.Proof.Delivery
import Px4.Ts.Demux
import Px4.Ts.Reference
import Px4.Ts.Continuity
import Px4.Ts.History
import Px4.Device.Profile
import Px4.Device.Grouping
import Px4.Device.Proof.Group
import Px4.Device.Proof.Grouping
import Px4.Device.Proof.Selection
import Px4.Device.Proof.Order
import Px4.Device.Proof.Renaming
import Px4.Device.Proof.SelectionOrder
import Px4.It930x.Registers
import Px4.It930x.Control
import Px4.It930x.Firmware
import Px4.It930x.Proof.Control
import Px4.It930x.Proof.Firmware
import Px4.It930x.Card
import Px4.It930x.Proof.Card
import Px4.It930x.Sha256
import Px4.It930x.Proof.Sha256
import Px4.It930x.Proof.FirmwareProvider
import Px4.It930x.Inputs
import Px4.It930x.Power
import Px4.Power.Coordinator
import Px4.Power.Proof.Coordinator
import Px4.Power.Proof.Levels
import Px4.Power.Mlt5Pe
import Px4.Power.Proof.OneBridge
import Px4.Frontend.Chips
import Px4.Frontend.Enclosure
import Px4.Frontend.Proof.Enclosure
import Px4.Frontend.Proof.Ownership
import Px4.Frontend.Single
import Px4.Frontend.Proof.Single
import Px4.Frontend.Selection
import Px4.Frontend.Proof.Selection
import Px4.Frontend.Proof.Silence
import Px4.Frontend.Capture
import Px4.Frontend.Proof.Aside
import Px4.Frontend.Proof.Effect
import Px4.Frontend.Proof.Capture
import Px4.Frontend.Mlt5Pe
import Px4.Frontend.Proof.Callers
import Px4.Frontend.Proof.Interleaving
import Px4.Lnb.Coordinator
import Px4.Lnb.Supply
import Px4.Lnb.Board
import Px4.Lnb.Lines
import Px4.Lnb.Mlt5Pe
import Px4.Stream.Session
import Px4.Stream.Routing
import Px4.Ts.Proof.DemuxStep
import Px4.Ts.Proof.DemuxRun
import Px4.Ts.Proof.Sink
import Px4.Ts.Proof.Continuity
import Px4.Lnb.Proof.W3U4
import Px4.Lnb.Proof.Board
import Px4.Lnb.Proof.Lines
import Px4.Lnb.Proof.Mlt5Pe
import Px4.Lnb.Proof.Power
import Px4.Lnb.Proof.OneBridge
import Px4.Stream.Blocking
import Px4.Stream.Epoch
import Px4.Stream.Proof.Blocking
import Px4.Stream.Proof.Ring
import Px4.Stream.Proof.Startup
import Px4.Stream.Bridge
import Px4.Stream.EventLifetime
import Px4.Stream.Proof.EventLifetime
import Px4.Stream.Proof.Published
import Px4.Stream.Proof.Routing
import Px4.Stream.Proof.Lifecycle
import Px4.Lib.Tally
import Px4.Usb.Order
import Px4.Usb.Proof.Trace
import Px4.Usb.Proof.Order
import Px4.Usb.Proof.Delivery
import Px4.Usb.Transfers
import Px4.Usb.Proof.Transfers
import Px4.Ipc.Payload
import Px4.Ipc.Frame
import Px4.Ipc.Connection
import Px4.Ipc.Pair
import Px4.Ipc.Encode
import Px4.Ipc.Framer
import Px4.Ipc.Proof.Connection
import Px4.Ipc.Proof.Pair
import Px4.Ipc.Proof.Control
import Px4.Ipc.Proof.Stream
import Px4.Ipc.Proof.Wire
import Px4.Ipc.Proof.Payload
import Px4.Ipc.Proof.RoundTrip
import Px4.Ipc.Proof.Framer
import Px4.Control.Worker
import Px4.Control.Lanes
import Px4.Control.State
import Px4.Control.Messages
import Px4.Control.Requests
import Px4.Control.Streams
import Px4.Control.Cleanup
import Px4.Control.Server
import Px4.Control.Proof.Lanes
import Px4.Control.Proof.Aside
import Px4.Control.Proof.Table
import Px4.Control.Proof.Connections
import Px4.Control.Proof.Shutdown
import Px4.Acquire.Api
import Px4.Acquire.Discovery
import Px4.Acquire.Runtime
import Px4.Acquire.Proof.Calls
import Px4.Acquire.Proof.Discovery
import Px4.Acquire.Proof.Runtime
import Px4.Acquire.Proof.Acquisition
import Px4.Winscard.Registry
import Px4.Winscard.Proxy
import Px4.Winscard.Proof.Memory
import Px4.Winscard.Proof.Steps
import Px4.Winscard.Proof.Places
import Px4.Winscard.Proof.Rely
import Px4.Winscard.Proof.Tables
import Px4.Winscard.Proof.Laws
import Px4.Winscard.Proof.Books
import Px4.Winscard.Proof.Interleaving
