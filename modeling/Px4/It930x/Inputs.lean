import Px4.It930x.Registers
import Px4.Device.Profile

/-!
# The TS inputs of the bridge (`it930x.cpp`)

`configure_stream_inputs_locked` wires the demodulators of a board to the TS ports of its bridge and
gives every port the sync byte that tags its packets in the aggregation stream.
-/

namespace Px4.It930x

open Px4.Device

/-- `BoardLayout`. -/
inductive BoardLayout
  | q3u4 | mlt5pe | singleReceiver
  deriving DecidableEq, Repr

/-- `StreamInput`. -/
structure StreamInput where
  slave : Nat
  port : UInt8
  i2cBus : UInt8
  i2cAddress : UInt8
  syncByte : UInt8
  deriving DecidableEq, Repr

/-- `kQ3U4Inputs`. -/
def kQ3U4Inputs : List StreamInput :=
  [⟨0, 1, 2, 0x11, 0x17⟩, ⟨1, 2, 2, 0x13, 0x27⟩, ⟨2, 3, 2, 0x10, 0x37⟩, ⟨3, 4, 2, 0x12, 0x47⟩]

/-- `kI2cAddressRegisters`. -/
def kI2cAddressRegisters : List Nat := [0x4975, 0x4974, 0x4973, 0x4972, 0x4964]

/-- `kI2cBusRegisters`. -/
def kI2cBusRegisters : List Nat := [0x4971, 0x4970, 0x496f, 0x496e, 0x4963]

/-- `Q3U4Register::stream_serial_port0`. -/
def streamSerialPort0 : Nat := 0xda58

/-- `Q3U4Register::stream_aggregate_port0`. -/
def streamAggregatePort0 : Nat := 0xda73

/-- `Q3U4Register::stream_sync_port0`. -/
def streamSyncPort0 : Nat := 0xda78

/-- `Q3U4Register::stream_disable_port0`. -/
def streamDisablePort0 : Nat := 0xda4c

/-- The input of receiver `index` of an MLT board. -/
def mltInput (receiver : MltReceiverInput) (index : Nat) : StreamInput :=
  let tag := receiver.portNumber + 1
  ⟨index, receiver.portNumber, receiver.i2cBus, receiver.i2cAddress, (tag <<< 4) ||| 0x07⟩

/-- The inputs `configure_stream_inputs_locked` selects for a board, by receiver. -/
def streamInputs (layout : BoardLayout) (model : DeviceModel) : List StreamInput :=
  match layout with
  | .q3u4 => kQ3U4Inputs
  | .mlt5pe =>
    let profile := mltModelLayout model
    (profile.receivers.take profile.receiverCount).zipIdx.map fun (receiver, index) =>
      mltInput receiver index
  | .singleReceiver =>
    [⟨0, if model = .dtv03a1tu then 4 else 0, 3, if model = .dtv03a1tu then 0x18 else 0x10, 0x47⟩]

/-- The first loop: slave addresses and buses. -/
def slaveWrites (input : StreamInput) : List (Nat × UInt8) :=
  [(kI2cAddressRegisters.getD input.slave 0, input.i2cAddress <<< 1),
   (kI2cBusRegisters.getD input.slave 0, input.i2cBus)]

/-- The second loop: ports 0 and 1 also select parallel input, and every demodulator is serial. -/
def portWrites (input : StreamInput) : List (Nat × UInt8) :=
  (if input.port < 2 then [(streamSerialPort0 + input.port.toNat, 0)] else []) ++
    [(streamAggregatePort0 + input.port.toNat, 1),
     (streamSyncPort0 + input.port.toNat, input.syncByte),
     (streamDisablePort0 + input.port.toNat, 1)]

/-- The writes of `configure_stream_inputs_locked`. -/
def streamInputWrites (layout : BoardLayout) (model : DeviceModel) : List (Nat × UInt8) :=
  (streamInputs layout model).flatMap slaveWrites ++
    (streamInputs layout model).flatMap portWrites ++
    if layout = .q3u4 then [(streamDisablePort0, 0)] else []

/-- `configure_stream_inputs_locked`. -/
def configureStreamInputs (bus : Bus) (layout : BoardLayout) (model : DeviceModel) :
    Bus × Result Unit :=
  bus.writeAll (streamInputWrites layout model)

/-- The model checks of `initialize_q3u4`, `initialize_mlt_family` and
`initialize_single_receiver`, of which `px4d` calls the one for its enclosure. -/
def initializeLayout (model : DeviceModel) : Result BoardLayout :=
  match enclosure model with
  | .q3u4 | .w3u4 =>
    if model ∈ [.pxQ3u4, .pxQ3pe4, .pxQ3pe5, .pxW3u4, .pxW3pe4, .pxW3pe5] then .ok .q3u4
    else .error .unsupported
  | .mlt5pe =>
    if model ∈ [.pxMlt5pe, .dtv02a5tsP, .pxMlt8pe3, .pxMlt8pe5, .dtv02a4tsP] then .ok .mlt5pe
    else .error .unsupported
  | .singleReceiver =>
    if model ∈ [.pxM1ur, .pxS1ur, .dtv03a1tu, .dtv021t1sU, .dtv02a1t1sU] then
      if (deviceProfile model).supportsLnb15v then .error .unsupported else .ok .singleReceiver
    else .error .unsupported

/-- The sync byte of the packets of local receiver `receiver`: what is in the sync register of the
port its demodulator feeds. -/
def syncOf (regs : Nat → UInt8) (layout : BoardLayout) (model : DeviceModel) (receiver : Nat) :
    Option UInt8 :=
  (streamInputs layout model)[receiver]?.map fun input => regs (streamSyncPort0 + input.port.toNat)

end Px4.It930x
