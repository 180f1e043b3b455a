import Px4.Lib.Oracle
import Px4.Pcsc.DeviceName

/-!
# The PC/SC reader (`pcsc_ifd_adapter.cpp`)

`IfdAdapter` and its calls, each of them made under the adapter's mutex. What the factory and the
clients that it makes return is arbitrary. A client is named by its number in the order in which
they are made. An ATR is the part of its array that is in use.
-/

namespace Px4.Pcsc

open Lib (Program)

/-- `IfdResult`. -/
inductive IfdResult
  | success | errorTag | errorSetFailure | errorValueReadOnly | errorPtsFailure
  | protocolNotSupported | errorPowerAction | communicationError | responseTimeout | notSupported
  | iccPresent | iccNotPresent | noSuchDevice | insufficientBuffer
  deriving DecidableEq, Repr

/-- `IfdOperation`. -/
inductive IfdOperation
  | channel | status | power | transmit
  deriving DecidableEq, Repr

/-- `IfdPowerAction`. -/
inductive IfdPowerAction
  | powerUp | powerDown | reset
  deriving DecidableEq, Repr

/-- `kIfdApduMaxLength`. -/
def kIfdApduMaxLength : Nat := 4096

/-- `kIfdSetProtocolT1`. -/
def kIfdSetProtocolT1 : UInt32 := 0x0002

/-- `kIfdTransmitProtocolT1`. -/
def kIfdTransmitProtocolT1 : UInt32 := 1

/-- `kIfdNegotiatePts1`. -/
def kIfdNegotiatePts1 : UInt8 := 0x01

/-- The capability tags, by their names in the source. -/
def kTagIfdAtr : UInt32 := 0x0303
def kTagIfdSlotNumber : UInt32 := 0x0180
def kTagIfdSlotThreadSafe : UInt32 := 0x0fac
def kTagIfdThreadSafe : UInt32 := 0x0fad
def kTagIfdSlotsNumber : UInt32 := 0x0fae
def kTagIfdSimultaneousAccess : UInt32 := 0x0faf
def kAttrVendorName : UInt32 := 0x00010100
def kAttrVendorIfdType : UInt32 := 0x00010101
def kAttrVendorIfdVersion : UInt32 := 0x00010102
def kAttrVendorIfdSerial : UInt32 := 0x00010103
def kAttrAsyncProtocolTypes : UInt32 := 0x00030120
def kAttrDefaultDataRate : UInt32 := 0x00030123
def kAttrMaxDataRate : UInt32 := 0x00030124
def kAttrMaxIfsd : UInt32 := 0x00030125
def kAttrCurrentProtocolType : UInt32 := 0x00080201
def kAttrIccPresence : UInt32 := 0x00090300
def kAttrIccInterfaceStatus : UInt32 := 0x00090301
def kAttrAtrString : UInt32 := 0x00090303
def kAttrMaxInput : UInt32 := 0x0007a007

/-- `IfdCardStatus`. -/
structure IfdCardStatus where
  present : Bool := false
  initialized : Bool := false
  readerGeneration : UInt64 := 0
  atr : List UInt8 := []
  deriving DecidableEq, Repr

/-- `IfdCardConnectResult`. -/
structure IfdCardConnectResult where
  handle : UInt64 := 0
  atr : List UInt8 := []
  deriving DecidableEq, Repr

/-- `MutableByteView`. -/
structure MutableByteView where
  present : Bool
  size : Nat
  deriving DecidableEq, Repr

/-- `channel_failure`. -/
def channelFailure : Error → Bool
  | .versionMismatch | .notFound | .notReady | .timeout | .usbIo | .disconnected | .protocolError
  | .firmwareRejected | .slowConsumer | .internal => true
  | .invalidArgument | .busy | .resourceLimit | .unsupported | .noCard | .cardRemoved
  | .bufferTooSmall => false

/-- `map_ifd_error`. -/
def mapIfdError (error : Error) (operation : IfdOperation) : IfdResult :=
  match error with
  | .timeout => .responseTimeout
  | .notFound | .notReady | .disconnected | .firmwareRejected => .noSuchDevice
  | .noCard | .cardRemoved => if operation = .power then .errorPowerAction else .iccNotPresent
  | .bufferTooSmall => .insufficientBuffer
  | .unsupported => .notSupported
  | .invalidArgument | .versionMismatch | .busy | .resourceLimit | .usbIo | .protocolError
  | .slowConsumer | .internal => .communicationError

/-! ## Clients -/

/-- The calls of the factory, `connect`, and of its clients. -/
inductive Ask
  | connect (endpoint : IfdEndpoint)
  | status (client : Nat)
  | connectShared (client : Nat)
  | disconnect (client : Nat) (handle : UInt64)
  | reset (client : Nat) (handle : UInt64)
  | transmit (client : Nat) (handle : UInt64) (apdu : List UInt8) (capacity : Nat)
  | close (client : Nat)
  deriving DecidableEq, Repr

/-- What they return. -/
abbrev Ask.Answer : Ask → Type
  | .connect _ => Result Unit
  | .status _ => Result IfdCardStatus
  | .connectShared _ => Result IfdCardConnectResult
  | .disconnect _ _ => Result Unit
  | .reset _ _ => Result IfdCardConnectResult
  | .transmit _ _ _ _ => Result Nat
  | .close _ => Unit

/-- The calls so far, with what they have returned. -/
abbrev Log := List (Sigma Ask.Answer)

/-- The fields of `IfdAdapter`. -/
structure IfdAdapter where
  client : Option Nat := none
  endpoint : IfdEndpoint := {}
  channelConfigured : Bool := false
  cardHandle : UInt64 := 0
  readerGeneration : UInt64 := 0
  atr : List UInt8 := []
  present : Bool := false
  powered : Bool := false

/-- The adapter, the factory and its clients, and how many of these it has made. -/
structure World where
  adapter : IfdAdapter := {}
  clients : Lib.Oracle Ask Ask.Answer
  made : Nat := 0

/-- A function of the adapter; it always comes back. -/
abbrev Ifd (α : Type) := Program World Empty α

/-- A call of the factory or of a client. -/
def ask (q : Ask) : Ifd q.Answer := do
  let w ← get
  set { w with clients := (w.clients.ask q).1 }
  return (w.clients.ask q).2

/-- A change of the adapter. -/
def update (f : IfdAdapter → IfdAdapter) : Ifd PUnit :=
  modify fun w => { w with adapter := f w.adapter }

/-! ## Private functions -/

/-- `clear_card_state`. -/
def IfdAdapter.clearCardState (adapter : IfdAdapter) : IfdAdapter :=
  { adapter with atr := [], present := false, powered := false }

/-- `invalidate_client`. -/
def invalidateClient : Ifd Unit := do
  match (← get).adapter.client with
  | some client => ask (.close client)
  | none => pure ()
  update fun adapter =>
    { adapter with client := none, cardHandle := 0, readerGeneration := 0 }.clearCardState

/-- `invalidate_channel`. -/
def invalidateChannel : Ifd Unit := do
  invalidateClient
  update ({ · with endpoint := {}, channelConfigured := false })

/-- `ensure_client`. -/
def ensureClient : Ifd (Result Unit) := do
  let adapter := (← get).adapter
  if adapter.channelConfigured = false then return .error .notReady
  else
    match adapter.client with
    | some _ => return .ok ()
    | none =>
      match ← ask (.connect adapter.endpoint) with
      | .error e =>
        update fun adapter => { adapter.clearCardState with cardHandle := 0, readerGeneration := 0 }
        return .error e
      | .ok () =>
        modify fun w =>
          { w with adapter := { w.adapter with client := some w.made }, made := w.made + 1 }
        return .ok ()

/-- `fail`. -/
def fail (error : Error) (operation : IfdOperation) : Ifd IfdResult := do
  if error = .noCard ∨ error = .cardRemoved then update IfdAdapter.clearCardState
  else if channelFailure error = true then invalidateClient
  return mapIfdError error operation

/-- `refresh_status`. -/
def refreshStatus : Ifd (Result IfdCardStatus) := do
  match (← get).adapter.client with
  | none => return .error .notReady
  | some client =>
    match ← ask (.status client) with
    | .error e => return .error e
    | .ok status =>
      let adapter := (← get).adapter
      let generationChanged :=
        adapter.readerGeneration ≠ 0 ∧ adapter.readerGeneration ≠ status.readerGeneration
      if status.present = false ∨ generationChanged then
        if adapter.cardHandle ≠ 0 then invalidateClient
        else update IfdAdapter.clearCardState
        update ({ · with readerGeneration := status.readerGeneration, present := status.present })
        return .ok status
      else
        update fun adapter =>
          let adapter :=
            { adapter with readerGeneration := status.readerGeneration, present := status.present }
          if status.present = true ∧ status.initialized = true then
            { adapter with atr := status.atr, powered := true }
          else adapter
        return .ok status

/-- The end of `power_or_reset`. -/
def connected (result : IfdCardConnectResult) : Ifd (Result IfdCardConnectResult) := do
  update ({ · with
    cardHandle := result.handle, atr := result.atr, present := true, powered := true })
  return .ok result

/-- `power_or_reset`. -/
def powerOrReset (forceReset : Bool) : Ifd (Result IfdCardConnectResult) := do
  let adapter := (← get).adapter
  match adapter.client with
  | none => return .error .notReady
  | some client =>
    if adapter.cardHandle = 0 then
      match ← ask (.connectShared client) with
      | .error e =>
        invalidateClient
        return .error e
      | .ok result => connected result
    else if forceReset = true ∨ adapter.powered = false then
      match ← ask (.reset client adapter.cardHandle) with
      | .error e => return .error e
      | .ok result => connected result
    else return .ok ⟨adapter.cardHandle, adapter.atr⟩

/-! ## Calls -/

/-- What a call returns, and what the adapter itself writes to the output. -/
structure Reply where
  result : IfdResult
  length : Nat := 0
  bytes : List UInt8 := []
  deriving DecidableEq, Repr

/-- `copy_value`. -/
def copyValue (value : List UInt8) (output : MutableByteView) (length : Nat) : Reply :=
  if value.length = 0 then { result := .success, length := value.length }
  else if output.present = false ∨ length < value.length ∨ output.size < value.length then
    { result := .insufficientBuffer, length := value.length }
  else { result := .success, length := value.length, bytes := value }

/-- `copy_u32`. -/
def copyU32 (value : UInt32) (output : MutableByteView) (length : Nat) : Reply :=
  copyValue [value.toUInt8, (value >>> 8).toUInt8, (value >>> 16).toUInt8,
    (value >>> 24).toUInt8] output
    length

/-- The characters of a string, as bytes. -/
def bytesOf (s : String) : List UInt8 := s.toUTF8.toList

/-- `create_channel_by_name`. -/
def createChannelByName (lun : UInt64) (deviceName : Option (List UInt8)) : Ifd Reply := do
  match parseIfdDeviceName deviceName with
  | .error _ => return { result := .communicationError }
  | .ok endpoint =>
    if lun ≠ 0 then return { result := .noSuchDevice }
    else if (← get).adapter.channelConfigured = true then return { result := .communicationError }
    else
      update ({ · with endpoint := endpoint, channelConfigured := true })
      match ← ensureClient with
      | .error _ => return { result := .success }
      | .ok () =>
        match ← refreshStatus with
        | .error _ => invalidateClient
        | .ok _ => pure ()
        return { result := .success }

/-- `create_channel`. -/
def createChannel (lun : UInt64) : Ifd Reply :=
  return { result := if lun = 0 then .notSupported else .noSuchDevice }

/-- `close_channel`. -/
def closeChannel (lun : UInt64) : Ifd Reply := do
  let adapter := (← get).adapter
  if lun ≠ 0 then return { result := .noSuchDevice }
  else if adapter.channelConfigured = false then return { result := .noSuchDevice }
  else
    match adapter.client with
    | none =>
      invalidateChannel
      return { result := .success }
    | some client =>
      if adapter.cardHandle = 0 then
        invalidateChannel
        return { result := .success }
      else
        match ← ask (.disconnect client adapter.cardHandle) with
        | .ok () =>
          invalidateChannel
          return { result := .success }
        | .error e =>
          invalidateChannel
          return { result := mapIfdError e .channel }

/-- The capabilities that ask for the status: `value` of it and of the adapter after it. -/
def statusCapability (value : IfdCardStatus → IfdAdapter → Bool) (output : MutableByteView)
    (length : Nat) : Ifd Reply := do
  match ← ensureClient with
  | .error _ => return copyValue [0] output length
  | .ok () =>
    match ← refreshStatus with
    | .error e =>
      let _ ← fail e .status
      return copyValue [0] output length
    | .ok status =>
      return copyValue [if value status (← get).adapter = true then 1 else 0] output length

/-- `get_capability`. -/
def getCapability (lun : UInt64) (tag : UInt32) (output : MutableByteView)
    (length : Nat) : Ifd Reply := do
  let adapter := (← get).adapter
  if lun ≠ 0 ∨ adapter.channelConfigured = false then return { result := .noSuchDevice, length }
  else if tag = kTagIfdAtr ∨ tag = kAttrAtrString then return copyValue adapter.atr output length
  else if tag = kTagIfdSlotNumber ∨ tag = kTagIfdSlotThreadSafe then
    return copyValue [0] output length
  else if tag = kTagIfdThreadSafe ∨ tag = kTagIfdSlotsNumber ∨ tag = kTagIfdSimultaneousAccess then
    return copyValue [1] output length
  else if tag = kAttrVendorName then return copyValue (bytesOf "Khronos31") output length
  else if tag = kAttrVendorIfdType then
    return copyValue (bytesOf "PX-Q3U4/PX-MLT5PE via px4d") output length
  else if tag = kAttrVendorIfdVersion then return copyU32 0x00010000 output length
  else if tag = kAttrVendorIfdSerial then
    return copyValue adapter.endpoint.deviceInstance output length
  else if tag = kAttrAsyncProtocolTypes ∨ tag = kAttrCurrentProtocolType then
    return copyU32 kIfdSetProtocolT1 output length
  else if tag = kAttrDefaultDataRate then return copyU32 9600 output length
  else if tag = kAttrMaxDataRate then return copyU32 38400 output length
  else if tag = kAttrMaxIfsd then return copyU32 251 output length
  else if tag = kAttrMaxInput then return copyU32 (UInt32.ofNat kIfdApduMaxLength) output length
  else if tag = kAttrIccPresence then statusCapability (fun status _ => status.present) output length
  else if tag = kAttrIccInterfaceStatus then
    statusCapability (fun _ adapter => adapter.powered) output length
  else return { result := .errorTag, length }

/-- The tags that `set_capability` refuses to set. -/
def readOnlyTags : List UInt32 :=
  [kTagIfdAtr, kTagIfdSlotThreadSafe, kTagIfdThreadSafe, kTagIfdSlotsNumber,
    kTagIfdSimultaneousAccess,
    kAttrVendorName, kAttrVendorIfdType, kAttrVendorIfdVersion, kAttrVendorIfdSerial,
    kAttrAsyncProtocolTypes, kAttrDefaultDataRate, kAttrMaxDataRate, kAttrMaxIfsd,
    kAttrCurrentProtocolType, kAttrIccPresence, kAttrIccInterfaceStatus,
    kAttrAtrString, kAttrMaxInput]

/-- `set_capability`. -/
def setCapability (lun : UInt64) (tag : UInt32) (value : ByteView) : Ifd Reply := do
  if lun ≠ 0 ∨ (← get).adapter.channelConfigured = false then return { result := .noSuchDevice }
  else if tag = kTagIfdSlotNumber then
    return { result := if value.data = some [0] then .success else .errorSetFailure }
  else if tag ∈ readOnlyTags then return { result := .errorValueReadOnly }
  else return { result := .errorTag }

/-- `set_protocol`; it does not use the last two of the bytes that it is given. -/
def setProtocol (lun : UInt64) (protocol : UInt32) (flags pts1 : UInt8) : Ifd Reply := do
  let adapter := (← get).adapter
  if lun ≠ 0 ∨ adapter.channelConfigured = false then return { result := .noSuchDevice }
  else if protocol ≠ kIfdSetProtocolT1 then return { result := .protocolNotSupported }
  else if adapter.present = false ∨ adapter.powered = false ∨ adapter.atr.length < 2 then
    return { result := .errorPowerAction }
  else if flags &&& ~~~kIfdNegotiatePts1 ≠ 0 then return { result := .errorPtsFailure }
  else if (adapter.atr.getD 1 0) &&& 0x10 ≠ 0 ∧ adapter.atr.length < 3 then
    return { result := .errorPtsFailure }
  else
    let atrTa1 := if (adapter.atr.getD 1 0) &&& 0x10 ≠ 0 then adapter.atr.getD 2 0 else 0x11
    if flags &&& kIfdNegotiatePts1 ≠ 0 ∧ pts1 ≠ atrTa1 then return { result := .errorPtsFailure }
    else return { result := .success }

/-- `power`. -/
def power (lun : UInt64) (action : IfdPowerAction) (atr : MutableByteView) (atrLength : Nat) :
    Ifd Reply := do
  let adapter := (← get).adapter
  if lun ≠ 0 ∨ adapter.channelConfigured = false then return { result := .noSuchDevice }
  else if action = .powerDown then
    let bytes := if atr.present = true then List.replicate atr.size 0 else []
    match adapter.client with
    | none =>
      update IfdAdapter.clearCardState
      return { result := .success, bytes }
    | some client =>
      if adapter.cardHandle = 0 then
        update IfdAdapter.clearCardState
        return { result := .success, bytes }
      else
        match ← ask (.disconnect client adapter.cardHandle) with
        | .error e =>
          let result ← fail e .power
          return { result := if (← get).adapter.client = none then .success else result, bytes }
        | .ok () =>
          update fun adapter => { adapter with cardHandle := 0 }.clearCardState
          return { result := .success, bytes }
  else
    match ← ensureClient with
    | .error _ => return { result := .iccNotPresent }
    | .ok () =>
      match ← powerOrReset (action = .reset) with
      | .error e =>
        let result ← fail e .power
        return { result }
      | .ok _ => return copyValue (← get).adapter.atr atr atrLength

/-- `transmit`. -/
def transmit (lun : UInt64) (protocol : UInt32) (apdu : ByteView) (response : MutableByteView) :
    Ifd Reply := do
  if lun ≠ 0 ∨ (← get).adapter.channelConfigured = false then return { result := .noSuchDevice }
  else
    match ← ensureClient with
    | .error _ => return { result := .iccNotPresent }
    | .ok () =>
      let adapter := (← get).adapter
      if protocol ≠ kIfdTransmitProtocolT1 then return { result := .protocolNotSupported }
      else if adapter.present = false ∨ adapter.powered = false ∨ adapter.cardHandle = 0 then
        return { result := .iccNotPresent }
      else if apdu.data = none ∨ apdu.size = 0 ∨ kIfdApduMaxLength < apdu.size ∨
          response.present = false ∨ response.size = 0 then
        return { result := .communicationError }
      else
        match adapter.client with
        -- there is one after `ensure_client`
        | none => return { result := .communicationError }
        | some client =>
          match ← ask (.transmit client adapter.cardHandle apdu.bytes response.size) with
          | .error e =>
            let result ← fail e .transmit
            return { result }
          | .ok length => return { result := .success, length }

/-- `control`. -/
def control (lun : UInt64) : Ifd Reply := do
  return { result :=
    if lun = 0 ∧ (← get).adapter.channelConfigured = true then .notSupported else .noSuchDevice }

/-- `presence`. -/
def presence (lun : UInt64) : Ifd Reply := do
  if lun ≠ 0 ∨ (← get).adapter.channelConfigured = false then return { result := .noSuchDevice }
  else
    match ← ensureClient with
    | .error e =>
      let result ← fail e .status
      return { result :=
        if result = .noSuchDevice ∨ result = .responseTimeout ∨ result = .notSupported then
          .communicationError
        else result }
    | .ok () =>
      match ← refreshStatus with
      | .error e =>
        let result ← fail e .status
        return { result :=
          if result = .noSuchDevice ∧ e ≠ .notFound then .communicationError
          else if result = .responseTimeout ∨ result = .notSupported then .communicationError
          else result }
      | .ok status =>
        return { result := if status.present = true then .iccPresent else .iccNotPresent }

/-- A call of the adapter. -/
inductive Call
  | createChannelByName (lun : UInt64) (deviceName : Option (List UInt8))
  | createChannel (lun : UInt64)
  | closeChannel (lun : UInt64)
  | getCapability (lun : UInt64) (tag : UInt32) (output : MutableByteView) (length : Nat)
  | setCapability (lun : UInt64) (tag : UInt32) (value : ByteView)
  | setProtocol (lun : UInt64) (protocol : UInt32) (flags pts1 : UInt8)
  | power (lun : UInt64) (action : IfdPowerAction) (atr : MutableByteView) (length : Nat)
  | transmit (lun : UInt64) (protocol : UInt32) (apdu : ByteView) (response : MutableByteView)
  | control (lun : UInt64)
  | presence (lun : UInt64)

/-- A call. -/
def Call.run : Call → Ifd Reply
  | .createChannelByName lun deviceName => Pcsc.createChannelByName lun deviceName
  | .createChannel lun => Pcsc.createChannel lun
  | .closeChannel lun => Pcsc.closeChannel lun
  | .getCapability lun tag output length => Pcsc.getCapability lun tag output length
  | .setCapability lun tag value => Pcsc.setCapability lun tag value
  | .setProtocol lun protocol flags pts1 => Pcsc.setProtocol lun protocol flags pts1
  | .power lun action atr length => Pcsc.power lun action atr length
  | .transmit lun protocol apdu response => Pcsc.transmit lun protocol apdu response
  | .control lun => Pcsc.control lun
  | .presence lun => Pcsc.presence lun

/-- Calls one after the other. -/
def runCalls (calls : List Call) (w : World) : World :=
  calls.foldl (fun w call => (call.run.exec w).2) w

end Px4.Pcsc
