import Px4.Ipc.Frame
import Px4.Lib.LittleEndian

/-!
# The encoders of the daemon's protocol (`ipc.cpp`)

The payload encoders (`encode_payload`, one for each payload type, and `encode_empty_payload`),
`encode_frame` and `decode_frame`. An encoder checks its value, then the room in its output, and
gives the bytes it has written there. `Writer` is the class of the same name: its functions give the
bytes they write. A `ByteView` of a value is the list of its bytes, and an enumeration holds its
enumerators only; what the encoders refuse in addition (a null view, a raw value outside the
enumerators) is not built.
-/

namespace Px4.Ipc

/-- `MutableByteView`, as far as an encoder looks at it: whether the pointer is there, and the
room. -/
structure Output where
  data : Bool
  size : Nat
  deriving DecidableEq, Repr

/-- `valid_view`, of an output. -/
def Output.valid (output : Output) : Bool := output.size == 0 || output.data

/-- `prepare_output`. -/
def prepareOutput (output : Output) (required : Nat) : Result Unit :=
  if !output.valid then .error .invalidArgument
  else if output.size < required then .error .bufferTooSmall
  else .ok ()

/-- An encoder: the value is `valid`, there is room for what is `required`, and it is `written`. -/
def encode (valid : Bool) (required : Nat) (written : List UInt8) (output : Output) :
    Result (List UInt8) :=
  if !valid then .error .invalidArgument
  else match prepareOutput output required with
    | .error e => .error e
    | .ok () => .ok written

/-! ## Raw values -/

def ErrorCode.raw : ErrorCode → UInt32
  | .ok => 0
  | .invalidArgument => 1
  | .versionMismatch => 2
  | .notFound => 3
  | .busy => 4
  | .notReady => 5
  | .timeout => 6
  | .usbIo => 7
  | .disconnected => 8
  | .protocolError => 9
  | .firmwareRejected => 10
  | .unsupported => 11
  | .noCard => 12
  | .cardRemoved => 13
  | .bufferTooSmall => 14
  | .slowConsumer => 15
  | .internal => 255

def System.raw : System → UInt8
  | .isdbT => 1
  | .isdbS => 2
  | .isdbTOrS => 3

def ReceiverState.raw : ReceiverState → UInt8
  | .free => 0
  | .leased => 1
  | .tuned => 2
  | .streaming => 3
  | .error => 4
  | .absent => 5

def ShareMode.raw : ShareMode → UInt8
  | .shared => 1
  | .exclusive => 2

def Disposition.raw : Disposition → UInt8
  | .leave => 0
  | .reset => 1

def DeviceEventKind.raw : DeviceEventKind → UInt8
  | .attached => 1
  | .detached => 2
  | .cardInserted => 3
  | .cardRemoved => 4
  | .stateChanged => 5

def EventTargetType.raw : EventTargetType → UInt8
  | .device => 1
  | .receiver => 2
  | .card => 3

/-! ## The writer -/

namespace Writer

def u8 (value : UInt8) : List UInt8 := [value]

def u16 (value : UInt16) : List UInt8 := Lib.bytes16 value

def u32 (value : UInt32) : List UInt8 := Lib.bytes32 value

/-- `value` is of 32 bits. -/
def i32 (value : Int) : List UInt8 :=
  u32 (if value ≥ 0 then UInt32.ofNat value.toNat else 0 - UInt32.ofNat (-value).toNat)

def u64 (value : UInt64) : List UInt8 := Lib.bytes64 value

/-- A length of 8 bits and the bytes. -/
def bytes8 (value : List UInt8) : List UInt8 := u8 (UInt8.ofNat value.length) ++ value

/-- A length of 16 bits and the bytes. -/
def bytes16 (value : List UInt8) : List UInt8 := u16 (UInt16.ofNat value.length) ++ value

/-- A length of 32 bits and the bytes. -/
def bytes32 (value : List UInt8) : List UInt8 := u32 (UInt32.ofNat value.length) ++ value

end Writer

/-! ## Checks -/

/-- `valid_tune`. -/
def validTune (value : TuneRequestPayload) : Bool :=
  if !validSystem value.system || (value.lnbVoltage != 0 && value.lnbVoltage != 15) ||
      value.timeoutMs < 100 || value.timeoutMs > 30000 then false
  else if value.system = .isdbT then
    value.streamId == 0xffff && value.slot == 0xffff && value.bandwidthHz == 6000000
  else (value.streamId == 0xffff) != (value.slot == 0xffff)

/-- `valid_atr`. -/
def validAtr (atr : List UInt8) : Bool := atr.length ≤ kMaxAtrLength

/-- The records that LIST carries. -/
def ListResponsePayload.records (value : ListResponsePayload) : List ReceiverRecord :=
  value.receivers.take (min value.receiverCount.toNat kReceiverCount)

/-- `kCountersPayloadSize`. -/
def kCountersPayloadSize : Nat := 8 * 8

/-! ## Payloads as bytes -/

def HelloRequestPayload.write (value : HelloRequestPayload) : List UInt8 :=
  Writer.u16 value.minMajor ++ Writer.u16 value.minMinor ++ Writer.u16 value.maxMajor ++
    Writer.u16 value.maxMinor ++ Writer.u32 value.requestedCapabilities

def HelloResponsePayload.write (value : HelloResponsePayload) : List UInt8 :=
  Writer.u16 value.major ++ Writer.u16 value.minor ++ Writer.u32 value.capabilities

def ReceiverRecord.write (value : ReceiverRecord) : List UInt8 :=
  Writer.u8 value.globalId ++ Writer.u8 value.devId ++ Writer.u8 value.localId ++
    Writer.u8 value.system.raw

def ListResponsePayload.write (value : ListResponsePayload) : List UInt8 :=
  Writer.u64 value.generation ++ Writer.bytes16 value.serialUtf8 ++ Writer.u8 value.ready ++
    Writer.u8 value.usbPresentMask ++ Writer.u8 value.receiverCount ++ Writer.u8 kCardReaderCount ++
    value.records.flatMap ReceiverRecord.write

def StatusResponsePayload.write (value : StatusResponsePayload) : List UInt8 :=
  Writer.u64 value.generation ++ Writer.u8 value.ready ++ Writer.u8 value.usbPresentMask ++
    Writer.u8 value.cardPresent ++ Writer.u8 value.cardInitialized ++
    value.receiverStates.flatMap (fun state => Writer.u8 state.raw) ++ Writer.u64 value.usbErrors ++
    Writer.u64 value.protocolErrors

def TuneRequestPayload.write (value : TuneRequestPayload) : List UInt8 :=
  Writer.u64 value.leaseId ++ Writer.u8 value.system.raw ++ Writer.u64 value.frequencyKhz ++
    Writer.u16 value.streamId ++ Writer.u16 value.slot ++ Writer.u32 value.bandwidthHz ++
    Writer.u8 value.lnbVoltage ++ Writer.u32 value.timeoutMs

/-- `write_counters`. -/
def CountersPayload.write (value : CountersPayload) : List UInt8 :=
  Writer.u64 value.packets ++ Writer.u64 value.bytes ++ Writer.u64 value.syncErrors ++
    Writer.u64 value.teiPackets ++ Writer.u64 value.continuityErrors ++
    Writer.u64 value.queueDrops ++
    Writer.u64 value.usbErrors ++ Writer.u64 value.emptyIntervals

/-! ## Encoders -/

/-- `encode_empty_payload`. -/
def encodeEmptyPayload : Output → Result (List UInt8) := encode true 0 []

def encodeHelloRequestPayload (value : HelloRequestPayload) : Output → Result (List UInt8) :=
  encode (value.minMajor < value.maxMajor ∨
    value.minMajor = value.maxMajor ∧ value.minMinor ≤ value.maxMinor) 12 value.write

def encodeHelloResponsePayload (value : HelloResponsePayload) : Output → Result (List UInt8) :=
  encode (value.major == kProtocolMajor && value.minor == kProtocolMinor) 8 value.write

def encodeListResponsePayload (value : ListResponsePayload) : Output → Result (List UInt8) :=
  let required := 14 + 4 * value.receiverCount.toNat + value.serialUtf8.length
  encode
    (validUtf8 value.serialUtf8 && value.serialUtf8.length ≤ 0xffff && validBoolean value.ready &&
      value.usbPresentMask &&& ~~~kUsbPresentMask == 0 && validReceiverCount value.receiverCount &&
      value.usbPresentMask &&& ~~~usbPresentMaskFor value.receiverCount == 0 &&
      (value.records.zipIdx.all fun record =>
        validReceiverRecord record.1 value.receiverCount record.2) &&
      required ≤ kMaxControlPayload)
    required value.write

def encodeStatusResponsePayload (value : StatusResponsePayload) : Output → Result (List UInt8) :=
  encode
    (validBoolean value.ready && validBoolean value.cardPresent &&
      validBoolean value.cardInitialized && value.usbPresentMask &&& ~~~kUsbPresentMask == 0)
    36 value.write

def encodeAcquireRequestPayload (value : AcquireRequestPayload) : Output → Result (List UInt8) :=
  encode (value.receiverId.toNat < kReceiverCount) 1 (Writer.u8 value.receiverId)

def encodeAcquireResponsePayload (value : AcquireResponsePayload) : Output → Result (List UInt8) :=
  encode true 24 (Writer.u64 value.leaseId ++ value.nonce)

def encodeLeaseRequestPayload (value : LeaseRequestPayload) : Output → Result (List UInt8) :=
  encode true 8 (Writer.u64 value.leaseId)

def encodeCardHandleRequestPayload (value : CardHandleRequestPayload) :
    Output → Result (List UInt8) :=
  encode true 8 (Writer.u64 value.cardHandle)

def encodeTuneRequestPayload (value : TuneRequestPayload) : Output → Result (List UInt8) :=
  encode (validTune value) 30 value.write

def encodeTuneResponsePayload (value : TuneResponsePayload) : Output → Result (List UInt8) :=
  encode (validBoolean value.locked) 5 (Writer.u8 value.locked ++ Writer.i32 value.cnrMdb)

def encodeCountersPayload (value : CountersPayload) : Output → Result (List UInt8) :=
  encode true kCountersPayloadSize value.write

def encodeCardStatusResponsePayload (value : CardStatusResponsePayload) :
    Output → Result (List UInt8) :=
  encode
    (validBoolean value.present && validBoolean value.initialized && validAtr value.atr &&
      !(value.initialized == 0 && value.atr.length != 0) &&
      !(value.initialized != 0 && (value.present == 0 || value.atr.length == 0)))
    (11 + value.atr.length)
    (Writer.u8 value.present ++ Writer.u8 value.initialized ++ Writer.u64 value.readerGeneration ++
      Writer.bytes8 value.atr)

def encodeCardConnectRequestPayload (value : CardConnectRequestPayload) :
    Output → Result (List UInt8) :=
  encode true 1 (Writer.u8 value.shareMode.raw)

def encodeCardConnectResponsePayload (value : CardConnectResponsePayload) :
    Output → Result (List UInt8) :=
  encode (validAtr value.atr) (9 + value.atr.length)
    (Writer.u64 value.cardHandle ++ Writer.bytes8 value.atr)

def encodeCardReconnectRequestPayload (value : CardReconnectRequestPayload) :
    Output → Result (List UInt8) :=
  encode true 10
    (Writer.u64 value.cardHandle ++ Writer.u8 value.shareMode.raw ++
      Writer.u8 value.disposition.raw)

def encodeAtrPayload (value : AtrPayload) : Output → Result (List UInt8) :=
  encode (validAtr value.atr) (1 + value.atr.length) (Writer.bytes8 value.atr)

def encodeCardDispositionRequestPayload (value : CardDispositionRequestPayload) :
    Output → Result (List UInt8) :=
  encode true 9 (Writer.u64 value.cardHandle ++ Writer.u8 value.disposition.raw)

def encodeCardTransmitRequestPayload (value : CardTransmitRequestPayload) :
    Output → Result (List UInt8) :=
  encode (value.apdu.length ≤ kMaxCardPayload) (12 + value.apdu.length)
    (Writer.u64 value.cardHandle ++ Writer.bytes32 value.apdu)

def encodeCardTransmitResponsePayload (value : CardTransmitResponsePayload) :
    Output → Result (List UInt8) :=
  encode (value.response.length ≤ kMaxCardPayload) (4 + value.response.length)
    (Writer.bytes32 value.response)

def encodeAttachStreamRequestPayload (value : AttachStreamRequestPayload) :
    Output → Result (List UInt8) :=
  encode true 24 (Writer.u64 value.leaseId ++ value.nonce)

def encodeTsDataEventPayload (value : TsDataEventPayload) : Output → Result (List UInt8) :=
  encode (value.bytes.length ≤ kMaxTsBytes && value.bytes.length % 188 == 0)
    (20 + value.bytes.length)
    (Writer.u64 value.sequence ++ Writer.u64 value.cumulativeDropCount ++
      Writer.bytes32 value.bytes)

def encodeDeviceEventPayload (value : DeviceEventPayload) : Output → Result (List UInt8) :=
  encode (validEventTarget value.targetType value.targetId) 11
    (Writer.u64 value.generation ++ Writer.u8 value.kind.raw ++ Writer.u8 value.targetType.raw ++
      Writer.u8 value.targetId)

def encodeStreamEndEventPayload (value : StreamEndEventPayload) : Output → Result (List UInt8) :=
  encode true 68 (value.counters.write ++ Writer.u32 value.errorCode.raw)

def encodeErrorResponsePayload (value : ErrorResponsePayload) : Output → Result (List UInt8) :=
  encode
    (value.errorCode != .ok && validUtf8 value.detailUtf8 && value.detailUtf8.length ≤ 0xffff &&
      value.detailUtf8.length ≤ kMaxControlPayload - 6)
    (6 + value.detailUtf8.length)
    (Writer.u32 value.errorCode.raw ++ Writer.bytes16 value.detailUtf8)

/-! ## Frames -/

def kFrameHeaderSize : Nat := 20
def kMagic : List UInt8 := [0x50, 0x58, 0x34, 0x55]
def kResponseFlag : UInt16 := 0x0001
def kErrorFlag : UInt16 := 0x0002
def kKnownFlags : UInt16 := kResponseFlag ||| kErrorFlag

def MessageType.raw : MessageType → UInt16
  | .hello => 0x0001
  | .list => 0x0010
  | .status => 0x0011
  | .acquire => 0x0020
  | .release => 0x0021
  | .tune => 0x0022
  | .startStream => 0x0023
  | .stopStream => 0x0024
  | .stats => 0x0025
  | .cardStatus => 0x0030
  | .cardConnect => 0x0031
  | .cardReconnect => 0x0032
  | .cardDisconnect => 0x0033
  | .cardReset => 0x0034
  | .cardTransmit => 0x0035
  | .beginTransaction => 0x0036
  | .endTransaction => 0x0037
  | .cardHandleStatus => 0x0038
  | .attachStream => 0x0040
  | .tsData => 0x8040
  | .deviceEvent => 0x80f0
  | .streamEnd => 0x80ff
  | .unknown raw => raw

/-- `static_cast<MessageType>`. -/
def MessageType.ofRaw : UInt16 → MessageType
  | 0x0001 => .hello
  | 0x0010 => .list
  | 0x0011 => .status
  | 0x0020 => .acquire
  | 0x0021 => .release
  | 0x0022 => .tune
  | 0x0023 => .startStream
  | 0x0024 => .stopStream
  | 0x0025 => .stats
  | 0x0030 => .cardStatus
  | 0x0031 => .cardConnect
  | 0x0032 => .cardReconnect
  | 0x0033 => .cardDisconnect
  | 0x0034 => .cardReset
  | 0x0035 => .cardTransmit
  | 0x0036 => .beginTransaction
  | 0x0037 => .endTransaction
  | 0x0038 => .cardHandleStatus
  | 0x0040 => .attachStream
  | 0x8040 => .tsData
  | 0x80f0 => .deviceEvent
  | 0x80ff => .streamEnd
  | raw => .unknown raw

/-- The fields of a header on the wire, after the magic. -/
structure RawHeader where
  major : UInt16
  minor : UInt16
  type : UInt16
  flags : UInt16
  requestId : UInt32
  payloadLength : UInt32
  deriving DecidableEq, Repr

def RawHeader.read : Reader RawHeader := do
  let major ← Reader.u16
  let minor ← Reader.u16
  let type ← Reader.u16
  let flags ← Reader.u16
  let requestId ← Reader.u32
  let payloadLength ← Reader.u32
  return { major, minor, type, flags, requestId, payloadLength }

def RawHeader.write (raw : RawHeader) : List UInt8 :=
  Writer.u16 raw.major ++ Writer.u16 raw.minor ++ Writer.u16 raw.type ++ Writer.u16 raw.flags ++
    Writer.u32 raw.requestId ++ Writer.u32 raw.payloadLength

/-- The kind that the flags of a message stand for. -/
def kindOf (type : MessageType) (flags : UInt16) : MessageKind :=
  if flags = kResponseFlag ||| kErrorFlag then .errorResponse
  else if flags = kResponseFlag then .response
  else if isEventMessage type then .event
  else .request

/-- The flags of a kind. -/
def MessageKind.flags : MessageKind → UInt16
  | .response => kResponseFlag
  | .errorResponse => kResponseFlag ||| kErrorFlag
  | .request | .event => 0

/-- The checks of `decode_frame_header` on the fields. -/
def RawHeader.header (raw : RawHeader) : Result FrameHeader :=
  if raw.major ≠ kProtocolMajor ∨ raw.minor ≠ kProtocolMinor then .error .versionMismatch
  else
    let type := MessageType.ofRaw raw.type
    if !isKnownMessageType type ∨ raw.flags &&& ~~~kKnownFlags ≠ 0 ∨ raw.flags = kErrorFlag then
      .error .protocolError
    else
      let header : FrameHeader := {
        major := raw.major
        minor := raw.minor
        type
        kind := kindOf type raw.flags
        requestId := raw.requestId
        payloadLength := raw.payloadLength }
      match validateHeaderFields header .protocolError with
      | .error e => .error e
      | .ok () => .ok header

/-- `decode_frame_header`. -/
def decodeFrameHeader (input : ByteView) : Result FrameHeader :=
  if !validView input || input.size != kFrameHeaderSize then .error .protocolError
  else if input.bytes.take 4 ≠ kMagic then .error .protocolError
  else match RawHeader.read (input.bytes.drop 4) with
    | some (raw, []) => raw.header
    | _ => .error .protocolError

/-- A header on the wire. -/
def FrameHeader.write (header : FrameHeader) : List UInt8 :=
  kMagic ++ RawHeader.write {
    major := header.major
    minor := header.minor
    type := header.type.raw
    flags := header.kind.flags
    requestId := header.requestId
    payloadLength := header.payloadLength }

/-- `encode_frame`. -/
def encodeFrame (header : FrameHeader) (payload : ByteView) : Output → Result (List UInt8) :=
  encode
    (validView payload && header.payloadLength.toNat == payload.size &&
      (validateHeaderFields header .invalidArgument).isOk &&
      (validatePayload header.type header.kind payload).isOk)
    (kFrameHeaderSize + payload.size) (header.write ++ payload.bytes)

/-- `decode_frame`. -/
def decodeFrame (frame : ByteView) : Result FrameView :=
  if !validView frame || frame.size < kFrameHeaderSize then .error .protocolError
  else
    match decodeFrameHeader (.of (frame.bytes.take kFrameHeaderSize)) with
    | .error e => .error e
    | .ok header =>
      if frame.size - kFrameHeaderSize ≠ header.payloadLength.toNat then .error .protocolError
      else
        let payload := ByteView.of (frame.bytes.drop kFrameHeaderSize)
        if !(validatePayload header.type header.kind payload).isOk then .error .protocolError
        else .ok { header, payload }

end Px4.Ipc
