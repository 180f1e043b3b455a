import Px4.Core

/-!
# The payloads of the daemon's protocol (`ipc.cpp`)

The payload types and their decoders. `Reader` is the class of the same name: a decoder reads its
fields in order and fails on the first that is missing or not valid. All failures of a decoder are
`PROTOCOL_ERROR`. A value of an enumeration that the decoder refuses is not built (`ofRaw`).
-/

namespace Px4.Ipc

def kProtocolMajor : UInt16 := 1
def kProtocolMinor : UInt16 := 0
def kMaxControlPayload : Nat := 65536
def kMaxTsBytes : Nat := 1048576
def kMaxTsDataPayload : Nat := 1048596
def kMaxCardPayload : Nat := 4096
def kMaxAtrLength : Nat := 33
def kReceiverCount : Nat := 8
def kNonceLength : Nat := 16
def kCardReaderCount : UInt8 := 1
def kUsbPresentMask : UInt8 := 0x03

/-! ## Enumerations -/

/-- `ErrorCode`. -/
inductive ErrorCode
  | ok | invalidArgument | versionMismatch | notFound | busy | notReady | timeout | usbIo
  | disconnected | protocolError | firmwareRejected | unsupported | noCard | cardRemoved
  | bufferTooSmall | slowConsumer | internal
  deriving DecidableEq, Repr

/-- The codes that `is_known_error_code` knows. -/
def ErrorCode.ofRaw : UInt32 → Option ErrorCode
  | 0 => some .ok
  | 1 => some .invalidArgument
  | 2 => some .versionMismatch
  | 3 => some .notFound
  | 4 => some .busy
  | 5 => some .notReady
  | 6 => some .timeout
  | 7 => some .usbIo
  | 8 => some .disconnected
  | 9 => some .protocolError
  | 10 => some .firmwareRejected
  | 11 => some .unsupported
  | 12 => some .noCard
  | 13 => some .cardRemoved
  | 14 => some .bufferTooSmall
  | 15 => some .slowConsumer
  | 255 => some .internal
  | _ => none

/-- `System`. -/
inductive System
  | isdbT | isdbS | isdbTOrS
  deriving DecidableEq, Repr

def System.ofRaw : UInt8 → Option System
  | 1 => some .isdbT
  | 2 => some .isdbS
  | 3 => some .isdbTOrS
  | _ => none

/-- `ReceiverState`. -/
inductive ReceiverState
  | free | leased | tuned | streaming | error | absent
  deriving DecidableEq, Repr

def ReceiverState.ofRaw : UInt8 → Option ReceiverState
  | 0 => some .free
  | 1 => some .leased
  | 2 => some .tuned
  | 3 => some .streaming
  | 4 => some .error
  | 5 => some .absent
  | _ => none

/-- `ShareMode`. -/
inductive ShareMode
  | shared | exclusive
  deriving DecidableEq, Repr

def ShareMode.ofRaw : UInt8 → Option ShareMode
  | 1 => some .shared
  | 2 => some .exclusive
  | _ => none

/-- `Disposition`. -/
inductive Disposition
  | leave | reset
  deriving DecidableEq, Repr

def Disposition.ofRaw : UInt8 → Option Disposition
  | 0 => some .leave
  | 1 => some .reset
  | _ => none

/-- `DeviceEventKind`. -/
inductive DeviceEventKind
  | attached | detached | cardInserted | cardRemoved | stateChanged
  deriving DecidableEq, Repr

def DeviceEventKind.ofRaw : UInt8 → Option DeviceEventKind
  | 1 => some .attached
  | 2 => some .detached
  | 3 => some .cardInserted
  | 4 => some .cardRemoved
  | 5 => some .stateChanged
  | _ => none

/-- `EventTargetType`. -/
inductive EventTargetType
  | device | receiver | card
  deriving DecidableEq, Repr

def EventTargetType.ofRaw : UInt8 → Option EventTargetType
  | 1 => some .device
  | 2 => some .receiver
  | 3 => some .card
  | _ => none

/-! ## Payloads -/

structure HelloRequestPayload where
  minMajor : UInt16
  minMinor : UInt16
  maxMajor : UInt16
  maxMinor : UInt16
  requestedCapabilities : UInt32
  deriving DecidableEq, Repr

structure HelloResponsePayload where
  major : UInt16
  minor : UInt16
  capabilities : UInt32
  deriving DecidableEq, Repr

structure ReceiverRecord where
  globalId : UInt8
  devId : UInt8
  localId : UInt8
  system : System
  deriving DecidableEq, Repr

structure ListResponsePayload where
  generation : UInt64
  serialUtf8 : List UInt8
  ready : UInt8
  usbPresentMask : UInt8
  receivers : List ReceiverRecord
  receiverCount : UInt8
  deriving DecidableEq, Repr

structure StatusResponsePayload where
  generation : UInt64
  ready : UInt8
  usbPresentMask : UInt8
  cardPresent : UInt8
  cardInitialized : UInt8
  receiverStates : List ReceiverState
  usbErrors : UInt64
  protocolErrors : UInt64
  deriving DecidableEq, Repr

structure AcquireRequestPayload where
  receiverId : UInt8
  deriving DecidableEq, Repr

structure AcquireResponsePayload where
  leaseId : UInt64
  nonce : List UInt8
  deriving DecidableEq, Repr

structure LeaseRequestPayload where
  leaseId : UInt64
  deriving DecidableEq, Repr

structure CardHandleRequestPayload where
  cardHandle : UInt64
  deriving DecidableEq, Repr

structure TuneRequestPayload where
  leaseId : UInt64
  system : System
  frequencyKhz : UInt64
  streamId : UInt16
  slot : UInt16
  bandwidthHz : UInt32
  lnbVoltage : UInt8
  timeoutMs : UInt32
  deriving DecidableEq, Repr

structure TuneResponsePayload where
  locked : UInt8
  cnrMdb : Int
  deriving DecidableEq, Repr

/-- `CountersPayload`, as far as it is on the wire. -/
structure CountersPayload where
  packets : UInt64
  bytes : UInt64
  syncErrors : UInt64
  teiPackets : UInt64
  continuityErrors : UInt64
  queueDrops : UInt64
  usbErrors : UInt64
  emptyIntervals : UInt64
  deriving DecidableEq, Repr

structure CardStatusResponsePayload where
  present : UInt8
  initialized : UInt8
  readerGeneration : UInt64
  atr : List UInt8
  deriving DecidableEq, Repr

structure CardConnectRequestPayload where
  shareMode : ShareMode
  deriving DecidableEq, Repr

structure CardConnectResponsePayload where
  cardHandle : UInt64
  atr : List UInt8
  deriving DecidableEq, Repr

structure CardReconnectRequestPayload where
  cardHandle : UInt64
  shareMode : ShareMode
  disposition : Disposition
  deriving DecidableEq, Repr

structure AtrPayload where
  atr : List UInt8
  deriving DecidableEq, Repr

structure CardDispositionRequestPayload where
  cardHandle : UInt64
  disposition : Disposition
  deriving DecidableEq, Repr

structure CardTransmitRequestPayload where
  cardHandle : UInt64
  apdu : List UInt8
  deriving DecidableEq, Repr

structure CardTransmitResponsePayload where
  response : List UInt8
  deriving DecidableEq, Repr

structure AttachStreamRequestPayload where
  leaseId : UInt64
  nonce : List UInt8
  deriving DecidableEq, Repr

structure TsDataEventPayload where
  sequence : UInt64
  cumulativeDropCount : UInt64
  bytes : List UInt8
  deriving DecidableEq, Repr

structure DeviceEventPayload where
  generation : UInt64
  kind : DeviceEventKind
  targetType : EventTargetType
  targetId : UInt8
  deriving DecidableEq, Repr

structure StreamEndEventPayload where
  counters : CountersPayload
  errorCode : ErrorCode
  deriving DecidableEq, Repr

structure ErrorResponsePayload where
  errorCode : ErrorCode
  detailUtf8 : List UInt8
  deriving DecidableEq, Repr

/-! ## The reader -/

/-- `Reader`: what is left of the input. -/
abbrev Reader := StateT (List UInt8) Option

namespace Reader

def u8 : Reader UInt8
  | [] => none
  | byte :: rest => some (byte, rest)

def u16 : Reader UInt16 := do
  let low ← u8
  let high ← u8
  return low.toUInt16 ||| high.toUInt16 <<< 8

def u32 : Reader UInt32 := do
  let b0 ← u8
  let b1 ← u8
  let b2 ← u8
  let b3 ← u8
  return b0.toUInt32 ||| b1.toUInt32 <<< 8 ||| b2.toUInt32 <<< 16 ||| b3.toUInt32 <<< 24

def i32 : Reader Int := do
  let raw ← u32
  return if raw ≤ 0x7fffffff then raw.toNat else -((~~~raw + 1).toNat : Int)

def u64 : Reader UInt64 := do
  let low ← u32
  let high ← u32
  return low.toUInt64 ||| high.toUInt64 <<< 32

def bytes (length : Nat) : Reader (List UInt8) := fun input =>
  if length > input.length then none else some (input.take length, input.drop length)

/-- A byte that stands for a value of an enumeration. -/
def enum (ofRaw : UInt8 → Option α) : Reader α := do
  let raw ← u8
  ofRaw raw

end Reader

/-- `valid_view`. -/
def validView (view : ByteView) : Bool := view.size == 0 || view.data.isSome

/-- A decoder: the view is valid, its fields are, and it is finished after them. -/
def decode (reader : Reader α) (input : ByteView) : Result α :=
  if !validView input then .error .protocolError
  else match reader.run input.bytes with
    | some (value, []) => .ok value
    | _ => .error .protocolError

/-! ## Checks -/

/-- `valid_boolean`. -/
def validBoolean (value : UInt8) : Bool := value ≤ 1

/-- `valid_system`. -/
def validSystem (value : System) : Bool := value == .isdbT || value == .isdbS

/-- `valid_event_target`. -/
def validEventTarget (type : EventTargetType) (id : UInt8) : Bool :=
  match type with
  | .device => id == 1 || id == 2
  | .receiver => id.toNat < kReceiverCount
  | .card => id == 0

/-- The number of continuation bytes after a first byte, and the bounds of the second. -/
def utf8Continuation (first : UInt8) : Option (Nat × UInt8 × UInt8) :=
  if first ≥ 0xc2 ∧ first ≤ 0xdf then some (1, 0x80, 0xbf)
  else if first ≥ 0xe0 ∧ first ≤ 0xef then
    some (2, if first = 0xe0 then 0xa0 else 0x80, if first = 0xed then 0x9f else 0xbf)
  else if first ≥ 0xf0 ∧ first ≤ 0xf4 then
    some (3, if first = 0xf0 then 0x90 else 0x80, if first = 0xf4 then 0x8f else 0xbf)
  else none

/-- The loop of `valid_utf8`, which takes at least one byte in each round. -/
def validUtf8Rounds : Nat → List UInt8 → Bool
  | _, [] => true
  | 0, _ :: _ => false
  | rounds + 1, first :: rest =>
    if first = 0 then false
    else if first ≤ 0x7f then validUtf8Rounds rounds rest
    else match utf8Continuation first with
      | none => false
      | some (count, secondMin, secondMax) =>
        match rest.take count with
        | [] => false
        | second :: others =>
          if count > rest.length ∨ second < secondMin ∨ second > secondMax then false
          else if others.any fun value => value < 0x80 ∨ value > 0xbf then false
          else validUtf8Rounds rounds (rest.drop count)

/-- `valid_utf8`. -/
def validUtf8 (text : List UInt8) : Bool := validUtf8Rounds text.length text

/-- `valid_receiver_count`. -/
def validReceiverCount (count : UInt8) : Bool :=
  count == 1 || count == 3 || count == 4 || count == 5 || count == 8

/-- `usb_present_mask_for`. -/
def usbPresentMaskFor (count : UInt8) : UInt8 := if count = 8 then kUsbPresentMask else 0x01

/-- `expected_receiver_record`. -/
def expectedReceiverRecord (count : UInt8) (index : Nat) (dualSystem : Bool) : ReceiverRecord :=
  let id := UInt8.ofNat index
  if dualSystem || count == 3 || count == 5 then ⟨id, 1, id, .isdbTOrS⟩
  else if count = 1 then ⟨id, 1, id, .isdbT⟩
  else
    let localId := UInt8.ofNat (index % 4)
    ⟨id, UInt8.ofNat (index / 4 + 1), localId, if localId < 2 then .isdbS else .isdbT⟩

/-- `valid_receiver_record`. -/
def validReceiverRecord (value : ReceiverRecord) (count : UInt8) (index : Nat) : Bool :=
  value == expectedReceiverRecord count index false ||
    (value == expectedReceiverRecord count index true && count != 8)

/-! ## Decoders -/

def decodeEmptyPayload (input : ByteView) : Result Unit :=
  if !validView input || input.size != 0 then .error .protocolError else .ok ()

def decodeHelloRequestPayload : ByteView → Result HelloRequestPayload := decode do
  let minMajor ← Reader.u16
  let minMinor ← Reader.u16
  let maxMajor ← Reader.u16
  let maxMinor ← Reader.u16
  let requestedCapabilities ← Reader.u32
  guard (minMajor < maxMajor ∨ minMajor = maxMajor ∧ minMinor ≤ maxMinor)
  return { minMajor, minMinor, maxMajor, maxMinor, requestedCapabilities }

def decodeHelloResponsePayload : ByteView → Result HelloResponsePayload := decode do
  let major ← Reader.u16
  let minor ← Reader.u16
  let capabilities ← Reader.u32
  guard (major = kProtocolMajor ∧ minor = kProtocolMinor)
  return { major, minor, capabilities }

def readReceiverRecord (count : UInt8) (index : Nat) : Reader ReceiverRecord := do
  let globalId ← Reader.u8
  let devId ← Reader.u8
  let localId ← Reader.u8
  let system ← Reader.enum System.ofRaw
  let receiver : ReceiverRecord := { globalId, devId, localId, system }
  guard (validReceiverRecord receiver count index)
  return receiver

def decodeListResponsePayload (input : ByteView) : Result ListResponsePayload :=
  if input.size > kMaxControlPayload then .error .protocolError
  else input |> decode do
    let generation ← Reader.u64
    let serialLength ← Reader.u16
    let serialUtf8 ← Reader.bytes serialLength.toNat
    guard (validUtf8 serialUtf8)
    let ready ← Reader.u8
    let usbPresentMask ← Reader.u8
    let receiverCount ← Reader.u8
    let cardCount ← Reader.u8
    guard (validBoolean ready ∧ usbPresentMask &&& ~~~kUsbPresentMask = 0 ∧
      validReceiverCount receiverCount ∧ cardCount = kCardReaderCount ∧
      usbPresentMask &&& ~~~usbPresentMaskFor receiverCount = 0)
    let receivers ← (List.range (min receiverCount.toNat kReceiverCount)).mapM
      (readReceiverRecord receiverCount)
    return { generation, serialUtf8, ready, usbPresentMask, receivers, receiverCount }

def decodeStatusResponsePayload : ByteView → Result StatusResponsePayload := decode do
  let generation ← Reader.u64
  let ready ← Reader.u8
  let usbPresentMask ← Reader.u8
  let cardPresent ← Reader.u8
  let cardInitialized ← Reader.u8
  guard (validBoolean ready ∧ validBoolean cardPresent ∧ validBoolean cardInitialized ∧
    usbPresentMask &&& ~~~kUsbPresentMask = 0)
  let receiverStates ← (List.range kReceiverCount).mapM fun _ => Reader.enum ReceiverState.ofRaw
  let usbErrors ← Reader.u64
  let protocolErrors ← Reader.u64
  return {
    generation, ready, usbPresentMask, cardPresent, cardInitialized, receiverStates
    usbErrors, protocolErrors }

def decodeAcquireRequestPayload : ByteView → Result AcquireRequestPayload := decode do
  let receiverId ← Reader.u8
  guard (receiverId.toNat < kReceiverCount)
  return { receiverId }

def decodeAcquireResponsePayload : ByteView → Result AcquireResponsePayload := decode do
  let leaseId ← Reader.u64
  let nonce ← Reader.bytes kNonceLength
  return { leaseId, nonce }

def decodeLeaseRequestPayload : ByteView → Result LeaseRequestPayload := decode do
  let leaseId ← Reader.u64
  return { leaseId }

def decodeCardHandleRequestPayload : ByteView → Result CardHandleRequestPayload := decode do
  let cardHandle ← Reader.u64
  return { cardHandle }

/-- The ranges of a tune are the control service's to check. -/
def decodeTuneRequestPayload : ByteView → Result TuneRequestPayload := decode do
  let leaseId ← Reader.u64
  let system ← Reader.enum System.ofRaw
  let frequencyKhz ← Reader.u64
  let streamId ← Reader.u16
  let slot ← Reader.u16
  let bandwidthHz ← Reader.u32
  let lnbVoltage ← Reader.u8
  let timeoutMs ← Reader.u32
  guard (validSystem system ∧ (lnbVoltage = 0 ∨ lnbVoltage = 15))
  return { leaseId, system, frequencyKhz, streamId, slot, bandwidthHz, lnbVoltage, timeoutMs }

def decodeTuneResponsePayload : ByteView → Result TuneResponsePayload := decode do
  let locked ← Reader.u8
  let cnrMdb ← Reader.i32
  guard (validBoolean locked)
  return { locked, cnrMdb }

/-- `read_counters`. -/
def readCounters : Reader CountersPayload := do
  let packets ← Reader.u64
  let bytes ← Reader.u64
  let syncErrors ← Reader.u64
  let teiPackets ← Reader.u64
  let continuityErrors ← Reader.u64
  let queueDrops ← Reader.u64
  let usbErrors ← Reader.u64
  let emptyIntervals ← Reader.u64
  return {
    packets, bytes, syncErrors, teiPackets, continuityErrors, queueDrops, usbErrors
    emptyIntervals }

def decodeCountersPayload : ByteView → Result CountersPayload := decode readCounters

/-- An ATR with its length in front. -/
def readAtr : Reader (List UInt8) := do
  let length ← Reader.u8
  guard (length.toNat ≤ kMaxAtrLength)
  Reader.bytes length.toNat

def decodeCardStatusResponsePayload : ByteView → Result CardStatusResponsePayload := decode do
  let present ← Reader.u8
  let initialized ← Reader.u8
  let readerGeneration ← Reader.u64
  let atr ← readAtr
  guard (validBoolean present ∧ validBoolean initialized ∧ ¬(initialized = 0 ∧ atr ≠ []) ∧
    ¬(initialized ≠ 0 ∧ (present = 0 ∨ atr = [])))
  return { present, initialized, readerGeneration, atr }

def decodeCardConnectRequestPayload : ByteView → Result CardConnectRequestPayload := decode do
  let shareMode ← Reader.enum ShareMode.ofRaw
  return { shareMode }

def decodeCardConnectResponsePayload : ByteView → Result CardConnectResponsePayload := decode do
  let cardHandle ← Reader.u64
  let atr ← readAtr
  return { cardHandle, atr }

def decodeCardReconnectRequestPayload : ByteView → Result CardReconnectRequestPayload := decode do
  let cardHandle ← Reader.u64
  let shareMode ← Reader.enum ShareMode.ofRaw
  let disposition ← Reader.enum Disposition.ofRaw
  return { cardHandle, shareMode, disposition }

def decodeAtrPayload : ByteView → Result AtrPayload := decode do
  let atr ← readAtr
  return { atr }

def decodeCardDispositionRequestPayload : ByteView → Result CardDispositionRequestPayload :=
  decode do
    let cardHandle ← Reader.u64
    let disposition ← Reader.enum Disposition.ofRaw
    return { cardHandle, disposition }

/-- Bytes of a card command with their length in front. -/
def readCardBytes : Reader (List UInt8) := do
  let length ← Reader.u32
  guard (length.toNat ≤ kMaxCardPayload)
  Reader.bytes length.toNat

def decodeCardTransmitRequestPayload : ByteView → Result CardTransmitRequestPayload := decode do
  let cardHandle ← Reader.u64
  let apdu ← readCardBytes
  return { cardHandle, apdu }

def decodeCardTransmitResponsePayload : ByteView → Result CardTransmitResponsePayload := decode do
  let response ← readCardBytes
  return { response }

def decodeAttachStreamRequestPayload : ByteView → Result AttachStreamRequestPayload := decode do
  let leaseId ← Reader.u64
  let nonce ← Reader.bytes kNonceLength
  return { leaseId, nonce }

def decodeTsDataEventPayload : ByteView → Result TsDataEventPayload := decode do
  let sequence ← Reader.u64
  let cumulativeDropCount ← Reader.u64
  let length ← Reader.u32
  guard (length.toNat ≤ kMaxTsBytes ∧ length % 188 = 0)
  let bytes ← Reader.bytes length.toNat
  return { sequence, cumulativeDropCount, bytes }

def decodeDeviceEventPayload : ByteView → Result DeviceEventPayload := decode do
  let generation ← Reader.u64
  let kind ← Reader.enum DeviceEventKind.ofRaw
  let targetType ← Reader.enum EventTargetType.ofRaw
  let targetId ← Reader.u8
  guard (validEventTarget targetType targetId)
  return { generation, kind, targetType, targetId }

def decodeStreamEndEventPayload : ByteView → Result StreamEndEventPayload := decode do
  let counters ← readCounters
  let raw ← Reader.u32
  let errorCode ← ErrorCode.ofRaw raw
  return { counters, errorCode }

def decodeErrorResponsePayload (input : ByteView) : Result ErrorResponsePayload :=
  if input.size > kMaxControlPayload then .error .protocolError
  else input |> decode do
    let raw ← Reader.u32
    let detailLength ← Reader.u16
    let detailUtf8 ← Reader.bytes detailLength.toNat
    guard (validUtf8 detailUtf8)
    let errorCode ← ErrorCode.ofRaw raw
    guard (errorCode ≠ .ok)
    return { errorCode, detailUtf8 }

end Px4.Ipc
