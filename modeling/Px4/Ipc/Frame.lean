import Px4.Ipc.Payload

/-!
# Frames of the daemon's protocol (`ipc.cpp`)

The header of a frame and the checks that a frame passes before a connection looks at it:
`validate_header_fields`, `validate_payload` (which asks the payload's decoder) and
`validate_frame_view`; and when a response answers a request, `validate_response_to_request`.
-/

namespace Px4.Ipc

/-- `MessageType`, with the values outside its enumerators. -/
inductive MessageType
  | hello | list | status | acquire | release | tune | startStream | stopStream | stats
  | cardStatus | cardConnect | cardReconnect | cardDisconnect | cardReset | cardTransmit
  | beginTransaction | endTransaction | cardHandleStatus | attachStream
  | tsData | deviceEvent | streamEnd
  | unknown (raw : UInt16)
  deriving DecidableEq, Repr

/-- `MessageKind`. -/
inductive MessageKind
  | request | response | errorResponse | event
  deriving DecidableEq, Repr

/-- `FrameHeader`. -/
structure FrameHeader where
  major : UInt16 := kProtocolMajor
  minor : UInt16 := kProtocolMinor
  type : MessageType := .hello
  kind : MessageKind := .request
  requestId : UInt32 := 0
  payloadLength : UInt32 := 0
  deriving DecidableEq, Repr

/-- `FrameView`. -/
structure FrameView where
  header : FrameHeader
  payload : ByteView

/-- `is_known_message_type`. -/
def isKnownMessageType : MessageType → Bool
  | .unknown _ => false
  | _ => true

/-- `is_event_message`. -/
def isEventMessage (type : MessageType) : Bool :=
  type == .tsData || type == .deviceEvent || type == .streamEnd

/-- `payload_limit`. -/
def payloadLimit (type : MessageType) : Nat :=
  if type = .tsData then kMaxTsDataPayload else kMaxControlPayload

/-- `validate_header_fields`. -/
def validateHeaderFields (header : FrameHeader) (error : Error) : Result Unit :=
  if !isKnownMessageType header.type || header.major != kProtocolMajor ||
      header.minor != kProtocolMinor || header.payloadLength.toNat > payloadLimit header.type then
    .error error
  else if isEventMessage header.type then
    if header.kind ≠ .event ∨ header.requestId ≠ 0 then .error error else .ok ()
  else if header.kind ≠ .request ∧ header.kind ≠ .response ∧ header.kind ≠ .errorResponse then
    .error error
  else .ok ()

/-- The decoder of a payload has a value. -/
def payloadValid (type : MessageType) (kind : MessageKind) (payload : ByteView) : Bool :=
  let request := kind == .request
  match type with
  | .hello =>
    if request then (decodeHelloRequestPayload payload).isOk
    else (decodeHelloResponsePayload payload).isOk
  | .list =>
    if request then (decodeEmptyPayload payload).isOk
    else (decodeListResponsePayload payload).isOk
  | .status =>
    if request then (decodeEmptyPayload payload).isOk
    else (decodeStatusResponsePayload payload).isOk
  | .acquire =>
    if request then (decodeAcquireRequestPayload payload).isOk
    else (decodeAcquireResponsePayload payload).isOk
  | .release | .startStream =>
    if request then (decodeLeaseRequestPayload payload).isOk
    else (decodeEmptyPayload payload).isOk
  | .beginTransaction =>
    if request then (decodeCardHandleRequestPayload payload).isOk
    else (decodeEmptyPayload payload).isOk
  | .tune =>
    if request then (decodeTuneRequestPayload payload).isOk
    else (decodeTuneResponsePayload payload).isOk
  | .stopStream | .stats =>
    if request then (decodeLeaseRequestPayload payload).isOk
    else (decodeCountersPayload payload).isOk
  | .cardStatus =>
    if request then (decodeEmptyPayload payload).isOk
    else (decodeCardStatusResponsePayload payload).isOk
  | .cardHandleStatus =>
    if request then (decodeCardHandleRequestPayload payload).isOk
    else (decodeCardStatusResponsePayload payload).isOk
  | .cardConnect =>
    if request then (decodeCardConnectRequestPayload payload).isOk
    else (decodeCardConnectResponsePayload payload).isOk
  | .cardReconnect =>
    if request then (decodeCardReconnectRequestPayload payload).isOk
    else (decodeAtrPayload payload).isOk
  | .cardDisconnect | .endTransaction =>
    if request then (decodeCardDispositionRequestPayload payload).isOk
    else (decodeEmptyPayload payload).isOk
  | .cardReset =>
    if request then (decodeCardHandleRequestPayload payload).isOk
    else (decodeAtrPayload payload).isOk
  | .cardTransmit =>
    if request then (decodeCardTransmitRequestPayload payload).isOk
    else (decodeCardTransmitResponsePayload payload).isOk
  | .attachStream =>
    if request then (decodeAttachStreamRequestPayload payload).isOk
    else (decodeEmptyPayload payload).isOk
  | .tsData => (decodeTsDataEventPayload payload).isOk
  | .deviceEvent => (decodeDeviceEventPayload payload).isOk
  | .streamEnd => (decodeStreamEndEventPayload payload).isOk
  | .unknown _ => false

/-- `validate_payload`. -/
def validatePayload (type : MessageType) (kind : MessageKind) (payload : ByteView) : Result Unit :=
  if !validView payload || !isKnownMessageType type || payload.size > payloadLimit type then
    .error .protocolError
  else if kind = .errorResponse then
    if isEventMessage type || !(decodeErrorResponsePayload payload).isOk then .error .protocolError
    else .ok ()
  else if isEventMessage type && kind != .event then .error .protocolError
  else if !isEventMessage type && kind != .request && kind != .response then .error .protocolError
  else if payloadValid type kind payload then .ok ()
  else .error .protocolError

/-- `validate_frame_view`. -/
def validateFrameView (frame : FrameView) : Result Unit :=
  if !validView frame.payload || frame.header.payloadLength.toNat != frame.payload.size then
    .error .protocolError
  else if !(validateHeaderFields frame.header .protocolError).isOk ||
      !(validatePayload frame.header.type frame.header.kind frame.payload).isOk then
    .error .protocolError
  else .ok ()

/-- `validate_response_to_request`. -/
def validateResponseToRequest (request response : FrameHeader) : Result Unit :=
  if isEventMessage request.type || request.kind != .request ||
      (response.kind != .response && response.kind != .errorResponse) ||
      request.major != response.major || request.minor != response.minor ||
      request.type != response.type || request.requestId != response.requestId then
    .error .protocolError
  else .ok ()

end Px4.Ipc
