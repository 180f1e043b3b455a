import Px4.Control.State
import Px4.Ipc.Encode

/-!
# What the control server writes (`control_server.cpp`)

Answers and events: they are encoded, put into a frame, decoded again, shown to the state machine of
the connection, and written. Functions that take a `Client` take the id of it.
-/

namespace Px4.Control

open Ipc
open Px4.Stream (StreamCounters StreamTerminal)

/-- `ipc_error`, of an error that is not `Error::OK`. -/
def ipcError : Error → ErrorCode
  | .invalidArgument => .invalidArgument
  | .versionMismatch => .versionMismatch
  | .notFound => .notFound
  | .busy => .busy
  | .notReady => .notReady
  | .timeout => .timeout
  | .usbIo => .usbIo
  | .disconnected => .disconnected
  | .protocolError => .protocolError
  | .firmwareRejected => .firmwareRejected
  | .unsupported => .unsupported
  | .noCard => .noCard
  | .cardRemoved => .cardRemoved
  | .bufferTooSmall => .bufferTooSmall
  | .slowConsumer => .slowConsumer
  | .resourceLimit => .busy
  | .internal => .internal

/-- `counters_payload`. -/
def countersPayload (counters : StreamCounters) : CountersPayload where
  packets := .ofNat counters.packets
  bytes := .ofNat counters.bytes
  syncErrors := .ofNat counters.syncErrors
  teiPackets := .ofNat counters.teiPackets
  continuityErrors := .ofNat counters.continuityErrors
  queueDrops := .ofNat counters.queueDrops
  usbErrors := .ofNat counters.usbErrors
  emptyIntervals := .ofNat counters.emptyIntervals

/-- `stream_end_error`. -/
def streamEndError : StreamTerminal → ErrorCode
  | .stopped => .ok
  | .slowConsumer => .slowConsumer
  | .usbError => .usbIo
  | .disconnected => .disconnected
  | .syncError => .protocolError
  | .bridgeFatal => .internal
  | .none => .internal

/-- `events_enabled`. -/
def Client.eventsEnabled (c : Client) : Bool :=
  c.state.phase == .active && c.state.negotiatedCapabilities &&& kCapabilityEvents != 0

/-- `card_generation_bound`. -/
def Client.cardGenerationBound (c : Client) : Bool :=
  c.state.negotiatedCapabilities &&& kCapabilityCardGenerationBinding != 0

/-- `closed`. -/
def Client.closed (c : Client) : Bool :=
  c.state.phase == .closed || c.state.phase == .poisoned || !c.valid

/-- `encode_frame` and `decode_frame`, of a frame that is to be sent: the frame, and its bytes. -/
def framed (type : MessageType) (kind : MessageKind) (requestId : UInt32)
    (payload : List UInt8) (room : Nat) :
    Result (FrameView × List UInt8) := do
  let header : FrameHeader := { type, kind, requestId, payloadLength := .ofNat payload.length }
  let bytes ← encodeFrame header (.of payload) ⟨true, room⟩
  let frame ← decodeFrame (.of bytes)
  return (frame, bytes)

namespace Serve

/-! ## To a connection -/

/-- `SocketStream::write_frame`, of a frame that can be decoded. -/
def writeFrame (client : Client) (bytes : List UInt8) : Serve (Result Unit) :=
  if client.valid then ask (.write client.id bytes) else return .error .invalidArgument

/-- `send_encoded`. -/
def sendEncoded (id : UInt64) (type : MessageType) (kind : MessageKind) (requestId : UInt32)
    (payload : List UInt8) : Serve (Result Unit) := do
  match framed type kind requestId payload (kFrameHeaderSize + kMaxControlPayload),
    ← client? id with
  | .error e, _ => return .error e
  | .ok _, none => return .error .internal
  | .ok (frame, bytes), some client =>
    let (state, accepted) := client.state.processOutbound frame
    modifyClient id fun c => { c with state }
    match accepted with
    | .error e => return .error e
    | .ok _ => writeFrame client bytes

/-- `send_payload`. -/
def sendPayload (id : UInt64) (type : MessageType) (kind : MessageKind) (requestId : UInt32)
    (encode : Output → Result (List UInt8)) : Serve (Result Unit) :=
  match encode ⟨true, kMaxControlPayload⟩ with
  | .error e => return .error e
  | .ok payload => sendEncoded id type kind requestId payload

/-- `Client::send_empty`. -/
def sendEmpty (id : UInt64) (type : MessageType) (requestId : UInt32) : Serve (Result Unit) :=
  sendEncoded id type .response requestId []

/-- `Client::send_error`. -/
def sendErrorResponse (id : UInt64) (type : MessageType) (requestId : UInt32) (error : Error) :
    Serve (Result Unit) := do
  let s ← get
  sendPayload id type .errorResponse requestId
    (encodeErrorResponsePayload ⟨ipcError error, s.config.errorString error⟩)

/-- `send_event`. -/
def sendEvent (id : UInt64) (event : DeviceEventPayload) : Serve (Result Unit) :=
  sendPayload id .deviceEvent .event 0 (encodeDeviceEventPayload event)

/-- `if (!sent) schedule_remove(client.id())`. -/
def removeUnlessSent (id : UInt64) (send : Serve (Result Unit)) : Serve (Result Unit) := do
  match ← send with
  | .ok () => return .ok ()
  | .error e =>
    scheduleRemove id
    return .error e

/-- `send_error`. -/
def sendError (id : UInt64) (type : MessageType) (requestId : UInt32) (error : Error) :
    Serve (Result Unit) :=
  removeUnlessSent id (sendErrorResponse id type requestId error)

/-- `send_success`. -/
def sendSuccess (id : UInt64) (request : FrameView) (encode : Output → Result (List UInt8)) :
    Serve (Result Unit) :=
  removeUnlessSent id (sendPayload id request.header.type .response request.header.requestId encode)

/-! ## Events -/

/-- An event for the next `flush_events`, of the next generation. -/
def announce (kind : DeviceEventKind) (targetType : EventTargetType)
    (targetId : UInt8) : Serve Unit :=
  modify fun s =>
    { s with
      generation := s.generation + 1
      pendingEvents := s.pendingEvents ++ [⟨s.generation + 1, kind, targetType, targetId⟩] }

/-- `observe_tuner`, of one receiver. -/
def observeReceiver (status : TunerStatus) (index : Nat) : Serve Unit := do
  let s ← get
  let state := status.receiverStates.getD index .free
  if s.knownReceiverStates.getD index .free = state then return
  modify fun s => { s with knownReceiverStates := s.knownReceiverStates.set index state }
  announce .stateChanged .receiver (.ofNat index)

/-- `observe_tuner`. -/
def observeTuner (status : TunerStatus) : Serve Unit :=
  (List.range kReceiverCount).forM (observeReceiver status)

/-- `if (completion.tuner_status_valid) observe_tuner(completion.tuner_status)`. -/
def observeStatus : Option TunerStatus → Serve Unit
  | none => return
  | some status => observeTuner status

/-- `observe_card_presence`. -/
def observeCardPresence (present : Bool) : Serve Unit := do
  let s ← get
  if !s.cardPresenceKnown then
    modify fun s => { s with cardPresenceKnown := true, knownCardPresent := present }
  else if s.knownCardPresent = present then return
  else
    modify fun s => { s with knownCardPresent := present }
    announce (if present then .cardInserted else .cardRemoved) .card 0

/-- `observe_card_change`. -/
def observeCardChange (change : CardPresenceChange) : Serve Unit :=
  if change.changed then observeCardPresence change.present else return

/-- An event, for a client. -/
def flushEvent (event : DeviceEventPayload) (id : UInt64) : Serve Unit := do
  match ← client? id with
  | none => return
  | some client =>
    if client.eventsEnabled then
      let _ ← removeUnlessSent id (sendEvent id event)

/-- `flush_events`. -/
def flushEvents : Serve Unit := do
  let s ← get
  s.pendingEvents.forM fun event => (s.clients.map (·.id)).forM (flushEvent event)
  modify fun s => { s with pendingEvents := [] }

end Serve

end Px4.Control
