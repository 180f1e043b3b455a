import Px4.Control.Messages

/-!
# Requests of the clients (`control_server.cpp`)

`dispatch` answers a request, or gives a task to a lane; `on_frame` is what is done with a frame of
a client.
-/

namespace Px4.Control

open Ipc

/-- `find_lease`. -/
def Client.findLease (c : Client) (leaseId : UInt64) : Option UInt8 :=
  if leaseId = 0 then none
    else ((Lib.Slots.entries c.leases).find? (·.leaseId == leaseId)).map (·.receiver)

/-- `add_lease`, or `none` if it cannot be added. -/
def Client.addLease (c : Client) (receiver : UInt8) (leaseId : UInt64) : Option Client :=
  if leaseId = 0 ∨ kReceiverCount ≤ receiver.toNat then none
  else if (Lib.Slots.entries c.leases).any (·.leaseId == leaseId) then none
  else (Lib.Slots.insert ⟨leaseId, receiver⟩ c.leases).map fun leases => { c with leases }

/-- `remove_lease`. -/
def Client.removeLease (c : Client) (leaseId : UInt64) : Client :=
  { c with leases := Lib.Slots.erase (·.leaseId == leaseId) c.leases }

/-- `matches`. -/
def Client.matches (c : Client) (completion : ControlWorkerCompletion) : Bool :=
  match c.outstanding with
  | none => false
  | some o => o.requestId == completion.requestId && o.type == completion.type &&
      o.operation == completion.operation

/-- The operations for which `submit` checks the receiver. -/
def ControlWorkerOperation.ofReceiver : ControlWorkerOperation → Bool
  | .tunerAcquire | .tunerRelease | .tunerTune | .tunerStartStream | .tunerStopStream
  | .tunerStats => true
  | _ => false

/-- `lane_for`. -/
def laneFor (task : ControlWorkerTask) : ControlWorkerLane :=
  match task.operation with
  | .cardStatus | .cardHandleStatus | .cardStatusCombined | .cardPresence | .cardConnect
  | .cardReconnect | .cardDisconnect | .cardReset | .cardTransmit | .cardBeginTransaction
  | .cardEndTransaction | .cardReleaseConnection | .cardShutdown => .card
  | .tunerStatus | .tunerShutdown => .tunerDev1
  | _ => if task.receiver < 4 then .tunerDev1 else .tunerDev2

/-- `pending_hello_response`. -/
def pendingHelloResponse (m : ConnectionStateMachine) : Result HelloResponsePayload :=
  if m.role ≠ .controlServer ∨ m.phase ≠ .handshake ∨ !m.pending ∨ m.pendingHeader.type ≠ .hello ∨
      !m.helloCompatible then .error .notReady
  else .ok ⟨kProtocolMajor, kProtocolMinor, m.negotiatedCapabilities⟩

namespace Serve

/-- `submit`. -/
def submit (id : UInt64) (request : FrameView) (task : ControlWorkerTask) :
    Serve (Result Unit) := do
  let header := request.header
  if task.operation.ofReceiver && kReceiverCount ≤ task.receiver.toNat then
    sendError id header.type header.requestId .invalidArgument
  else
    let task := { task with
      clientId := id, requestId := header.requestId, type := header.type, kind := .clientRequest }
    -- only a record: `set_outstanding` does not look at what was there
    modify fun s => { s with replaced := s.replaced || s.clients.any fun c =>
      c.id == id && c.outstanding.isSome }
    modifyClient id fun c =>
      { c with
        outstanding :=
          some ⟨header.type, task.operation, task.requestId, task.receiver, task.leaseId⟩ }
    match ← laneSubmit (laneFor task) task with
    | .ok () => return .ok ()
    | .error e =>
      modifyClient id fun c => { c with outstanding := none }
      sendError id header.type header.requestId e

/-- A payload that has to be decoded. -/
def withPayload {α : Type} (decoded : Result α) (f : α → Serve (Result Unit)) :
    Serve (Result Unit) :=
  match decoded with
  | .error _ => return .error .protocolError
  | .ok value => f value

/-- A request about a lease of the client: its receiver is looked up. -/
def withLease (id : UInt64) (request : FrameView) (leaseId : UInt64)
    (f : UInt8 → ControlWorkerTask) : Serve (Result Unit) := do
  match ← client? id with
  | none => return .error .internal
  | some client =>
    match client.findLease leaseId with
    | none => sendError id request.header.type request.header.requestId .notFound
    | some receiver => submit id request (f receiver)

/-- `dispatch`. -/
def dispatch (id : UInt64) (request : FrameView) : Serve (Result Unit) := do
  let s ← get
  let payload := request.payload
  match request.header.type with
  | .list =>
    withPayload (decodeEmptyPayload payload) fun _ =>
      sendSuccess id request (encodeListResponsePayload
        { generation := s.generation
          serialUtf8 := s.config.baseSerial
          ready := if s.config.ready then 1 else 0
          usbPresentMask := s.config.usbPresentMask
          receivers := s.config.receiverRecords
          receiverCount := s.config.receiverCount })
  | .status =>
    withPayload (decodeEmptyPayload payload) fun _ =>
      submit id request { operation := .cardStatusCombined }
  | .cardStatus =>
    withPayload (decodeEmptyPayload payload) fun _ =>
      submit id request { operation := .cardStatus }
  | .cardConnect =>
    withPayload (decodeCardConnectRequestPayload payload) fun value => do
      match ← client? id with
      | none => return .error .internal
      | some client =>
        submit id request
          { operation := .cardConnect, shareMode := value.shareMode, cardGenerationBound :=
            client.cardGenerationBound }
  | .cardHandleStatus =>
    withPayload (decodeCardHandleRequestPayload payload) fun value =>
      submit id request { operation := .cardHandleStatus, cardHandle := value.cardHandle }
  | .cardReconnect =>
    withPayload (decodeCardReconnectRequestPayload payload) fun value =>
      submit id request
        { operation := .cardReconnect, cardHandle := value.cardHandle, shareMode := value.shareMode
          disposition := value.disposition }
  | .cardDisconnect =>
    withPayload (decodeCardDispositionRequestPayload payload) fun value =>
      submit id request
        { operation := .cardDisconnect, cardHandle := value.cardHandle, disposition :=
          value.disposition }
  | .cardReset =>
    withPayload (decodeCardHandleRequestPayload payload) fun value =>
      submit id request { operation := .cardReset, cardHandle := value.cardHandle }
  | .cardTransmit =>
    withPayload (decodeCardTransmitRequestPayload payload) fun value =>
      if kMaxCardPayload < value.apdu.length then return .error .protocolError
      else
        submit id request
          { operation := .cardTransmit, cardHandle := value.cardHandle, apdu := value.apdu }
  | .beginTransaction =>
    withPayload (decodeCardHandleRequestPayload payload) fun value =>
      submit id request { operation := .cardBeginTransaction, cardHandle := value.cardHandle }
  | .endTransaction =>
    withPayload (decodeCardDispositionRequestPayload payload) fun value =>
      submit id request
        { operation := .cardEndTransaction, cardHandle := value.cardHandle, disposition :=
          value.disposition }
  | .acquire =>
    withPayload (decodeAcquireRequestPayload payload) fun value =>
      submit id request { operation := .tunerAcquire, receiver := value.receiverId }
  | .release =>
    withPayload (decodeLeaseRequestPayload payload) fun value =>
      withLease id request value.leaseId fun receiver =>
        { operation := .tunerRelease, receiver, leaseId := value.leaseId }
  | .tune =>
    withPayload (decodeTuneRequestPayload payload) fun value =>
      withLease id request value.leaseId fun receiver =>
        { operation := .tunerTune, receiver, leaseId := value.leaseId, tune := value }
  | .startStream =>
    withPayload (decodeLeaseRequestPayload payload) fun value =>
      withLease id request value.leaseId fun receiver =>
        { operation := .tunerStartStream, receiver, leaseId := value.leaseId }
  | .stopStream =>
    withPayload (decodeLeaseRequestPayload payload) fun value =>
      withLease id request value.leaseId fun receiver =>
        { operation := .tunerStopStream, receiver, leaseId := value.leaseId }
  | .stats =>
    withPayload (decodeLeaseRequestPayload payload) fun value =>
      withLease id request value.leaseId fun receiver =>
        { operation := .tunerStats, receiver, leaseId := value.leaseId }
  | .hello | .attachStream | .tsData | .deviceEvent | .streamEnd | .unknown _ =>
    return .error .protocolError

/-- What is done with a frame that the state machine has accepted. -/
def onEvent (id : UInt64) (frame : FrameView) (state : ConnectionStateMachine) :
    ConnectionEvent → Serve (Result Unit)
  | .helloResponseRequired =>
    match pendingHelloResponse state with
    | .error e => return .error e
    | .ok hello =>
      sendPayload id .hello .response frame.header.requestId (encodeHelloResponsePayload hello)
  | .versionMismatchResponseRequired =>
    sendErrorResponse id .hello frame.header.requestId .versionMismatch
  | .requestAccepted => do
    match ← dispatch id frame with
    | .error e => return .error e
    | .ok () =>
      flushEvents
      return .ok ()
  | .responseAccepted | .eventAccepted | .attachResponseRequired | .tsDataAccepted
  | .streamEndAccepted =>
    return .error .protocolError

/-- `on_frame`. -/
def onFrame (id : UInt64) (frame : FrameView) : Serve (Result Unit) := do
  match ← client? id with
  | none => return .error .internal
  | some client =>
    let (state, accepted) := client.state.processInbound frame
    modifyClient id fun c => { c with state }
    match accepted with
    | .error e => return .error e
    | .ok result => onEvent id frame state result.event

/-- The frames that `read_frames` has completed, until one is refused. -/
def onFrames {α : Type} (handle : α → Serve (Result Unit)) :
    List α → Result Unit → Serve (Result Unit)
  | [], last => return last
  | frame :: frames, last => do
    match ← handle frame with
    | .error e => return .error e
    | .ok () => onFrames handle frames last

/-- `Client::read_ready`. -/
def readReady (id : UInt64) : Serve (Result Unit) := do
  let (frames, last) ← ask (.read id)
  onFrames (onFrame id) frames last

end Serve

end Px4.Control
