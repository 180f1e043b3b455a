import Px4.Ipc.Frame

/-!
# The connection state machine (`ipc.cpp`)

`ConnectionStateMachine` with its four roles. `process_outbound` is asked before a frame is sent and
`process_inbound` when one has come; a frame that the state does not allow is a violation, which
poisons the machine. A machine that is closed or poisoned refuses every frame and stays as it is.
-/

namespace Px4.Ipc

/-! ## Capabilities and versions -/

def kCapabilityEvents : UInt32 := 1
def kCapabilityCard : UInt32 := 2
def kCapabilityStreamStats : UInt32 := 4
def kCapabilityCardGenerationBinding : UInt32 := 8

def kKnownCapabilities : UInt32 :=
  kCapabilityEvents ||| kCapabilityCard ||| kCapabilityStreamStats |||
    kCapabilityCardGenerationBinding

/-- `version_at_most`. -/
def versionAtMost (leftMajor leftMinor rightMajor rightMinor : UInt16) : Bool :=
  leftMajor < rightMajor || (leftMajor == rightMajor && leftMinor ≤ rightMinor)

/-- `includes_protocol_v1`. -/
def includesProtocolV1 (value : HelloRequestPayload) : Bool :=
  versionAtMost value.minMajor value.minMinor kProtocolMajor kProtocolMinor &&
    versionAtMost kProtocolMajor kProtocolMinor value.maxMajor value.maxMinor

/-- `is_control_request`. -/
def isControlRequest : MessageType → Bool
  | .hello | .attachStream | .tsData | .deviceEvent | .streamEnd | .unknown _ => false
  | _ => true

/-- `required_capability`. -/
def requiredCapability : MessageType → UInt32
  | .cardHandleStatus => kCapabilityCard ||| kCapabilityCardGenerationBinding
  | .cardStatus | .cardConnect | .cardReconnect | .cardDisconnect | .cardReset | .cardTransmit
  | .beginTransaction | .endTransaction => kCapabilityCard
  | .stats => kCapabilityStreamStats
  | _ => 0

/-! ## The machine -/

/-- `ConnectionRole`. -/
inductive ConnectionRole
  | controlClient | controlServer | streamClient | streamServer
  deriving DecidableEq, Repr

/-- `ConnectionPhase`. -/
inductive ConnectionPhase
  | initial | handshake | active | closed | poisoned
  deriving DecidableEq, Repr

/-- `ConnectionEvent`. -/
inductive ConnectionEvent
  | requestAccepted | responseAccepted | eventAccepted | helloResponseRequired
  | versionMismatchResponseRequired | attachResponseRequired | tsDataAccepted | streamEndAccepted
  deriving DecidableEq, Repr

/-- `ConnectionResult`. -/
structure ConnectionResult where
  event : ConnectionEvent
  type : MessageType
  negotiatedCapabilities : UInt32
  deriving DecidableEq, Repr

/-- `ConnectionStateMachine`. -/
structure ConnectionStateMachine where
  role : ConnectionRole
  phase : ConnectionPhase := .initial
  serverSupportedCapabilities : UInt32 := 0
  requestedCapabilities : UInt32 := 0
  negotiatedCapabilities : UInt32 := 0
  pendingHeader : FrameHeader := {}
  pending : Bool := false
  helloCompatible : Bool := false
  tsSequenceSeen : Bool := false
  lastTsSequence : UInt64 := 0
  deriving DecidableEq

namespace ConnectionStateMachine

/-- The constructor. -/
def create (role : ConnectionRole) (serverSupportedCapabilities : UInt32 := 0) :
    ConnectionStateMachine :=
  { role, serverSupportedCapabilities := serverSupportedCapabilities &&& kKnownCapabilities }

variable (m : ConnectionStateMachine)

def enter (phase : ConnectionPhase) : ConnectionStateMachine := { m with phase }

def request (capabilities : UInt32) : ConnectionStateMachine :=
  { m with requestedCapabilities := capabilities }

def negotiate (capabilities : UInt32) : ConnectionStateMachine :=
  { m with negotiatedCapabilities := capabilities }

def setPending (header : FrameHeader) : ConnectionStateMachine :=
  { m with pendingHeader := header, pending := true }

def clearPending : ConnectionStateMachine := { m with pendingHeader := {}, pending := false }

/-- A violation poisons the machine. -/
def violation : ConnectionStateMachine × Result ConnectionResult :=
  ((m.enter .poisoned).clearPending, .error .protocolError)

def accepted (event : ConnectionEvent) (type : MessageType) :
    ConnectionStateMachine × Result ConnectionResult :=
  (m, .ok ⟨event, type, m.negotiatedCapabilities⟩)

/-- The frame is a response, and answers the pending request. -/
def answersPending (header : FrameHeader) : Bool :=
  m.pending && (header.kind == .response || header.kind == .errorResponse) &&
    (validateResponseToRequest m.pendingHeader header).isOk

/-- `process_control_client`. -/
def processControlClient (frame : FrameView) (outbound : Bool) :
    ConnectionStateMachine × Result ConnectionResult :=
  let header := frame.header
  match m.phase with
  | .initial =>
    if !outbound || header.kind != .request || header.type != .hello then m.violation
    else match decodeHelloRequestPayload frame.payload with
      | .error _ => m.violation
      | .ok hello =>
        (((m.request hello.requestedCapabilities).setPending header).enter .handshake).accepted
          .requestAccepted header.type
  | .handshake =>
    if outbound || !m.answersPending header then m.violation
    else if header.kind = .errorResponse then
      (m.clearPending.enter .closed).accepted .responseAccepted header.type
    else match decodeHelloResponsePayload frame.payload with
      | .error _ => m.violation
      | .ok hello =>
        let knownResponse := hello.capabilities &&& kKnownCapabilities
        let knownRequested := m.requestedCapabilities &&& kKnownCapabilities
        if knownResponse &&& ~~~knownRequested ≠ 0 then m.violation
        else
          ((m.negotiate knownResponse).clearPending.enter .active).accepted .responseAccepted
            header.type
  | _ =>
    if outbound then
      if m.pending || header.kind != .request || !isControlRequest header.type then m.violation
      else
        let capability := requiredCapability header.type
        if m.negotiatedCapabilities &&& capability ≠ capability then m.violation
        else (m.setPending header).accepted .requestAccepted header.type
    else if header.kind = .event ∧ header.type = .deviceEvent then
      if m.negotiatedCapabilities &&& kCapabilityEvents = 0 then m.violation
      else m.accepted .eventAccepted header.type
    else if !m.answersPending header then m.violation
    else m.clearPending.accepted .responseAccepted header.type

/-- `process_control_server`. -/
def processControlServer (frame : FrameView) (outbound : Bool) :
    ConnectionStateMachine × Result ConnectionResult :=
  let header := frame.header
  match m.phase with
  | .initial =>
    if outbound || header.kind != .request || header.type != .hello then m.violation
    else match decodeHelloRequestPayload frame.payload with
      | .error _ => m.violation
      | .ok hello =>
        let m := m.request hello.requestedCapabilities
        let m := { m with helloCompatible := includesProtocolV1 hello }
        let m := m.negotiate
          (m.requestedCapabilities &&& kKnownCapabilities &&& m.serverSupportedCapabilities)
        ((m.setPending header).enter .handshake).accepted
          (if m.helloCompatible then .helloResponseRequired else .versionMismatchResponseRequired)
          header.type
  | .handshake =>
    if !outbound || !m.answersPending header then m.violation
    else if m.helloCompatible then
      if header.kind ≠ .response then m.violation
      else match decodeHelloResponsePayload frame.payload with
        | .error _ => m.violation
        | .ok hello =>
          if hello.major ≠ kProtocolMajor ∨ hello.minor ≠ kProtocolMinor ∨
              hello.capabilities ≠ m.negotiatedCapabilities then m.violation
          else (m.clearPending.enter .active).accepted .responseAccepted header.type
    else if header.kind ≠ .errorResponse then m.violation
    else match decodeErrorResponsePayload frame.payload with
      | .error _ => m.violation
      | .ok error =>
        if error.errorCode ≠ .versionMismatch then m.violation
        else (m.clearPending.enter .closed).accepted .responseAccepted header.type
  | _ =>
    if !outbound then
      if m.pending || header.kind != .request || !isControlRequest header.type then m.violation
      else
        let capability := requiredCapability header.type
        if m.negotiatedCapabilities &&& capability ≠ capability then m.violation
        else (m.setPending header).accepted .requestAccepted header.type
    else if header.kind = .event ∧ header.type = .deviceEvent then
      if m.negotiatedCapabilities &&& kCapabilityEvents = 0 then m.violation
      else m.accepted .eventAccepted header.type
    else if !m.answersPending header then m.violation
    else m.clearPending.accepted .responseAccepted header.type

/-- `process_ts_event`. -/
def processTsEvent (frame : FrameView) : ConnectionStateMachine × Result ConnectionResult :=
  let type := frame.header.type
  if type = .streamEnd then (m.enter .closed).accepted .streamEndAccepted type
  else match decodeTsDataEventPayload frame.payload with
    | .error _ => m.violation
    | .ok data =>
      if data.cumulativeDropCount ≠ 0 then m.violation
      else if m.tsSequenceSeen &&
          (m.lastTsSequence == 0xffffffffffffffff || data.sequence != m.lastTsSequence + 1)
          then m.violation
      else
        { m with lastTsSequence := data.sequence, tsSequenceSeen := true }.accepted
          .tsDataAccepted type

/-- The handshake and the events of a stream; `sends` is the direction of the request, and the
client's and the server's halves differ in it. -/
def processStream (frame : FrameView) (sends : Bool) (event : ConnectionEvent) :
    ConnectionStateMachine × Result ConnectionResult :=
  let header := frame.header
  match m.phase with
  | .initial =>
    if !sends || header.kind != .request || header.type != .attachStream then m.violation
    else ((m.setPending header).enter .handshake).accepted event header.type
  | .handshake =>
    if sends || !m.answersPending header then m.violation
    else
      (m.clearPending.enter (if header.kind = .response then .active else .closed)).accepted
        .responseAccepted header.type
  | _ =>
    if sends || header.kind != .event || (header.type != .tsData && header.type != .streamEnd) then
      m.violation
    else m.processTsEvent frame

/-- `process_stream_client`. -/
def processStreamClient (frame : FrameView) (outbound : Bool) :
    ConnectionStateMachine × Result ConnectionResult :=
  m.processStream frame outbound .requestAccepted

/-- `process_stream_server`. -/
def processStreamServer (frame : FrameView) (outbound : Bool) :
    ConnectionStateMachine × Result ConnectionResult :=
  m.processStream frame (!outbound) .attachResponseRequired

/-- `process_outbound` and `process_inbound`. -/
def process (frame : FrameView) (outbound : Bool) :
    ConnectionStateMachine × Result ConnectionResult :=
  if m.phase = .poisoned then (m, .error .protocolError)
  else if m.phase = .closed then (m, .error .disconnected)
  else match validateFrameView frame with
    | .error _ => m.violation
    | .ok _ =>
      match m.role with
      | .controlClient => m.processControlClient frame outbound
      | .controlServer => m.processControlServer frame outbound
      | .streamClient => m.processStreamClient frame outbound
      | .streamServer => m.processStreamServer frame outbound

def processOutbound (frame : FrameView) : ConnectionStateMachine × Result ConnectionResult :=
  m.process frame true

def processInbound (frame : FrameView) : ConnectionStateMachine × Result ConnectionResult :=
  m.process frame false

end ConnectionStateMachine

end Px4.Ipc
