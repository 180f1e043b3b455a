import Px4.Ipc.Connection

/-!
# Two connected parties

A client's and a server's state machine, joined by two FIFO channels. A party sends what its own
`process_outbound` has accepted; `toServer` and `toClient` deliver the next frame to
`process_inbound`. The logs are what each party has sent and what the client has accepted.

`ControlAgrees` and `StreamAgrees` say what the two parties agree on.
-/

namespace Px4.Ipc

structure Pair where
  client : ConnectionStateMachine
  server : ConnectionStateMachine
  toServer : List FrameView := []
  toClient : List FrameView := []
  clientSent : List FrameView := []
  serverSent : List FrameView := []
  clientReceived : List FrameView := []

namespace Pair

/-- A control client and a control server. -/
def control (supported : UInt32) : Pair where
  client := .create .controlClient
  server := .create .controlServer supported

/-- A stream client and a stream server. -/
def stream (supported : UInt32) : Pair where
  client := .create .streamClient
  server := .create .streamServer supported

inductive Act
  | clientSend (frame : FrameView)
  | serverSend (frame : FrameView)
  | toServer
  | toClient

variable (s : Pair)

def step : Act → Pair
  | .clientSend frame =>
    match s.client.processOutbound frame with
    | (client, .ok _) =>
      { s with
        client, toServer := s.toServer ++ [frame], clientSent := s.clientSent ++ [frame] }
    | (client, .error _) => { s with client }
  | .serverSend frame =>
    match s.server.processOutbound frame with
    | (server, .ok _) =>
      { s with
        server, toClient := s.toClient ++ [frame], serverSent := s.serverSent ++ [frame] }
    | (server, .error _) => { s with server }
  | .toServer =>
    match s.toServer with
    | [] => s
    | frame :: toServer => { s with server := (s.server.processInbound frame).1, toServer }
  | .toClient =>
    match s.toClient with
    | [] => s
    | frame :: toClient =>
      match s.client.processInbound frame with
      | (client, .ok _) =>
        { s with client, toClient, clientReceived := s.clientReceived ++ [frame] }
      | (client, .error _) => { s with client, toClient }

def run (acts : List Act) : Pair := acts.foldl step s

end Pair

/-! ## What the parties agree on -/

def FrameView.isResponse (frame : FrameView) : Bool :=
  frame.header.kind == .response || frame.header.kind == .errorResponse

def FrameView.isTsData (frame : FrameView) : Bool := frame.header.type == .tsData

namespace Pair

variable (s : Pair)

/-- The responses that the client has accepted. -/
def responses : List FrameView := s.clientReceived.filter FrameView.isResponse

/-- The requests on their way, those the server has not answered, and the responses on their way. -/
def outstanding : Nat :=
  s.toServer.length + (if s.server.pending then 1 else 0) +
    (s.toClient.filter FrameView.isResponse).length

/-- Nothing is on its way, and neither party can send. -/
structure Quiet : Prop where
  toServer : s.toServer = []
  toClient : s.toClient = []
  client : ∀ frame, (s.client.processOutbound frame).2.isOk = false
  server : ∀ frame, (s.server.processOutbound frame).2.isOk = false

/-- What holds of both kinds of pair: a machine becomes poisoned only through a frame of its own
that `process_outbound` rejects; two active machines have negotiated the same; at most one request
is outstanding; and each response that the client accepts answers its pending request, the one in
the same place among those it has sent. -/
structure Agrees (supported : UInt32) : Prop where
  clientPoisoned : ∀ act, (s.step act).client.phase = .poisoned →
    s.client.phase = .poisoned ∨ ∃ frame e, act = .clientSend frame ∧
      (s.client.processOutbound frame).2 = .error e
  serverPoisoned : ∀ act, (s.step act).server.phase = .poisoned →
    s.server.phase = .poisoned ∨ ∃ frame e, act = .serverSend frame ∧
      (s.server.processOutbound frame).2 = .error e
  negotiated : s.client.phase = .active → s.server.phase = .active →
    s.client.negotiatedCapabilities =
        s.client.requestedCapabilities &&& supported &&& kKnownCapabilities ∧
      s.server.negotiatedCapabilities = s.client.negotiatedCapabilities
  outstanding : s.outstanding ≤ 1
  pending : ∀ frame rest, s.toClient = frame :: rest → frame.isResponse = true →
    (s.client.processInbound frame).2.isOk = true → s.client.answersPending frame.header = true
  answered : List.Forall₂ (fun request response =>
      validateResponseToRequest request.header response.header = .ok ())
    (s.clientSent.take s.responses.length) s.responses
  unanswered : s.clientSent.length ≤ s.responses.length + 1

/-- What a control pair agrees on. The client has requested what its HELLO says; and with a range of
versions that does not include the protocol's, no machine becomes active, and when nothing more can
happen both are closed, unless one was poisoned. -/
structure ControlAgrees (supported : UInt32) : Prop extends s.Agrees supported where
  requested : ∀ frame rest, s.clientSent = frame :: rest →
    ∃ hello, decodeHelloRequestPayload frame.payload = .ok hello ∧
      (s.client.phase = .active → s.client.requestedCapabilities = hello.requestedCapabilities) ∧
      (includesProtocolV1 hello = false →
        s.client.phase ≠ .active ∧ s.server.phase ≠ .active ∧
          (s.Quiet → s.server.phase ≠ .poisoned → s.server.phase = .closed ∧
            (s.client.phase ≠ .poisoned → s.client.phase = .closed)))

/-- What a stream pair agrees on. The client accepts the transport stream as the server has sent it,
with consecutive numbers that do not wrap, and the end of the stream is the last frame. -/
structure StreamAgrees (supported : UInt32) : Prop extends s.Agrees supported where
  received : s.clientReceived.filter FrameView.isTsData <+: s.serverSent.filter FrameView.isTsData
  consecutive : ∃ first : Nat, ∀ i frame,
    (s.serverSent.filter FrameView.isTsData)[i]? = some frame →
    ∃ data, decodeTsDataEventPayload frame.payload = .ok data ∧ data.sequence.toNat = first + i
  ended : ∀ before frame after, s.serverSent = before ++ frame :: after ∨
      s.clientReceived = before ++ frame :: after →
    frame.header.type = .streamEnd → after = []

end Pair

end Px4.Ipc
