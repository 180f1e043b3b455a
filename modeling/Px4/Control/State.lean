import Px4.Control.Lanes
import Px4.Ipc.Connection
import Px4.Lib.Slots

/-!
# The state of the control server (`control_server.cpp`)

`Server` is `PosixControlServer::Impl`. Connections are known by their ids, and what happens to
their sockets comes from outside. It is arbitrary (`Outside`): the frames that `StreamFramer` hands
over, what becomes of the bytes of an answer, the clock, the answers of the services that the server
asks itself, what the threads of the lanes do before each call to the lanes, and which calls of
`pthread` and of the wake pipe fail. Calls that a signal interrupts are made again here.
-/

namespace Px4.Control

open Ipc
open Px4.Stream (TunerAttachment StreamCounters FinalSnapshot StreamTerminal StreamReadResult)

/-- `kServerCapabilities`. -/
def kServerCapabilities : UInt32 :=
  kCapabilityEvents ||| kCapabilityCard ||| kCapabilityStreamStats |||
    kCapabilityCardGenerationBinding

def kPresencePollIntervalMs : Nat := 250
def kMaxControlConnections : Nat := 32
def kRetiredClientCapacity : Nat := 64
def kMaxStreamConnections : Nat := 32
def kStreamReadBytes : Nat := 65536 / 188 * 188
def kStreamWriteBudget : Nat := 65536

/-! ## Connections -/

/-- `LeaseRecord`, of a lease that is active. -/
structure LeaseRecord where
  leaseId : UInt64
  receiver : UInt8
  deriving DecidableEq, Repr

/-- `Outstanding`, of a request that is active. -/
structure Outstanding where
  type : MessageType
  operation : ControlWorkerOperation
  requestId : UInt32
  receiver : UInt8
  leaseId : UInt64
  deriving DecidableEq

/-- `Client`. `valid` is `stream_.valid()`. -/
structure Client where
  id : UInt64
  valid : Bool := true
  state : ConnectionStateMachine := .create .controlServer kServerCapabilities
  leases : Lib.Slots LeaseRecord := .free kReceiverCount
  cardHandles : List UInt64 := []
  outstanding : Option Outstanding := none

/-- `StreamClient::Phase`. -/
inductive StreamPhase
  | attaching | active | ending
  deriving DecidableEq, Repr

/-- `StreamClient`. `tx` is the frame in the transmit buffer, of which `txOffset` bytes are sent. -/
structure StreamClient where
  id : UInt64
  state : ConnectionStateMachine := .create .streamServer
  phase : StreamPhase := .attaching
  requestId : UInt32 := 0
  ownerClientId : UInt64 := 0
  leaseId : UInt64 := 0
  receiver : UInt8 := 0
  nonce : List UInt8 := List.replicate kNonceLength 0
  attachment : Option TunerAttachment := none
  cleanupPending : Bool := false
  cleanupQueued : Bool := false
  cleanupComplete : Bool := false
  finalSnapshot : Option FinalSnapshot := none
  sequence : UInt64 := 0
  endQueued : Bool := false
  dataEof : Bool := false
  attachCompletionSeen : Bool := false
  attachSubmitted : Bool := false
  tx : List UInt8 := []
  txOffset : Nat := 0
  ackPending : Bool := false
  closeAfterFlush : Bool := false
  removeRequested : Bool := false

/-- `RetiredStream`, of a slot that is active. -/
structure RetiredStream where
  connectionId : UInt64
  ownerClientId : UInt64 := 0
  leaseId : UInt64 := 0
  receiver : UInt8 := 0
  waitingAttach : Bool := false
  cleanupQueued : Bool := false
  cleanupComplete : Bool := false
  attachment : Option TunerAttachment := none

/-- `RetiredLease`, of a slot that is active. -/
structure RetiredLease where
  leaseId : UInt64
  receiver : UInt8
  queued : Bool := false
  deriving DecidableEq, Repr

/-- `RetiredClient`, of a slot that is active. -/
structure RetiredClient where
  clientId : UInt64
  waitingRequest : Bool := false
  cardPending : Bool := false
  cardQueued : Bool := false
  leases : Lib.Slots RetiredLease := .free kReceiverCount
  deriving DecidableEq

/-! ## The outside -/

/-- A step of the thread of a lane; `fails` as in `Lanes.advance`. -/
structure WorkerMove where
  lane : ControlWorkerLane
  services : Services
  fails : Bool

/-- `revents` of a descriptor. -/
structure Revents where
  pollIn : Bool := false
  pollHup : Bool := false
  pollErr : Bool := false
  pollNval : Bool := false
  deriving DecidableEq, Repr

/-- What `poll` reports. -/
structure Polled where
  control : Revents := {}
  stream : Revents := {}
  wake : Bool := false
  clients : Nat → Revents := fun _ => {}
  streams : Nat → Revents := fun _ => {}

/-- What comes of a `send` of so many bytes on a stream socket. -/
inductive Sent (size : Nat)
  | bytes (count : Fin (size + 1))
  | wouldBlock
  | failed (e : Error)
  deriving DecidableEq, Repr

/-- What the server asks of its surroundings. `submitFault` and `fails` are about calls of `pthread`
and of the pipe. -/
inductive Ask
  | workers
  | submitFault
  | fails
  | now
  | poll (timeout : Nat)
  | accept
  | acceptStream
  | allocate
  | read (connection : UInt64)
  | write (client : UInt64) (frame : List UInt8)
  | send (connection : UInt64) (bytes : List UInt8)
  | revokeStream (client lease : UInt64) (nonce : Option (List UInt8))
  | readStream (attachment : TunerAttachment) (capacity : Nat)
  | finalSnapshot (attachment : TunerAttachment)
  | releaseFinal (attachment : TunerAttachment)

/-- The answers: `accept` gives a socket or an error, `allocate` whether there is memory, `poll`
what is ready or whether it fails (`none` if it was interrupted), and `read` the frames that were
completed, with the end of the read. -/
abbrev Ask.Answer : Ask → Type
  | .workers => List WorkerMove
  | .submitFault => Lane.SubmitFault
  | .fails => Bool
  | .now => Nat
  | .poll _ => Option (Result Polled)
  | .accept | .acceptStream => Result Unit
  | .allocate => Bool
  | .read _ => List FrameView × Result Unit
  | .write _ _ => Result Unit
  | .send _ bytes => Sent bytes.length
  | .revokeStream .. => Result Unit
  | .readStream _ capacity => Result { read : StreamReadResult // read.output.length ≤ capacity }
  | .finalSnapshot _ => Result FinalSnapshot
  | .releaseFinal _ => Result Unit

/-- The surroundings. -/
abbrev Outside := Lib.Oracle Ask Ask.Answer

/-- A task that was executed by a lane, and how the services answered. -/
structure Execution where
  lane : ControlWorkerLane
  task : ControlWorkerTask
  services : Services

/-! ## The server -/

/-- What the server is created with. -/
structure Config where
  errorString : Error → List UInt8
  baseSerial : List UInt8
  ready : Bool
  usbPresentMask : UInt8
  receiverRecords : List ReceiverRecord
  receiverCount : UInt8
  streamControl : Bool

/-- `PosixControlServer::Impl`, with the tasks that the threads have executed so far, and whether a
request has ever taken the place of another one in `outstanding`. -/
structure Server where
  config : Config
  outside : Outside
  lanes : Lanes := {}
  executed : List Execution := []
  replaced : Bool := false
  clients : List Client := []
  streamClients : List StreamClient := []
  pendingEvents : List DeviceEventPayload := []
  pendingRemovals : List UInt64 := []
  pendingStreamRemovals : List UInt64 := []
  retiredClients : Lib.Slots RetiredClient := .free kRetiredClientCapacity
  retiredStreams : Lib.Slots RetiredStream := .free kRetiredClientCapacity
  knownReceiverStates : List ReceiverState := List.replicate kReceiverCount .free
  nextClientId : UInt64 := 1
  clientIdsExhausted : Bool := false
  cardPresenceKnown : Bool := false
  knownCardPresent : Bool := false
  presencePollPending : Bool := false
  shuttingDown : Bool := false
  shutdownComplete : Bool := false
  tunerShutdownPending : Bool := false
  tunerShutdownComplete : Bool := false
  cardShutdownPending : Bool := false
  cardShutdownComplete : Bool := false
  cleanupError : Option Error := none
  nextPresencePoll : Nat := 0
  generation : UInt64 := 1

/-- A function of the server. -/
abbrev Serve (α : Type) := StateM Server α

namespace Serve

/-- A question. -/
def ask (q : Ask) : Serve q.Answer :=
  fun s => ((s.outside.ask q).2, { s with outside := (s.outside.ask q).1 })

/-- A step of the thread of a lane. -/
def work (s : Server) (move : WorkerMove) : Server :=
  let lanes := s.lanes.advance move.lane move.services move.fails
  match (s.lanes.lane move.lane).worker with
  | .executing task =>
    { s with lanes, executed := s.executed ++ [⟨move.lane, task, move.services⟩] }
  | _ => { s with lanes }

/-- What the threads do before the next call to the lanes. -/
def workers : Serve Unit := do
  let moves ← ask .workers
  modify fun s => moves.foldl work s

/-- `workers->submit`. -/
def laneSubmit (lane : ControlWorkerLane) (task : ControlWorkerTask) : Serve (Result Unit) := do
  workers
  let fault ← ask .submitFault
  let s ← get
  set { s with lanes := (s.lanes.submit lane task fault).1 }
  return (s.lanes.submit lane task fault).2

/-- `workers->try_pop`. -/
def laneTryPop (lane : ControlWorkerLane) : Serve (Option ControlWorkerCompletion) := do
  workers
  let fails ← ask .fails
  let s ← get
  set { s with lanes := (s.lanes.tryPop lane fails).1 }
  return (s.lanes.tryPop lane fails).2

/-- `workers->idle`. -/
def lanesIdle : Serve Bool := do
  workers
  let fails ← ask .fails
  let s ← get
  return !fails && s.lanes.idle

/-- `workers->drain_wake`: one `read` after the other, until nothing is left. -/
def drainWake : Nat → Serve Unit
  | 0 => return
  | fuel + 1 => do
    workers
    let fails ← ask .fails
    let s ← get
    if fails || s.lanes.wake = 0 then return
    set { s with lanes := s.lanes.drain }
    drainWake fuel

/-- `stop` of a lane. -/
def laneStop (lane : ControlWorkerLane) : Serve Unit := do
  workers
  let fails ← ask .fails
  modify fun s => { s with lanes := s.lanes.stop lane fails }

/-! ## Records -/

/-- The connection with this id. -/
def client? (id : UInt64) : Serve (Option Client) := do
  let s ← get
  return s.clients.find? (·.id == id)

/-- A change of a connection. -/
def modifyClient (id : UInt64) (f : Client → Client) : Serve Unit :=
  modify fun s => { s with clients := s.clients.map fun c => if c.id = id then f c else c }

/-- The stream connection with this id. -/
def stream? (id : UInt64) : Serve (Option StreamClient) := do
  let s ← get
  return s.streamClients.find? (·.id == id)

/-- A change of a stream connection. -/
def modifyStream (id : UInt64) (f : StreamClient → StreamClient) : Serve Unit :=
  modify fun s =>
    { s with streamClients := s.streamClients.map fun c => if c.id = id then f c else c }

/-- `find_retired`. -/
def retired? (id : UInt64) : Serve (Option RetiredClient) := do
  let s ← get
  return (Lib.Slots.entries s.retiredClients).find? (·.clientId == id)

/-- A change of a retired client. -/
def modifyRetired (id : UInt64) (f : RetiredClient → RetiredClient) : Serve Unit :=
  modify fun s =>
    { s with retiredClients := Lib.Slots.update (·.clientId == id) f s.retiredClients }

/-- `find_retired_stream`. -/
def retiredStream? (id : UInt64) : Serve (Option RetiredStream) := do
  let s ← get
  return (Lib.Slots.entries s.retiredStreams).find? (·.connectionId == id)

/-- A change of a retired stream. -/
def modifyRetiredStream (id : UInt64) (f : RetiredStream → RetiredStream) : Serve Unit :=
  modify fun s =>
    { s with retiredStreams := Lib.Slots.update (·.connectionId == id) f s.retiredStreams }

/-- `record_error`. -/
def recordError (error : Error) : Serve Unit :=
  modify fun s => if s.cleanupError = none then { s with cleanupError := some error } else s

/-- `schedule_remove`. -/
def scheduleRemove (id : UInt64) : Serve Unit :=
  modify fun s => if id ∈ s.pendingRemovals then s
    else { s with pendingRemovals := s.pendingRemovals ++ [id] }

end Serve

end Px4.Control
