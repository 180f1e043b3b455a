import Px4.Ipc.Frame
import Px4.Lib.Oracle
import Px4.Stream.Session

/-!
# Tasks of the control workers (`control_workers.h`, `control_workers.cpp`)

`ControlWorkerTask`, the lane that it may go to, and `execute`, which calls the services. What the
services answer is arbitrary. Results are kept where the source has a field with a flag beside it.
-/

namespace Px4.Control

open Ipc
open Px4.Stream (TunerAttachment StreamCounters FinalSnapshot)

/-- `kControlWorkerQueueCapacity`. -/
def kControlWorkerQueueCapacity : Nat := 64

/-- `ControlWorkerLane`. -/
inductive ControlWorkerLane
  | tunerDev1 | tunerDev2 | card
  deriving DecidableEq, Repr

/-- `ControlWorkerOperation`. -/
inductive ControlWorkerOperation
  | tunerAcquire | tunerRelease | tunerTune | tunerStartStream | tunerStopStream | tunerStats
  | tunerAttachStream | tunerDetachStream | tunerStatus | tunerShutdown | cardStatus
  | cardHandleStatus | cardStatusCombined | cardPresence | cardConnect | cardReconnect
  | cardDisconnect | cardReset | cardTransmit | cardBeginTransaction | cardEndTransaction
  | cardReleaseConnection | cardShutdown
  deriving DecidableEq, Repr

/-- `ControlWorkerTaskKind`. -/
inductive ControlWorkerTaskKind
  | clientRequest | cleanup | background
  deriving DecidableEq, Repr

/-- `TuneRequestPayload{}`. -/
def noTune : TuneRequestPayload := ⟨0, .isdbT, 0, 0, 0, 0, 0, 0⟩

/-- `ControlWorkerTask`. -/
structure ControlWorkerTask where
  type : MessageType := .status
  kind : ControlWorkerTaskKind := .clientRequest
  operation : ControlWorkerOperation := .tunerStatus
  clientId : UInt64 := 0
  connectionId : UInt64 := 0
  requestId : UInt32 := 0
  receiver : UInt8 := 0
  leaseId : UInt64 := 0
  cardHandle : UInt64 := 0
  shareMode : ShareMode := .shared
  cardGenerationBound : Bool := false
  disposition : Disposition := .leave
  tune : TuneRequestPayload := noTune
  apdu : List UInt8 := []
  nonce : List UInt8 := []
  attachment : TunerAttachment := {}
  deriving DecidableEq

/-- `operation_lane_valid`. -/
def operationLaneValid (lane : ControlWorkerLane) (task : ControlWorkerTask) : Bool :=
  match task.operation with
  | .tunerStatus | .tunerShutdown => lane == .tunerDev1
  | .tunerAcquire | .tunerRelease | .tunerTune | .tunerStartStream | .tunerStopStream | .tunerStats
  | .tunerAttachStream | .tunerDetachStream =>
    if kReceiverCount ≤ task.receiver.toNat then false
    else lane == (if task.receiver < 4 then .tunerDev1 else .tunerDev2)
  | .cardStatus | .cardHandleStatus | .cardStatusCombined | .cardPresence | .cardConnect
  | .cardReconnect | .cardDisconnect | .cardReset | .cardTransmit | .cardBeginTransaction
  | .cardEndTransaction | .cardReleaseConnection | .cardShutdown => lane == .card

/-! ## The services -/

/-- `TunerAcquireResult`. -/
structure TunerAcquireResult where
  leaseId : UInt64 := 0
  nonce : List UInt8 := List.replicate kNonceLength 0
  deriving DecidableEq, Repr

/-- `TunerStatus`. -/
structure TunerStatus where
  generation : UInt64 := 0
  receiverStates : List ReceiverState := List.replicate kReceiverCount .free
  deriving DecidableEq, Repr

/-- `CardServiceStatus`. -/
structure CardServiceStatus where
  present : Bool := false
  initialized : Bool := false
  readerGeneration : UInt64 := 0
  atr : List UInt8 := []
  deriving DecidableEq, Repr

/-- `CardPresenceChange`. -/
structure CardPresenceChange where
  changed : Bool := false
  present : Bool := false
  deriving DecidableEq, Repr

/-- `CardServiceConnectResult`. -/
structure CardServiceConnectResult where
  handle : UInt64 := 0
  atr : List UInt8 := []
  deriving DecidableEq, Repr

/-- A call of `TunerService` or `CardService`. -/
inductive Call
  | acquire (client : UInt64) (receiver : UInt8)
  | release (client lease : UInt64)
  | tune (client : UInt64) (request : TuneRequestPayload)
  | startStream (client lease : UInt64)
  | stopStream (client lease : UInt64)
  | stats (client lease : UInt64)
  | attachStream (lease : UInt64) (nonce : List UInt8)
  | detachStream (attachment : TunerAttachment)
  | tunerStatus
  | tunerShutdown
  | cardStatus
  | handleStatus (client handle : UInt64)
  | pollPresence
  | connect (client : UInt64) (mode : ShareMode) (generationBound : Bool)
  | reconnect (client handle : UInt64) (mode : ShareMode) (disposition : Disposition)
  | disconnect (client handle : UInt64) (disposition : Disposition)
  | reset (client handle : UInt64)
  | transmit (client handle : UInt64) (apdu : List UInt8) (capacity : Nat)
  | beginTransaction (client handle : UInt64)
  | endTransaction (client handle : UInt64) (disposition : Disposition)
  | releaseConnection (client : UInt64)
  | cardShutdown
  deriving DecidableEq

/-- What a call returns. -/
abbrev Call.Answer : Call → Type
  | .acquire .. => Result TunerAcquireResult
  | .tune .. => Result TuneResponsePayload
  | .stopStream .. => Result FinalSnapshot
  | .stats .. => Result StreamCounters
  | .attachStream .. => Result TunerAttachment
  | .tunerStatus => Result TunerStatus
  | .cardStatus | .handleStatus .. => Result CardServiceStatus
  | .pollPresence => Result CardPresenceChange
  | .connect .. => Result CardServiceConnectResult
  | .reconnect .. | .reset .. => Result (List UInt8)
  | .transmit _ _ _ capacity => Result { values : List UInt8 // values.length ≤ capacity }
  | .release .. | .startStream .. | .detachStream .. | .tunerShutdown | .disconnect
      .. | .beginTransaction ..
  | .endTransaction .. | .releaseConnection .. | .cardShutdown => Result Unit

/-- How the services answer, now. -/
abbrev Services := (call : Call) → call.Answer

/-! ## Completions -/

/-- `ControlWorkerCompletion`. `error` is `none` for `Error::OK`; the flags `tuner_status_valid`,
`stream_snapshot_valid` and `tuner_attachment_valid` are `Option`s of the fields that they are
about. -/
structure ControlWorkerCompletion where
  type : MessageType := .status
  kind : ControlWorkerTaskKind := .clientRequest
  operation : ControlWorkerOperation := .tunerStatus
  clientId : UInt64 := 0
  connectionId : UInt64 := 0
  requestId : UInt32 := 0
  receiver : UInt8 := 0
  leaseId : UInt64 := 0
  cardHandle : UInt64 := 0
  error : Option Error := none
  tunerAcquire : TunerAcquireResult := {}
  tunerStatus : Option TunerStatus := none
  tuneResponse : TuneResponsePayload := ⟨0, 0⟩
  streamCounters : StreamCounters := {}
  streamFinalSnapshot : Option FinalSnapshot := none
  tunerAttachment : Option TunerAttachment := none
  cardStatus : CardServiceStatus := {}
  cardPresence : CardPresenceChange := {}
  cardConnect : CardServiceConnectResult := {}
  atr : List UInt8 := []
  cardResponse : List UInt8 := []
  deriving DecidableEq

/-- The fields of a completion that `execute` copies from the task. -/
def ControlWorkerTask.completion (task : ControlWorkerTask) : ControlWorkerCompletion where
  type := task.type
  kind := task.kind
  operation := task.operation
  clientId := task.clientId
  connectionId := task.connectionId
  requestId := task.requestId
  receiver := task.receiver
  leaseId := task.leaseId
  cardHandle := task.cardHandle

/-- `operation_error = result.error()`, or what is kept of the value. -/
def ControlWorkerCompletion.take {α : Type} (c : ControlWorkerCompletion) (result : Result α)
    (keep : ControlWorkerCompletion → α → ControlWorkerCompletion) : ControlWorkerCompletion :=
  match result with
  | .ok value => keep c value
  | .error e => { c with error := some e }

/-- The `switch` of `execute`. -/
def executeOperation (services : Services) (task : ControlWorkerTask) : ControlWorkerCompletion :=
  let c := task.completion
  let client := task.clientId
  match task.operation with
  | .tunerAcquire => c.take (services (.acquire client task.receiver)) fun c value =>
    { c with tunerAcquire := value }
  | .tunerRelease => c.take (services (.release client task.leaseId)) fun c _ => c
  | .tunerTune => c.take (services (.tune client task.tune)) fun c value =>
    { c with tuneResponse := value }
  | .tunerStartStream => c.take (services (.startStream client task.leaseId)) fun c _ => c
  | .tunerStopStream =>
    c.take (services (.stopStream client task.leaseId)) fun c value =>
      { c with streamFinalSnapshot := some value }
  | .tunerStats => c.take (services (.stats client task.leaseId)) fun c value =>
    { c with streamCounters := value }
  | .tunerAttachStream =>
    c.take (services (.attachStream task.leaseId task.nonce)) fun c value =>
      { c with tunerAttachment := some value }
  | .tunerDetachStream => c.take (services (.detachStream task.attachment)) fun c _ => c
  | .tunerStatus => c.take (services .tunerStatus) fun c value =>
    { c with tunerStatus := some value }
  | .tunerShutdown => c.take (services .tunerShutdown) fun c _ => c
  | .cardStatus => c.take (services .cardStatus) fun c value => { c with cardStatus := value }
  | .cardHandleStatus =>
    c.take (services (.handleStatus client task.cardHandle)) fun c value =>
      { c with cardStatus := value }
  | .cardStatusCombined =>
    c.take (services .cardStatus) fun c value =>
      { c with cardStatus := value }.take (services .tunerStatus) fun c value =>
        { c with tunerStatus := some value }
  | .cardPresence => c.take (services .pollPresence) fun c value => { c with cardPresence := value }
  | .cardConnect =>
    c.take (services (.connect client task.shareMode task.cardGenerationBound)) fun c value =>
      { c with cardConnect := value }
  | .cardReconnect =>
    c.take (services (.reconnect client task.cardHandle task.shareMode task.disposition))
      fun c value =>
      { c with atr := value }
  | .cardDisconnect =>
    c.take (services (.disconnect client task.cardHandle task.disposition)) fun c _ => c
  | .cardReset => c.take (services (.reset client task.cardHandle)) fun c value =>
    { c with atr := value }
  | .cardTransmit =>
    c.take (services (.transmit client task.cardHandle task.apdu kMaxCardPayload)) fun c value =>
      { c with cardResponse := value.val }
  | .cardBeginTransaction =>
    c.take (services (.beginTransaction client task.cardHandle)) fun c _ => c
  | .cardEndTransaction =>
    c.take (services (.endTransaction client task.cardHandle task.disposition)) fun c _ => c
  | .cardReleaseConnection => c.take (services (.releaseConnection client)) fun c _ => c
  | .cardShutdown => c.take (services .cardShutdown) fun c _ => c

/-- The operations after which `execute` asks for the state of the receivers. -/
def ControlWorkerOperation.reportsStatus : ControlWorkerOperation → Bool
  | .tunerAcquire | .tunerRelease | .tunerTune | .tunerStartStream | .tunerStopStream | .tunerStats
  | .tunerAttachStream | .tunerDetachStream => true
  | _ => false

/-- `execute`. -/
def execute (services : Services) (task : ControlWorkerTask) : ControlWorkerCompletion :=
  let c := executeOperation services task
  if task.operation.reportsStatus then
    match services .tunerStatus with
    | .ok status => { c with tunerStatus := some status }
    | .error e => if c.error = none then { c with error := some e } else c
  else c

end Px4.Control
