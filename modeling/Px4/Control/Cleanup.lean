import Px4.Control.Streams

/-!
# Completions of the lanes (`control_server.cpp`)

A completion is answered to its client, or belongs to what is left of a client that has gone: a
`RetiredClient`, whose leases and card connection are given back by tasks of their own.
-/

namespace Px4.Control

open Ipc Lib

/-- `retired_cleanup_done`. -/
def RetiredClient.cleanupDone (r : RetiredClient) : Bool :=
  !r.waitingRequest && !r.cardPending && (Slots.entries r.leases).isEmpty

/-- The task that gives a lease back. -/
def releaseTask (clientId : UInt64) (lease : RetiredLease) : ControlWorkerTask where
  kind := .cleanup
  operation := .tunerRelease
  clientId := clientId
  receiver := lease.receiver
  leaseId := lease.leaseId

/-- The task that gives the card connection back. -/
def fenceTask (clientId : UInt64) : ControlWorkerTask where
  kind := .cleanup
  operation := .cardReleaseConnection
  clientId := clientId

/-- The leases of a client, when it goes. -/
def retireLeases (leases : List LeaseRecord) : Slots RetiredLease :=
  leases.foldl (fun t lease => (Slots.insert ⟨lease.leaseId, lease.receiver, false⟩ t).getD t)
    (.free kReceiverCount)

namespace Serve

/-! ## Clients that have gone -/

/-- `all_retired_cleanup_done`. -/
def allRetiredCleanupDone : Serve Bool := do
  let s ← get
  return (Slots.entries s.retiredClients).all RetiredClient.cleanupDone &&
    (Slots.entries s.retiredStreams).all RetiredStream.cleanupDone

/-- `reap_retired`. -/
def reapRetired : Serve Unit :=
  modify fun s =>
    { s with
      retiredClients := Slots.clear RetiredClient.cleanupDone s.retiredClients
      retiredStreams := Slots.clear RetiredStream.cleanupDone s.retiredStreams }

/-- The lease in a slot of a retired client. -/
def retryRelease (slot i : Nat) : Serve Unit := do
  let s ← get
  match s.retiredClients[slot]?.join with
  | none => return
  | some retired =>
    match retired.leases[i]?.join with
    | none => return
    | some lease =>
      if lease.queued then return
      if ← queueCleanupTask (releaseTask retired.clientId lease) then
        modify fun s =>
          { s with
            retiredClients := Slots.change slot
              (fun r =>
                { r with leases := Slots.change i (fun l => { l with queued := true }) r.leases })
              s.retiredClients }

/-- The card connection of a retired client. -/
def retryFence (slot : Nat) : Serve Unit := do
  let s ← get
  match s.retiredClients[slot]?.join with
  | none => return
  | some retired =>
    if !retired.cardPending || retired.cardQueued then return
    if ← queueCleanupTask (fenceTask retired.clientId) then
      modify fun s =>
        { s with retiredClients :=
          Slots.change slot (fun r => { r with cardQueued := true }) s.retiredClients }

/-- `retry_retired_cleanup`. -/
def retryRetiredCleanup : Serve Unit := do
  (List.range kRetiredClientCapacity).forM fun slot => do
    (List.range kReceiverCount).forM (retryRelease slot)
    retryFence slot
  retryStreamCleanup

/-- `remove_client`. -/
def removeClient (id : UInt64) : Serve Unit := do
  let s ← get
  match s.clients.find? (·.id == id) with
  | none => return
  | some client =>
    let record : RetiredClient :=
      { clientId := id
        waitingRequest := client.outstanding.isSome
        cardPending := true
        leases := retireLeases (Slots.entries client.leases) }
    match Slots.insert record s.retiredClients with
    | none => recordError .internal
    | some retiredClients => set { s with retiredClients }
    modify fun s => { s with clients := s.clients.eraseP (·.id == id) }
    retryRetiredCleanup

/-- `remove_pending_clients`. -/
def removePendingClients : Serve Unit := do
  let s ← get
  s.pendingRemovals.forM removeClient
  modify fun s => { s with pendingRemovals := [] }

/-- `handle_cleanup_completion`. -/
def handleCleanupCompletion (completion : ControlWorkerCompletion) : Serve Unit := do
  match ← retired? completion.clientId with
  | none => return
  | some retired =>
    match completion.operation with
    | .tunerRelease =>
      notifyStreamDetachedByIdentity completion.clientId.toNat completion.leaseId.toNat
      modifyRetired retired.clientId fun r =>
        { r with leases := Slots.erase (·.leaseId == completion.leaseId) r.leases }
      recordUnlessNotFound completion.error
    | .cardReleaseConnection =>
      modifyRetired retired.clientId fun r => { r with cardPending := false }
      recordUnlessNotFound completion.error
    | _ => return

/-- `add_orphan_lease`. -/
def addOrphanLease (id : UInt64) (receiver : UInt8) (leaseId : UInt64) : Serve Unit := do
  match ← retired? id with
  | none => return
  | some retired =>
    match Slots.insert ⟨leaseId, receiver, false⟩ retired.leases with
    | some leases => modifyRetired id fun r => { r with leases }
    | none => recordError .internal

/-- `handle_orphan_completion`. -/
def handleOrphanCompletion (completion : ControlWorkerCompletion) (id : UInt64) : Serve Unit := do
  modifyRetired id fun r => { r with waitingRequest := false }
  if completion.operation = .tunerAcquire ∧ completion.error = none then
    addOrphanLease id completion.receiver completion.tunerAcquire.leaseId
  handleCleanupCompletion completion

/-! ## Completions of clients -/

/-- A lease that could not be recorded: it is given back as that of a retired client. -/
def giveBack (id : UInt64) (receiver : UInt8) (leaseId : UInt64) : Serve Unit := do
  let s ← get
  let record : RetiredClient := { clientId := id, leases := retireLeases [⟨leaseId, receiver⟩] }
  match Slots.insert record s.retiredClients with
  | none => pure ()
  | some retiredClients => set { s with retiredClients }
  retryRetiredCleanup

/-- The part of `send_completion` for a completion that reports an error: what the client has given
up. -/
def forget (id : UInt64) (outstanding : Outstanding) (completion : ControlWorkerCompletion)
    (error : Error) :
    Serve Unit :=
  match completion.operation with
  | .tunerRelease => modifyClient id fun c => c.removeLease outstanding.leaseId
  | .cardDisconnect =>
    if error ≠ .notFound ∧ error ≠ .busy ∧ error ≠ .invalidArgument then
      modifyClient id fun c => { c with cardHandles := c.cardHandles.erase completion.cardHandle }
    else return
  | _ => return

/-- The part of `send_completion` for a completion that reports no error. -/
def sendResult (id : UInt64) (outstanding : Outstanding) (completion : ControlWorkerCompletion) :
    Serve (Result Unit) := do
  let type := outstanding.type
  let requestId := completion.requestId
  match completion.operation with
  | .tunerAcquire =>
    let lease := completion.tunerAcquire
    match (← client? id).bind (·.addLease completion.receiver lease.leaseId) with
    | none =>
      let sent ← sendError id type requestId .internal
      giveBack id completion.receiver lease.leaseId
      return sent
    | some client =>
      modifyClient id fun _ => client
      sendPayload id type .response requestId
        (encodeAcquireResponsePayload ⟨lease.leaseId, lease.nonce⟩)
  | .tunerRelease =>
    modifyClient id fun c => c.removeLease outstanding.leaseId
    sendEmpty id type requestId
  | .tunerTune =>
    sendPayload id type .response requestId (encodeTuneResponsePayload completion.tuneResponse)
  | .tunerStartStream => sendEmpty id type requestId
  | .tunerStopStream =>
    match completion.streamFinalSnapshot with
    | none => sendError id type requestId .internal
    | some snapshot =>
      sendPayload id type .response requestId
        (encodeCountersPayload (countersPayload snapshot.counters))
  | .tunerStats =>
    sendPayload id type .response requestId
      (encodeCountersPayload (countersPayload completion.streamCounters))
  | .cardStatus | .cardHandleStatus =>
    let status := completion.cardStatus
    observeCardPresence status.present
    sendPayload id type .response requestId
      (encodeCardStatusResponsePayload
        { present := if status.present then 1 else 0
          initialized := if status.initialized then 1 else 0
          readerGeneration := status.readerGeneration
          atr := status.atr })
  | .cardStatusCombined =>
    let status := completion.cardStatus
    observeCardPresence status.present
    observeStatus completion.tunerStatus
    let s ← get
    sendPayload id type .response requestId
      (encodeStatusResponsePayload
        { generation := s.generation
          ready := if s.config.ready then 1 else 0
          usbPresentMask := s.config.usbPresentMask
          cardPresent := if status.present then 1 else 0
          cardInitialized := if status.initialized then 1 else 0
          receiverStates := (completion.tunerStatus.getD {}).receiverStates
          usbErrors := 0
          protocolErrors := 0 })
  | .cardConnect =>
    let value := completion.cardConnect
    modifyClient id fun c => { c with cardHandles := c.cardHandles ++ [value.handle] }
    sendPayload id type .response requestId
      (encodeCardConnectResponsePayload ⟨value.handle, value.atr⟩)
  | .cardReconnect | .cardReset =>
    sendPayload id type .response requestId (encodeAtrPayload ⟨completion.atr⟩)
  | .cardDisconnect =>
    modifyClient id fun c => { c with cardHandles := c.cardHandles.erase completion.cardHandle }
    sendEmpty id type requestId
  | .cardTransmit =>
    sendPayload id type .response requestId
      (encodeCardTransmitResponsePayload ⟨completion.cardResponse⟩)
  | .cardBeginTransaction | .cardEndTransaction => sendEmpty id type requestId
  | .tunerAttachStream | .tunerDetachStream | .tunerStatus | .tunerShutdown | .cardPresence
  | .cardReleaseConnection | .cardShutdown => return .error .internal

/-- `send_completion`. -/
def sendCompletion (id : UInt64) (outstanding : Outstanding)
    (completion : ControlWorkerCompletion) : Serve Unit := do
  let sent ←
    match completion.error with
    | some e => do
      forget id outstanding completion e
      sendError id outstanding.type completion.requestId e
    | none => sendResult id outstanding completion
  modifyClient id fun c => { c with outstanding := none }
  match sent with
  | .ok () => pure ()
  | .error _ => scheduleRemove id
  flushEvents

/-- `handle_completion`, of a request of a client that is there. -/
def handleClientCompletion (client : Client) (completion : ControlWorkerCompletion) :
    Serve Unit := do
  if !client.matches completion then return
  observeStatus completion.tunerStatus
  sendCompletion client.id
    (client.outstanding.getD ⟨.status, .tunerStatus, 0, 0, 0⟩) completion
  match completion.operation, completion.streamFinalSnapshot with
  | .tunerStopStream, some snapshot =>
    notifyStreamDetached completion.clientId.toNat completion.leaseId.toNat snapshot
  | .tunerStopStream, none | .tunerRelease, _ =>
    notifyStreamDetachedByIdentity completion.clientId.toNat completion.leaseId.toNat
  | _, _ => return

/-- `handle_completion`, of a request of a client. -/
def handleRequestCompletion (completion : ControlWorkerCompletion) : Serve Unit := do
  match ← retired? completion.clientId with
  | some retired =>
    handleOrphanCompletion completion retired.clientId
    retryRetiredCleanup
    observeStatus completion.tunerStatus
  | none =>
    match ← client? completion.clientId with
    | some client => handleClientCompletion client completion
    | none => if completion.operation = .tunerAcquire ∧ completion.error = none then
      recordError .internal

/-- `handle_completion`, of a task of the server's own. -/
def handleBackgroundCompletion (completion : ControlWorkerCompletion) : Serve Unit := do
  match completion.operation with
  | .cardPresence =>
    modify fun s => { s with presencePollPending := false }
    match completion.error with
    | none => observeCardChange completion.cardPresence
    | some e => recordError e
    let now ← ask .now
    modify fun s => { s with nextPresencePoll := now + kPresencePollIntervalMs }
  | .tunerShutdown =>
    modify fun s => { s with tunerShutdownPending := false, tunerShutdownComplete := true }
    match completion.error with
    | none => return
    | some e => recordError e
  | .cardShutdown =>
    modify fun s => { s with cardShutdownPending := false, cardShutdownComplete := true }
    match completion.error with
    | none => return
    | some e => recordError e
  | _ => return

/-- `handle_completion`, of a task that gives something back. -/
def handleCleanup (completion : ControlWorkerCompletion) : Serve Unit :=
  match completion.operation with
  | .tunerDetachStream => handleStreamCleanupCompletion completion
  | .tunerRelease | .cardReleaseConnection => do
    handleCleanupCompletion completion
    observeStatus completion.tunerStatus
  | _ => return

/-- The operations that `handle_completion` asks for in the background. -/
def isBackground (completion : ControlWorkerCompletion) : Bool :=
  completion.kind == .background &&
    (completion.operation == .cardPresence || completion.operation == .tunerShutdown ||
      completion.operation == .cardShutdown)

/-- `handle_completion`. -/
def handleCompletion (completion : ControlWorkerCompletion) : Serve Unit :=
  if isBackground completion then handleBackgroundCompletion completion
  else if completion.operation = .tunerAttachStream then handleStreamCompletion completion
  else if completion.kind = .cleanup then handleCleanup completion
  else handleRequestCompletion completion

end Serve

end Px4.Control
