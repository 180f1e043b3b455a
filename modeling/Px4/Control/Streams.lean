import Px4.Control.Requests

/-!
# Stream connections (`control_server.cpp`)

A stream connection is attached to a lease by a task of a lane, then sends what the service has read
for it, and last the end of the stream. The attachment is given back by another task, also when the
connection has gone: what is left of it is a `RetiredStream` until then.
-/

namespace Px4.Control

open Ipc Lib
open Px4.Stream (TunerAttachment FinalSnapshot StreamTerminal)

/-- `kMaxFrameSize`. -/
def kMaxFrameSize : Nat := kFrameHeaderSize + kMaxTsDataPayload

/-- `tx_pending`. -/
def StreamClient.txPending (c : StreamClient) : Bool := c.txOffset < c.tx.length

/-- `can_read`. -/
def StreamClient.canRead (c : StreamClient) : Bool :=
  if c.phase == .ending || c.closeAfterFlush || c.ackPending then false
  else if c.phase == .attaching then !c.attachSubmitted
  else true

/-- `retired_stream_cleanup_done`. -/
def RetiredStream.cleanupDone (r : RetiredStream) : Bool :=
  !r.waitingAttach && (r.attachment.isNone || r.cleanupComplete)

/-- The task that gives an attachment back. -/
def detachTask (connectionId : UInt64) (attachment : TunerAttachment) : ControlWorkerTask where
  kind := .cleanup
  operation := .tunerDetachStream
  clientId := .ofNat attachment.ownerClientId
  connectionId := connectionId
  receiver := .ofNat attachment.receiver
  attachment := attachment

namespace Serve

/-! ## What a connection sends -/

/-- `queue_encoded`. -/
def queueEncoded (id : UInt64) (type : MessageType) (kind : MessageKind) (requestId : UInt32)
    (encode : Output → Result (List UInt8)) : Serve (Result Unit) := do
  match ← stream? id with
  | none => return .error .internal
  | some client =>
    if client.txPending then return .error .busy
    else match encode ⟨true, kMaxFrameSize - kFrameHeaderSize⟩ with
      | .error e => return .error e
      | .ok payload =>
        match framed type kind requestId payload kMaxFrameSize with
        | .error e => return .error e
        | .ok (frame, bytes) =>
          let (state, accepted) := client.state.processOutbound frame
          modifyStream id fun c => { c with state }
          match accepted with
          | .error e => return .error e
          | .ok _ =>
            modifyStream id fun c =>
              { c with
                tx := bytes, txOffset := 0
                ackPending := type == .attachStream && kind == .response }
            return .ok ()

/-- `request_remove`. -/
def requestRemove (id : UInt64) : Serve Unit :=
  modifyStream id fun c => { c with removeRequested := true }

/-- `if (!queued) client.request_remove()`. -/
def removeUnlessQueued (id : UInt64) (queue : Serve (Result Unit)) : Serve Unit := do
  match ← queue with
  | .ok () => return
  | .error _ => requestRemove id

/-- `queue_empty_response`. -/
def queueEmptyResponse (id : UInt64) (requestId : UInt32) : Serve (Result Unit) :=
  queueEncoded id .attachStream .response requestId encodeEmptyPayload

/-- `queue_error`. -/
def queueError (id : UInt64) (requestId : UInt32) (error : Error) : Serve (Result Unit) := do
  let s ← get
  let result ← queueEncoded id .attachStream .errorResponse requestId
    (encodeErrorResponsePayload ⟨ipcError error, s.config.errorString error⟩)
  modifyStream id fun c => { c with closeAfterFlush := true }
  return result

/-- `queue_data`. -/
def queueData (id : UInt64) (sequence dropCount : UInt64) (bytes : List UInt8) :
    Serve (Result Unit) :=
  queueEncoded id .tsData .event 0 (encodeTsDataEventPayload ⟨sequence, dropCount, bytes⟩)

/-- `queue_end`. -/
def queueEnd (id : UInt64) (payload : StreamEndEventPayload) : Serve (Result Unit) := do
  let result ← queueEncoded id .streamEnd .event 0 (encodeStreamEndEventPayload payload)
  modifyStream id fun c => { c with closeAfterFlush := true }
  return result

/-- The loop of `flush`: `false` if the socket takes no more now. -/
def sendLoop (id : UInt64) : Nat → Nat → Serve (Result Bool)
  | 0, _ => return .ok true
  | fuel + 1, budget => do
    match ← stream? id with
    | none => return .error .internal
    | some client =>
      if !client.txPending || budget == 0 then return .ok true
      else
        match ← ask (.send id ((client.tx.drop client.txOffset).take budget)) with
        | .bytes count =>
          if count.val = 0 then return .error .disconnected
          else do
            modifyStream id fun c => { c with txOffset := c.txOffset + count.val }
            sendLoop id fuel (budget - count.val)
        | .wouldBlock => return .ok false
        | .failed e => return .error e

/-- `flush`. Every `send` that goes on takes from the budget. -/
def flush (id : UInt64) (budget : Nat) : Serve (Result Unit) := do
  match ← sendLoop id budget budget with
  | .error e => return .error e
  | .ok false => return .ok ()
  | .ok true =>
    modifyStream id fun c =>
      if c.txPending then c
      else { c with
        tx := [], txOffset := 0, ackPending := false
        removeRequested := c.removeRequested || c.closeAfterFlush }
    return .ok ()

/-! ## The attachment -/

/-- `queue_cleanup_task`, of a task that is not queued yet: whether it is now. -/
def queueCleanupTask (task : ControlWorkerTask) : Serve Bool := do
  match ← laneSubmit (laneFor task) task with
  | .ok () => return true
  | .error e =>
    if e ≠ .busy then recordError e
    return false

/-- A request to attach that is answered at once. -/
def refuseAttach (id : UInt64) (requestId : UInt32) (error : Error) : Serve Unit := do
  modifyStream id fun c => { c with attachCompletionSeen := true }
  removeUnlessQueued id (queueError id requestId error)

/-- `on_stream_frame`. -/
def onStreamFrame (id : UInt64) (frame : FrameView) : Serve (Result Unit) := do
  match decodeAttachStreamRequestPayload frame.payload with
  | .error _ => return .error .protocolError
  | .ok request =>
    let requestId := frame.header.requestId
    modifyStream id fun c =>
      { c with requestId, leaseId := request.leaseId, nonce := request.nonce }
    let s ← get
    if !s.config.streamControl then refuseAttach id requestId .unsupported
    else
      match s.clients.findSome? fun c => (c.findLease request.leaseId).map fun receiver =>
        (c.id, receiver) with
      | none => refuseAttach id requestId .notFound
      | some (ownerClientId, receiver) =>
        modifyStream id fun c => { c with ownerClientId, receiver }
        let task : ControlWorkerTask :=
          { type := .attachStream, kind := .clientRequest, operation := .tunerAttachStream
            clientId := id, connectionId := id, requestId, receiver
            leaseId := request.leaseId, nonce := request.nonce }
        match ← laneSubmit (laneFor task) task with
        | .ok () => modifyStream id fun c => { c with attachSubmitted := true }
        | .error e => refuseAttach id requestId e
    return .ok ()

/-- `StreamClient::on_frame`. -/
def onAttachFrame (id : UInt64) (frame : FrameView) : Serve (Result Unit) := do
  match ← stream? id with
  | none => return .error .internal
  | some client =>
    let (state, accepted) := client.state.processInbound frame
    modifyStream id fun c => { c with state }
    match accepted with
    | .error e => return .error e
    | .ok result =>
      if result.event ≠ .attachResponseRequired then return .error .protocolError
      else onStreamFrame id frame

/-- `StreamClient::read_ready`. -/
def streamReadReady (id : UInt64) : Serve (Result Unit) := do
  let (frames, last) ← ask (.read id)
  onFrames (onAttachFrame id) frames last

/-- `begin_stream_end`. -/
def beginStreamEnd (id : UInt64) (snapshot : FinalSnapshot) : Serve Unit :=
  modifyStream id fun c =>
    if c.endQueued || c.removeRequested then c
    else { c with finalSnapshot := some snapshot, dataEof := false, phase := .ending }

/-- The attachment is of this client and lease. -/
def isAttachment (ownerClientId leaseId : Nat) (attachment : Option TunerAttachment) : Bool :=
  match attachment with
  | none => false
  | some a => a.ownerClientId == ownerClientId && a.leaseId == leaseId

/-- `notify_stream_detached`. -/
def notifyStreamDetached (ownerClientId leaseId : Nat) (snapshot : FinalSnapshot) : Serve Unit := do
  let s ← get
  s.streamClients.forM fun c =>
    if isAttachment ownerClientId leaseId c.attachment then beginStreamEnd c.id snapshot else return

/-- A stream ends with what the service kept of it. -/
def endWithSnapshot (id : UInt64) (attachment : TunerAttachment) : Serve Unit := do
  match ← ask (.finalSnapshot attachment) with
  | .ok snapshot => beginStreamEnd id snapshot
  | .error e =>
    recordError e
    requestRemove id

/-- `notify_stream_detached_by_identity`. -/
def notifyStreamDetachedByIdentity (ownerClientId leaseId : Nat) : Serve Unit := do
  let s ← get
  s.streamClients.forM fun c =>
    match c.attachment with
    | none => return
    | some attachment =>
      if attachment.ownerClientId ≠ ownerClientId ∨ attachment.leaseId ≠ leaseId then return
      else if !s.config.streamControl then do
        recordError .internal
        requestRemove c.id
      else endWithSnapshot c.id attachment

/-- `handle_stream_completion`, of a connection that waits for it. -/
def attachLive (client : StreamClient) (completion : ControlWorkerCompletion) : Serve Unit := do
  let id := client.id
  modifyStream id fun c => { c with attachCompletionSeen := true }
  match completion.error, completion.tunerAttachment with
  | none, some attachment =>
    modifyStream id fun c =>
      { c with
        attachment := some attachment
        ownerClientId := .ofNat attachment.ownerClientId
        receiver := .ofNat attachment.receiver }
    match ← queueEmptyResponse id client.requestId with
    | .ok () => modifyStream id fun c => { c with phase := .active }
    | .error _ =>
      requestRemove id
      let _ ← ask (.revokeStream (.ofNat attachment.ownerClientId) (.ofNat attachment.leaseId) none)
  | error, _ => removeUnlessQueued id (queueError id client.requestId (error.getD .internal))

/-- `handle_stream_completion`, of a connection that has gone. -/
def attachRetired (retired : RetiredStream) (completion : ControlWorkerCompletion) :
    Serve Unit := do
  let id := retired.connectionId
  modifyRetiredStream id fun r => { r with waitingAttach := false }
  match completion.error, completion.tunerAttachment with
  | none, some attachment =>
    modifyRetiredStream id fun r => { r with attachment := some attachment }
    if retired.cleanupQueued then return
    if ← queueCleanupTask (detachTask id attachment) then
      modifyRetiredStream id fun r => { r with cleanupQueued := true }
  | _, _ =>
    modify fun s => { s with retiredStreams := Slots.erase (·.connectionId == id) s.retiredStreams }

/-- `handle_stream_completion`. -/
def handleStreamCompletion (completion : ControlWorkerCompletion) : Serve Unit := do
  observeStatus completion.tunerStatus
  match (← stream? completion.connectionId).filter
      (fun c => c.phase == .attaching && c.requestId == completion.requestId) with
  | some client => attachLive client completion
  | none =>
    match ← retiredStream? completion.connectionId with
    | some retired => attachRetired retired completion
    | none => if completion.error = none ∧ completion.tunerAttachment.isSome then
      recordError .internal

/-- `release_final`, if there is an attachment, with the errors that do not matter. -/
def releaseFinal (attachment : Option TunerAttachment) : Serve Unit := do
  let s ← get
  match attachment with
  | none => return
  | some attachment =>
    if s.config.streamControl then
      match ← ask (.releaseFinal attachment) with
      | .ok () => return
      | .error e => if e ≠ .unsupported ∧ e ≠ .notFound then recordError e

/-- An error other than that there was nothing to do. -/
def recordUnlessNotFound (error : Option Error) : Serve Unit :=
  match error with
  | none => return
  | some e => if e ≠ .notFound then recordError e else return

/-- `handle_stream_cleanup_completion`. -/
def handleStreamCleanupCompletion (completion : ControlWorkerCompletion) : Serve Unit := do
  let id := completion.connectionId
  let s ← get
  recordUnlessNotFound completion.error
  match ← stream? id with
  | some client =>
    modifyStream id fun c =>
      { c with cleanupQueued := false, cleanupPending := false, cleanupComplete := true }
    if !s.config.streamControl then requestRemove id
    else endWithSnapshot id (client.attachment.getD {})
  | none =>
    match ← retiredStream? id with
    | none => return
    | some retired =>
      releaseFinal retired.attachment
      modify fun s =>
        { s with retiredStreams := Slots.erase (·.connectionId == id) s.retiredStreams }

/-- `retry_stream_cleanup`, of the retired stream in one slot. -/
def retryRetiredStream (slot : Nat) : Serve Unit := do
  let s ← get
  match s.retiredStreams[slot]?.join with
  | none => return
  | some retired =>
    if retired.waitingAttach || retired.cleanupQueued then return
    match retired.attachment with
    | none => return
    | some attachment =>
      if ← queueCleanupTask (detachTask retired.connectionId attachment) then
        modify fun s =>
          { s with retiredStreams :=
            Slots.change slot (fun r => { r with cleanupQueued := true }) s.retiredStreams }

/-- `queue_cleanup_task`, for a connection that is there. -/
def queueStreamCleanup (id : UInt64) (attachment : TunerAttachment) : Serve Unit := do
  if ← queueCleanupTask (detachTask id attachment) then modifyStream id fun c =>
    { c with cleanupQueued := true }

/-- `retry_stream_cleanup`, of a connection that is there. -/
def retryLiveStream (client : StreamClient) : Serve Unit :=
  if !client.cleanupPending || client.cleanupQueued then return
  else match client.attachment with
    | none => return
    | some attachment => queueStreamCleanup client.id attachment

/-- `retry_stream_cleanup`. -/
def retryStreamCleanup : Serve Unit := do
  (List.range kRetiredClientCapacity).forM retryRetiredStream
  let s ← get
  s.streamClients.forM retryLiveStream

/-- `revoke_stream`, with the error that does not matter. -/
def revokeStream (client : StreamClient) : Serve Unit := do
  if client.ownerClientId ≠ 0 ∧ client.leaseId ≠ 0 then
    match ← ask (.revokeStream client.ownerClientId client.leaseId (some client.nonce)) with
    | .ok () => return
    | .error e => recordUnlessNotFound (some e)

/-- `queue_live_stream_cleanup`. -/
def queueLiveStreamCleanup (id : UInt64) : Serve Unit := do
  match ← stream? id with
  | none => return
  | some client =>
    if client.cleanupComplete || client.cleanupPending then return
    revokeStream client
    modifyStream id fun c => { c with cleanupPending := true }
    match client.attachment with
    | none => modifyStream id fun c => { c with cleanupComplete := true }
    | some attachment => if !client.cleanupQueued then queueStreamCleanup id attachment

/-- `stream_retired_capacity_available`. -/
def streamRetiredCapacityAvailable : Serve Bool := do
  let s ← get
  return s.streamClients.length + (Slots.entries s.retiredStreams).length < kRetiredClientCapacity

/-- `begin_stream_cleanup`. -/
def beginStreamCleanup (client : StreamClient) : Serve Unit := do
  if client.cleanupComplete || client.cleanupPending then return
  revokeStream client
  if !(← streamRetiredCapacityAvailable) then recordError .internal
  else
    let s ← get
    let record : RetiredStream :=
      { connectionId := client.id, ownerClientId := client.ownerClientId, leaseId := client.leaseId
        receiver := client.receiver
        waitingAttach := client.attachSubmitted && !client.attachCompletionSeen
        cleanupComplete := client.attachment.isNone, attachment := client.attachment }
    match Slots.insert record s.retiredStreams with
    | none => recordError .internal
    | some retiredStreams =>
      set { s with retiredStreams }
      match client.attachment with
      | none => return
      | some attachment =>
        if ← queueCleanupTask (detachTask client.id attachment) then
          modifyRetiredStream client.id fun r => { r with cleanupQueued := true }

/-- `schedule_stream_remove`. -/
def scheduleStreamRemove (id : UInt64) : Serve Unit := do
  let s ← get
  if id ∈ s.pendingStreamRemovals then return
  if s.pendingStreamRemovals.length < kMaxStreamConnections then
    set { s with pendingStreamRemovals := s.pendingStreamRemovals ++ [id] }
  else recordError .internal

/-- `remove_stream_client`. -/
def removeStreamClient (id : UInt64) : Serve Unit := do
  let s ← get
  match s.streamClients.find? (·.id == id) with
  | none => return
  | some client =>
    if client.cleanupComplete then releaseFinal client.attachment
    if !client.cleanupComplete && (client.attachment.isSome || client.phase == .attaching) then
      beginStreamCleanup client
    modify fun s => { s with streamClients := s.streamClients.eraseP (·.id == id) }
    retryStreamCleanup

/-- `remove_stream_clients`. -/
def removeStreamClients : Serve Unit := do
  let s ← get
  s.pendingStreamRemovals.forM removeStreamClient
  modify fun s => { s with pendingStreamRemovals := [] }

end Serve

end Px4.Control
