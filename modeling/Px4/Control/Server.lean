import Px4.Control.Cleanup

/-!
# The control server (`control_server.cpp`)

`poll_once` and `shutdown`, by one thread. A loop that ends only when the surroundings let it takes
`fuel`.
-/

namespace Px4.Control

open Ipc Lib

/-- `any_card_handles`. -/
def Server.anyCardHandles (s : Server) : Bool := s.clients.any (!·.cardHandles.isEmpty)

/-- `wait_ms`. -/
def Server.waitTime (s : Server) (timeout now : Nat) : Nat :=
  if !s.anyCardHandles then timeout
  else if s.nextPresencePoll ≤ now then if s.presencePollPending then timeout else 0
  else min timeout (s.nextPresencePoll - now)

namespace Serve

/-! ## Completions -/

/-- The completions of a lane: `true` if there are no more. -/
def popAll (lane : ControlWorkerLane) : Nat → Serve Bool
  | 0 => return false
  | fuel + 1 => do
    match ← laneTryPop lane with
    | none => return true
    | some completion =>
      handleCompletion completion
      popAll lane fuel

/-- `process_completions`. -/
def processCompletions (fuel : Nat) : Serve Unit := do
  drainWake fuel
  [ControlWorkerLane.tunerDev1, .tunerDev2, .card].forM fun lane => do
    let _ ← popAll lane fuel
  retryRetiredCleanup
  reapRetired

/-- `schedule_presence_if_due`. -/
def schedulePresenceIfDue (now : Nat) : Serve Unit := do
  let s ← get
  if !s.anyCardHandles || s.presencePollPending || now < s.nextPresencePoll || s.shuttingDown then
    return
  match ← laneSubmit .card { kind := .background, operation := .cardPresence } with
  | .ok () => modify fun s => { s with presencePollPending := true }
  | .error e =>
    if e ≠ .busy then
      recordError e
      modify fun s => { s with nextPresencePoll := now + kPresencePollIntervalMs }

/-! ## New connections -/

/-- The id of a new connection. -/
def nextId : Serve UInt64 := do
  let s ← get
  if s.nextClientId = 0xffffffffffffffff then set { s with clientIdsExhausted := true }
  else set { s with nextClientId := s.nextClientId + 1 }
  return s.nextClientId

/-- `retired_slot_available`. -/
def retiredSlotAvailable : Serve Bool := do
  let s ← get
  return s.clients.length + (Slots.entries s.retiredClients).length < kRetiredClientCapacity

/-- One connection of `accept_ready`. -/
def acceptClient : Serve Unit := do
  let s ← get
  let capacity := s.clients.length < kMaxControlConnections && (← retiredSlotAvailable)
  if !capacity || s.clientIdsExhausted then return
  let id ← nextId
  if ← ask .allocate then modify fun s => { s with clients := s.clients ++ [{ id }] }
  else recordError .internal

/-- One connection of `accept_stream_ready`. -/
def acceptStream : Serve Unit := do
  let s ← get
  if kMaxStreamConnections ≤ s.streamClients.length || !(← streamRetiredCapacityAvailable) ||
    s.clientIdsExhausted then
    return
  let id ← nextId
  if ← ask .allocate then modify fun s => { s with streamClients := s.streamClients ++ [{ id }] }
  else recordError .internal

/-- `accept_ready`. -/
def acceptReady : Nat → Serve (Result Unit)
  | 0 => return .ok ()
  | fuel + 1 => do
    match ← ask .accept with
    | .error e => return if e = .timeout then .ok () else .error e
    | .ok () =>
      acceptClient
      acceptReady fuel

/-- `accept_stream_ready`. -/
def acceptStreamReady : Nat → Serve (Result Unit)
  | 0 => return .ok ()
  | fuel + 1 => do
    match ← ask .acceptStream with
    | .error e => return if e = .timeout then .ok () else .error e
    | .ok () =>
      acceptStream
      acceptStreamReady fuel

/-! ## Connections that are ready -/

/-- The read of a client: whether the connection is to go. -/
def readClient (id : UInt64) : Serve Bool := do
  let read ← readReady id
  let client ← client? id
  return !read.isOk || client.all Client.closed

/-- What `poll_once` does with the client at an index. -/
def serveClient (polled : Polled) (index : Nat) : Serve Unit := do
  let s ← get
  let events := polled.clients index
  match s.clients[index]? with
  | none => return
  | some client =>
    let id := client.id
    if ← if events.pollNval then pure true
      else if events.pollIn || events.pollHup || events.pollErr then readClient id
      else pure false then
      modifyClient id fun c => { c with valid := false }
      scheduleRemove id

/-- The write of a stream connection. -/
def writeStream (id : UInt64) : Serve Unit := do
  match ← stream? id with
  | none => return
  | some client =>
    if client.txPending then
      match ← flush id kStreamWriteBudget with
      | .ok () => return
      | .error _ => requestRemove id

/-- The read of a stream connection. -/
def readStream (id : UInt64) (pollIn : Bool) : Serve Unit := do
  match ← stream? id with
  | none => return
  | some client =>
    if !client.removeRequested && client.canRead && pollIn then
      match ← streamReadReady id with
      | .ok () => return
      | .error e => if e ≠ .timeout then requestRemove id

/-- What the service has read for a stream. -/
def queueStream (id : UInt64) : Serve Unit := do
  let s ← get
  match ← stream? id with
  | none => return
  | some client =>
    if !client.removeRequested &&
        (client.phase == .active || client.phase == .ending && client.finalSnapshot.isSome) &&
        !client.txPending && !client.ackPending then
      let attachment := client.attachment.getD {}
      if !s.config.streamControl then requestRemove id
      else
        match ← ask (.readStream attachment kStreamReadBytes) with
        | .ok ⟨read, _⟩ =>
          if read.output ≠ [] then
            match ← queueData id client.sequence 0 read.output with
            | .ok () => modifyStream id fun c => { c with sequence := c.sequence + 1 }
            | .error _ => requestRemove id
          else if read.eof ∨ read.terminal ≠ .none then
            if client.phase = .active then
              modifyStream id fun c => { c with phase := .ending }
              queueLiveStreamCleanup id
            else modifyStream id fun c => { c with dataEof := true }
        | .error .notFound =>
          if client.phase = .ending then modifyStream id fun c => { c with dataEof := true }
          else notifyStreamDetachedByIdentity attachment.ownerClientId attachment.leaseId
        | .error e =>
          if e ≠ .timeout then
            recordError e
            requestRemove id

/-- The end of a stream. -/
def queueStreamEnd (id : UInt64) : Serve Unit := do
  match ← stream? id with
  | none => return
  | some client =>
    match client.finalSnapshot with
    | none => return
    | some snapshot =>
      if !client.removeRequested && client.phase == .ending && client.dataEof &&
        !client.endQueued &&
          !client.txPending then
        match ← queueEnd id ⟨countersPayload snapshot.counters,
          streamEndError snapshot.terminal⟩ with
        | .ok () => modifyStream id fun c => { c with endQueued := true }
        | .error _ => requestRemove id

/-- `process_stream_clients`, of the connection at an index. -/
def serveStream (polled : Polled) (index : Nat) : Serve Unit := do
  let s ← get
  let events := polled.streams index
  match s.streamClients[index]? with
  | none => return
  | some client =>
    let id := client.id
    if events.pollHup || events.pollErr || events.pollNval then requestRemove id
    else
      writeStream id
      readStream id events.pollIn
      queueStream id
      queueStreamEnd id
    if (← stream? id).any (·.removeRequested) then scheduleStreamRemove id

/-! ## `poll_once` -/

/-- The error of the cleanup, once. -/
def takeError : Serve (Result Unit) := do
  let s ← get
  set { s with cleanupError := none }
  match s.cleanupError with
  | none => return .ok ()
  | some e => return .error e

/-- `poll_once`, after `poll`. -/
def serve (fuel controlCount streamCount : Nat) (polled : Polled) : Serve (Result Unit) := do
  if polled.wake then processCompletions fuel
  match ← if polled.control.pollIn then acceptReady fuel else pure (.ok ()) with
  | .error e => return .error e
  | .ok () =>
    match ← if polled.stream.pollIn then acceptStreamReady fuel else pure (.ok ()) with
    | .error e => return .error e
    | .ok () =>
      (List.range controlCount).reverse.forM (serveClient polled)
      (List.range streamCount).forM (serveStream polled)
      removePendingClients
      removeStreamClients
      processCompletions fuel
      schedulePresenceIfDue (← ask .now)
      flushEvents
      takeError

/-- `poll_once`. -/
def pollOnce (fuel timeout : Nat) : Serve (Result Unit) := do
  let s ← get
  if s.shutdownComplete then return .error .notReady
  processCompletions fuel
  match ← takeError with
  | .error e => return .error e
  | .ok () =>
    schedulePresenceIfDue (← ask .now)
    let s ← get
    let now ← ask .now
    match ← ask (.poll (s.waitTime timeout now)) with
    | none => return .ok ()
    | some (.error _) => return .error .internal
    | some (.ok polled) => serve fuel s.clients.length s.streamClients.length polled

/-! ## `shutdown` -/

/-- A service that is shut down, unless that is done or on its way. -/
def submitShutdown (done : Bool) (lane : ControlWorkerLane) (operation : ControlWorkerOperation)
    (pending : Server → Server) : Serve Unit := do
  if done then return
  match ← laneSubmit lane { kind := .background, operation } with
  | .ok () => modify pending
  | .error e => recordError e

/-- The services are shut down when nothing else is left to do. -/
def shutServices : Serve Unit := do
  if !(← allRetiredCleanupDone) || !(← lanesIdle) then return
  let s ← get
  submitShutdown (s.tunerShutdownComplete || s.tunerShutdownPending) .tunerDev1
    .tunerShutdown fun s =>
    { s with tunerShutdownPending := true }
  submitShutdown (s.cardShutdownComplete || s.cardShutdownPending) .card .cardShutdown fun s =>
    { s with cardShutdownPending := true }

/-- The loop of `shutdown`: `true` if it has ended. -/
def shutdownLoop : Nat → Serve Bool
  | 0 => return false
  | fuel + 1 => do
    let s ← get
    if (← allRetiredCleanupDone) && s.tunerShutdownComplete && s.cardShutdownComplete &&
      s.streamClients.isEmpty then
      return true
    processCompletions fuel
    retryRetiredCleanup
    let s ← get
    (s.streamClients.map (·.id)).reverse.forM removeStreamClient
    shutServices
    workers
    let s ← get
    if s.lanes.liveThreads = 0 then return true
    match ← ask (.poll 10) with
    | some (.error _) => recordError .internal
    | _ => pure ()
    shutdownLoop fuel

/-- The completions of a lane, which nobody wants any more: whether there were any. -/
def discard (lane : ControlWorkerLane) : Nat → Serve Bool
  | 0 => return false
  | fuel + 1 => do
    match ← laneTryPop lane with
    | none => return false
    | some _ =>
      let _ ← discard lane fuel
      return true

/-- The completions of all lanes. -/
def discardAll (fuel : Nat) : Serve Bool := do
  let dev1 ← discard .tunerDev1 fuel
  let dev2 ← discard .tunerDev2 fuel
  let card ← discard .card fuel
  return dev1 || dev2 || card

/-- The loop of `stop_and_join`: `true` if it has ended. -/
def joinLoop : Nat → Serve Bool
  | 0 => return false
  | fuel + 1 => do
    workers
    let s ← get
    if s.lanes.liveThreads = 0 then return true
    if !(← discardAll fuel) then
      let _ ← ask (.poll 10)
      drainWake fuel
    joinLoop fuel

/-- `stop_and_join`, with the error that it returns, or `none` if its loop has not ended. -/
def stopAndJoin (fuel : Nat) : Serve (Option (Result Unit)) := do
  [ControlWorkerLane.tunerDev1, .tunerDev2, .card].forM laneStop
  if !(← joinLoop fuel) then return none
  let _ ← discardAll fuel
  let fails ← ask .fails
  let s ← get
  match s.lanes.workerError with
  | none => return some (if fails then .error .internal else .ok ())
  | some e => return some (.error e)

/-- What `shutdown` does after its loops. -/
def finishShutdown (joined : Result Unit) : Serve (Result Unit) := do
  match joined with
  | .ok () => pure ()
  | .error e => recordError e
  reapRetired
  modify fun s => { s with shutdownComplete := true }
  takeError

/-- `shutdown`, or `none` if its loops have not ended. -/
def shutdown (fuel : Nat) : Serve (Option (Result Unit)) := do
  let s ← get
  if s.shutdownComplete then return some (.ok ())
  set { s with shuttingDown := true }
  (s.clients.map (·.id)).reverse.forM removeClient
  (s.streamClients.map (·.id)).reverse.forM removeStreamClient
  if !(← shutdownLoop fuel) then return none
  match ← stopAndJoin fuel with
  | none => return none
  | some joined => return some (← finishShutdown joined)

end Serve

/-- After `create`. -/
def Server.create (config : Config) (outside : Outside) (wakeCapacity now : Nat) : Server where
  config := config
  outside := outside
  lanes := { wakeCapacity }
  knownReceiverStates :=
    List.replicate config.receiverCount.toNat .free ++
      List.replicate (kReceiverCount - config.receiverCount.toNat) .absent
  nextPresencePoll := now

/-- A run of calls of `poll_once`, each with the fuel of its loops and a timeout. -/
def Server.run (s : Server) (calls : List (Nat × Nat)) : Server :=
  calls.foldl (fun s (fuel, timeout) => (Serve.pollOnce fuel timeout s).2) s

end Px4.Control
