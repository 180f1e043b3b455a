import Px4.Stream.Session
import Px4.Usb.Stream

/-!
# Bridges and their pumps (`q3u4_stream.cpp`)

The lifecycle of one bridge of the data plane: `attach`, `detach` and `shutdown` by any number of
client threads, the pump (`Bridge::run`), the cleanup they share with it, and libusb's callbacks. A
step of a thread is what it does under one lock, the bridge's `lifecycle` or the transport's
`stream_gate_`, or between two; a thread that would block does not step. Threads are numbered, and
each is at the point its `Client` says. What the pump's packets do to the sessions is in
`Px4.Stream.Session`; here a session is the attachment it has.
-/

namespace Px4.Stream

open Usb

/-! ## Cleanup -/

/-- Where a thread is in `cancel_stream`, the join if there is one, `stop_stream`: before a call,
inside its drain, or past both. -/
inductive Cleanup
  | cancel
  | cancelDrain (drain : Drain)
  | join (first : Option Error)
  | stop (first : Option Error)
  | stopDrain (first : Option Error) (drain : Drain)
  | ended (first : Option Error)
  deriving DecidableEq

/-- The error of a result. -/
def errorOf : Result Unit → Option Error
  | .ok _ => none
  | .error e => some e

/-- A thread's place after its part of a cancel. -/
def Cleanup.after (drain : Drain → Cleanup) (ended : Option Error → Cleanup) :
    Transport × DrainOutcome → Transport × Cleanup
  | (t, .again d) => (t, drain d)
  | (t, .ended result) => (t, ended (errorOf result))

/-- The next part of a cleanup, a join apart. -/
def Cleanup.step (env : CancelEnv) (t : Transport) : Cleanup → Transport × Cleanup
  | .cancel => after .cancelDrain .join (t.cancelStream env)
  | .cancelDrain d => after .cancelDrain .join (t.drainResume env d)
  | .join first => (t, .stop first)
  | .stop first => after (.stopDrain first) (fun e => .ended (first.or e)) (t.cancelStream env)
  | .stopDrain first d =>
    after (.stopDrain first) (fun e => .ended (first.or e)) (t.drainResume env d)
  | .ended first => (t, .ended first)

/-! ## Bridges and threads -/

/-- `Bridge::State`. -/
inductive BridgeState
  | stopped | starting | running | stopping | fatal
  deriving DecidableEq, Repr

/-- The lifecycle members of `Bridge`; `thread` says whether there is a thread object to join. -/
structure Bridge where
  state : BridgeState := .stopped
  thread : Bool := false
  stopRequested : Bool := false
  joinInProgress : Bool := false
  cleanupDone : Bool := false
  cleanupError : Option Error := none
  attachedCount : Nat := 0
  deriving DecidableEq

/-- Where the pump is. `pushing` lasts from the return of `wait_stream` to that of `demux.push`. -/
inductive Pump
  | none
  | top
  | wait
  | events
  | pushing (event : StreamEvent)
  | failing
  | cleaning (phase : Cleanup)
  | done
  deriving DecidableEq

/-- What `stop_bridge` has claimed: the thread to join, the cleanup. -/
structure Claim where
  thread : Bool
  cleanup : Bool
  deriving DecidableEq

/-- Where a client thread is. In `startDraining` and `startCleanup`, parts of `attach`, it holds the
lifecycle lock. -/
inductive Client
  | idle
  | startDraining (receiver : Nat) (drain : Drain)
  | startCleanup (receiver : Nat) (phase : Cleanup)
  | shutdown
  | stopBridge (ownsStopping : Bool)
  | stopping (claim : Claim) (phase : Cleanup)
  | returning (result : Result Unit)
  deriving DecidableEq

/-- One bridge, its sessions' attachments, its transport and the threads; `lifecycleHeld` says that
an attach holds the lifecycle lock between its steps. -/
structure Plane where
  bridge : Bridge := {}
  sessions : Nat → Option TunerAttachment := fun _ => none
  enclosureFatal : Bool := false
  shuttingDown : Bool := false
  transport : Transport := {}
  pump : Pump := .none
  clients : Nat → Client := fun _ => .idle
  lifecycleHeld : Bool := false

/-- What `attach` meets: a session that refuses, the stream, the thread object. -/
structure BridgeAttachEnv where
  refused : Bool := false
  start : StartEnv
  threadAllocated : Bool := true

/-- What the pump meets: a submission, the result of `handle_events`, that of `demux.push`, a
cancel. -/
structure PumpEnv where
  submit : Submit := {}
  events : Int := 0
  push : Result Unit := .ok ()
  cancel : CancelEnv := {}

namespace Plane

variable (s : Plane)

def setClient (client : Nat) (point : Client) : Plane :=
  { s with clients := Function.update s.clients client point }

/-- The lifecycle lock is free and the bridge is not in transition. -/
def settled : Bool :=
  !s.lifecycleHeld && s.bridge.state != .starting && s.bridge.state != .stopping

/-! ### Attach -/

/-- The configuration that `start_bridge_locked` asks for. -/
def streamConfig : StreamConfig := ⟨kTsInEndpoint, 188 * 816, 6⟩

/-- An attach ends without success: the session is not attached. -/
def refuse (client receiver : Nat) : Plane :=
  { s.setClient client .idle with
    sessions := Function.update s.sessions receiver none, lifecycleHeld := false }

/-- `start_bridge_locked` after `start_stream`, and the end of the attach. -/
def startThread (client receiver : Nat) (threadAllocated : Bool) : Plane :=
  if threadAllocated then
    { s with
      bridge := { s.bridge with
        state := .running, stopRequested := false, thread := true
        attachedCount := s.bridge.attachedCount + 1 }
      pump := .top }
  else
    { s.setClient client (.startCleanup receiver .cancel) with
      bridge := { s.bridge with state := .stopping, stopRequested := true }
      lifecycleHeld := true }

/-- `start_bridge_locked` at `start_stream`. -/
def startBridge (client receiver : Nat) (env : BridgeAttachEnv) : Plane :=
  if s.bridge.state ≠ .stopped ∨ s.bridge.thread = true then s.refuse client receiver
  else
    let bridge :=
      { s.bridge with state := .starting, cleanupDone := false, cleanupError := none }
    match s.transport.startStream streamConfig env.start with
    | (transport, .ended (.ok ())) =>
      { s with bridge, transport }.startThread client receiver env.threadAllocated
    | (transport, .ended (.error _)) =>
      { s with bridge := { bridge with state := .stopped }, transport }.refuse client receiver
    | (transport, .draining d _) =>
      { s.setClient client (.startDraining receiver d) with
        bridge, transport, lifecycleHeld := true }

/-- Is this the attachment of a receiver that the bridge at `index` serves? -/
def serves (cfg : Config) (index : Nat) (attachment : TunerAttachment) : Bool :=
  validReceiver cfg.layout attachment.receiver &&
    attachment.receiver / cfg.layout.receiversPerBridge == index

/-- `attach`. -/
def attach (cfg : Config) (index client : Nat) (attachment : TunerAttachment)
    (env : BridgeAttachEnv) : Plane :=
  if attachment.ownerClientId = 0 ∨ attachment.leaseId = 0 ∨ attachment.attachmentId = 0 ∨
      serves cfg index attachment = false ∨
      validSystem cfg.layout attachment.receiver attachment.system = false then s
  else if s.clients client ≠ .idle ∨ s.settled = false then s
  else if s.shuttingDown || s.enclosureFatal || s.bridge.state == .fatal then s
  else if s.bridge.state = .stopped ∧ s.bridge.attachedCount ≠ 0 then s
  else if (s.sessions attachment.receiver).isSome || env.refused then s
  else
    let s := { s with sessions := Function.update s.sessions attachment.receiver (some attachment) }
    if s.bridge.attachedCount = 0 then s.startBridge client attachment.receiver env
    else { s with bridge := { s.bridge with attachedCount := s.bridge.attachedCount + 1 } }

/-- `start_bridge_locked` after the drain of a `start_stream` that failed. -/
def startDrained (client receiver : Nat) (transport : Transport) : Plane :=
  { s with bridge := { s.bridge with state := .stopped }, transport }.refuse client receiver

/-- `start_bridge_locked` after the cleanup without a thread. -/
def startCleaned (client receiver : Nat) (first : Option Error) : Plane :=
  { s with
    bridge := { s.bridge with
      state := if first.isSome then .fatal else .stopped
      cleanupDone := true
      cleanupError := first }
    enclosureFatal := s.enclosureFatal || first.isSome }.refuse client receiver

/-! ### Detach, shutdown -/

/-- The bridge has no attachment left: its thread goes on to `stop_bridge`. -/
def leave (client : Nat) : Plane :=
  let ownsStopping := s.bridge.state == .running
  let bridge := if ownsStopping then { s.bridge with state := .stopping, stopRequested := true }
    else s.bridge
  { s.setClient client (.stopBridge ownsStopping) with bridge }

/-- `detach` up to `stop_bridge`. -/
def detach (cfg : Config) (index client : Nat) (attachment : TunerAttachment) : Plane :=
  if serves cfg index attachment = false ∨ s.clients client ≠ .idle ∨ s.settled = false then s
  else if s.sessions attachment.receiver ≠ some attachment then s
  else
    let s := { s with
      sessions := Function.update s.sessions attachment.receiver none
      bridge := { s.bridge with attachedCount := s.bridge.attachedCount - 1 } }
    if s.bridge.attachedCount = 0 then s.leave client else s

/-- `shutdown` up to `stop_bridge`. -/
def endSessions (client : Nat) : Plane :=
  if s.settled = false then s
  else
    { s with
      sessions := fun _ => none, bridge := { s.bridge with attachedCount := 0 } }.leave client

/-- `stop_bridge` up to its cleanup; a caller that finds nothing to do returns. -/
def stopBridge (client : Nat) (ownsStopping : Bool) : Plane :=
  if s.lifecycleHeld || s.bridge.joinInProgress ||
      !ownsStopping && (s.bridge.state == .starting || s.bridge.state == .stopping) then s
  else
    let cleanup := !s.bridge.cleanupDone &&
      (s.bridge.state == .running || ownsStopping && s.bridge.state == .stopping)
    if !s.bridge.thread && !cleanup then
      s.setClient client (.returning (resultOf s.bridge.cleanupError))
    else
      { s.setClient client (.stopping ⟨s.bridge.thread, cleanup⟩
          (if cleanup then .cancel else .join none)) with
        bridge := { s.bridge with
          thread := false
          joinInProgress := s.bridge.thread
          stopRequested := true
          state := if cleanup then .stopping else s.bridge.state } }

/-- `thread->join()`, and the end of `stop_bridge` if there is no cleanup. -/
def joinThread (client : Nat) (claim : Claim) (first : Option Error) : Plane :=
  if claim.thread && s.pump != .done then s
  else
    { s.setClient client
      (.stopping claim (if claim.cleanup then .stop first else .ended first)) with
      pump := if claim.thread then .none else s.pump }

/-- The last part of `stop_bridge`. -/
def stopped (client : Nat) (first : Option Error) : Plane :=
  if s.lifecycleHeld then s
  else
    let first := first.or s.bridge.cleanupError
    { s.setClient client (.returning (resultOf first)) with
      bridge := { s.bridge with
        cleanupDone := true
        cleanupError := first
        state := if first.isSome then .fatal else .stopped
        joinInProgress := false }
      enclosureFatal := s.enclosureFatal || first.isSome }

/-- `detach` and `shutdown` after `stop_bridge`. -/
def returned (client : Nat) (result : Result Unit) : Plane :=
  if s.lifecycleHeld then s
  else
    let reopen := result == .ok () && s.bridge.state == .fatal && s.bridge.attachedCount == 0
    { s.setClient client .idle with
      bridge := if reopen then { s.bridge with state := .stopped } else s.bridge }

/-- The next step of a client thread. -/
def client (id : Nat) (env : CancelEnv) : Plane :=
  match s.clients id with
  | .idle => s
  | .startDraining receiver d =>
    match s.transport.drainResume env d with
    | (transport, .again d) => { s.setClient id (.startDraining receiver d) with transport }
    | (transport, .ended _) => s.startDrained id receiver transport
  | .startCleanup receiver (.ended first) => s.startCleaned id receiver first
  | .startCleanup receiver phase =>
    let (transport, phase) := phase.step env s.transport
    { s.setClient id (.startCleanup receiver phase) with transport }
  | .shutdown => s.endSessions id
  | .stopBridge ownsStopping => s.stopBridge id ownsStopping
  | .stopping claim (.join first) => s.joinThread id claim first
  | .stopping _ (.ended first) => s.stopped id first
  | .stopping claim phase =>
    let (transport, phase) := phase.step env s.transport
    { s.setClient id (.stopping claim phase) with transport }
  | .returning result => s.returned id result

/-! ### The pump -/

/-- `Bridge::run` after `wait_stream`. -/
def afterWait : Result StreamEvent → Pump
  | .ok event => if event.size = 0 then .top else .pushing event
  | .error e => if e = .timeout then .top else .failing

/-- `Bridge::stopping`. -/
def stopping : Bool :=
  s.bridge.stopRequested || s.bridge.state == .stopping || s.bridge.state == .stopped ||
    s.bridge.state == .fatal

/-- The last part of `finish_pump`. -/
def pumpCleaned (first : Option Error) : Plane :=
  if s.lifecycleHeld then s
  else
    { s with
      bridge := { s.bridge with state := .fatal, cleanupDone := true, cleanupError := first }
      enclosureFatal := s.enclosureFatal || first.isSome
      pump := .done }

/-- The next step of the pump. -/
def pumpStep (env : PumpEnv) : Plane :=
  match s.pump with
  | .none | .done => s
  | .top =>
    if s.lifecycleHeld then s else { s with pump := if s.stopping then .done else .wait }
  | .wait =>
    match s.transport.waitEnter env.submit with
    | (transport, some result) => { s with transport, pump := afterWait result }
    | (transport, none) => { s with transport, pump := .events }
  | .events =>
    let (transport, result) := s.transport.waitResume env.events
    { s with transport, pump := afterWait result }
  | .pushing _ => { s with pump := if env.push = .ok () then .top else .failing }
  | .failing =>
    if s.lifecycleHeld then s
    else if s.bridge.state ≠ .running ∨ s.bridge.cleanupDone = true then { s with pump := .done }
    else
      { s with
        bridge := { s.bridge with state := .stopping, stopRequested := true }
        pump := .cleaning .cancel }
  | .cleaning (.ended first) => s.pumpCleaned first
  | .cleaning phase =>
    let (transport, phase) := phase.step env.cancel s.transport
    { s with transport, pump := .cleaning phase }

/-! ### Steps -/

/-- What can happen. -/
inductive Act
  | attach (client : Nat) (attachment : TunerAttachment) (env : BridgeAttachEnv)
  | detach (client : Nat) (attachment : TunerAttachment)
  | shutdown (client : Nat)
  | client (id : Nat) (env : CancelEnv)
  | pump (env : PumpEnv)
  | callback (completion : Completion)
  /-- the cleanup of another bridge has failed -/
  | enclosureFatal

/-- One step of the bridge at `index`. -/
def step (cfg : Config) (index : Nat) : Act → Plane
  | .attach client attachment env => s.attach cfg index client attachment env
  | .detach client attachment => s.detach cfg index client attachment
  | .shutdown client =>
    if s.clients client = .idle then { s.setClient client .shutdown with shuttingDown := true }
    else s
  | .client id env => s.client id env
  | .pump env => s.pumpStep env
  | .callback completion => { s with transport := s.transport.onTransfer completion }
  | .enclosureFatal => { s with enclosureFatal := true }

end Plane

end Px4.Stream
