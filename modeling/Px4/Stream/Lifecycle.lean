import Mathlib.Data.Nat.Count
import Px4.Lib.Run
import Px4.Stream.Bridge

/-!
# The lifecycle of a bridge over its epochs (`q3u4_stream.cpp`)

`attach`, `detach`, `shutdown`, `stop_bridge`, `finish_pump` and `Bridge::run` once more, for what
they do to a bridge from one stream to the next. Against `Px4.Stream.Bridge` the transport is what
its calls return, in any pattern, and their log; a pump is a thread of its own, so that there can be
several. A step of a thread is what it does under the lifecycle lock of the bridge, or a call of the
transport, a join or the store of a flag between two such sections. The other bridge is seen through
the flags of the enclosure.
-/

namespace Px4.Stream.Lifecycle

/-- A call of the transport, and whether it succeeded. -/
inductive Op
  | start (ok : Bool)
  | cancel (ok : Bool)
  | stop (ok : Bool)
  deriving DecidableEq, Repr

/-- Where a pump thread is; `gone` is one that was joined, or never started. -/
inductive Pump
  | gone
  | running
  | failing
  | cancelling
  | stopping (first : Option Error)
  | finishing (first : Option Error)
  | done
  deriving DecidableEq, Repr

/-- The lifecycle members of `Bridge`; `thread` is the thread object to join. -/
structure Bridge where
  state : BridgeState := .stopped
  thread : Option Nat := none
  stopRequested : Bool := false
  joinInProgress : Bool := false
  cleanupDone : Bool := false
  cleanupError : Option Error := none
  attachedCount : Nat := 0
  deriving DecidableEq, Repr

/-- What `stop_bridge` has claimed: the thread to join, the cleanup. -/
structure Claim where
  thread : Option Nat
  cleanup : Bool
  deriving DecidableEq, Repr

/-- Where a client thread is: from `stopBridge` to `ended` in `stop_bridge`, at `storing` behind its
last section, and at `returning` behind its call. -/
inductive Client
  | idle
  | shutdown
  | stopBridge (ownsStopping : Bool)
  | cancelling (claim : Claim)
  | joining (claim : Claim) (first : Option Error)
  | stopping (first : Option Error)
  | ended (first : Option Error)
  | storing (error : Error)
  | returning (result : Result Unit)
  deriving DecidableEq

/-- One bridge, its sessions' attachments, the threads and the calls of the transport so far. -/
structure Sys where
  bridge : Bridge := {}
  sessions : Nat → Option TunerAttachment := fun _ => none
  enclosureFatal : Bool := false
  shuttingDown : Bool := false
  pumps : Nat → Pump := fun _ => .gone
  threads : Nat := 0
  clients : Nat → Client := fun _ => .idle
  log : List Op := []

/-- What `attach` meets: a session that refuses, the results of the transport, the thread object. -/
structure AttachEnv where
  refused : Bool := false
  start : Result Unit := .ok ()
  threadAllocated : Bool := true
  cancel : Result Unit := .ok ()
  stop : Result Unit := .ok ()

namespace Sys

variable (s : Sys)

def setClient (client : Nat) (point : Client) : Sys :=
  { s with clients := Function.update s.clients client point }

def setPump (thread : Nat) (point : Pump) : Sys :=
  { s with pumps := Function.update s.pumps thread point }

def setBridge (bridge : Bridge) : Sys := { s with bridge }

def setSession (receiver : Nat) (attachment : Option TunerAttachment) : Sys :=
  { s with sessions := Function.update s.sessions receiver attachment }

/-- Calls of the transport. -/
def called (ops : List Op) : Sys := { s with log := s.log ++ ops }

/-- `enclosure_fatal_.store(true)`, after an error. -/
def storeFatal (error : Option Error) : Sys :=
  { s with enclosureFatal := s.enclosureFatal || error.isSome }

/-- The bridge is not in transition. -/
def settled : Bool := s.bridge.state != .starting && s.bridge.state != .stopping

/-! ### Attach -/

/-- `start_bridge_locked` after `start_stream`, and the end of `attach`. -/
def startThread (receiver : Nat) (env : AttachEnv) : Sys :=
  let bridge := { s.bridge with cleanupDone := false, cleanupError := none }
  if env.threadAllocated then
    { (s.called [.start true]).setPump s.threads .running with
      bridge := { bridge with
        state := .running, stopRequested := false, thread := some s.threads
        attachedCount := bridge.attachedCount + 1 }
      threads := s.threads + 1 }
  else
    let first := (errorOf env.cancel).or (errorOf env.stop)
    (((s.called [.start true, .cancel env.cancel.isOk, .stop env.stop.isOk]).setBridge
      { bridge with
        state := if first.isSome then .fatal else .stopped
        stopRequested := true
        cleanupDone := true
        cleanupError := first }).storeFatal first).setSession receiver none

/-- `start_bridge_locked`, and the end of `attach`. -/
def startBridge (receiver : Nat) (env : AttachEnv) : Sys :=
  if s.bridge.state ≠ .stopped ∨ s.bridge.thread.isSome then s.setSession receiver none
  else if env.start.isOk then s.startThread receiver env
  else
    ((s.called [.start false]).setBridge
      { s.bridge with cleanupDone := false, cleanupError := none }).setSession receiver none

/-- `attach`, which is one section of the lifecycle lock. -/
def attach (cfg : Config) (index : Nat) (attachment : TunerAttachment) (env : AttachEnv) : Sys :=
  if attachment.ownerClientId = 0 ∨ attachment.leaseId = 0 ∨ attachment.attachmentId = 0 ∨
      Plane.serves cfg index attachment = false ∨
      validSystem cfg.layout attachment.receiver attachment.system = false then s
  else if s.settled = false then s
  else if s.shuttingDown || s.enclosureFatal || s.bridge.state == .fatal then s
  else if s.bridge.state = .stopped ∧ s.bridge.attachedCount ≠ 0 then s
  else if (s.sessions attachment.receiver).isSome || env.refused then s
  else
    let s := s.setSession attachment.receiver (some attachment)
    if s.bridge.attachedCount = 0 then s.startBridge attachment.receiver env
    else s.setBridge { s.bridge with attachedCount := s.bridge.attachedCount + 1 }

/-! ### Detach, shutdown -/

/-- The bridge has no attachment left: its thread goes on to `stop_bridge`. -/
def leave (client : Nat) : Sys :=
  if s.bridge.state = .running then
    (s.setClient client (.stopBridge true)).setBridge
      { s.bridge with state := .stopping, stopRequested := true }
  else s.setClient client (.stopBridge false)

/-- `detach` up to `stop_bridge`. -/
def detach (cfg : Config) (index client : Nat) (attachment : TunerAttachment) : Sys :=
  if Plane.serves cfg index attachment = false ∨ s.clients client ≠ .idle ∨ s.settled = false then s
  else if s.sessions attachment.receiver ≠ some attachment then s
  else
    let s := (s.setSession attachment.receiver none).setBridge
      { s.bridge with attachedCount := s.bridge.attachedCount - 1 }
    if s.bridge.attachedCount = 0 then s.leave client else s

/-- `shutdown` up to `stop_bridge`. -/
def endSessions (client : Nat) : Sys :=
  if s.settled = false then s
  else { s with sessions := fun _ => none, bridge :=
    { s.bridge with attachedCount := 0 } }.leave client

/-- The first section of `stop_bridge`; a caller that finds nothing to do returns. -/
def stopBridge (client : Nat) (ownsStopping : Bool) : Sys :=
  if s.bridge.joinInProgress || !ownsStopping && !s.settled then s
  else
    let cleanup := !s.bridge.cleanupDone &&
      (s.bridge.state == .running || ownsStopping && s.bridge.state == .stopping)
    if s.bridge.thread.isNone && !cleanup then
      s.setClient client (.returning (Usb.resultOf s.bridge.cleanupError))
    else
      let claim : Claim := ⟨s.bridge.thread, cleanup⟩
      (s.setClient client (if cleanup then .cancelling claim else .joining claim none)).setBridge
        { s.bridge with
          thread := none
          joinInProgress := s.bridge.thread.isSome
          stopRequested := true
          state := if cleanup then .stopping else s.bridge.state }

/-- `thread->join()` has returned. -/
def joined (client : Nat) (claim : Claim) (first : Option Error) : Sys :=
  let s := s.setClient client (if claim.cleanup then .stopping first else .ended first)
  match claim.thread with
  | none => s
  | some thread => s.setPump thread .gone

/-- `thread->join()`. -/
def join (client : Nat) (claim : Claim) (first : Option Error) : Sys :=
  if claim.thread.all (fun thread => s.pumps thread == .done) then
    s.joined client claim first else s

/-- The last section of `stop_bridge`. -/
def stopped (client : Nat) (first : Option Error) : Sys :=
  let first := first.or s.bridge.cleanupError
  (s.setClient client (match first with
    | none => .returning (.ok ())
    | some error => .storing error)).setBridge
    { s.bridge with
      cleanupDone := true
      cleanupError := first
      state := if first.isSome then .fatal else .stopped
      joinInProgress := false }

/-- The last section of `detach` and `shutdown` would put the bridge into `stopped`. -/
def reopens (result : Result Unit) : Bool :=
  result == .ok () && s.bridge.state == .fatal && s.bridge.attachedCount == 0

/-- `detach` and `shutdown` after `stop_bridge`. -/
def returned (client : Nat) (result : Result Unit) : Sys :=
  (s.setClient client .idle).setBridge
    (if s.reopens result then { s.bridge with state := .stopped } else s.bridge)

/-- The next step of a client thread; `result` is that of a call of the transport. -/
def client (id : Nat) (result : Result Unit) : Sys :=
  match s.clients id with
  | .idle => s
  | .shutdown => s.endSessions id
  | .stopBridge ownsStopping => s.stopBridge id ownsStopping
  | .cancelling claim =>
    (s.called [.cancel result.isOk]).setClient id (.joining claim (errorOf result))
  | .joining claim first => s.join id claim first
  | .stopping first =>
    (s.called [.stop result.isOk]).setClient id (.ended (first.or (errorOf result)))
  | .ended first => s.stopped id first
  | .storing error => (s.storeFatal (some error)).setClient id (.returning (.error error))
  | .returning result => s.returned id result

/-! ### Pumps -/

/-- `Bridge::stopping`. -/
def stopRequested : Bool :=
  s.bridge.stopRequested || s.bridge.state == .stopping || s.bridge.state == .stopped ||
    s.bridge.state == .fatal

/-- The next step of a pump; `failed` is a `wait_stream` or `demux.push` that fails. -/
def pump (thread : Nat) (failed : Bool) (result : Result Unit) : Sys :=
  match s.pumps thread with
  | .gone | .done => s
  | .running =>
    if failed then s.setPump thread .failing
    else if s.stopRequested then s.setPump thread .done else s
  | .failing =>
    if s.bridge.state ≠ .running ∨ s.bridge.cleanupDone = true then s.setPump thread .done
    else
      (s.setPump thread .cancelling).setBridge
        { s.bridge with state := .stopping, stopRequested := true }
  | .cancelling => (s.called [.cancel result.isOk]).setPump thread (.stopping (errorOf result))
  | .stopping first =>
    (s.called [.stop result.isOk]).setPump thread (.finishing (first.or (errorOf result)))
  | .finishing first =>
    ((s.setPump thread .done).setBridge
      { s.bridge with state := .fatal, cleanupDone := true, cleanupError :=
        first }).storeFatal first

/-! ### Steps -/

/-- What can happen. -/
inductive Act
  | attach (attachment : TunerAttachment) (env : AttachEnv)
  | detach (client : Nat) (attachment : TunerAttachment)
  | shutdown (client : Nat)
  | client (id : Nat) (result : Result Unit)
  | pump (thread : Nat) (failed : Bool) (result : Result Unit)
  /-- the cleanup of another bridge has failed -/
  | enclosureFatal

/-- One step of the bridge at `index`. -/
def step (cfg : Config) (index : Nat) : Act → Sys
  | .attach attachment env => s.attach cfg index attachment env
  | .detach client attachment => s.detach cfg index client attachment
  | .shutdown client =>
    if s.clients client = .idle then { s.setClient client .shutdown with shuttingDown := true }
    else s
  | .client id result => s.client id result
  | .pump thread failed result => s.pump thread failed result
  | .enclosureFatal => { s with enclosureFatal := true }

end Sys

/-! ## What is owed -/

/-- Where the calls of the transport are. -/
inductive Phase
  | idle
  | live
  | cancelled (ok : Bool)
  | dead
  deriving DecidableEq, Repr

/-- The calls in order: a start that succeeds is followed by one cancel and one stop before the next
start, and nothing follows a cleanup that failed. -/
def follow : Option Phase → Op → Option Phase
  | some .idle, .start ok => some (if ok then .live else .idle)
  | some .live, .cancel ok => some (.cancelled ok)
  | some (.cancelled ok), .stop ok' => some (if ok && ok' then .idle else .dead)
  | _, _ => none

/-- The phase of a bridge, if its calls are in order. -/
def Sys.phase (s : Sys) : Option Phase := s.log.foldl follow (some .idle)

/-- The number of attached sessions. -/
def Sys.attached (s : Sys) (cfg : Config) : Nat :=
  Nat.count (fun receiver => (s.sessions receiver).isSome = true)
    (cfg.layout.bridgeCount * cfg.layout.receiversPerBridge)

/-- A call of `start_stream`. -/
def Op.isStart : Op → Bool
  | .start _ => true
  | _ => false

/-- The number of calls of `start_stream`. -/
def Sys.starts (s : Sys) : Nat := (s.log.filter Op.isStart).length

/-- What the lifecycle owes: the count is that of the attached sessions; the calls of the transport
are in order; there is at most one pump; a fatal enclosure starts no stream; and a bridge that a
failed pump has left is fatal, takes no attach, and is no longer fatal only after a step before
which no session was attached. -/
structure Owed (cfg : Config) (index : Nat) (s : Sys) : Prop where
  counted : s.bridge.attachedCount = s.attached cfg
  ordered : s.phase.isSome = true
  onePump : ∀ t t', s.pumps t ≠ .gone → s.pumps t' ≠ .gone → t = t'
  fatalStays : s.enclosureFatal = true → ∀ act, (s.step cfg index act).enclosureFatal = true ∧
    (s.step cfg index act).starts = s.starts
  failed : ∀ thread first, s.pumps thread = .finishing first → ∀ failed result,
    (s.step cfg index (.pump thread failed result)).bridge.state = .fatal
  refused : s.bridge.state = .fatal → ∀ attachment env, s.attach cfg index attachment env = s
  reopened : s.bridge.state = .fatal → ∀ act, (s.step cfg index act).bridge.state ≠ .fatal →
    s.attached cfg = 0

/-- The client is at the last section of `detach` or `shutdown`, and this section would put the
bridge into `stopped`. -/
def Sys.reopening (s : Sys) (id : Nat) : Bool :=
  match s.clients id with
  | .returning result => s.reopens result
  | _ => false

/-- When a step keeps the lifecycle right: the last section of a `detach` or `shutdown` does not
find the bridge fatal and without attachments, as another epoch has left it. -/
def Cond (s : Sys) : Sys.Act → Prop
  | .client id _ => s.reopening id = false
  | _ => True

instance (s : Sys) : (act : Sys.Act) → Decidable (Cond s act)
  | .client id _ => inferInstanceAs (Decidable (s.reopening id = false))
  | .attach .. | .detach .. | .shutdown _ | .pump .. | .enclosureFatal => isTrue trivial

end Px4.Stream.Lifecycle
