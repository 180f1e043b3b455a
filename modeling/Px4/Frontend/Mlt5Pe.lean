import Px4.Lib.Interleave
import Px4.Power.Mlt5Pe

/-!
# The receivers of an MLT board (`mlt5pe_frontend.cpp`)

`Mlt5PeFrontend` between its locks: the two bus mutexes, the state mutex and the mutex of the power
coordinator. A `Caller` is where a call is in its operation. Between two positions there is one
section under the state mutex or the mutex of the coordinator, one command to the chips of a
receiver (under its bus mutex), or the taking or giving back of a bus mutex; `advance` is that step.
What a command comes to is the `reply` of the step and so arbitrary, and the backend of the
coordinator is a parameter. The lock checks, which change nothing, and the delays are left out.

The `log` is what the frontend has done, latest first: references taken and given back, commands and
purges, each with the references and the capturing receivers at that moment.
-/

namespace Px4.Frontend.Mlt5Pe

open Px4.Device (DeviceModel kMlt5PeReceiverCount mltModelLayout)
open Px4.Power.Mlt5Pe (Backend acquireReceiver releaseReceiver)

/-- `Mlt5PeReceiverState`. -/
inductive ReceiverState
  | closed | opened | tuned | capturing
  deriving DecidableEq, Repr

/-- `Cxd2856erSystem`. -/
inductive System
  | unspecified | isdbT | isdbS
  deriving DecidableEq, Repr

/-- The guarded fields of `Mlt5PeFrontend::Receiver`. -/
structure Receiver where
  state : ReceiverState := .closed
  system : System := .unspecified
  deriving DecidableEq, Repr

/-- What `select_satellite_slot` and `select_satellite_tsid` select. -/
inductive Selection
  | slot (slot : Nat)
  | tsid (tsid : Nat)
  deriving DecidableEq, Repr

/-- What the frontend does: references, commands to the chips of a receiver, and the purge. -/
inductive Action
  | acquire (receiver : Nat)
  | release (receiver : Nat)
  | initDemod (receiver : Nat)
  | initTuner (receiver : Nat)
  | configureTsOutput (receiver : Nat)
  | terminate (receiver : Nat)
  | wakeup (receiver : Nat) (system : System)
  | setParams (receiver : Nat) (system : System) (khz : Nat)
  | postTune (receiver : Nat)
  | select (receiver : Nat) (selection : Selection)
  | purge
  deriving DecidableEq, Repr

/-- An action with its result, and with the references and the capturing receivers before it. -/
structure Entry where
  action : Action
  result : Result Unit
  mask : BitVec 8
  capturing : List Nat

/-- What the constructor is given. -/
structure Config (σ : Type) where
  power : Backend σ
  purger : Bool
  receiverCount : Nat
  model : DeviceModel

/-- `bus_index` of a receiver, as a `bool`. -/
def Config.bus (k : Config σ) (receiver : Nat) : Bool :=
  match (mltModelLayout k.model).receivers[receiver]? with
  | some input => input.i2cBus == 3
  | none => false

/-- The fields of `Mlt5PeFrontend`, and what it has done. `locked` is the state of `bus_mutexes_`.
-/
structure Shared (σ : Type) where
  power : Power.Mlt5Pe.Sys σ
  receiver : Nat → Receiver := fun _ => {}
  locked : Bool → Bool := fun _ => false
  log : List Entry := []

namespace Shared

variable {σ : Type}

/-- The receivers that are capturing. -/
def capturing (s : Shared σ) : List Nat :=
  (List.range kMlt5PeReceiverCount).filter fun r => (s.receiver r).state == .capturing

/-- The reference of a receiver is held. -/
def held (s : Shared σ) (receiver : Nat) : Bool := s.power.state.receiverMask.getLsbD receiver

/-- An action and its result. -/
def record (s : Shared σ) (action : Action) (result : Result Unit) : Shared σ :=
  { s with log := ⟨action, result, s.power.state.receiverMask, s.capturing⟩ :: s.log }

/-- After an operation of the coordinator. -/
def setPower (s : Shared σ) (power : Power.Mlt5Pe.Sys σ) : Shared σ := { s with power }

/-- `state = state; system = system` of a receiver. -/
def setReceiver (s : Shared σ) (receiver : Nat) (state : ReceiverState) (system : System) :
    Shared σ :=
  { s with receiver := Function.update s.receiver receiver ⟨state, system⟩ }

/-- `state = state` of a receiver. -/
def setState (s : Shared σ) (receiver : Nat) (state : ReceiverState) : Shared σ :=
  s.setReceiver receiver state (s.receiver receiver).system

/-- A bus mutex is taken or given back. -/
def setLocked (s : Shared σ) (bus : Bool) (locked : Bool) : Shared σ :=
  { s with locked := Function.update s.locked bus locked }

end Shared

/-- The operations of `Mlt5PeFrontend`. -/
inductive Call
  | open (receiver : Nat)
  | close (receiver : Nat)
  | tune (receiver : Nat) (system : System) (khz : Nat)
  | select (receiver : Nat) (selection : Selection)
  | startCapture (receiver : Nat)
  | stopCapture (receiver : Nat)
  | acquireCard
  | releaseCard
  | reconcilePower
  deriving DecidableEq, Repr

/-- Where a call is in its operation: the next thing it does. -/
inductive Caller
  | openCheck (receiver : Nat)
  | openAcquire (receiver : Nat)
  | openLock (receiver : Nat)
  | openDemod (receiver : Nat)
  | openTuner (receiver : Nat)
  | openConfigure (receiver : Nat)
  | openTerminate (receiver : Nat) (failure : Error)
  | openSet (receiver : Nat)
  | openUnlock (receiver : Nat) (result : Result Unit)
  | openRelease (receiver : Nat) (failure : Error)
  | closeLock (receiver : Nat)
  | closeCheck (receiver : Nat)
  | closeTerminate (receiver : Nat)
  | closeUnlock (receiver : Nat)
  | closeRelease (receiver : Nat)
  | tuneLock (receiver : Nat) (system : System) (khz : Nat)
  | tuneCheck (receiver : Nat) (system : System) (khz : Nat)
  | tuneWakeup (receiver : Nat) (system : System) (khz : Nat)
  | tuneParams (receiver : Nat) (system : System) (khz : Nat)
  | tunePost (receiver : Nat) (system : System) (khz : Nat)
  | tuneSet (receiver : Nat) (system : System) (khz : Nat)
  | selectLock (receiver : Nat) (selection : Selection)
  | selectCheck (receiver : Nat) (selection : Selection)
  | selectChips (receiver : Nat) (selection : Selection)
  | unlock (receiver : Nat) (result : Result Unit)
  | startCapture (receiver : Nat)
  | stopCapture (receiver : Nat)
  | acquireCard
  | releaseCard
  | reconcilePower
  | returned (result : Result Unit)
  deriving DecidableEq, Repr

section

variable {σ : Type} (k : Config σ)

/-- The checks of the arguments. -/
def begin : Call → Caller
  | .open r => if r < k.receiverCount then .openCheck r else .returned (.error .invalidArgument)
  | .close r => if r < k.receiverCount then .closeLock r else .returned (.error .invalidArgument)
  | .tune r system khz =>
    if r < k.receiverCount ∧ (system = .isdbT ∨ system = .isdbS) then .tuneLock r system khz
    else .returned (.error .invalidArgument)
  | .select r selection =>
    if r < k.receiverCount then .selectLock r selection else .returned (.error .invalidArgument)
  | .startCapture r =>
    if r < k.receiverCount then .startCapture r else .returned (.error .invalidArgument)
  | .stopCapture r =>
    if r < k.receiverCount then .stopCapture r else .returned (.error .invalidArgument)
  | .acquireCard => .acquireCard
  | .releaseCard => .releaseCard
  | .reconcilePower => .reconcilePower

/-- A bus mutex is taken, if it is free. -/
def takeBus (s : Shared σ) (receiver : Nat) (here next : Caller) : Shared σ × Caller :=
  if s.locked (k.bus receiver) then (s, here) else (s.setLocked (k.bus receiver) true, next)

/-- A command, and where the call goes on. -/
def command (s : Shared σ) (action : Action) (reply : Result Unit) (ok : Caller)
    (failed : Error → Caller) : Shared σ × Caller :=
  (s.record action reply,
    match reply with
    | .ok () => ok
    | .error e => failed e)

/-- The next step of a call. -/
def advance (reply : Result Unit) (s : Shared σ) : Caller → Shared σ × Caller
  | .openCheck r =>
    if (s.receiver r).state ≠ .closed then (s, .returned (.error .busy)) else (s, .openAcquire r)
  | .openAcquire r =>
    let (power, result) := acquireReceiver k.power r s.power
    ((s.record (.acquire r) result).setPower power,
      match result with
      | .ok () => .openLock r
      | .error e => .returned (.error e))
  | .openLock r => takeBus k s r (.openLock r) (.openDemod r)
  | .openDemod r =>
    command s (.initDemod r) reply (.openTuner r) fun e => .openUnlock r (.error e)
  | .openTuner r => command s (.initTuner r) reply (.openConfigure r) (.openTerminate r)
  | .openConfigure r => command s (.configureTsOutput r) reply (.openSet r) (.openTerminate r)
  | .openTerminate r failure => (s.record (.terminate r) reply, .openUnlock r (.error failure))
  | .openSet r => (s.setReceiver r .opened .unspecified, .openUnlock r (.ok ()))
  | .openUnlock r result =>
    (s.setLocked (k.bus r) false,
      match result with
      | .ok () => .returned (.ok ())
      | .error e => .openRelease r e)
  | .openRelease r failure =>
    let (power, result) := releaseReceiver k.power r s.power
    ((s.record (.release r) result).setPower power, .returned (.error failure))
  | .closeLock r => takeBus k s r (.closeLock r) (.closeCheck r)
  | .closeCheck r =>
    if (s.receiver r).state = .closed then (s, .unlock r (.ok ()))
    else (s.setReceiver r .closed .unspecified, .closeTerminate r)
  | .closeTerminate r => (s.record (.terminate r) reply, .closeUnlock r)
  | .closeUnlock r => (s.setLocked (k.bus r) false, .closeRelease r)
  | .closeRelease r =>
    let (power, result) := releaseReceiver k.power r s.power
    ((s.record (.release r) result).setPower power, .returned result)
  | .tuneLock r system khz => takeBus k s r (.tuneLock r system khz) (.tuneCheck r system khz)
  | .tuneCheck r system khz =>
    if (s.receiver r).state = .closed then (s, .unlock r (.error .notReady))
    else if (s.receiver r).state = .capturing then (s, .unlock r (.error .busy))
    else (s.setReceiver r .opened .unspecified, .tuneWakeup r system khz)
  | .tuneWakeup r system khz =>
    command s (.wakeup r system) reply (.tuneParams r system khz) fun e => .unlock r (.error e)
  | .tuneParams r system khz =>
    command s (.setParams r system khz) reply (.tunePost r system khz) fun e => .unlock r (.error e)
  | .tunePost r system khz =>
    command s (.postTune r) reply (.tuneSet r system khz) fun e => .unlock r (.error e)
  | .tuneSet r system _ => (s.setReceiver r .tuned system, .unlock r (.ok ()))
  | .selectLock r selection => takeBus k s r (.selectLock r selection) (.selectCheck r selection)
  | .selectCheck r selection =>
    if (s.receiver r).state = .closed then (s, .unlock r (.error .notReady))
    else (s, .selectChips r selection)
  | .selectChips r selection => (s.record (.select r selection) reply, .unlock r reply)
  | .unlock r result => (s.setLocked (k.bus r) false, .returned result)
  | .startCapture r =>
    if (s.receiver r).state ≠ .tuned then (s, .returned (.error .notReady))
    else if s.capturing = [] ∧ k.purger then
      match reply with
      | .ok () => ((s.record .purge reply).setState r .capturing, .returned (.ok ()))
      | .error e => (s.record .purge reply, .returned (.error e))
    else (s.setState r .capturing, .returned (.ok ()))
  | .stopCapture r =>
    if (s.receiver r).state ≠ .capturing then (s, .returned (.ok ()))
    else (s.setState r .tuned, .returned (.ok ()))
  | .acquireCard =>
    let (power, result) := Power.Mlt5Pe.acquireCard k.power s.power
    (s.setPower power, .returned result)
  | .releaseCard =>
    let (power, result) := Power.Mlt5Pe.releaseCard k.power s.power
    (s.setPower power, .returned result)
  | .reconcilePower =>
    let (power, result) := Power.Mlt5Pe.reconcile k.power s.power
    (s.setPower power, .returned result)
  | .returned result => (s, .returned result)

/-- Every interleaving: calls come in, and any of them takes its next step with any reply. -/
def run (hw : σ) (moves : List (Lib.Move Call (Result Unit))) : Lib.Pool (Shared σ) Caller :=
  Lib.Pool.run (begin k) (advance k) { shared := { power := { state := {}, hw } } } moves

end

end Px4.Frontend.Mlt5Pe
