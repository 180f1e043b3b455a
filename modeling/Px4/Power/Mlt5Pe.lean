import Px4.Power.Coordinator
import Px4.Device.Profile

/-!
# Backend power of one bridge (`mlt5pe_power.h`, `mlt5pe_power.cpp`)

`Mlt5PePowerCoordinator` holds the power references of the five receivers of the MLT family and of
the card over one backend, which is a parameter. The mutex makes every public function one step.
-/

namespace Px4.Power.Mlt5Pe

open It930x (PowerState)
open Px4.Device (kMlt5PeReceiverCount)

/-- `Mlt5PePowerSnapshot`, the state of the coordinator. -/
structure Snapshot where
  receiverMask : BitVec 8 := 0
  cardAcquired : Bool := false
  backendState : PowerState := .off
  deriving DecidableEq, Repr

/-- `set_backend_power`. -/
abbrev Backend (σ : Type) := Bool → σ → σ × Result Unit

/-- The coordinator and the hardware behind its backend. -/
structure Sys (σ : Type) where
  state : Snapshot
  hw : σ

/-- Whether somebody uses the power. -/
def Snapshot.wanted (s : Snapshot) : Bool := s.receiverMask != 0 || s.cardAcquired

section

variable {σ : Type} (be : Backend σ)

/-- `state_.receiver_mask = mask; state_.card_acquired = card`. -/
def Sys.setReferences (s : Sys σ) (mask : BitVec 8) (card : Bool) : Sys σ :=
  { s with state := { s.state with receiverMask := mask, cardAcquired := card } }

/-- `state_.backend_state = state`, after a write. -/
def Sys.setBackend (s : Sys σ) (state : PowerState) (hw : σ) : Sys σ :=
  { state := { s.state with backendState := state }, hw }

/-- `apply_locked`. -/
def apply (s : Sys σ) : Sys σ × Result Unit :=
  let current := s.state.backendState
  let on := s.state.wanted
  if current = .disconnected then (s, if on then .error .disconnected else .ok ())
  else if (on && current == .on) || (!on && current == .off) then (s, .ok ())
  else match be on s.hw with
    | (hw, .ok ()) => (s.setBackend (if on then .on else .off) hw, .ok ())
    | (hw, .error e) =>
      (s.setBackend (if e = .disconnected then .disconnected else .unknown) hw, .error e)

/-- `acquire_receiver`. -/
def acquireReceiver (receiver : Nat) (s : Sys σ) : Sys σ × Result Unit :=
  let bit := receiverBit receiver
  if kMlt5PeReceiverCount ≤ receiver then (s, .error .invalidArgument)
  else if s.state.backendState = .disconnected then (s, .error .disconnected)
  else if s.state.receiverMask &&& bit ≠ 0 then (s, .error .busy)
  else
    match apply be (s.setReferences (s.state.receiverMask ||| bit) s.state.cardAcquired) with
    | (s, .ok ()) => (s, .ok ())
    | (s, .error e) =>
      let back := s.setReferences (s.state.receiverMask &&& ~~~bit) s.state.cardAcquired
      ((apply be back).1, .error e)

/-- `release_receiver`. -/
def releaseReceiver (receiver : Nat) (s : Sys σ) : Sys σ × Result Unit :=
  let bit := receiverBit receiver
  if kMlt5PeReceiverCount ≤ receiver then (s, .error .invalidArgument)
  else if s.state.receiverMask &&& bit = 0 then (s, .error .invalidArgument)
  else apply be (s.setReferences (s.state.receiverMask &&& ~~~bit) s.state.cardAcquired)

/-- `acquire_card`. -/
def acquireCard (s : Sys σ) : Sys σ × Result Unit :=
  if s.state.backendState = .disconnected then (s, .error .disconnected)
  else if s.state.cardAcquired then (s, .error .busy)
  else
    match apply be (s.setReferences s.state.receiverMask true) with
    | (s, .ok ()) => (s, .ok ())
    | (s, .error e) => ((apply be (s.setReferences s.state.receiverMask false)).1, .error e)

/-- `release_card`. -/
def releaseCard (s : Sys σ) : Sys σ × Result Unit :=
  if !s.state.cardAcquired then (s, .error .invalidArgument)
  else apply be (s.setReferences s.state.receiverMask false)

/-- `reconcile`. -/
def reconcile (s : Sys σ) : Sys σ × Result Unit :=
  if s.state.backendState = .disconnected then (s, .error .disconnected) else apply be s

/-- `disconnect`. It performs no hardware operation. -/
def disconnect (s : Sys σ) : Sys σ :=
  { s with state := { receiverMask := 0, cardAcquired := false, backendState := .disconnected } }

/-- The operations of `Mlt5PePowerCoordinator`. -/
inductive Call
  | acquireReceiver (receiver : Nat)
  | releaseReceiver (receiver : Nat)
  | acquireCard
  | releaseCard
  | reconcile
  | disconnect
  deriving DecidableEq, Repr

/-- An operation with its result. -/
def call (s : Sys σ) : Call → Sys σ × Result Unit
  | .acquireReceiver receiver => acquireReceiver be receiver s
  | .releaseReceiver receiver => releaseReceiver be receiver s
  | .acquireCard => acquireCard be s
  | .releaseCard => releaseCard be s
  | .reconcile => reconcile be s
  | .disconnect => (disconnect s, .ok ())

end

end Px4.Power.Mlt5Pe
