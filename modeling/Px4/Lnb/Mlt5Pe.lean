import Px4.Lnb.Board
import Px4.Device.Profile

/-!
# `Mlt5PeLnbPowerCoordinator` (`mlt5pe_power.h`, `mlt5pe_power.cpp`)

The LNB authority of the MLT family: one line, five receivers. It differs from
`Q3U4LnbPowerCoordinator` in that a request has no `committed` flag, every receiver may ask for
power and there is one bridge.
-/

namespace Px4.Lnb.Mlt5Pe

open Px4.Device (kMlt5PeReceiverCount)

/-- `Mlt5PeLnbPowerCoordinator::ReceiverRequest`. -/
structure ReceiverRequest where
  committed15v : Bool := false
  pending : Bool := false
  pending15v : Bool := false
  deriving DecidableEq, Repr

/-- The request in effect. -/
def ReceiverRequest.enabled (request : ReceiverRequest) : Bool :=
  if request.pending then request.pending15v else request.committed15v

/-- The fields of `Mlt5PeLnbPowerCoordinator`. -/
structure Coordinator where
  allow15v : Bool
  receivers : Nat → ReceiverRequest := fun _ => {}
  independent15v : Bool := false
  physicalState : PhysicalState := .off
  cleanupDebt : Bool := false

/-- GPIO 11 of the bridge. -/
abbrev Line := Lib.Faulty Unit Bool Error

/-- The coordinator and its line. -/
structure Sys where
  coord : Coordinator
  hw : Line

/-- What the coordinator believes of its line and what is true of it. -/
def Sys.supply (s : Sys) : Supply :=
  ⟨s.coord.physicalState, s.coord.cleanupDebt, s.hw.value (), s.hw.logOf (),
    s.hw.Reports () .disconnected⟩

namespace Coordinator

/-- `ref_count_locked`. -/
def refCount (c : Coordinator) : Nat :=
  ((List.range kMlt5PeReceiverCount).filter fun receiver => (c.receivers receiver).enabled).length +
    c.independent15v.toNat

/-- `receivers_[receiver] = request`. -/
def setRequest (c : Coordinator) (receiver : Nat) (request : ReceiverRequest) : Coordinator :=
  { c with receivers := Function.update c.receivers receiver request }

/-- `physical_state_ = state; cleanup_debt_ = debt`. -/
def setPhysical (c : Coordinator) (state : PhysicalState) (debt : Bool) : Coordinator :=
  { c with physicalState := state, cleanupDebt := debt }

/-- `independent_15v_ = enabled`. -/
def setIndependent (c : Coordinator) (enabled : Bool) : Coordinator :=
  { c with independent15v := enabled }

/-- `receivers_.fill(ReceiverRequest{})`. -/
def clearRequests (c : Coordinator) : Coordinator := { c with receivers := fun _ => {} }

end Coordinator

/-- Replace the coordinator. -/
def Sys.with (s : Sys) (coord : Coordinator) : Sys := { s with coord }

/-- `apply_locked`. -/
def apply (s : Sys) : Sys × Result Unit :=
  let c := s.coord
  let desiredOn := c.refCount != 0
  if c.physicalState = .disconnected then (s, .error .disconnected)
  else if (desiredOn && c.physicalState == .on) ||
      (!desiredOn && c.physicalState == .off && !c.cleanupDebt) then (s, .ok ())
  else match s.hw.write () desiredOn with
    | (hw, .ok ()) => (⟨c.setPhysical (if desiredOn then .on else .off) false, hw⟩, .ok ())
    | (hw, .error .disconnected) =>
      (⟨c.setPhysical .disconnected false, hw⟩, .error .disconnected)
    | (hw, .error e) => (⟨c.setPhysical .unknown true, hw⟩, .error e)

/-- `begin_tune`. -/
def beginTune (receiver voltage : Nat) (s : Sys) : Sys × Result Unit :=
  let c := s.coord
  if kMlt5PeReceiverCount ≤ receiver ∨ (voltage ≠ 0 ∧ voltage ≠ 15) then
    (s, .error .invalidArgument)
  else if voltage == 15 && !c.allow15v then (s, .error .unsupported)
  else if c.physicalState = .disconnected then (s, .error .disconnected)
  else
    let request := c.receivers receiver
    if request.pending then (s, .error .busy)
    else
      let request := { request with pending := true, pending15v := voltage == 15 }
      match apply (s.with (c.setRequest receiver request)) with
      | (s, .ok ()) => (s, .ok ())
      | (s, .error applied) =>
        let request := { s.coord.receivers receiver with pending := false }
        match apply (s.with (s.coord.setRequest receiver request)) with
        | (s, .error .disconnected) => (s, .error .disconnected)
        | (s, _) => (s, .error applied)

/-- `set_independent_power`. -/
def setIndependentPower (enabled : Bool) (s : Sys) : Sys × Result Unit :=
  let c := s.coord
  if enabled && !c.allow15v then (s, .error .unsupported)
  else if enabled ∧ c.physicalState = .disconnected then (s, .error .disconnected)
  else
    let previous := c.independent15v
    match apply (s.with (c.setIndependent enabled)) with
    | (s, .ok ()) => (s, .ok ())
    | (s, .error applied) =>
      if !enabled then (s, .error applied)
      else
        match apply (s.with (s.coord.setIndependent previous)) with
        | (s, .error .disconnected) => (s, .error .disconnected)
        | (s, _) => (s, .error applied)

/-- `commit_tune`. -/
def commitTune (receiver : Nat) (s : Sys) : Sys × Result Unit :=
  let request := s.coord.receivers receiver
  if kMlt5PeReceiverCount ≤ receiver ∨ request.pending = false then (s, .error .invalidArgument)
  else
    let request := { request with committed15v := request.pending15v, pending := false }
    (s.with (s.coord.setRequest receiver request), .ok ())

/-- `rollback_tune`. -/
def rollbackTune (receiver : Nat) (s : Sys) : Sys × Result Unit :=
  let request := s.coord.receivers receiver
  if kMlt5PeReceiverCount ≤ receiver ∨ request.pending = false then (s, .error .invalidArgument)
  else apply (s.with (s.coord.setRequest receiver { request with pending := false }))

/-- `release_receiver`. -/
def releaseReceiver (receiver : Nat) (s : Sys) : Sys × Result Unit :=
  if kMlt5PeReceiverCount ≤ receiver then (s, .error .invalidArgument)
  else apply (s.with (s.coord.setRequest receiver {}))

/-- `shutdown`. -/
def shutdown (s : Sys) : Sys × Result Unit :=
  apply (s.with (s.coord.setIndependent false).clearRequests)

/-- `disconnect`. -/
def disconnect (s : Sys) : Sys :=
  s.with ((s.coord.setPhysical .disconnected false).setIndependent false).clearRequests

/-- The operations of `Mlt5PeLnbPowerCoordinator`. -/
inductive Call
  | beginTune (receiver voltage : Nat)
  | commitTune (receiver : Nat)
  | rollbackTune (receiver : Nat)
  | release (receiver : Nat)
  | setIndependentPower (enabled : Bool)
  | disconnect
  | shutdown
  deriving DecidableEq, Repr

/-- An operation with its result. -/
def call (s : Sys) : Call → Sys × Result Unit
  | .beginTune receiver voltage => beginTune receiver voltage s
  | .commitTune receiver => commitTune receiver s
  | .rollbackTune receiver => rollbackTune receiver s
  | .release receiver => releaseReceiver receiver s
  | .setIndependentPower enabled => setIndependentPower enabled s
  | .disconnect => (disconnect s, .ok ())
  | .shutdown => shutdown s

/-- A coordinator after `initialize_mlt5pe` has verified GPIO 11 low. -/
def start (allow15v : Bool) (outcomes : Nat → Lib.Outcome Error) : Sys where
  coord := { allow15v }
  hw := { value := fun _ => false, outcomes }

/-- A run of operations. -/
def calls (s : Sys) (ops : List Call) : Sys := ops.foldl (fun s op => (call s op).1) s

/-! ## As a board -/

/-- Five receivers on one bridge. -/
def mlt5PeWiring : Wiring :=
  ⟨1, fun _ => 0, fun receiver => decide (receiver < kMlt5PeReceiverCount)⟩

/-- The requests and the supply of the coordinator. -/
def Sys.board (s : Sys) : Board where
  allow := s.coord.allow15v
  pending r :=
    if mlt5PeWiring.valid r && (s.coord.receivers r).pending then
      some (s.coord.receivers r).pending15v
    else none
  committed r := mlt5PeWiring.valid r && (s.coord.receivers r).committed15v
  independent := s.coord.independent15v
  supply b := if b = 0 then s.supply else {}

/-- The operation of a call. -/
def Call.operation : Call → Operation
  | .beginTune receiver voltage => .begin receiver (voltage == 15)
  | .commitTune receiver => .commit receiver
  | .rollbackTune receiver => .rollback receiver
  | .release receiver => .release receiver
  | .setIndependentPower enabled => .independent enabled
  | .disconnect => .disconnect 0
  | .shutdown => .shutdown

/-- A call with its record of tunes. -/
def noted (s : Sys × Tunes) (op : Call) : Sys × Tunes :=
  ((call s.1 op).1, s.2.note mlt5PeWiring op.operation (call s.1 op).2)

end Px4.Lnb.Mlt5Pe
