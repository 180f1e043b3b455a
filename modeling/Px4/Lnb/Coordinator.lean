import Px4.Core
import Px4.Lib.Run
import Mathlib.Logic.Function.Basic
import Mathlib.Tactic.Simps.Basic

/-!
# LNB power (`q3u4_lnb_power.h`, `q3u4_lnb_power.cpp`)

`Q3U4LnbPowerCoordinator` over two bridge backends. The backends are a parameter (`Backend`): the
coordinator runs in a state `Sys σ` of its own fields and the backends' hardware. The mutex makes
every public function one step. Arrays are functions of their index; every index used is below the
array's size.

`setQ3u4LnbPower` is the write of GPIO 11 by `It930xController`, over which the PX-W3U4 wiring of
`run_w3u4` is built: one device passed as both backends (`w3u4Backend`).
-/

namespace Px4.Lnb

/-- `Q3U4LnbPhysicalState`. -/
inductive PhysicalState
  | unknown | off | on | disconnected
  deriving DecidableEq, Repr

/-- `Q3U4LnbPowerCoordinator::ReceiverRequest`. -/
structure ReceiverRequest where
  committed : Bool := false
  committed15v : Bool := false
  pending : Bool := false
  pending15v : Bool := false
  deriving DecidableEq, Repr

/-- The request in effect: the pending one, else the last committed. -/
def ReceiverRequest.enabled (request : ReceiverRequest) : Bool :=
  if request.pending then request.pending15v else request.committed && request.committed15v

/-- The fields of `Q3U4LnbPowerCoordinator`. -/
structure Coordinator where
  allow15v : Bool
  receivers : Nat → ReceiverRequest := fun _ => {}
  independent15v : Bool := false
  physicalState : Nat → PhysicalState := fun _ => .off
  cleanupDebt : Nat → Bool := fun _ => false

/-- `Q3U4LnbPowerSnapshot`. -/
structure Snapshot where
  refCount : Nat × Nat
  physicalState : PhysicalState × PhysicalState
  cleanupDebt : Bool × Bool
  deriving DecidableEq, Repr

/-- `set_lnb_power` of the backend of a bridge. -/
abbrev Backend (σ : Type) := Nat → Bool → σ → σ × Result Unit

/-- The coordinator and the hardware behind its backends. -/
structure Sys (σ : Type) where
  coord : Coordinator
  hw : σ

/-- `valid_satellite_receiver`. -/
def validSatelliteReceiver (receiver : Nat) : Bool :=
  receiver == 0 || receiver == 1 || receiver == 4 || receiver == 5

/-- `bridge_index_for_receiver`. -/
def bridgeIndexForReceiver (receiver : Nat) : Nat := if receiver < 4 then 0 else 1

namespace Coordinator

/-- `ref_count_locked`. -/
def refCount (c : Coordinator) (bridge : Nat) : Nat :=
  let first := if bridge = 0 then 0 else 4
  (c.receivers first).enabled.toNat + (c.receivers (first + 1)).enabled.toNat +
    c.independent15v.toNat

/-- `receivers_[receiver] = request`. -/
@[simps -fullyApplied]
def setRequest (c : Coordinator) (receiver : Nat) (request : ReceiverRequest) : Coordinator :=
  { c with receivers := Function.update c.receivers receiver request }

/-- `physical_state_[bridge] = state; cleanup_debt_[bridge] = debt`. -/
@[simps -fullyApplied]
def setPhysical (c : Coordinator) (bridge : Nat) (state : PhysicalState) (debt : Bool) :
    Coordinator :=
  { c with
    physicalState := Function.update c.physicalState bridge state
    cleanupDebt := Function.update c.cleanupDebt bridge debt }

/-- `independent_15v_ = enabled`. -/
@[simps]
def setIndependent (c : Coordinator) (enabled : Bool) : Coordinator :=
  { c with independent15v := enabled }

/-- `receivers_.fill(ReceiverRequest{})`. -/
def clearRequests (c : Coordinator) : Coordinator := { c with receivers := fun _ => {} }

@[simp] theorem clearRequests_receivers (c : Coordinator) (r : Nat) :
    c.clearRequests.receivers r = {} := rfl

/-- `snapshot`. -/
def snapshot (c : Coordinator) : Snapshot :=
  { refCount := (c.refCount 0, c.refCount 1)
    physicalState := (c.physicalState 0, c.physicalState 1)
    cleanupDebt := (c.cleanupDebt 0, c.cleanupDebt 1) }

end Coordinator

section

variable {σ : Type} (be : Backend σ)

/-- `apply_bridge_locked`. -/
def applyBridge (bridge : Nat) (s : Sys σ) : Sys σ × Result Unit :=
  let c := s.coord
  let desiredOn := c.refCount bridge != 0
  if c.physicalState bridge = .disconnected then (s, .error .disconnected)
  else if (desiredOn && c.physicalState bridge == .on) ||
      (!desiredOn && c.physicalState bridge == .off && !c.cleanupDebt bridge) then (s, .ok ())
  else match be bridge desiredOn s.hw with
    | (hw, .ok ()) => (⟨c.setPhysical bridge (if desiredOn then .on else .off) false, hw⟩, .ok ())
    | (hw, .error .disconnected) =>
      (⟨c.setPhysical bridge .disconnected false, hw⟩, .error .disconnected)
    | (hw, .error e) => (⟨c.setPhysical bridge .unknown true, hw⟩, .error e)

/-- `apply_both_locked`: both bridges are attempted and the first error is returned. -/
def applyBoth (s : Sys σ) : Sys σ × Result Unit :=
  let (s, first) := applyBridge be 0 s
  let (s, second) := applyBridge be 1 s
  match first with
  | .ok () => (s, second)
  | .error e => (s, .error e)

/-- `begin_tune`. -/
def beginTune (receiver voltage : Nat) (s : Sys σ) : Sys σ × Result Unit :=
  let c := s.coord
  if !validSatelliteReceiver receiver || (voltage != 0 && voltage != 15) then
    (s, .error .invalidArgument)
  else if voltage == 15 && !c.allow15v then (s, .error .unsupported)
  else if c.physicalState 0 = .disconnected ∨ c.physicalState 1 = .disconnected then
    (s, .error .disconnected)
  else
    let request := c.receivers receiver
    if request.pending then (s, .error .busy)
    else
      let bridge := bridgeIndexForReceiver receiver
      let request := { request with pending := true, pending15v := voltage == 15 }
      match applyBridge be bridge { s with coord := c.setRequest receiver request } with
      | (s, .ok ()) => (s, .ok ())
      | (s, .error applied) =>
        -- the earlier request comes back, with one attempt to restore its physical state
        let request := { s.coord.receivers receiver with pending := false }
        match applyBridge be bridge { s with coord := s.coord.setRequest receiver request } with
        | (s, .error .disconnected) => (s, .error .disconnected)
        | (s, _) => (s, .error applied)

/-- `set_independent_power`. -/
def setIndependentPower (enabled : Bool) (s : Sys σ) : Sys σ × Result Unit :=
  let c := s.coord
  if enabled && !c.allow15v then (s, .error .unsupported)
  else if enabled ∧ (c.physicalState 0 = .disconnected ∨ c.physicalState 1 = .disconnected) then
    (s, .error .disconnected)
  else
    let previous := c.independent15v
    match applyBoth be { s with coord := c.setIndependent enabled } with
    | (s, .ok ()) => (s, .ok ())
    | (s, .error applied) =>
      if !enabled then (s, .error applied)
      else
        match applyBoth be { s with coord := s.coord.setIndependent previous } with
        | (s, .error .disconnected) => (s, .error .disconnected)
        | (s, _) => (s, .error applied)

/-- `commit_tune`. -/
def commitTune (receiver : Nat) (s : Sys σ) : Sys σ × Result Unit :=
  let request := s.coord.receivers receiver
  if !validSatelliteReceiver receiver || !request.pending then (s, .error .invalidArgument)
  else
    let request := { request with
      committed := true, committed15v := request.pending15v, pending := false }
    ({ s with coord := s.coord.setRequest receiver request }, .ok ())

/-- `rollback_tune`. -/
def rollbackTune (receiver : Nat) (s : Sys σ) : Sys σ × Result Unit :=
  let request := s.coord.receivers receiver
  if !validSatelliteReceiver receiver || !request.pending then (s, .error .invalidArgument)
  else
    let request := { request with pending := false }
    applyBridge be (bridgeIndexForReceiver receiver)
      { s with coord := s.coord.setRequest receiver request }

/-- `release_receiver`. -/
def releaseReceiver (receiver : Nat) (s : Sys σ) : Sys σ × Result Unit :=
  if !validSatelliteReceiver receiver then (s, .error .invalidArgument)
  else
    applyBridge be (bridgeIndexForReceiver receiver)
      { s with coord := s.coord.setRequest receiver {} }

/-- `reconcile`. -/
def reconcile (s : Sys σ) : Sys σ × Result Unit := applyBoth be s

/-- `shutdown`. -/
def shutdown (s : Sys σ) : Sys σ × Result Unit :=
  applyBoth be { s with coord := (s.coord.setIndependent false).clearRequests }

/-- `disconnect`. -/
def disconnect (bridge : Nat) (s : Sys σ) : Sys σ × Result Unit :=
  if 1 < bridge then (s, .error .invalidArgument)
  else
    let first := if bridge = 0 then 0 else 4
    let c := (s.coord.setPhysical bridge .disconnected false).setIndependent false
    ({ s with coord := (c.setRequest first {}).setRequest (first + 1) {} }, .ok ())

end

/-! ## The device -/

/-- What `It930xController` and its device have of the LNB supply: the level of GPIO 11, the
`q3u4_lnb_disconnected_` flag and the number of writes issued to the device. -/
structure Device where
  gpio11 : Bool := false
  lnbDisconnected : Bool := false
  writes : Nat := 0
  deriving DecidableEq, Repr

/-- `It930xController::set_q3u4_lnb_power`; `outcome` is that of the register write. -/
def setQ3u4LnbPower (outcome : Result Unit) (on : Bool) (d : Device) : Device × Result Unit :=
  if d.lnbDisconnected then (d, .error .disconnected)
  else match outcome with
    | .ok () => ({ d with gpio11 := on, writes := d.writes + 1 }, .ok ())
    | .error e =>
      ({ d with lnbDisconnected := e == .disconnected, writes := d.writes + 1 }, .error e)

/-- The wiring of `run_w3u4`: one `It930xLnbPower` is both backends. Every write succeeds. -/
def w3u4Backend : Backend Device := fun _ on d => setQ3u4LnbPower (.ok ()) on d

/-- `run_w3u4` with 15 V allowed, after `initialize_q3u4` has verified GPIO 11 low. -/
def w3u4 : Sys Device := { coord := { allow15v := true }, hw := {} }

/-- The calls of the daemon, on the receivers 0..3 of the device. -/
inductive Op
  | beginTune (receiver : Fin 4) (voltage : Nat)
  | commitTune (receiver : Fin 4)
  | rollbackTune (receiver : Fin 4)
  | release (receiver : Fin 4)
  | setIndependentPower (enabled : Bool)
  | disconnect
  | shutdown
  deriving DecidableEq, Repr

/-- One call; `mark_receiver_disconnected` of a receiver 0..3 disconnects the first bridge. -/
def step (s : Sys Device) : Op → Sys Device
  | .beginTune receiver voltage => (beginTune w3u4Backend receiver voltage s).1
  | .commitTune receiver => (commitTune receiver s).1
  | .rollbackTune receiver => (rollbackTune w3u4Backend receiver s).1
  | .release receiver => (releaseReceiver w3u4Backend receiver s).1
  | .setIndependentPower enabled => (setIndependentPower w3u4Backend enabled s).1
  | .disconnect => (disconnect 0 s).1
  | .shutdown => (shutdown w3u4Backend s).1

/-- Some receiver 0..3 effectively requests 15 V. -/
def requested (c : Coordinator) : Bool :=
  (c.receivers 0).enabled || (c.receivers 1).enabled || (c.receivers 2).enabled ||
    (c.receivers 3).enabled

/-- The device has been marked disconnected. -/
def marked (c : Coordinator) : Prop := c.physicalState 0 = .disconnected

instance (c : Coordinator) : Decidable (marked c) := inferInstanceAs (Decidable (_ = _))

/-- What the line owes after a call: before the disconnect it is on iff a receiver requests 15 V or
independent power is on, and no write is issued to a device marked disconnected. -/
def LineOk (s : Sys Device) (op : Op) : Prop :=
  (¬marked (step s op).coord →
    (step s op).hw.gpio11 = (requested (step s op).coord || (step s op).coord.independent15v)) ∧
  (marked s.coord → (step s op).hw.writes = s.hw.writes)

instance (s : Sys Device) (op : Op) : Decidable (LineOk s op) :=
  inferInstanceAs (Decidable (_ ∧ _))

/-- When a call keeps the line right. Independent power is not switched off while a receiver
requests 15 V, and once the device is marked disconnected neither that nor a shutdown comes with the
second bridge still believed on. -/
def LineCond (s : Sys Device) : Op → Prop
  | .setIndependentPower false =>
    if marked s.coord then s.coord.physicalState 1 ≠ .on
    else ¬(s.coord.independent15v = true ∧ requested s.coord = true)
  | .shutdown => marked s.coord → s.coord.physicalState 1 ≠ .on
  | _ => True

end Px4.Lnb
