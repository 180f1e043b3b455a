import Px4.It930x.Power

/-!
# Backend power of an enclosure (`q3u4_power.h`, `q3u4_power.cpp`)

`Q3U4PowerCoordinator` holds the power references of the eight receivers and of the card, and keeps
the backend of each bridge on while it is in use. The backends are a parameter; `Controllers` are
the ones of the daemon. The mutex makes every public function one step.
-/

namespace Px4.Power

open It930x (PowerState Controller)

/-- `Q3U4Bridge`. -/
inductive Bridge
  | dev1 | dev2
  deriving DecidableEq, Repr

/-- The other bridge. -/
def Bridge.other : Bridge → Bridge
  | .dev1 => .dev2
  | .dev2 => .dev1

/-- `Q3U4PowerSnapshot`, the state of the coordinator. -/
structure Snapshot where
  receiverMask : BitVec 8 := 0
  cardAcquired : Bool := false
  backendState : Bridge → PowerState := fun _ => .off

/-- `set_backend_power` of the backend of a bridge. -/
abbrev Backend (σ : Type) := Bridge → Bool → σ → σ × Result Unit

/-- The coordinator and the hardware behind its backends. -/
structure Sys (σ : Type) where
  state : Snapshot
  hw : σ

namespace Snapshot

/-- `desired_power_locked`. -/
def desiredPower (s : Snapshot) (bridge : Bridge) : Bool :=
  if s.receiverMask ≠ 0 then true else bridge == .dev1 && s.cardAcquired

/-- `enclosure_disconnected_locked`. -/
def enclosureDisconnected (s : Snapshot) : Bool :=
  s.backendState .dev1 == .disconnected || s.backendState .dev2 == .disconnected

/-- `state_.backend_state[bridge] = state`. -/
def setBackend (s : Snapshot) (bridge : Bridge) (state : PowerState) : Snapshot :=
  { s with backendState := Function.update s.backendState bridge state }

/-- `state_.receiver_mask = mask; state_.card_acquired = card`. -/
def setReferences (s : Snapshot) (mask : BitVec 8) (card : Bool) : Snapshot :=
  { s with receiverMask := mask, cardAcquired := card }

end Snapshot

/-- The bit of a receiver. -/
def receiverBit (receiver : Nat) : BitVec 8 := 1#8 <<< receiver

/-- The bridge of a receiver. -/
def bridgeOf (receiver : Nat) : Bridge := if receiver < 4 then .dev1 else .dev2

section

variable {σ : Type} (be : Backend σ)

/-- Other references. -/
def Sys.setReferences (s : Sys σ) (mask : BitVec 8) (card : Bool) : Sys σ :=
  { s with state := s.state.setReferences mask card }

/-- `set_bridge_locked`. -/
def setBridge (bridge : Bridge) (on : Bool) (s : Sys σ) : Sys σ × Result Unit :=
  let current := s.state.backendState bridge
  if current = .disconnected then (s, if on then .error .disconnected else .ok ())
  else if (on && current == .on) || (!on && current == .off) then (s, .ok ())
  else match be bridge on s.hw with
    | (hw, .ok ()) => (⟨s.state.setBackend bridge (if on then .on else .off), hw⟩, .ok ())
    | (hw, .error e) =>
      (⟨s.state.setBackend bridge (if e = .disconnected then .disconnected else .unknown), hw⟩,
        .error e)

/-- `apply_desired_locked`. -/
def applyDesired (first : Bridge) (s : Sys σ) : Sys σ × Result Unit :=
  match setBridge be first (s.state.desiredPower first) s with
  | (s, .error e) => (s, .error e)
  | (s, .ok ()) => setBridge be first.other (s.state.desiredPower first.other) s

/-- `rollback_logical_locked`. -/
def rollbackLogical (prior : Snapshot) (first : Bridge) (s : Sys σ) : Sys σ :=
  (applyDesired be first (s.setReferences prior.receiverMask prior.cardAcquired)).1

/-- References are taken, and given back if they cannot be satisfied. -/
def acquire (mask : BitVec 8) (card : Bool) (first : Bridge) (s : Sys σ) : Sys σ × Result Unit :=
  match applyDesired be first (s.setReferences mask card) with
  | (s', .ok ()) => (s', .ok ())
  | (s', .error e) => (rollbackLogical be s.state first s', .error e)

/-- `acquire_receiver`. -/
def acquireReceiver (receiver : Nat) (s : Sys σ) : Sys σ × Result Unit :=
  let state := s.state
  if state.enclosureDisconnected then (s, .error .disconnected)
  else if 7 < receiver then (s, .error .invalidArgument)
  else if state.receiverMask &&& receiverBit receiver ≠ 0 then (s, .error .busy)
  else
    acquire be (state.receiverMask ||| receiverBit receiver) state.cardAcquired
      (bridgeOf receiver) s

/-- `release_receiver`. -/
def releaseReceiver (receiver : Nat) (s : Sys σ) : Sys σ × Result Unit :=
  let state := s.state
  if 7 < receiver then (s, .error .invalidArgument)
  else if state.receiverMask &&& receiverBit receiver = 0 then (s, .error .invalidArgument)
  else
    applyDesired be (bridgeOf receiver)
      (s.setReferences (state.receiverMask &&& ~~~receiverBit receiver) state.cardAcquired)

/-- `acquire_card`. -/
def acquireCard (s : Sys σ) : Sys σ × Result Unit :=
  let state := s.state
  if state.enclosureDisconnected then (s, .error .disconnected)
  else if state.cardAcquired then (s, .error .busy)
  else acquire be state.receiverMask true .dev1 s

/-- `release_card`. -/
def releaseCard (s : Sys σ) : Sys σ × Result Unit :=
  if !s.state.cardAcquired then (s, .error .invalidArgument)
  else applyDesired be .dev1 (s.setReferences s.state.receiverMask false)

/-- `reconcile`. -/
def reconcile (s : Sys σ) : Sys σ × Result Unit :=
  if s.state.enclosureDisconnected then (s, .error .disconnected) else applyDesired be .dev1 s

/-- The state after `disconnect`: a surviving bridge that is on becomes unknown. -/
def Snapshot.disconnect (s : Snapshot) (bridge : Bridge) : Snapshot :=
  let s := (s.setBackend bridge .disconnected).setReferences 0 false
  if s.backendState bridge.other = .on then s.setBackend bridge.other .unknown else s

/-- `disconnect`, of a valid bridge. It performs no hardware operation. -/
def disconnect (bridge : Bridge) (s : Sys σ) : Sys σ × Result Unit :=
  (⟨s.state.disconnect bridge, s.hw⟩, .ok ())

/-- The operations of `Q3U4PowerCoordinator`. -/
inductive Call
  | acquireReceiver (receiver : Nat)
  | releaseReceiver (receiver : Nat)
  | acquireCard
  | releaseCard
  | reconcile
  | disconnect (bridge : Bridge)
  deriving DecidableEq, Repr

/-- An operation with its result. -/
def call (s : Sys σ) : Call → Sys σ × Result Unit
  | .acquireReceiver receiver => acquireReceiver be receiver s
  | .releaseReceiver receiver => releaseReceiver be receiver s
  | .acquireCard => acquireCard be s
  | .releaseCard => releaseCard be s
  | .reconcile => reconcile be s
  | .disconnect bridge => disconnect bridge s

/-- A run of operations. -/
def calls (s : Sys σ) (ops : List Call) : Sys σ := ops.foldl (fun s op => (call be s op).1) s

end

/-! ## Over two controllers -/

/-- The controllers of the bridges. -/
abbrev Controllers := Bridge → Controller

/-- `It930xBackendPower::set_backend_power`. -/
def controllerBackend : Backend Controllers := fun bridge on hw =>
  (Function.update hw bridge ((hw bridge).setQ3u4BackendPower on).1,
    ((hw bridge).setQ3u4BackendPower on).2)

/-- The coordinator after `initialize_q3u4` has verified GPIO 2 low and GPIO 7 high on both bridges;
`outcomes` are those of all later writes. -/
def start (outcomes : Bridge → Nat → Lib.Outcome Error) : Sys Controllers where
  state := {}
  hw bridge := { bus := {
    value := fun reg => if reg = It930x.gpio7Output then 1 else 0
    outcomes := outcomes bridge } }

end Px4.Power
