import Px4.Frontend.Chips

/-!
# The receivers of an enclosure (`q3u4_frontend.cpp`, `q3u4_card_backend.cpp`)

`Q3U4FrontendEnclosure`: a bank of four receivers on each bridge over one power coordinator, and
beside it the power reference of `Q3U4CardBackend`. A bank's mutex makes each of its operations one
step. Arrays are functions of their index; every index used is below the array's size.
-/

namespace Px4.Frontend

open Px4.Power (Bridge)

/-- `Q3U4ReceiverState`. -/
inductive ReceiverState
  | closed | opened | tuned | capturing
  deriving DecidableEq, Repr

/-- The fields of `Q3U4FrontendBank`. -/
structure Bank where
  tunerInitialized : Nat → Bool := fun _ => false
  receiverState : Nat → ReceiverState := fun _ => .closed
  satelliteSelected : Nat → Bool := fun _ => false
  selectedTsid : Nat → Nat := fun _ => 0
  disconnected : Bool := false

namespace Bank

/-- `any_open_locked`. -/
def anyOpen (b : Bank) : Bool := (List.range 4).any fun i => b.receiverState i != .closed

/-- `any_other_open_locked`. -/
def anyOtherOpen (b : Bank) (receiver : Nat) : Bool :=
  (List.range 4).any fun i => i != receiver && b.receiverState i != .closed

/-- `any_capturing_locked`. -/
def anyCapturing (b : Bank) : Bool := (List.range 4).any fun i => b.receiverState i == .capturing

/-- `tuner_initialized_[index] = value`. -/
def setTuner (b : Bank) (index : Nat) (value : Bool) : Bank :=
  { b with tunerInitialized := Function.update b.tunerInitialized index value }

/-- `receiver_state_[receiver] = state`. -/
def setState (b : Bank) (receiver : Nat) (state : ReceiverState) : Bank :=
  { b with receiverState := Function.update b.receiverState receiver state }

/-- `satellite_selected_[receiver] = selected; selected_tsid_[receiver] = tsid`. -/
def setSelection (b : Bank) (receiver : Nat) (selected : Bool) (tsid : Nat) : Bank :=
  { b with
    satelliteSelected := Function.update b.satelliteSelected receiver selected
    selectedTsid := Function.update b.selectedTsid receiver tsid }

/-- What `mark_disconnected` leaves. -/
def lost (b : Bank) : Bank :=
  { b with
    disconnected := true
    receiverState := fun _ => .closed
    satelliteSelected := fun _ => false
    selectedTsid := fun _ => 0 }

end Bank

/-- `Q3U4FrontendEnclosure` with the bridges behind it, and `card_power_acquired_`. `purgers` says
which banks have a purger. -/
structure Enclosure where
  power : Power.Sys Wire
  bank : Bridge → Bank := fun _ => {}
  cardPowerAcquired : Bool := false
  purgers : Bridge → Bool := fun _ => true

namespace Enclosure

/-- The bridges. -/
def wire (e : Enclosure) : Wire := e.power.hw

/-- After commands to the chips. -/
def setWire (e : Enclosure) (w : Wire) : Enclosure := { e with power := { e.power with hw := w } }

/-- After an operation of the coordinator. -/
def setPower (e : Enclosure) (power : Power.Sys Wire) : Enclosure := { e with power }

/-- Another state of a bank. -/
def setBank (e : Enclosure) (bridge : Bridge) (bank : Bank) : Enclosure :=
  { e with bank := Function.update e.bank bridge bank }

end Enclosure

/-- `global_base_` of a bank. -/
def globalBase : Bridge → Nat
  | .dev1 => 0
  | .dev2 => 4

/-- The system of a receiver of a bank. -/
def systemOf (receiver : Nat) : System := if receiver < 2 then .isdbS else .isdbT

/-- `remember_first`. -/
def rememberFirst (first : Option Error) : Result Unit → Option Error
  | .ok () => first
  | .error .disconnected => some .disconnected
  | .error e => some (first.getD e)

/-- `combine_errors`, of an error that is there. -/
def combineErrors (first : Error) : Result Unit → Error
  | .ok () => first
  | .error .disconnected => .disconnected
  | .error _ => first

/-- The result of a cleanup. -/
def resultOf : Option Error → Result Unit
  | none => .ok ()
  | some e => .error e

section

variable (bridge : Bridge)

/-- `acquire_power`, by `Q3U4CoordinatorReceiverPowerAuthority`. -/
def acquirePower (receiver : Nat) (e : Enclosure) : Enclosure × Result Unit :=
  let global := globalBase bridge + receiver
  if global < globalBase bridge ∨ globalBase bridge + 4 ≤ global then (e, .error .invalidArgument)
  else
    let (power, result) := Power.acquireReceiver wireBackend global e.power
    (e.setPower power, result)

/-- `release_power`, by `Q3U4CoordinatorReceiverPowerAuthority`: a release whose reference was
removed by a disconnect is a success. -/
def releasePower (receiver : Nat) (e : Enclosure) : Enclosure × Result Unit :=
  let global := globalBase bridge + receiver
  if global < globalBase bridge ∨ globalBase bridge + 4 ≤ global then (e, .error .invalidArgument)
  else
    match Power.releaseReceiver wireBackend global e.power with
    | (power, .error .invalidArgument) =>
      (e.setPower power,
        if power.state.enclosureDisconnected then .ok () else .error .invalidArgument)
    | (power, result) => (e.setPower power, result)

/-- The loop of `terminate_initialized`. -/
def terminateLoop : List Nat → Option Error → Enclosure → Enclosure × Option Error
  | [], first, e => (e, first)
  | index :: rest, first, e =>
    if (e.bank bridge).tunerInitialized index then
      let (w, result) := e.wire.perform bridge (.i2c (.terminate index))
      terminateLoop rest (rememberFirst first result)
        ((e.setWire w).setBank bridge ((e.bank bridge).setTuner index false))
    else terminateLoop rest first e

/-- `terminate_initialized`. -/
def terminateInitialized (e : Enclosure) : Enclosure × Result Unit :=
  let (e, first) := terminateLoop bridge [3, 2, 1, 0] none e
  (e, resultOf first)

/-- `sleep_frontend` in an enclosure. -/
def sleepReceiver (receiver : Nat) (e : Enclosure) : Enclosure × Result Unit :=
  let (w, result) := sleepFrontend bridge receiver e.wire
  (e.setWire w, result)

/-- The end of a receiver: closed and without a selection. -/
def forget (receiver : Nat) (e : Enclosure) : Enclosure :=
  e.setBank bridge (((e.bank bridge).setState receiver .closed).setSelection receiver false 0)

/-- `cleanup_open_failure`. -/
def cleanupOpenFailure (receiver : Nat) (firstOpen : Bool) (primary : Error) (e : Enclosure) :
    Enclosure × Result Unit :=
  let (e, result) :=
    if firstOpen then terminateInitialized bridge e else sleepReceiver bridge receiver e
  let finalError := combineErrors primary result
  let (e, _) := releasePower bridge receiver e
  (forget bridge receiver e, .error finalError)

/-- The initialization of the tuners in a first `open_receiver`. -/
def initializeTuners : List Nat → Enclosure → Enclosure × Result Unit
  | [], e => (e, .ok ())
  | index :: rest, e =>
    match e.wire.perform bridge (.i2c (.initTuner index)) with
    | (w, .error failure) => (e.setWire w, .error failure)
    | (w, .ok ()) =>
      initializeTuners rest ((e.setWire w).setBank bridge ((e.bank bridge).setTuner index true))

/-- The sleep of the other receivers in a first `open_receiver`. -/
def sleepOthers : List Nat → Enclosure → Enclosure × Result Unit
  | [], e => (e, .ok ())
  | index :: rest, e =>
    match sleepReceiver bridge index e with
    | (e, .error failure) => (e, .error failure)
    | (e, .ok ()) => sleepOthers rest e

/-- What a first `open_receiver` does before the receiver is woken. -/
def prepareBank (receiver : Nat) (e : Enclosure) : Enclosure × Result Unit :=
  match initializeTuners bridge (List.range 4) e with
  | (e, .error failure) => (e, .error failure)
  | (e, .ok ()) => sleepOthers bridge ((List.range 4).filter (· ≠ receiver)) e

/-- What `open_receiver` does to the chips after power is on. -/
def openChips (receiver : Nat) (system : System) (firstOpen : Bool) (e : Enclosure) :
    Enclosure × Result Unit :=
  match (if firstOpen then prepareBank bridge receiver e else (e, .ok ())) with
  | (e, .error failure) => (e, .error failure)
  | (e, .ok ()) =>
    match wakeFrontend bridge receiver system e.wire with
    | (w, .error wake) => (e.setWire w, .error wake)
    | (w, .ok ()) =>
      if firstOpen then
        let (w, shared) := writeSharedInitialization bridge w
        (e.setWire w, shared)
      else (e.setWire w, .ok ())

/-- `open_receiver`. Every failure of the chips ends in the same cleanup. -/
def openReceiver (receiver : Nat) (system : System) (e : Enclosure) : Enclosure × Result Unit :=
  let bank := e.bank bridge
  if bank.disconnected then (e, .error .disconnected)
  else if 4 ≤ receiver then (e, .error .invalidArgument)
  else if system ≠ systemOf receiver then (e, .error .unsupported)
  else if bank.receiverState receiver ≠ .closed then (e, .error .busy)
  else
    let firstOpen := !bank.anyOpen
    match acquirePower bridge receiver e with
    | (e, .error power) => (e, .error power)
    | (e, .ok ()) =>
      match openChips bridge receiver system firstOpen e with
      | (e, .error failure) => cleanupOpenFailure bridge receiver firstOpen failure e
      | (e, .ok ()) =>
        (e.setBank bridge
          (((e.bank bridge).setState receiver .opened).setSelection receiver false 0), .ok ())

/-- `tune_receiver`. -/
def tuneReceiver (receiver khz : Nat) (system : System) (timeout : Nat) (e : Enclosure) :
    Enclosure × Result Unit :=
  let bank := e.bank bridge
  if bank.disconnected then (e, .error .disconnected)
  else if 4 ≤ receiver then (e, .error .invalidArgument)
  else if system ≠ systemOf receiver then (e, .error .unsupported)
  else if bank.receiverState receiver = .closed then (e, .error .notReady)
  else if bank.receiverState receiver = .capturing then (e, .error .busy)
  else
    match tuneChips bridge receiver khz system timeout e.wire with
    | (w, .error failed) => (e.setWire w, .error failed)
    | (w, .ok ()) => ((e.setWire w).setBank bridge (bank.setState receiver .tuned), .ok ())

/-- `select_satellite_tsid_locked`. -/
def selectTsid (receiver tsid timeout : Nat) (e : Enclosure) : Enclosure × Result Unit :=
  match selectTsidChips bridge receiver tsid timeout e.wire with
  | (w, .error failed) => (e.setWire w, .error failed)
  | (w, .ok ()) =>
    ((e.setWire w).setBank bridge ((e.bank bridge).setSelection receiver true tsid), .ok ())

/-- `select_satellite_slot_with_timeout`. -/
def selectSatelliteSlot (receiver slot timeout : Nat) (e : Enclosure) : Enclosure × Result Unit :=
  let bank := e.bank bridge
  if bank.disconnected then (e, .error .disconnected)
  else if 2 ≤ receiver then (e, .error .unsupported)
  else if 12 ≤ slot then (e, .error .invalidArgument)
  else if bank.receiverState receiver ≠ .tuned then (e, .error .notReady)
  else
    match pollTmcc bridge receiver slot timeout (timeout / 10 + 1) 0 0 none e.wire with
    | (w, .error failed) => (e.setWire w, .error failed)
    | (w, .ok (tsid, remaining)) => selectTsid bridge receiver tsid remaining (e.setWire w)

/-- `select_satellite_tsid_with_timeout`. -/
def selectSatelliteTsid (receiver tsid timeout : Nat) (e : Enclosure) : Enclosure × Result Unit :=
  let bank := e.bank bridge
  if bank.disconnected then (e, .error .disconnected)
  else if 2 ≤ receiver then (e, .error .invalidArgument)
  else if bank.receiverState receiver ≠ .tuned then (e, .error .notReady)
  else selectTsid bridge receiver tsid timeout e

/-- The purge before the first capture of a bank. -/
def purgeFirst (e : Enclosure) : Enclosure × Result Unit :=
  if !(e.bank bridge).anyCapturing && e.purgers bridge then
    let (w, purged) := e.wire.perform bridge .purge
    (e.setWire w, purged)
  else (e, .ok ())

/-- `start_capture`. A satellite receiver counts as capturing even if the pin write failed. -/
def startCapture (receiver : Nat) (system : System) (e : Enclosure) : Enclosure × Result Unit :=
  let bank := e.bank bridge
  if bank.disconnected then (e, .error .disconnected)
  else if 4 ≤ receiver then (e, .error .invalidArgument)
  else if system ≠ systemOf receiver then (e, .error .unsupported)
  else if bank.receiverState receiver ≠ .tuned then (e, .error .notReady)
  else if system = .isdbS && !bank.satelliteSelected receiver then (e, .error .notReady)
  else
    match purgeFirst bridge e with
    | (e, .error purged) => (e, .error purged)
    | (e, .ok ()) =>
      let (w, result) := e.wire.perform bridge (.i2c (.enableTsPins receiver true))
      if system = .isdbS || result.isOk then
        ((e.setWire w).setBank bridge (bank.setState receiver .capturing), result)
      else (e.setWire w, result)

/-- `disable_capture`. -/
def disableCapture (receiver : Nat) (e : Enclosure) : Enclosure × Result Unit :=
  match e.wire.perform bridge (.i2c (.enableTsPins receiver false)) with
  | (w, .error failed) => (e.setWire w, .error failed)
  | (w, .ok ()) => ((e.setWire w).setBank bridge ((e.bank bridge).setState receiver .tuned), .ok ())

/-- `stop_capture`. -/
def stopCapture (receiver : Nat) (system : System) (e : Enclosure) : Enclosure × Result Unit :=
  let bank := e.bank bridge
  if bank.disconnected then (e, .error .disconnected)
  else if 4 ≤ receiver then (e, .error .invalidArgument)
  else if system ≠ systemOf receiver then (e, .error .unsupported)
  else if bank.receiverState receiver ≠ .capturing then (e, .error .notReady)
  else disableCapture bridge receiver e

/-- `is_locked`. -/
def isLocked (receiver : Nat) (system : System) (e : Enclosure) : Enclosure × Result Bool :=
  let bank := e.bank bridge
  if bank.disconnected then (e, .error .disconnected)
  else if 4 ≤ receiver then (e, .error .invalidArgument)
  else if system ≠ systemOf receiver then (e, .error .unsupported)
  else if bank.receiverState receiver = .closed then (e, .error .notReady)
  else
    let (w, locked) := e.wire.access bridge (.i2c (.isSignalLocked receiver))
    (e.setWire w, locked.map (· != 0))

/-- The first step of a close: the capture is stopped. -/
def endCapture (receiver : Nat) (e : Enclosure) : Enclosure × Option Error :=
  if (e.bank bridge).receiverState receiver = .capturing then
    let (e, result) := disableCapture bridge receiver e
    (e, rememberFirst none result)
  else (e, none)

/-- `close_receiver`. -/
def closeReceiver (receiver : Nat) (e : Enclosure) : Enclosure × Result Unit :=
  let bank := e.bank bridge
  if bank.disconnected then
    (if receiver < 4 then forget bridge receiver e else e, .error .disconnected)
  else if 4 ≤ receiver then (e, .error .invalidArgument)
  else if bank.receiverState receiver = .closed then (e, .error .invalidArgument)
  else
    let (e, first) := endCapture bridge receiver e
    let (e, result) :=
      if !(e.bank bridge).anyOtherOpen receiver then terminateInitialized bridge e
      else sleepReceiver bridge receiver e
    let first := rememberFirst first result
    let (e, release) := releasePower bridge receiver (forget bridge receiver e)
    (e, resultOf (rememberFirst first release))

end

/-! ## The enclosure and the card -/

/-- `acquire_card`. -/
def acquireCard (e : Enclosure) : Enclosure × Result Unit :=
  let (power, result) := Power.acquireCard wireBackend e.power
  (e.setPower power, result)

/-- `release_card`. -/
def releaseCard (e : Enclosure) : Enclosure × Result Unit :=
  match Power.releaseCard wireBackend e.power with
  | (power, .error .invalidArgument) =>
    (e.setPower power, if power.state.enclosureDisconnected then .ok ()
      else .error .invalidArgument)
  | (power, result) => (e.setPower power, result)

/-- `reconcile_power`. -/
def reconcilePower (e : Enclosure) : Enclosure × Result Unit :=
  let (power, result) := Power.reconcile wireBackend e.power
  (e.setPower power, result)

/-- `mark_bridge_disconnected`. -/
def markBridgeDisconnected (bridge : Bridge) (e : Enclosure) : Enclosure × Result Unit :=
  let (power, result) := Power.disconnect bridge e.power
  ((e.setPower power).setBank bridge (e.bank bridge).lost, result)

/-- `card_power_acquired_ = acquired`. -/
def Enclosure.setCard (e : Enclosure) (acquired : Bool) : Enclosure :=
  { e with cardPowerAcquired := acquired }

/-- `Q3U4CardBackend::set_power`. -/
def setCardPower (on : Bool) (e : Enclosure) : Enclosure × Result Unit :=
  if on then
    if e.cardPowerAcquired then (e, .ok ())
    else
      match acquireCard e with
      | (e, .ok ()) => (e.setCard true, .ok ())
      | (e, .error acquired) => (e, .error acquired)
  else if !e.cardPowerAcquired then reconcilePower e
  else releaseCard (e.setCard false)

/-- The operations on an enclosure and its card; a receiver is a global one. -/
inductive Call
  | open (receiver : Nat) (system : System)
  | tune (receiver khz : Nat) (system : System) (timeout : Nat)
  | selectSlot (receiver slot timeout : Nat)
  | selectTsid (receiver tsid timeout : Nat)
  | startCapture (receiver : Nat) (system : System)
  | stopCapture (receiver : Nat) (system : System)
  | isLocked (receiver : Nat) (system : System)
  | close (receiver : Nat)
  | setCardPower (on : Bool)
  | markBridgeDisconnected (bridge : Bridge)
  deriving DecidableEq, Repr

/-- `map_receiver` and the routes over it. -/
def route (receiver : Nat) (op : Bridge → Nat → Enclosure → Enclosure × Result Unit)
    (e : Enclosure) : Enclosure × Result Unit :=
  if 8 ≤ receiver then (e, .error .invalidArgument)
  else op (Power.bridgeOf receiver) (receiver % 4) e

/-- An operation with its result. -/
def call (e : Enclosure) : Call → Enclosure × Result Unit
  | .open receiver system => route receiver (fun b r => openReceiver b r system) e
  | .tune receiver khz system timeout =>
    route receiver (fun b r => tuneReceiver b r khz system timeout) e
  | .selectSlot receiver slot timeout =>
    route receiver (fun b r => selectSatelliteSlot b r slot timeout) e
  | .selectTsid receiver tsid timeout =>
    route receiver (fun b r => selectSatelliteTsid b r tsid timeout) e
  | .startCapture receiver system => route receiver (fun b r => startCapture b r system) e
  | .stopCapture receiver system => route receiver (fun b r => stopCapture b r system) e
  | .isLocked receiver system =>
    route receiver (fun b r e => ((isLocked b r system e).1,
      (isLocked b r system e).2.map fun _ => ())) e
  | .close receiver => route receiver closeReceiver e
  | .setCardPower on => setCardPower on e
  | .markBridgeDisconnected bridge => markBridgeDisconnected bridge e

/-- The receiver an operation is on. -/
def Call.receiver? : Call → Option Nat
  | .open receiver _ | .tune receiver _ _ _ | .selectSlot receiver _ _ | .selectTsid receiver _ _
  | .startCapture receiver _ | .stopCapture receiver _ | .isLocked receiver _ | .close receiver =>
    some receiver
  | .setCardPower _ | .markBridgeDisconnected _ => none

/-- A run of operations. -/
def calls (e : Enclosure) (ops : List Call) : Enclosure := ops.foldl (fun e op => (call e op).1) e

/-- A new enclosure and card; `replies` are those of all later accesses. -/
def start (purgers : Bridge → Bool) (replies : Nat → Result Nat) : Enclosure where
  power := { state := {}, hw := { replies } }
  purgers

end Px4.Frontend
