import Px4.Frontend.Enclosure
import Px4.Frontend.Single
import Px4.Lib.Oracle
import Px4.Lib.Program

/-!
# The selection of a TSID, with its waits (`q3u4_frontend.cpp`, `single_receiver_frontend.cpp`)

`select_satellite_slot_with_timeout` of a bank and `select_satellite_slot` of the one-receiver
enclosures, over a demodulator and a delay whose answers are arbitrary. Both wait in the same two
loops. Of the diagnostic stages of a bank, those that a selection sets are told apart.

`std::size_t` is taken as 64 bits wide, so that `count` and `(count + 1U) * 10U` are numbers. With
32 bits the product would wrap in the last poll of the six largest timeouts; `tuner_service.cpp`
permits timeouts of 100 to 30000 milliseconds.
-/

namespace Px4.Frontend.Selection

open Lib (Program)

/-- What is read while waiting. -/
inductive Reading
  | tmcc (slot : UInt8)
  | tsid
  deriving DecidableEq, Repr

/-- Calls of the demodulator (`tmcc_get_tsid_s`, `get_tsid_s` and `set_tsid_s`) and of the delay. -/
inductive Ask
  | read (reading : Reading)
  | setTsid (tsid : UInt16)
  | sleepMs (ms : UInt32)
  deriving DecidableEq, Repr

/-- What they return. -/
abbrev Ask.Answer : Ask → Type
  | .read _ => Result UInt16
  | .setTsid _ => Result Unit
  | .sleepMs _ => Unit

/-- The calls so far, with what they have returned. -/
abbrev Log := List (Sigma Ask.Answer)

/-- The frontend's own fields, and what it works with. -/
structure Timed (S : Type) where
  own : S
  calls : Lib.Oracle Ask Ask.Answer

/-- A function of a frontend; it always comes back. -/
abbrev Selecting (S α : Type) := Program (Timed S) Empty α

variable {S : Type}

/-- A call. -/
def ask (q : Ask) : Selecting S q.Answer := do
  let t ← get
  set { t with calls := (t.calls.ask q).1 }
  return (t.calls.ask q).2

/-- A change of the frontend's own fields. -/
def update (f : S → S) : Selecting S PUnit := modify fun t => { t with own := f t.own }

/-! ## The loops -/

/-- `last_error` after a read, without `OK`. -/
def lastErrorOf : Result UInt16 → Option Error
  | .ok _ => none
  | .error e => some e

/-- The value that ends a loop. -/
def accepted (accept : UInt16 → Bool) : Result UInt16 → Option UInt16
  | .ok value => if accept value = true then some value else none
  | .error _ => none

/-- A loop with `left` more polls after `count`: the value that ends it, and `elapsed_ms`. -/
def waitFor (reading : Reading) (accept : UInt16 → Bool) (timeoutMs : UInt32) :
    Nat → Nat → UInt32 → Option Error → Selecting S (Result (UInt16 × UInt32))
  | 0, _, _, lastError => return .error (lastError.getD .timeout)
  | left + 1, count, elapsedMs, _ => do
    let value ← ask (.read reading)
    match accepted accept value with
    | some found => return .ok (found, elapsedMs)
    | none =>
      if (count + 1) * 10 ≤ timeoutMs.toNat then
        ask (.sleepMs 10)
        waitFor reading accept timeoutMs left (count + 1) (elapsedMs + 10) (lastErrorOf value)
      else waitFor reading accept timeoutMs left (count + 1) elapsedMs (lastErrorOf value)

/-- `max_polls`. -/
def maxPolls (timeoutMs : UInt32) : Nat := (timeoutMs / 10).toNat + 1

/-- The loop for a TSID that is not zero. -/
def waitForTmcc (slot : UInt8) (timeoutMs : UInt32) : Selecting S (Result (UInt16 × UInt32)) :=
  waitFor (.tmcc slot) (· ≠ 0) timeoutMs (maxPolls timeoutMs) 0 0 none

/-- The loop that reads the TSID back. -/
def waitForTsid (tsid : UInt16) (timeoutMs : UInt32) : Selecting S (Result (UInt16 × UInt32)) :=
  waitFor .tsid (· = tsid) timeoutMs (maxPolls timeoutMs) 0 0 none

/-- `remaining_ms`. -/
def remainingMs (elapsedMs timeoutMs : UInt32) : UInt32 :=
  if elapsedMs < timeoutMs then timeoutMs - elapsedMs else 0

/-! ## A bank -/

/-- `DiagnosticStage`. -/
inductive DiagnosticStage
  | none | satelliteDemodLock | satelliteSlotTmcc | satelliteSlotSet | satelliteSlotVerify | other
  deriving DecidableEq, Repr

/-- `Q3U4FrontendBank`, with its diagnostics. -/
structure Q3U4FrontendBank where
  bank : Bank
  currentStage : DiagnosticStage := .none
  failureStage : DiagnosticStage := .none
  operationFailed : Bool := false

namespace Q3U4FrontendBank

/-- `begin_operation`. -/
def beginOperation (b : Q3U4FrontendBank) : Q3U4FrontendBank :=
  { b with operationFailed := false, failureStage := .none }

/-- `attempt`. -/
def attempt (stage : DiagnosticStage) (b : Q3U4FrontendBank) : Q3U4FrontendBank :=
  { b with currentStage := stage }

/-- `remember_failure`, of a failure. -/
def rememberFailure (b : Q3U4FrontendBank) : Q3U4FrontendBank :=
  if b.operationFailed = false then
    { b with failureStage := b.currentStage, operationFailed := true }
  else b

/-- `select_satellite_tsid_locked`. -/
def selectSatelliteTsidLocked (localReceiver : Nat) (tsid : UInt16) (timeoutMs : UInt32) :
    Selecting Q3U4FrontendBank (Result Unit) := do
  update (attempt .satelliteSlotSet)
  match ← ask (.setTsid tsid) with
  | .error e =>
    update rememberFailure
    return .error e
  | .ok () =>
    update (attempt .satelliteSlotVerify)
    match ← waitForTsid tsid timeoutMs with
    | .error e =>
      update rememberFailure
      return .error e
    | .ok _ =>
      update fun b =>
        { b with bank := b.bank.setSelection localReceiver true tsid.toNat }.attempt
          .satelliteDemodLock
      return .ok ()

/-- `select_satellite_slot_with_timeout`. -/
def selectSatelliteSlotWithTimeout (localReceiver : Nat) (slot : UInt8) (timeoutMs : UInt32) :
    Selecting Q3U4FrontendBank (Result Unit) := do
  update beginOperation
  let bank := (← get).own.bank
  if bank.disconnected = true then return .error .disconnected
  else if 4 ≤ localReceiver ∨ 2 ≤ localReceiver then return .error .unsupported
  else if 12 ≤ slot then return .error .invalidArgument
  else if bank.receiverState localReceiver ≠ .tuned then return .error .notReady
  else
    update (attempt .satelliteSlotTmcc)
    match ← waitForTmcc slot timeoutMs with
    | .error e =>
      update rememberFailure
      return .error e
    | .ok (tsid, elapsedMs) =>
      selectSatelliteTsidLocked localReceiver tsid (remainingMs elapsedMs timeoutMs)

end Q3U4FrontendBank

/-! ## One receiver -/

/-- The fields of `SingleReceiverFrontend` that a selection uses. -/
structure SingleReceiverFrontend where
  model : Device.DeviceModel
  opened : Bool := false
  satellite : Bool := false
  disconnected : Bool := false

namespace SingleReceiverFrontend

/-- `select_satellite_tsid_locked`. -/
def selectSatelliteTsidLocked (tsid : UInt16) (timeoutMs : UInt32) :
    Selecting SingleReceiverFrontend (Result Unit) := do
  match ← ask (.setTsid tsid) with
  | .error e => return .error e
  | .ok () =>
    match ← waitForTsid tsid timeoutMs with
    | .error e => return .error e
    | .ok _ => return .ok ()

/-- `select_satellite_slot`. -/
def selectSatelliteSlot (receiver : Nat) (slot : UInt8) (timeoutMs : UInt32) :
    Selecting SingleReceiverFrontend (Result Unit) := do
  let s := (← get).own
  if receiver ≠ 0 then return .error .invalidArgument
  else if 12 ≤ slot then return .error .invalidArgument
  else if Single.receiverSupports s.model receiver .isdbS = false then return .error .unsupported
  else if s.opened = false ∨ s.satellite = false then return .error .notReady
  else if s.disconnected = true then return .error .disconnected
  else
    match ← waitForTmcc slot timeoutMs with
    | .error e => return .error e
    | .ok (tsid, elapsedMs) => selectSatelliteTsidLocked tsid (remainingMs elapsedMs timeoutMs)

end SingleReceiverFrontend

end Px4.Frontend.Selection
