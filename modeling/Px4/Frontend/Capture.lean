import Px4.Frontend.Enclosure
import Px4.Lib.Run

/-!
# What a capture runs on

A run of operations on an enclosure, observed from outside: which operations there were, what they
came to, and how far the log of the bridges was before and after each. From that and from the log
itself, `latestTune` is the latest tune of a receiver that reached its chips, `ReadBack` says that a
TSID was written and read back, and `lastTsid` is the TSID written last. Nothing here reads the
fields of a bank but `OnCurrentTuning`, which compares `selected_tsid` with the log.

`Renewed` is the condition on a step: the state before it and the replies to its commands.
-/

namespace Px4.Frontend

open Px4.Power (Bridge bridgeOf)

/-- An operation, the accesses to the bridges before and after it, and its result. -/
structure Event where
  call : Call
  before : Nat
  after : Nat
  result : Result Unit

namespace Event

/-- The receiver was opened. -/
def opens (ev : Event) (receiver : Nat) : Bool :=
  match ev.call with
  | .open r _ => r == receiver && ev.result.isOk
  | _ => false

/-- A tune of the receiver that reached the hardware. -/
def tunes (ev : Event) (receiver : Nat) : Bool :=
  match ev.call with
  | .tune r _ _ _ => r == receiver && decide (ev.before < ev.after)
  | _ => false

end Event

/-- An enclosure and the operations that led to it, latest first. -/
structure Observed where
  enclosure : Enclosure
  events : List Event := []

namespace Observed

/-- The bridges. -/
def wire (s : Observed) : Wire := s.enclosure.wire

/-- The bank of a receiver. -/
def bank (s : Observed) (receiver : Nat) : Bank := s.enclosure.bank (bridgeOf receiver)

end Observed

/-- What is seen of an operation. -/
def eventOf (e : Enclosure) (op : Call) : Event where
  call := op
  before := e.wire.log.length
  after := (call e op).1.wire.log.length
  result := (call e op).2

/-- An operation. -/
def observe (s : Observed) (op : Call) : Observed where
  enclosure := (call s.enclosure op).1
  events := eventOf s.enclosure op :: s.events

/-- The latest tune of a receiver that reached the hardware since it was opened. -/
def latestTune (receiver : Nat) : List Event → Option Event
  | [] => none
  | ev :: events =>
    if ev.opens receiver then none
    else if ev.tunes receiver then some ev
    else latestTune receiver events

/-- The TSID an access writes to a demodulator. -/
def tsidOf (bridge : Bridge) (index : Nat) : Bridge × Access → Option Nat
  | (b, .i2c (.setTsid i tsid)) => if b = bridge ∧ i = index then some tsid else none
  | _ => none

/-- The last TSID written to a demodulator. A write counts whatever it came to: it may have taken
effect although its answer was lost. -/
def lastTsid (bridge : Bridge) (index : Nat) (log : List (Bridge × Access)) : Option Nat :=
  (log.filterMap (tsidOf bridge index)).getLast?

/-- After the first `base` accesses a TSID was written to a demodulator and read back from it. -/
def ReadBack (w : Wire) (bridge : Bridge) (index base : Nat) : Prop :=
  ∃ tsid i j, base ≤ i ∧ i < j ∧
    w.log[i]? = some (bridge, .i2c (.setTsid index tsid)) ∧ (w.replies i).isOk = true ∧
    w.log[j]? = some (bridge, .i2c (.getTsid index)) ∧ w.replies j = .ok tsid

/-- The latest tune of a receiver succeeded, and for ISDB-S a TSID was written and read back after
it and `selected_tsid` is the last TSID written. -/
def OnCurrentTuning (s : Observed) (receiver : Nat) : Prop :=
  ∃ ev, latestTune receiver s.events = some ev ∧ ev.result = .ok () ∧
    (systemOf (receiver % 4) = .isdbS →
      ReadBack s.wire (bridgeOf receiver) (receiver % 4) ev.after ∧
      lastTsid (bridgeOf receiver) (receiver % 4) s.wire.log =
        some ((s.bank receiver).selectedTsid (receiver % 4)))

/-! ## The condition on a step -/

/-- `tune_receiver` reaches the chips. -/
def Tunable (bank : Bank) (receiver : Nat) (system : System) : Prop :=
  bank.disconnected = false ∧ system = systemOf receiver ∧
    (bank.receiverState receiver = .opened ∨ bank.receiverState receiver = .tuned)

/-- `select_satellite_tsid_locked` is reached. -/
def Selectable (bank : Bank) (receiver : Nat) : Prop :=
  bank.disconnected = false ∧ receiver < 2 ∧ bank.receiverState receiver = .tuned

/-- A TSID that is not the one selected is accepted by the demodulator. -/
def Reselected (bridge : Bridge) (bank : Bank) (receiver tsid timeout : Nat) (w : Wire) : Prop :=
  bank.satelliteSelected receiver = true → tsid ≠ bank.selectedTsid receiver →
    (selectTsidChips bridge receiver tsid timeout w).2 = .ok ()

/-- **The condition on a step.** A tune that reaches the chips of a tuned receiver is answered with
a lock, and there is none while a TSID is selected; and while one is selected, another TSID that is
written is read back. -/
def Renewed (e : Enclosure) : Call → Prop
  | .tune receiver khz system timeout =>
    let bank := e.bank (bridgeOf receiver)
    let r := receiver % 4
    receiver < 8 → Tunable bank r system →
      (bank.receiverState r = .tuned →
        (tuneChips (bridgeOf receiver) r khz system timeout e.wire).2 = .ok ()) ∧
      (system = .isdbS → bank.satelliteSelected r = false)
  | .selectTsid receiver tsid timeout =>
    let bank := e.bank (bridgeOf receiver)
    let r := receiver % 4
    receiver < 8 → Selectable bank r → Reselected (bridgeOf receiver) bank r tsid timeout e.wire
  | .selectSlot receiver slot timeout =>
    let bank := e.bank (bridgeOf receiver)
    let r := receiver % 4
    receiver < 8 → slot < 12 → Selectable bank r →
      match pollTmcc (bridgeOf receiver) r slot timeout (timeout / 10 + 1) 0 0 none e.wire with
      | (w, .ok (tsid, remaining)) => Reselected (bridgeOf receiver) bank r tsid remaining w
      | (_, .error _) => True
  | _ => True

/-- A new enclosure before any operation. -/
def unobserved (purgers : Bridge → Bool) (replies : Nat → Result Nat) : Observed where
  enclosure := start purgers replies

end Px4.Frontend
