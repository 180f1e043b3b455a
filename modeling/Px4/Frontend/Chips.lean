import Px4.Power.Coordinator

/-!
# Commands to the chips of a bank (`q3u4_frontend.cpp`)

What a `Q3U4FrontendBank` asks of its demodulators and tuners, of its purger and of the backend
power, as accesses to a bridge. A `Command` is one call of a chip driver (`tc90522.h`, `rt710.h`,
`r850.h`), which is a number of I2C transfers on the bridge of the bank; what an access comes to is
arbitrary (`replies`), so that every pattern of failures of those transfers is one of replies. The
sequences of commands and the poll loops of the bank are here, the ownership of its receivers is in
`Px4.Frontend.Enclosure`. Diagnostic stages and delays are left out.
-/

namespace Px4.Frontend

open Px4.Power (Bridge Backend)

/-- `Tc90522System`. -/
inductive System
  | isdbT | isdbS
  deriving DecidableEq, Repr

/-- A call of a chip driver; `index` is the place of the chip in its bank. -/
inductive Command
  | initTuner (index : Nat)
  | terminate (index : Nat)
  | sleepTuner (index : Nat)
  | sleepDemod (index : Nat) (sleep : Bool)
  | writeRegs (index : Nat) (values : List (UInt8 × UInt8))
  | enableTsPins (index : Nat) (enable : Bool)
  | setAgc (index : Nat) (on : Bool)
  | wakeup (index : Nat)
  | setSystem (index : Nat)
  | setFrequency (index : Nat) (khz : Nat)
  | setParams (index : Nat) (khz symbolRate rolloff : Nat)
  | isPllLocked (index : Nat)
  | isSignalLocked (index : Nat)
  | setTsid (index : Nat) (tsid : Nat)
  | getTsid (index : Nat)
  | tmccGetTsid (index : Nat) (slot : Nat)
  deriving DecidableEq, Repr

/-- What is done to a bridge. -/
inductive Access
  | i2c (command : Command)
  | purge
  | power (on : Bool)
  deriving DecidableEq, Repr

/-- The bridges: the accesses so far, oldest first, and what the `n`-th access comes to. -/
structure Wire where
  log : List (Bridge × Access) := []
  replies : Nat → Result Nat

namespace Wire

/-- An access, with its value. -/
def access (w : Wire) (bridge : Bridge) (a : Access) : Wire × Result Nat :=
  ({ w with log := w.log ++ [(bridge, a)] }, w.replies w.log.length)

/-- An access without a value. -/
def perform (w : Wire) (bridge : Bridge) (a : Access) : Wire × Result Unit :=
  ((w.access bridge a).1, (w.access bridge a).2.map fun _ => ())

/-- Commands in order, up to the first one that fails. -/
def commands (w : Wire) (bridge : Bridge) : List Command → Wire × Result Unit
  | [] => (w, .ok ())
  | command :: rest =>
    match w.perform bridge (.i2c command) with
    | (w, .error e) => (w, .error e)
    | (w, .ok ()) => w.commands bridge rest

end Wire

/-- `set_backend_power` of the bridges. -/
def wireBackend : Backend Wire := fun bridge on w => w.perform bridge (.power on)

/-! ## Tables -/

/-- `kTcInitTValues`. -/
def kTcInitTValues : List (UInt8 × UInt8) :=
  [(0xb0, 0xa0), (0xb2, 0x3d), (0xb3, 0x25), (0xb4, 0x8b), (0xb5, 0x4b), (0xb6, 0x3f), (0xb7, 0xff),
    (0xb8, 0xc0), (0x1f, 0x00), (0x75, 0x00)]

/-- `kTcInitSValues`. -/
def kTcInitSValues : List (UInt8 × UInt8) := [(0x15, 0x00), (0x1d, 0x00), (0x04, 0x02)]

/-- `kSharedS0`. -/
def kSharedS0 : List (UInt8 × UInt8) := [(0x07, 0x31), (0x08, 0x77)]

/-- `kSharedT0`. -/
def kSharedT0 : List (UInt8 × UInt8) := [(0x0e, 0x77), (0x0f, 0x13)]

/-! ## Sequences -/

section

variable (bridge : Bridge)

/-- `sleep_frontend`. -/
def sleepFrontend (index : Nat) (w : Wire) : Wire × Result Unit :=
  w.commands bridge [.sleepTuner index, .sleepDemod index true]

/-- `wake_frontend`. -/
def wakeFrontend (receiver : Nat) (system : System) (w : Wire) : Wire × Result Unit :=
  match system with
  | .isdbT =>
    w.commands bridge
      [.writeRegs receiver kTcInitTValues, .enableTsPins receiver false, .sleepDemod receiver false,
        .wakeup receiver, .setSystem receiver]
  | .isdbS =>
    w.commands bridge
      [.writeRegs receiver kTcInitSValues, .enableTsPins receiver false, .sleepDemod receiver false]

/-- `write_shared_initialization`. -/
def writeSharedInitialization (w : Wire) : Wire × Result Unit :=
  w.commands bridge [.writeRegs 0 kSharedS0, .writeRegs 2 kSharedT0]

/-- The wait for the PLL in `tune_receiver`: at most `polls` reads, `elapsed` ms after the first. -/
def pollPll (receiver timeout : Nat) : Nat → Nat → Option Error → Wire → Wire × Result Unit
  | 0, _, last, w => (w, .error (last.getD .timeout))
  | polls + 1, elapsed, _, w =>
    match w.access bridge (.i2c (.isPllLocked receiver)) with
    | (w, .ok (_ + 1)) => (w, .ok ())
    | (w, status) =>
      let last := match status with
        | .error e => some e
        | .ok _ => none
      if timeout < elapsed ∨ timeout - elapsed < 10 then (w, .error (last.getD .timeout))
      else pollPll receiver timeout polls (elapsed + 10) last w

/-- What `tune_receiver` does to the chips; `timeout_ms + 9U` is of 32 bits. -/
def tuneChips (receiver khz : Nat) (system : System) (timeout : Nat) (w : Wire) :
    Wire × Result Unit :=
  let before := match system with
    | .isdbT =>
      [.writeRegs receiver [(0x47, 0x30)], .setAgc receiver false,
        .writeRegs receiver [(0x76, 0x0c)],
        .setFrequency receiver khz]
    | .isdbS =>
      [.setAgc receiver false, .writeRegs receiver [(0x8e, 0x06)],
        .writeRegs receiver [(0xa3, 0xf7)],
        .setParams receiver khz 28860 4]
  let after := match system with
    | .isdbT =>
      [.setAgc receiver true, .writeRegs receiver [(0x71, 0x21)],
        .writeRegs receiver [(0x72, 0x25)],
        .writeRegs receiver [(0x75, 0x08)]]
    | .isdbS => [.setAgc receiver true]
  match w.commands bridge before with
  | (w, .error e) => (w, .error e)
  | (w, .ok ()) =>
    match pollPll bridge receiver timeout ((timeout + 9) % 2 ^ 32 / 10) 0 none w with
    | (w, .error e) => (w, .error e)
    | (w, .ok ()) => w.commands bridge after

/-- The read-back of `select_satellite_tsid_locked`. -/
def pollTsid (receiver tsid : Nat) : Nat → Option Error → Wire → Wire × Result Unit
  | 0, last, w => (w, .error (last.getD .timeout))
  | polls + 1, _, w =>
    match w.access bridge (.i2c (.getTsid receiver)) with
    | (w, .ok value) => if value = tsid then (w, .ok ()) else pollTsid receiver tsid polls none w
    | (w, .error e) => pollTsid receiver tsid polls (some e) w

/-- What `select_satellite_tsid_locked` does to the chips. -/
def selectTsidChips (receiver tsid timeout : Nat) (w : Wire) : Wire × Result Unit :=
  match w.perform bridge (.i2c (.setTsid receiver tsid)) with
  | (w, .error e) => (w, .error e)
  | (w, .ok ()) => pollTsid bridge receiver tsid (timeout / 10 + 1) none w

/-- The search of `select_satellite_slot_with_timeout`: the TSID of a slot, and the time left. -/
def pollTmcc (receiver slot timeout : Nat) :
    Nat → Nat → Nat → Option Error → Wire → Wire × Result (Nat × Nat)
  | 0, _, _, last, w => (w, .error (last.getD .timeout))
  | polls + 1, count, elapsed, _, w =>
    let elapsed' := if (count + 1) * 10 ≤ timeout then elapsed + 10 else elapsed
    match w.access bridge (.i2c (.tmccGetTsid receiver slot)) with
    | (w, .ok (tsid + 1)) => (w, .ok (tsid + 1, timeout - elapsed))
    | (w, .ok 0) => pollTmcc receiver slot timeout polls (count + 1) elapsed' none w
    | (w, .error e) => pollTmcc receiver slot timeout polls (count + 1) elapsed' (some e) w

end

end Px4.Frontend
