import Px4.Device.Profile
import Px4.Ipc.Payload

/-!
# The one-receiver enclosures (`single_receiver_frontend.cpp`, `px4_tuner_hz.h`)

`SingleReceiverFrontend`: one receiver with a terrestrial and a satellite demodulator
(`tc90522.cpp`) and a tuner behind each (`r850.cpp`, `rt710.cpp`), and the card, over one counter of
power references. A `Command` is one call of a chip driver. `execute` is what the drivers make of
it: most commands are a number of I2C transfers, at least one, whose outcome is arbitrary
(`replies`); the tuners refuse some commands by themselves and a few commands are no transfer at
all. Delays are left out.
-/

namespace Px4.Frontend.Single

open Px4.Device (DeviceModel)
open Px4.Ipc (System)

/-- The demodulators `tc_t_`, `tc_s_` and `tc_s0_`. -/
inductive Demod
  | tcT | tcS | tcS0
  deriving DecidableEq, Repr

/-- A call of a chip driver. -/
inductive Command
  | writeReg (demod : Demod) (reg value : UInt8)
  | sleep (demod : Demod) (sleep : Bool)
  | setAgc (demod : Demod) (on : Bool)
  | enableTsPins (demod : Demod) (enable : Bool)
  | isSignalLocked (demod : Demod)
  | setTsid (tsid : Nat)
  | getTsid
  | tmccGetTsid (slot : Nat)
  | initR850
  | terminateR850
  | wakeup
  | setSystem
  | setFrequency (khz : Nat)
  | isR850PllLocked
  | initRt710
  | terminateRt710
  | setParams (khz symbolRate rolloff : Nat)
  | isRt710PllLocked
  deriving DecidableEq, Repr

/-- What is done to the bridge: I2C transfers and writes of the backend power. -/
inductive Access
  | i2c (command : Command)
  | power (on : Bool)
  deriving DecidableEq, Repr

/-- The fields of `SingleReceiverFrontend`, `initialized_` of its tuners, and the bridge: the
accesses so far, oldest first, and what the `n`-th access comes to. -/
structure Receiver where
  model : DeviceModel
  opened : Bool := false
  capturing : Bool := false
  cardPowered : Bool := false
  powered : Bool := false
  satellite : Bool := false
  disconnected : Bool := false
  references : Nat := 0
  r850Initialized : Bool := false
  rt710Initialized : Bool := false
  log : List Access := []
  replies : Nat → Result Nat

namespace Receiver

/-- An access, with its value. -/
def access (s : Receiver) (a : Access) : Receiver × Result Nat :=
  ({ s with log := s.log ++ [a] }, s.replies s.log.length)

/-- `opened_ = opened`. -/
def setOpened (s : Receiver) (opened : Bool) : Receiver := { s with opened }

/-- `capturing_ = capturing`. -/
def setCapturing (s : Receiver) (capturing : Bool) : Receiver := { s with capturing }

/-- `satellite_ = satellite`. -/
def setSatellite (s : Receiver) (satellite : Bool) : Receiver := { s with satellite }

/-- `card_powered_ = cardPowered`. -/
def setCardPowered (s : Receiver) (cardPowered : Bool) : Receiver := { s with cardPowered }

/-- `references_ = references; powered_ = powered`. -/
def setReferences (s : Receiver) (references : Nat) (powered : Bool) : Receiver :=
  { s with references, powered }

/-- `initialized_ = initialized` of `r850_`. -/
def setR850 (s : Receiver) (initialized : Bool) : Receiver :=
  { s with r850Initialized := initialized }

/-- `initialized_ = initialized` of `rt710_`. -/
def setRt710 (s : Receiver) (initialized : Bool) : Receiver :=
  { s with rt710Initialized := initialized }

/-! ## The chip drivers -/

/-- A call of a chip driver. With the symbol rate and the rolloff in use, `validate_params` passes
exactly on the range of the frequency. -/
def execute (s : Receiver) : Command → Receiver × Result Nat
  | .initR850 =>
    let (s, reply) := s.access (.i2c .initR850)
    (s.setR850 reply.isOk, reply)
  | .terminateR850 => (s.setR850 false, .ok 0)
  | .wakeup => (s, if s.r850Initialized then .ok 0 else .error .notReady)
  | .setSystem => (s, if s.r850Initialized then .ok 0 else .error .invalidArgument)
  | .setFrequency khz =>
    if !s.r850Initialized ∨ khz < 40000 ∨ 1002000 < khz then (s, .error .invalidArgument)
    else s.access (.i2c (.setFrequency khz))
  | .isR850PllLocked =>
    if !s.r850Initialized then (s, .error .notReady) else s.access (.i2c .isR850PllLocked)
  | .initRt710 =>
    let (s, reply) := s.access (.i2c .initRt710)
    (s.setRt710 reply.isOk, reply)
  | .terminateRt710 => (s.setRt710 false, .ok 0)
  | .setParams khz symbolRate rolloff =>
    if !s.rt710Initialized then (s, .error .notReady)
    else if khz < 146875 ∨ 2350000 < khz then (s, .error .invalidArgument)
    else s.access (.i2c (.setParams khz symbolRate rolloff))
  | .isRt710PllLocked =>
    if !s.rt710Initialized then (s, .error .notReady) else s.access (.i2c .isRt710PllLocked)
  | command => s.access (.i2c command)

/-- Commands in order, up to the first one that fails. -/
def commands (s : Receiver) : List Command → Receiver × Result Unit
  | [] => (s, .ok ())
  | command :: rest =>
    match s.execute command with
    | (s, .error e) => (s, .error e)
    | (s, .ok _) => s.commands rest

/-- The wait for a PLL: at most `polls` reads, the first error ends it. -/
def pollPll (isPllLocked : Command) : Nat → Receiver → Receiver × Result Unit
  | 0, s => (s, .error .timeout)
  | polls + 1, s =>
    match s.execute isPllLocked with
    | (s, .error e) => (s, .error e)
    | (s, .ok (_ + 1)) => (s, .ok ())
    | (s, .ok 0) => pollPll isPllLocked polls s

/-- The read-back of `select_satellite_tsid_locked`. -/
def pollTsid (tsid : Nat) : Nat → Option Error → Receiver → Receiver × Result Unit
  | 0, last, s => (s, .error (last.getD .timeout))
  | polls + 1, _, s =>
    match s.execute .getTsid with
    | (s, .ok value) => if value = tsid then (s, .ok ()) else pollTsid tsid polls none s
    | (s, .error e) => pollTsid tsid polls (some e) s

/-- The search of `select_satellite_slot`: the TSID of a slot, and the time left. -/
def pollTmcc (slot timeout : Nat) :
    Nat → Nat → Nat → Option Error → Receiver → Receiver × Result (Nat × Nat)
  | 0, _, _, last, s => (s, .error (last.getD .timeout))
  | polls + 1, count, elapsed, _, s =>
    let elapsed' := if (count + 1) * 10 ≤ timeout then elapsed + 10 else elapsed
    match s.execute (.tmccGetTsid slot) with
    | (s, .ok (tsid + 1)) => (s, .ok (tsid + 1, timeout - elapsed))
    | (s, .ok 0) => pollTmcc slot timeout polls (count + 1) elapsed' none s
    | (s, .error e) => pollTmcc slot timeout polls (count + 1) elapsed' (some e) s

end Receiver

open Receiver

/-! ## The receiver -/

/-- The models with a satellite path. -/
def hasSatellite (model : DeviceModel) : Bool :=
  model == .pxM1ur || model == .dtv021t1sU || model == .dtv02a1t1sU

/-- `receiver_supports`. -/
def receiverSupports (model : DeviceModel) (receiver : Nat) (system : System) : Bool :=
  receiver == 0 && (system == .isdbT || (hasSatellite model && system == .isdbS))

/-- `acquire_power`. -/
def acquirePower (s : Receiver) : Receiver × Result Unit :=
  let count (s : Receiver) (powered : Bool) :=
    s.setReferences (if s.references ≠ 0xff then s.references + 1 else s.references) powered
  if s.references = 0 then
    match s.access (.power true) with
    | (s, .error on) => (s, .error on)
    | (s, .ok _) => (count s true, .ok ())
  else (count s s.powered, .ok ())

/-- `release_power`. -/
def releasePower (s : Receiver) : Receiver × Result Unit :=
  if s.references = 0 then (s, .ok ())
  else
    let s := s.setReferences (s.references - 1) s.powered
    if s.references = 0 ∧ s.powered then
      match s.access (.power false) with
      | (s, .error off) => (s, .error off)
      | (s, .ok _) => (s.setReferences 0 false, .ok ())
    else (s, .ok ())

/-- `regs` and `vals` of `initialize_frontend`, after `{0xb0, 0xa0}`. -/
def initRegs : List (UInt8 × UInt8) :=
  [(0xb0, 0xa0), (0xb2, 0x3d), (0xb3, 0x25), (0xb4, 0x8b), (0xb5, 0x4b), (0xb6, 0x3f), (0xb7, 0xff),
    (0xb8, 0xc0)]

/-- `isdbt` of `initialize_frontend`. -/
def initIsdbt : List (UInt8 × UInt8) :=
  [(0x04, 0x00), (0x10, 0x00), (0x11, 0x2d), (0x12, 0x02), (0x13, 0x62), (0x14, 0x60), (0x15, 0x00),
    (0x16, 0x00), (0x1d, 0x05), (0x1e, 0x15), (0x1f, 0x40), (0x30, 0x20),
    (0x31, 0x0b), (0x32, 0x8f),
    (0x34, 0x0f), (0x38, 0x01), (0x39, 0x1c)]

/-- The commands of `initialize_frontend` up to the tuner of the terrestrial path. -/
def initCommands (model : DeviceModel) : List Command :=
  ((initRegs ++ if model = .dtv03a1tu then initIsdbt else []).map fun row =>
    .writeReg .tcT row.1 row.2) ++
  if hasSatellite model then [.writeReg .tcS 0x15 0, .writeReg .tcS 0x1d 0, .initRt710] else []

/-- `initialize_frontend`. -/
def initializeFrontend (s : Receiver) : Receiver × Result Unit :=
  match s.commands (initCommands s.model) with
  | (s, .error e) => (s, .error e)
  | (s, .ok ()) =>
    match s.execute .initR850 with
    | (s, .error rf) => ((s.execute .terminateRt710).1, .error rf)
    | (s, .ok _) => s.commands [.setSystem]

/-- `open_receiver`. -/
def openReceiver (receiver : Nat) (s : Receiver) : Receiver × Result Unit :=
  if receiver ≠ 0 then (s, .error .invalidArgument)
  else if s.opened then (s, .error .busy)
  else
    match acquirePower s with
    | (s, .error p) => (s, .error p)
    | (s, .ok ()) =>
      match initializeFrontend s with
      | (s, .error init) => ((releasePower s).1, .error init)
      | (s, .ok ()) => ((s.setOpened true).setSatellite false, .ok ())

/-- What a tune does to the chips: the commands `before` the wait for the PLL, the wait, the
commands `after` it, and `satellite_ = satellite`. -/
def tuneChips (before : List Command) (isPllLocked : Command) (after : List Command)
    (satellite : Bool) (s : Receiver) : Receiver × Result Unit :=
  match s.commands before with
  | (s, .error x) => (s, .error x)
  | (s, .ok ()) =>
    match pollPll isPllLocked 50 s with
    | (s, .error locked) => (s, .error locked)
    | (s, .ok ()) =>
      match s.commands after with
      | (s, .error x) => (s, .error x)
      | (s, .ok ()) => (s.setSatellite satellite, .ok ())

/-- `tune_terrestrial`. -/
def tuneTerrestrial (receiver khz : Nat) (s : Receiver) : Receiver × Result Unit :=
  if receiver ≠ 0 ∨ !s.opened then (s, .error .invalidArgument)
  else
    tuneChips
      (.setAgc .tcT false :: (if hasSatellite s.model then [.sleep .tcS true] else []) ++
        [.writeReg .tcT 0x0e 0x77, .writeReg .tcT 0x0f 0x10, .writeReg .tcT 0x71 0x20,
          .sleep .tcT false, .writeReg .tcT 0x76 0x0c, .writeReg .tcT 0x1f 0x30, .wakeup,
          .setFrequency khz])
      .isR850PllLocked
      [.setAgc .tcT true, .writeReg .tcT 0x71 0x01, .writeReg .tcT 0x72 0x25,
        .writeReg .tcT 0x75 0x00]
      false s

/-- `tune_satellite`; `tc` is `s`. -/
def tuneSatellite (receiver khz : Nat) (s : Receiver) : Receiver × Result Unit :=
  if receiver ≠ 0 ∨ !s.opened ∨ !hasSatellite s.model then (s, .error .unsupported)
  else
    let tc := if s.model = .dtv02a1t1sU then .tcS0 else .tcS
    tuneChips
      [.setAgc .tcS false, .writeReg .tcT 0x0e 0x11, .writeReg .tcT 0x0f 0x70, .sleep .tcT true,
        .writeReg tc 0x07 0x77,
        .writeReg tc 0x08 (if s.model = .dtv02a1t1sU then 0x37 else 0x10),
        .sleep .tcS false, .writeReg .tcS 0x04 0x02, .writeReg .tcS 0x8e 0x02,
        .writeReg .tcT 0x1f 0x20, .setParams khz 28860 4]
      .isRt710PllLocked [.setAgc .tcS true] true s

/-- `px4_frequency_khz`. -/
def px4FrequencyKhz (hz : Nat) : System → Result Nat
  | .isdbT => if hz < 40000000 ∨ 1002000000 < hz then .error .unsupported else .ok (hz / 1000)
  | .isdbS => if hz < 146875000 ∨ 2350000000 < hz then .error .unsupported else .ok (hz / 1000)
  | .isdbTOrS => .error .unsupported

/-- `tune_terrestrial_hz` and `tune_satellite_hz`, over the tune of their system; `px4_programming`
of the frequency is the result. -/
def tuneHz (tune : Nat → Nat → Receiver → Receiver × Result Unit) (system : System)
    (receiver hz : Nat) (s : Receiver) : Receiver × Result Nat :=
  match px4FrequencyKhz hz system with
  | .error frequency => (s, .error frequency)
  | .ok khz =>
    if !receiverSupports s.model receiver system then (s, .error .unsupported)
    else
      match tune receiver khz s with
      | (s, .error tuned) => (s, .error tuned)
      | (s, .ok ()) => (s, .ok (khz * 1000))

/-- `tune_terrestrial_hz`. -/
def tuneTerrestrialHz : Nat → Nat → Receiver → Receiver × Result Nat :=
  tuneHz tuneTerrestrial .isdbT

/-- `tune_satellite_hz`. -/
def tuneSatelliteHz : Nat → Nat → Receiver → Receiver × Result Nat :=
  tuneHz tuneSatellite .isdbS

/-- The demodulator of a system. -/
def demodOf (system : System) : Demod := if system = .isdbT then .tcT else .tcS

/-- `is_locked`. -/
def isLocked (receiver : Nat) (system : System) (s : Receiver) : Receiver × Result Bool :=
  if receiver ≠ 0 then (s, .error .invalidArgument)
  else
    let (s, locked) := s.execute (.isSignalLocked (demodOf system))
    (s, locked.map (· != 0))

/-- `select_satellite_tsid_locked`. -/
def selectSatelliteTsidLocked (tsid timeout : Nat) (s : Receiver) : Receiver × Result Unit :=
  match s.execute (.setTsid tsid) with
  | (s, .error e) => (s, .error e)
  | (s, .ok _) => pollTsid tsid (timeout / 10 + 1) none s

/-- `select_satellite_slot`. -/
def selectSatelliteSlot (receiver slot timeout : Nat) (s : Receiver) : Receiver × Result Unit :=
  if receiver ≠ 0 then (s, .error .invalidArgument)
  else if 12 ≤ slot then (s, .error .invalidArgument)
  else if !receiverSupports s.model receiver .isdbS then (s, .error .unsupported)
  else if !s.opened ∨ !s.satellite then (s, .error .notReady)
  else if s.disconnected then (s, .error .disconnected)
  else
    match pollTmcc slot timeout (timeout / 10 + 1) 0 0 none s with
    | (s, .error e) => (s, .error e)
    | (s, .ok (tsid, remaining)) => selectSatelliteTsidLocked tsid remaining s

/-- `select_satellite_tsid`. -/
def selectSatelliteTsid (receiver tsid timeout : Nat) (s : Receiver) : Receiver × Result Unit :=
  if receiver ≠ 0 then (s, .error .invalidArgument)
  else if !receiverSupports s.model receiver .isdbS then (s, .error .unsupported)
  else if !s.opened ∨ !s.satellite then (s, .error .notReady)
  else if s.disconnected then (s, .error .disconnected)
  else selectSatelliteTsidLocked tsid timeout s

/-- The pin write of `start_capture` and `stop_capture`. -/
def enableTsPins (system : System) (enable : Bool) (s : Receiver) : Receiver × Result Unit :=
  match s.execute (.enableTsPins (demodOf system) enable) with
  | (s, .error x) => (s, .error x)
  | (s, .ok _) => (s.setCapturing enable, .ok ())

/-- `start_capture`. -/
def startCapture (receiver : Nat) (system : System) (s : Receiver) : Receiver × Result Unit :=
  if receiver ≠ 0 ∨ !s.opened then (s, .error .invalidArgument) else enableTsPins system true s

/-- `stop_capture`. -/
def stopCapture (receiver : Nat) (system : System) (s : Receiver) : Receiver × Result Unit :=
  if receiver ≠ 0 then (s, .error .invalidArgument) else enableTsPins system false s

/-- The stop of a capture in `close_receiver`; its result is dropped. -/
def endCapture (s : Receiver) : Receiver :=
  if s.capturing then (stopCapture 0 (if s.satellite then .isdbS else .isdbT) s).1 else s

/-- The end of the tuners in `close_receiver`. -/
def endTuners (s : Receiver) : Receiver :=
  if s.opened then
    let s := (s.execute .terminateR850).1
    let s := if hasSatellite s.model then (s.execute .terminateRt710).1 else s
    s.setOpened false
  else s

/-- `close_receiver`. -/
def closeReceiver (receiver : Nat) (s : Receiver) : Receiver × Result Unit :=
  if receiver ≠ 0 then (s, .error .invalidArgument) else releasePower (endTuners (endCapture s))

/-- `begin_tune_power`. -/
def beginTunePower (receiver : Nat) (system : System) (voltage : Nat) (s : Receiver) :
    Receiver × Result Unit :=
  if receiver ≠ 0 ∨ !receiverSupports s.model receiver system then (s, .error .unsupported)
  else if system = .isdbT ∧ voltage ≠ 0 then (s, .error .invalidArgument)
  else if system = .isdbS ∧ voltage ≠ 0 ∧ voltage ≠ 15 then (s, .error .invalidArgument)
  else if system = .isdbS ∧ voltage = 15 then (s, .error .unsupported)
  else (s, .ok ())

/-- `mark_receiver_disconnected`. -/
def markReceiverDisconnected (s : Receiver) : Receiver := { s with disconnected := true }

/-- `set_power`, of the card. -/
def setPower (on : Bool) (s : Receiver) : Receiver × Result Unit :=
  if on then
    if s.cardPowered then (s, .ok ())
    else
      match acquirePower s with
      | (s, .error x) => (s, .error x)
      | (s, .ok ()) => (s.setCardPowered true, .ok ())
  else if !s.cardPowered then (s, .ok ())
  else releasePower (s.setCardPowered false)

/-! ## Runs -/

/-- The calls of the tuner service and of the card service. -/
inductive Call
  | openReceiver (receiver : Nat)
  | tuneTerrestrial (receiver khz : Nat)
  | tuneSatellite (receiver khz : Nat)
  | tuneTerrestrialHz (receiver hz : Nat)
  | tuneSatelliteHz (receiver hz : Nat)
  | isLocked (receiver : Nat) (system : System)
  | selectSatelliteSlot (receiver slot timeout : Nat)
  | selectSatelliteTsid (receiver tsid timeout : Nat)
  | startCapture (receiver : Nat) (system : System)
  | stopCapture (receiver : Nat) (system : System)
  | closeReceiver (receiver : Nat)
  | beginTunePower (receiver : Nat) (system : System) (voltage : Nat)
  | commitTunePower (receiver : Nat)
  | rollbackTunePower (receiver : Nat)
  | markReceiverDisconnected (receiver : Nat)
  | shutdown
  | setPower (on : Bool)
  deriving DecidableEq, Repr

/-- A call; a result with a value is given without it. -/
def call (s : Receiver) : Call → Receiver × Result Unit
  | .openReceiver receiver => openReceiver receiver s
  | .tuneTerrestrial receiver khz => tuneTerrestrial receiver khz s
  | .tuneSatellite receiver khz => tuneSatellite receiver khz s
  | .tuneTerrestrialHz receiver hz =>
    ((tuneTerrestrialHz receiver hz s).1, (tuneTerrestrialHz receiver hz s).2.map fun _ => ())
  | .tuneSatelliteHz receiver hz =>
    ((tuneSatelliteHz receiver hz s).1, (tuneSatelliteHz receiver hz s).2.map fun _ => ())
  | .isLocked receiver system =>
    ((isLocked receiver system s).1, (isLocked receiver system s).2.map fun _ => ())
  | .selectSatelliteSlot receiver slot timeout => selectSatelliteSlot receiver slot timeout s
  | .selectSatelliteTsid receiver tsid timeout => selectSatelliteTsid receiver tsid timeout s
  | .startCapture receiver system => startCapture receiver system s
  | .stopCapture receiver system => stopCapture receiver system s
  | .closeReceiver receiver => closeReceiver receiver s
  | .beginTunePower receiver system voltage => beginTunePower receiver system voltage s
  | .commitTunePower _ => (s, .ok ())
  | .rollbackTunePower _ => (s, .ok ())
  | .markReceiverDisconnected _ => (markReceiverDisconnected s, .ok ())
  | .shutdown => closeReceiver 0 s
  | .setPower on => setPower on s

/-- The state after a call. -/
def next (s : Receiver) (op : Call) : Receiver := (call s op).1

/-- A new frontend; `replies` are those of all later accesses. -/
def start (model : DeviceModel) (replies : Nat → Result Nat) : Receiver := { model, replies }

end Px4.Frontend.Single
