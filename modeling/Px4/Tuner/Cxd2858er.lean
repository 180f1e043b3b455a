import Px4.Tuner.Bus

/-!
# The tuner CXD2858ER (`cxd2858er.cpp`)

`set_params_t` and `set_params_s` with the sequences that they run behind the gate of the
demodulator CXD2856ER.
-/

namespace Px4.Tuner.Cxd2858er

/-- `Cxd2858erSystem`. -/
inductive TunerSystem
  | unspecified | isdbT | isdbS
  deriving DecidableEq, Repr

/-- The fields of `Cxd2858er`; `slvt` is the address of its demodulator, whose gate is at the
address after the next. -/
structure Fields where
  slvt : Fin 126
  system : TunerSystem := .unspecified

/-- `kAddress`. -/
def kAddress : Nat := 0x60

/-- `kMaxWriteLength`. -/
def kMaxWriteLength : Nat := 254

/-- `kXtalTune`. -/
def kXtalTune : UInt8 := 0x02

/-- `kTerrestrialLna`. -/
def kTerrestrialLna : UInt8 := 0x05 ||| 0x02

/-- `kSatelliteLna`. -/
def kSatelliteLna : UInt8 := 0xfe ||| 0x01

/-- `kMaxFrequencyField`. -/
def kMaxFrequencyField : Nat := 0xfffff

/-- `Step`. -/
structure Step where
  reg : UInt8
  value : UInt8
  mask : UInt8

/-- `read_regs` of one register. -/
def readReg (reg : UInt8) : Drive Fields UInt8 := do
  let values ← Drive.onBus (request [.write kAddress [reg], .read kAddress 1])
  return values.headD 0

/-- `write_regs`. -/
def writeRegs (reg : UInt8) (values : List UInt8) : Drive Fields Unit := do
  if values.length = 0 ∨ kMaxWriteLength < values.length then Drive.fail .invalidArgument
  else
    let _ ← Drive.onBus (request [.write kAddress (reg :: values)])

/-- `write_reg_mask`. -/
def writeRegMask (step : Step) : Drive Fields Unit := do
  if step.mask = 0 then Drive.fail .invalidArgument
  else if step.mask ≠ 0xff then
    let current ← readReg step.reg
    writeRegs step.reg [current &&& ~~~step.mask ||| step.value &&& step.mask]
  else writeRegs step.reg [step.value]

/-- `apply`. -/
def apply : List Step → Drive Fields Unit
  | [] => return ()
  | step :: steps => do
    writeRegMask step
    apply steps

/-- `Cxd2856er::set_tuner_gate`. -/
def setTunerGate (opened : Bool) : Drive Fields Unit := do
  let slvx := (← Drive.fields).slvt.val + 2
  let _ ← Drive.onBus (request [.write slvx [0x08, if opened then 0x01 else 0x00]])

/-- `gated`. -/
def gated (operation : Drive Fields Unit) : Drive Fields Unit := do
  setTunerGate true
  Drive.closing operation (setTunerGate false)

/-- `stop_t`. -/
def stopT : Drive Fields Unit := do
  if (← Drive.fields).system ≠ .isdbT then Drive.fail .invalidArgument
  else
    apply [⟨0x74, 0x02, 0xff⟩, ⟨0x67, 0x00, 0xfe⟩]
    writeRegs 0x5e [0x15, 0x00, 0x00]
    apply [⟨0x88, 0x00, 0xff⟩, ⟨0x87, 0xc0, 0xff⟩]
    Drive.assign ({ · with system := .unspecified })

/-- `stop_s`. -/
def stopS : Drive Fields Unit := do
  if (← Drive.fields).system ≠ .isdbS then Drive.fail .invalidArgument
  else
    apply [⟨0x15, 0x02, 0xff⟩, ⟨0x43, kTerrestrialLna, 0xff⟩]
    writeRegs 0x0c [0x14, 0x00, 0x00]
    apply [⟨0x01, 0x00, 0xff⟩, ⟨0x05, 0x00, 0xff⟩, ⟨0x04, 0xc0, 0xff⟩]
    Drive.assign ({ · with system := .unspecified })

/-- What stops the other system before a tune. -/
def stopOther (other : TunerSystem) (stop : Drive Fields Unit) : Drive Fields Unit := do
  if (← Drive.fields).system = other then stop else return ()

/-- `tune` of `set_params_t_gated`. -/
def tuneT (frequencyKhz : Nat) : List UInt8 :=
  [0x00, 0x88, 0x00, 0x0b, 0x22, 0x00, 0x17, 0x1b,
    UInt8.ofNat (frequencyKhz &&& 0xff), UInt8.ofNat (frequencyKhz >>> 8 &&& 0xff),
    UInt8.ofNat (frequencyKhz >>> 16 &&& 0x0f), 0xff, 0x01, 0x99, 0x00, 0x24, 0x87]

/-- `set_params_t_gated`; the wait is left out. -/
def setParamsTGated (frequencyKhz : Nat) : Drive Fields Unit := do
  stopOther .isdbS stopS
  apply [⟨0x01, 0x00, 0xff⟩, ⟨0x74, 0x02, 0xff⟩]
  writeRegs 0x87 [0xc4, 0x40]
  writeRegs 0x91 [0x10, 0x20]
  writeRegs 0x9c [0x00, 0x00]
  writeRegs 0x5e [0xee, 0x02, 0x1e, 0x67, kXtalTune, 0xb4, 0x78, 0x08, 0x30]
  writeRegMask ⟨0x67, 0x00, 0x02⟩
  writeRegs 0x68 (tuneT frequencyKhz)
  apply [⟨0x88, 0x00, 0xff⟩, ⟨0x87, 0xc0, 0xff⟩]
  Drive.assign ({ · with system := .isdbT })

/-- `set_params_t`. -/
def setParamsT (frequencyKhz : Nat) : Drive Fields Unit :=
  if frequencyKhz = 0 ∨ kMaxFrequencyField < frequencyKhz then Drive.fail .invalidArgument
  else gated (setParamsTGated frequencyKhz)

/-- `tune` of `set_params_s_gated`. -/
def tuneS (field : Nat) : List UInt8 :=
  [0xc4, 0x40, kXtalTune, 0x00, 0xb4, 0x78, 0x08, 0x30, kSatelliteLna, 0x02, 0x1e, 0x16,
    UInt8.ofNat (field &&& 0xff), UInt8.ofNat (field >>> 8 &&& 0xff),
    UInt8.ofNat (field >>> 16 &&& 0x0f), 0xff, 0x00, 0x01]

/-- `(frequency_khz + 2) / 4`. -/
def quarter (frequencyKhz : Nat) : Nat := word (frequencyKhz + 2) / 4

/-- `set_params_s_gated`; the wait is left out. -/
def setParamsSGated (frequencyKhz : Nat) : Drive Fields Unit := do
  stopOther .isdbT stopT
  apply [⟨0x15, 0x02, 0xff⟩, ⟨0x43, 0x06, 0xff⟩]
  writeRegs 0x6a [0x00, 0x00]
  apply [⟨0x75, 0x99, 0xff⟩, ⟨0x9d, 0x00, 0xff⟩, ⟨0x61, 0x07, 0xff⟩, ⟨0x01, 0x01, 0xff⟩]
  writeRegs 0x04 (tuneS (quarter frequencyKhz))
  apply [⟨0x05, 0x00, 0xff⟩, ⟨0x04, 0xc0, 0xff⟩]
  Drive.assign ({ · with system := .isdbS })

/-- `set_params_s`. -/
def setParamsS (frequencyKhz : Nat) : Drive Fields Unit :=
  if frequencyKhz = 0 ∨ kMaxFrequencyField < quarter frequencyKhz then Drive.fail .invalidArgument
  else gated (setParamsSGated frequencyKhz)

end Px4.Tuner.Cxd2858er
