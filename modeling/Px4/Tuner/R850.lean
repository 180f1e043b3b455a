import Px4.Tuner.Bus
import Px4.Tuner.Pll

/-!
# The terrestrial tuner R850 (`r850.cpp`)

`set_system` and `set_frequency` with all that they program: the system's and the frequency's rows
of the tables, the multiplexers and the PLL. The image of the registers is a field of the driver.
-/

namespace Px4.Tuner.R850

open Lib (Round)

/-- `kR850Address`. -/
def kR850Address : Nat := 0x7c

/-- `kRegisterCount`. -/
def kRegisterCount : Nat := 0x30

/-- `kInitRegisters`. -/
def kInitRegisters : List UInt8 :=
  [0x00, 0x00, 0x00, 0x00, 0x00, 0x00, 0x00, 0x00,
    0xca, 0xc0, 0x72, 0x50, 0x00, 0xe0, 0x00, 0x30,
    0x86, 0xbb, 0xf8, 0xb0, 0xd2, 0x81, 0xcd, 0x46,
    0x37, 0x40, 0x89, 0x8c, 0x55, 0x95, 0x07, 0x23,
    0x21, 0xf1, 0x4c, 0x5f, 0xc4, 0x20, 0xa9, 0x6c,
    0x53, 0xab, 0x5b, 0x46, 0xb3, 0x93, 0x6e, 0x41]

/-- A configuration that `set_system` accepts: its other two fields have one value only. -/
structure SystemConfig where
  ifFrequencyKhz : Nat
  accepted : ifFrequencyKhz = 4063
  deriving DecidableEq

/-- The fields of `R850`. `system` is `system_` once `system_set_`, `current` is `current_` once
`current_valid_`; `demod` is the address of the demodulator it stands behind. -/
structure Fields where
  demod : Fin 128
  loopThrough : Bool
  initialized : Bool := false
  chipVariant : Bool := false
  xtalPower : UInt8 := 3
  registers : Regs := fun _ => 0
  system : Option SystemConfig := none
  current : Option SystemConfig := none

/-! ## Tables -/

/-- `R850SystemParameters`, with the fields of its `R850LpfParameters`. -/
structure SystemParameters where
  ifFrequency : Nat
  (filterExtEnable hpfNotch hpfCorrection filterCompensation imageGain agcClock : UInt8)
  (code bandwidth lsb : UInt8)

/-- `kIsdbTSystemParameters`, by the chip's variant. -/
def kIsdbTSystemParameters (chipVariant : Bool) : List SystemParameters :=
  if chipVariant then
    [⟨4063, 0, 0, 0x0a, 1, 3, 1, 0x02, 3, 1⟩, ⟨4570, 0, 0, 0x08, 1, 3, 1, 0x08, 2, 0⟩,
      ⟨5000, 0, 0, 0x03, 1, 3, 1, 0x05, 2, 0⟩]
  else
    [⟨4063, 0, 0, 0x08, 1, 0, 0, 0x02, 3, 1⟩, ⟨4570, 0, 0, 0x05, 1, 0, 0, 0x08, 2, 0⟩,
      ⟨5000, 1, 0, 0x03, 1, 0, 0, 0x05, 2, 0⟩]

/-- `R850FrequencyParameters`. -/
structure FrequencyParameters where
  (ifFrequency rfMinimum rfMaximum : Nat)
  (lnaTop lnaVtlHigh lnaNrbDetector lnaRfDisableMode lnaRfChargeCurrent lnaRfDisableCurrent : UInt8)
  (lnaDisableSlowFast rfTop rfVtlHigh rfGainLimit rfDisableSlowFast rfLtePsg nrbTop : UInt8)
  (nrbBandwidthHpf nrbBandwidthLpf mixerTop mixerVth mixerVtl mixerAmpLpf mixerGainLimit : UInt8)
  (mixerDetectorBandwidthLpf mixerFilterDisable filterTop filterVth filterVtl : UInt8)
  (filterThirdLpfCurrent filterThirdLpfGain basebandDisableCurrent basebandDetectorMode : UInt8)
  (naPowerDetector enablePolyGain imageNrbAdder hpfCompensation firstFeedbackResistor : UInt8)

/-- `kIsdbTFrequencyParameters`. -/
def kIsdbTFrequencyParameters : List FrequencyParameters :=
  [⟨4063, 0, 340000, 5, 0x6b, 0, 1, 1, 1, 0x05, 5, 0x4a, 0, 0x05, 1, 12, 0, 2, 15, 0x09,
      0x04, 7, 3, 0, 0, 12, 0x09, 0x04, 1, 0, 1, 0, 1, 0, 2, 2, 1⟩,
    ⟨4063, 470000, 487999, 6, 0x8c, 0, 1, 1, 1, 0x05, 5, 0x6b, 0, 0x05, 1, 3, 0, 2, 14, 0x09,
      0x04, 7, 3, 0, 0, 12, 0x09, 0x04, 1, 3, 1, 0, 1, 1, 3, 2, 1⟩,
    ⟨4063, 680000, 691999, 5, 0x5a, 0, 2, 1, 1, 0x07, 6, 0x6b, 0, 0x04, 1, 3, 0, 2, 14, 0x09,
      0x05, 7, 3, 0, 0, 12, 0x09, 0x04, 1, 3, 1, 0, 0, 1, 3, 2, 1⟩,
    ⟨4063, 692000, 697999, 5, 0x5b, 0, 2, 1, 1, 0x07, 6, 0x6b, 0, 0x04, 1, 10, 0, 3, 12, 0x09,
      0x05, 7, 3, 0, 0, 12, 0x09, 0x04, 1, 3, 1, 0, 0, 1, 2, 2, 1⟩,
    ⟨4063, 0, 0, 5, 0x5a, 0, 1, 1, 1, 0x05, 6, 0x6b, 0, 0x05, 1, 3, 0, 2, 14, 0x09,
      0x04, 7, 3, 0, 0, 12, 0x09, 0x04, 1, 3, 1, 0, 1, 1, 3, 2, 1⟩,
    ⟨0, 0, 340000, 5, 0x6b, 0, 1, 1, 1, 0x05, 5, 0x4a, 0, 0x05, 1, 12, 0, 2, 15, 0x0b,
      0x06, 7, 3, 0, 0, 12, 0x09, 0x04, 1, 0, 1, 0, 1, 0, 2, 2, 1⟩,
    ⟨0, 470000, 487999, 5, 0x5a, 0, 2, 1, 1, 0x07, 6, 0x6b, 0, 0x04, 1, 3, 0, 2, 14, 0x09,
      0x05, 7, 3, 0, 0, 12, 0x09, 0x04, 1, 3, 1, 0, 0, 1, 3, 2, 1⟩,
    ⟨0, 680000, 691999, 5, 0x5b, 0, 2, 1, 1, 0x07, 6, 0x6b, 0, 0x04, 1, 10, 0, 3, 12, 0x09,
      0x05, 7, 3, 0, 0, 12, 0x09, 0x04, 1, 3, 1, 0, 0, 1, 2, 2, 1⟩,
    ⟨0, 692000, 697999, 5, 0x5a, 0, 1, 1, 1, 0x05, 6, 0x6b, 0, 0x05, 1, 3, 0, 2, 14, 0x09,
      0x04, 7, 3, 0, 0, 12, 0x09, 0x04, 1, 3, 1, 0, 1, 1, 3, 2, 1⟩,
    ⟨0, 0, 0, 5, 0x5a, 0, 1, 1, 1, 0x05, 6, 0x6b, 0, 0x05, 1, 3, 0, 2, 14, 0x09,
      0x04, 7, 3, 0, 0, 12, 0x09, 0x04, 1, 3, 1, 0, 1, 1, 3, 2, 1⟩]

/-- `find_frequency_parameters`: the first row that fits; a zero fits everything. -/
def findFrequencyParameters (ifFrequencyKhz rfFrequencyKhz : Nat) : Option FrequencyParameters :=
  kIsdbTFrequencyParameters.find? fun p =>
    (p.ifFrequency = 0 || p.ifFrequency = ifFrequencyKhz) &&
      (p.rfMinimum = 0 || p.rfMinimum ≤ rfFrequencyKhz) &&
      (p.rfMaximum = 0 || rfFrequencyKhz ≤ p.rfMaximum)

/-! ## Images -/

/-- `(value << shift) & bits`. -/
def field (value shift bits : UInt8) : UInt8 := value <<< shift &&& bits

/-- The image `set_system_params` leaves. -/
def systemImage (chipVariant : Bool) (p : SystemParameters) : Regs :=
  let regs := Regs.image kInitRegisters
    |>.put 0x17 (field p.lsb 0 0x01 ||| field p.code 1 0x1e |||
      field p.bandwidth 5 0x60 ||| field p.hpfNotch 7 0x80)
    |>.mask 0x18 0x0f (p.hpfCorrection <<< 4 &&& 0xf0)
    |>.mask 0x12 0xbf (p.filterExtEnable <<< 6 &&& 0x40)
    |>.mask 0x18 0xf3 (p.filterCompensation <<< 2 &&& 0x0c)
    |>.mask 0x2f 0xf3 (p.agcClock <<< 2 &&& 0x0c)
  let regs := if chipVariant then regs.mask 0x2c 0xfe (p.imageGain >>> 1 &&& 0x01) else regs
  regs.mask 0x2e 0xef (p.imageGain <<< 4 &&& 0x10)

/-- The registers for `rf_gain_limit`. -/
def gainLimitImage (p : FrequencyParameters) (regs : Regs) : Regs :=
  if p.rfGainLimit ≤ 3 then
    let regs := if p.rfGainLimit < 2 then regs.keep 0x12 0xfb else regs.set 0x12 0x02
    if p.rfGainLimit % 2 ≠ 0 then regs.set 0x10 0x40 else regs.keep 0x10 0xbf
  else regs

/-- The registers for `lna_rf_disable_mode`. -/
def disableModeImage (p : FrequencyParameters) (regs : Regs) : Regs :=
  if p.lnaRfDisableMode = 1 then regs.set 0x2d 0x03 |>.set 0x1f 0x01 |>.set 0x20 0x20
  else if p.lnaRfDisableMode = 2 then regs.set 0x2d 0x03 |>.keep 0x1f 0xfe |>.keep 0x20 0xdf
  else if p.lnaRfDisableMode = 3 then regs.set 0x2d 0x03 |>.set 0x1f 0x01 |>.keep 0x20 0xdf
  else if p.lnaRfDisableMode = 4 then regs.set 0x2d 0x03 |>.keep 0x1f 0xfe |>.set 0x20 0x20
  else regs.keep 0x2d 0xfc |>.set 0x1f 0x01 |>.set 0x20 0x20

/-- What `set_system_frequency` sets before the multiplexers; `filter_top` is 6 on the variant. -/
def frequencyImage (chipVariant loopThrough : Bool) (p : FrequencyParameters) (rfFrequencyKhz : Nat)
    (regs : Regs) : Regs :=
  let filterTop := if chipVariant then 6 else p.filterTop
  let regs := regs
    |>.keep 0x13 0xef
    |>.set 0x13 0x10
    |>.mask 0x0a 0xbf (p.naPowerDetector <<< 6 &&& 0x40)
    |>.mask 0x10 0xdf (kInitRegisters.getD 0x0c 0 &&& 0x20)
    |>.mask 0x0b 0x7f (p.lnaNrbDetector <<< 7 &&& 0x80)
    |>.mask 0x26 0xf8 ((7 - p.lnaTop) &&& 0x07)
    |>.put 0x27 p.lnaVtlHigh
    |>.mask 0x11 0xef (p.rfLtePsg <<< 4 &&& 0x10)
    |>.mask 0x26 0x8f ((7 - p.rfTop) <<< 4 &&& 0x70)
    |>.put 0x2a p.rfVtlHigh
  let regs := gainLimitImage p regs
    |>.mask 0x13 0xf8 (p.mixerAmpLpf &&& 0x07)
    |>.mask 0x28 0xf0 ((15 - p.mixerTop) &&& 0x0f)
  let regs :=
    if chipVariant then regs.mask 0x2c 0xf1 ((7 - filterTop) <<< 1 &&& 0x0e)
    else regs.mask 0x2c 0xf0 ((15 - filterTop) &&& 0x0f)
  let regs := regs
    |>.mask 0x0a 0xef (p.filterThirdLpfCurrent <<< 4 &&& 0x10)
    |>.mask 0x18 0xfc (p.filterThirdLpfGain &&& 0x03)
    |>.put 0x29 (field p.filterVth 4 0xf0 ||| field p.mixerVth 0 0x0f)
    |>.put 0x2b (field p.filterVtl 4 0xf0 ||| field p.mixerVtl 0 0x0f)
    |>.mask 0x16 0x3f (p.mixerGainLimit <<< 6 &&& 0xc0)
    |>.mask 0x2e 0x7f (p.mixerDetectorBandwidthLpf <<< 7 &&& 0x80)
  let regs := disableModeImage p regs
    |>.mask 0x1f 0xfd (p.lnaRfChargeCurrent <<< 1 &&& 0x02)
    |>.mask 0x0d 0xdf (p.lnaRfDisableCurrent <<< 5 &&& 0x20)
    |>.mask 0x2d 0x0f (p.rfDisableSlowFast <<< 4 &&& 0xf0)
    |>.mask 0x2c 0x0f (p.lnaDisableSlowFast <<< 4 &&& 0xf0)
    |>.mask 0x19 0xbf (p.basebandDisableCurrent <<< 6 &&& 0x40)
    |>.mask 0x25 0x3b (field p.mixerFilterDisable 6 0xc0 |||
      field p.basebandDetectorMode 2 0x04)
    |>.mask 0x19 0xfd (p.enablePolyGain <<< 1 &&& 0x02)
    |>.mask 0x28 0x0f ((15 - p.nrbTop) <<< 4 &&& 0xf0)
    |>.mask 0x1a 0x33 (field p.nrbBandwidthLpf 6 0xc0 |||
      field p.nrbBandwidthHpf 2 0x0c)
    |>.mask 0x2e 0xf3 (p.imageNrbAdder <<< 2 &&& 0x0c)
    |>.mask 0x0d 0xf9 (p.hpfCompensation <<< 1 &&& 0x06)
    |>.mask 0x15 0xef (p.firstFeedbackResistor <<< 4 &&& 0x10)
  let regs := if sub32 rfFrequencyKhz 478000 ≤ 3999 then regs.keep 0x2f 0xf3 else regs
  let regs := regs.keep 0x19 0xdf
  let regs :=
    if loopThrough then regs.set 0x08 0xc0 |>.set 0x0a 0x02
    else regs.mask 0x08 0x3f 0x40 |>.keep 0x0a 0xfd
  regs.set 0x22 0x04

/-- `set_mux`. -/
def setMux (lo : Nat) (regs : Regs) : Regs :=
  let diplexer : UInt8 := if lo < 330000 then 2 else 0
  let bpf : UInt8 :=
    if lo < 580000 then 7 else if lo < 660000 then 1 else if lo < 780000 then 6
    else if lo < 900000 then 4 else 0
  let rfPoly : UInt8 :=
    if lo < 133000 then 2 else if lo < 221000 then 1 else if lo < 760000 then 0 else 3
  let cnr : UInt8 :=
    if lo < 480000 then 3 else if lo < 550000 then 2 else if lo < 700000 then 1 else 0
  let lpfNotch : UInt8 :=
    if lo < 73000 then 10 else if lo < 81000 then 4 else if lo < 89000 then 3
    else if lo < 121000 then 1 else 0
  let lpfCap : UInt8 :=
    if lo < 73000 then 8 else if lo < 81000 then 8 else if lo < 89000 then 8
    else if lo < 121000 then 6 else if lo < 145000 then 4 else if lo < 153000 then 3
    else if lo < 177000 then 2
    else if lo < 201000 then 1 else 0
  regs
    |>.mask 0x0e 0x03 (field diplexer 2 0x0c ||| field lpfCap 4 0xf0)
    |>.mask 0x0f 0xf0 (lpfNotch &&& 0x0f)
    |>.mask 0x10 0xe0 (field cnr 3 0x18 ||| field bpf 0 0x07)
    |>.mask 0x12 0xfc (rfPoly &&& 0x03)
    |>.mask 0x14 0xd0 0x02
    |>.keep 0x15 0x10

/-! ## The PLL -/

/-- `mix_div`, `vco_frequency` and `divider`. -/
structure Divider where
  mixDiv : Nat
  vco : Nat
  divider : Nat
  deriving DecidableEq, Repr

/-- `vco_min`; `vco_max` is twice as much. -/
def vcoMin (chipVariant : Bool) : Nat := if chipVariant then 2200000 else 2270000

/-- `vco_min <= vco_frequency && vco_frequency < vco_max`. -/
def Divider.inBand (d : Divider) (chipVariant : Bool) : Bool :=
  vcoMin chipVariant ≤ d.vco && d.vco < vcoMin chipVariant * 2

/-- A round of the search for the divider. -/
def dividerRound (chipVariant : Bool) (lo : Nat) (d : Divider) : Round Divider :=
  if d.divider < 6 ∧ !d.inBand chipVariant then
    let mixDiv := d.mixDiv * 2 % 256
    .again ⟨mixDiv, word (lo * mixDiv), d.divider + 1⟩
  else .done d

/-- The search for the divider. -/
def mixer (chipVariant : Bool) (lo : Nat) : Except Stop Divider :=
  defined (Lib.Loop.run (dividerRound chipVariant lo) 7 ⟨2, word (lo * 2), 0⟩)

/-- `xtal` and the low bits of register 0x22 that select it. -/
structure Crystal where
  xtal : Nat
  select : UInt8

/-- `divider_judge`. -/
def dividerJudge (lo ifFrequencyKhz : Nat) : Nat := word (lo + ifFrequencyKhz) / 1000 / 12 % 2 ^ 16

/-- The crystal divider. -/
def crystal (lo ifFrequencyKhz : Nat) : Crystal :=
  if lo < 380500 ∧ dividerJudge lo ifFrequencyKhz % 2 = 0 then ⟨24000 / 2, 0x02⟩
  else if sub32 (word (lo + ifFrequencyKhz)) 478000 < 4000 then ⟨24000 / 4, 0x03⟩
  else ⟨24000, 0x00⟩

/-- `nint` and `vco_fraction`, words of 16 bits. -/
def synthesis (xtal vco : Nat) : Synthesis :=
  let nint := vco / 2 / xtal % 2 ^ 16
  let fraction := sub32 vco (word (xtal * 2 * nint)) % 2 ^ 16
  if fraction < xtal / 64 then ⟨nint, 0⟩
  else if xtal * 127 / 64 < fraction then ⟨(nint + 1) % 2 ^ 16, 0⟩
  else if xtal * 127 / 128 < fraction ∧ fraction < xtal then ⟨nint, xtal * 127 / 128 % 2 ^ 16⟩
  else if xtal < fraction ∧ fraction < xtal * 129 / 128 then ⟨nint, xtal * 129 / 128 % 2 ^ 16⟩
  else ⟨nint, fraction⟩

/-- `ni`. -/
def ni (nint : Nat) : UInt8 := UInt8.ofNat (sub32 nint 13 / 4)

/-- `si`. -/
def si (nint : Nat) : UInt8 := UInt8.ofNat (sub32 (sub32 nint 13) ((ni nint).toNat * 4))

/-- A round of the sigma-delta loop, on words of 16 bits. -/
def sdmRound (xtal : Nat) : Lib.SigmaDelta.State → Round Lib.SigmaDelta.State :=
  Lib.SigmaDelta.round 16 (xtal * 2) (· % 2 ^ 16) fun nsdm => nsdm &&& 0x8000 != 0

/-- `sdm`. -/
def sdm (xtal fraction : Nat) : Except Stop Nat :=
  defined ((Lib.Loop.run (sdmRound xtal) 16 (Lib.SigmaDelta.start fraction)).map (·.sdm))

/-- `xtal_power`. -/
def xtalPowerFor (xtalPower : UInt8) (lo : Nat) : UInt8 :=
  if lo < 100000 then if 1 < xtalPower then 3 - xtalPower else 2
  else if lo < 130000 then if 2 < xtalPower then 3 - xtalPower else 1
  else 0

/-- What `set_pll` sets before the mixer divider. -/
def pllStart (chipVariant : Bool) (xtalPower : UInt8) (lo ifFrequencyKhz : Nat) (regs : Regs) :
    Regs :=
  let capValue : UInt8 := 0x27 - 10
  let judge := dividerJudge lo ifFrequencyKhz
  let regs := regs
    |>.keep 0x20 0xfc
    |>.set 0x2e 0x40
    |>.keep 0x0c 0x3c
    |>.keep 0x09 0xf9
    |>.keep 0x22 0x3f
    |>.mask 0x0b 0xc3 0x10
    |>.mask 0x25 0xef 0x20
    |>.mask 0x22 0xcf (xtalPowerFor xtalPower lo <<< 4 &&& 0x30)
    |>.mask 0x21 0x07 (field capValue 2 0x78 ||| 0x80)
    |>.mask 0x22 0xf7 (capValue <<< 3 &&& 0x08)
    |>.keep 0x1e 0x1f
    |>.keep 0x25 0xfd
  let regs := if judge ∈ [4, 10, 22, 24, 28] then regs.set 0x25 0x02 else regs
  regs.keep 0x2f (if chipVariant then 0xfd else 0xfc)

/-- What `set_pll` sets for the crystal and the mixer divider. -/
def dividerImage (d : Divider) (c : Crystal) (regs : Regs) : Regs :=
  let regs := regs
    |>.mask 0x22 0xfc c.select
    |>.keep 0x0b 0xfe
    |>.keep 0x2d 0xf3
  let regs :=
    if d.mixDiv = 8 then regs.set 0x2d 0x04 else if d.mixDiv = 16 then regs.set 0x2d 0x08
    else if 32 ≤ d.mixDiv then regs.set 0x2d 0x0c else regs
  let regs := regs.keep 0x2e 0xfc |>.keep 0x20 0xec
  let regs :=
    if d.mixDiv = 2 ∨ d.mixDiv = 4 then regs.set 0x2e 0x01 else regs.set 0x2e 0x02 |>.set 0x20 0x01
  let regs := regs.keep 0x11 0x7f
  let regs := if d.mixDiv = 8 then regs.set 0x11 0x80 else regs
  regs.mask 0x1e 0xe3 (UInt8.ofNat d.divider <<< 2 &&& 0x1c)

/-- What `set_pll` sets for the integer part. -/
def nintImage (nint : Nat) (regs : Regs) : Regs :=
  regs
    |>.mask 0x1b 0x80 (ni nint &&& 0x7f)
    |>.mask 0x1e 0xfc (si nint &&& 0x03)
    |>.keep 0x20 0x3f

/-- What `set_pll` sets for the word of the fraction. -/
def sdmImage (sdm : Nat) (regs : Regs) : Regs :=
  regs.put 0x1c (UInt8.ofNat (sdm &&& 0xff)) |>.put 0x1d (UInt8.ofNat (sdm >>> 8))

/-- The image `set_pll` writes. -/
def pllImage (chip : Fields) (lo ifFrequencyKhz : Nat) : Except Stop Regs := do
  let regs := pllStart chip.chipVariant chip.xtalPower lo ifFrequencyKhz chip.registers
  let d ← mixer chip.chipVariant lo
  let c := crystal lo ifFrequencyKhz
  let pll := synthesis c.xtal d.vco
  let sdm ← sdm c.xtal pll.fraction
  return sdmImage sdm (nintImage pll.nint (dividerImage d c regs))

/-! ## Programming -/

/-- `write_regs`; its bound by `kRegisterWriteMax` is that by `kRegisterCount` again. -/
def writeRegs : Regs → Nat → Nat → Drive Fields Unit :=
  writeSpan (·.demod) kR850Address kRegisterCount

/-- `set_pll`; the wait between its writes is left out. -/
def setPll (lo ifFrequencyKhz : Nat) : Drive Fields Unit := do
  let regs ← Drive.lift (pllImage (← Drive.fields) lo ifFrequencyKhz)
  Drive.assign ({ · with registers := regs })
  writeRegs regs 0x08 0x28
  let regs := (if (← Drive.fields).chipVariant then regs else regs.keep 0x2f 0xfc).set 0x2f 0x02
  Drive.assign ({ · with registers := regs })
  writeRegs regs 0x2f 1

/-- `set_system_frequency`. -/
def setSystemFrequency (rfFrequencyKhz : Nat) : Drive Fields Unit := do
  let chip ← Drive.fields
  let ifFrequencyKhz := chip.current.elim 0 (·.ifFrequencyKhz)
  match findFrequencyParameters ifFrequencyKhz rfFrequencyKhz with
  | none => Drive.fail .invalidArgument
  | some p =>
    let lo := sub32 rfFrequencyKhz ifFrequencyKhz
    let regs := frequencyImage chip.chipVariant chip.loopThrough p rfFrequencyKhz chip.registers
    let regs := setMux lo regs
    Drive.assign ({ · with registers := regs })
    setPll lo ifFrequencyKhz

/-- `set_system_params`. -/
def setSystemParams : Drive Fields Unit := do
  let chip ← Drive.fields
  match chip.system with
  | none => Drive.fail .invalidArgument
  | some system =>
    if chip.current = some system then return ()
    else
      let rows := kIsdbTSystemParameters chip.chipVariant
      match rows.find? (·.ifFrequency = system.ifFrequencyKhz) with
      | none => Drive.fail .invalidArgument
      | some p =>
        Drive.assign ({ · with
          registers := systemImage chip.chipVariant p, current := some system })

/-- `set_frequency`. -/
def setFrequency (frequencyKhz : Nat) : Drive Fields Unit := do
  if !(← Drive.fields).initialized ∨ frequencyKhz < 40000 ∨ 1002000 < frequencyKhz then
    Drive.fail .invalidArgument
  else
    setSystemParams
    setSystemFrequency frequencyKhz

/-- `set_system`. -/
def setSystem (ifFrequencyKhz : Nat) : Drive Fields Unit := do
  if !(← Drive.fields).initialized then Drive.fail .invalidArgument
  else if h : ifFrequencyKhz = 4063 then
    Drive.assign ({ · with system := some ⟨ifFrequencyKhz, h⟩, current := none })
  else Drive.fail .invalidArgument

end Px4.Tuner.R850
