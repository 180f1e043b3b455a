import Px4.Tuner.Bus
import Px4.Tuner.Pll

/-!
# The satellite tuners RT710 and RT720 (`rt710.cpp`)

`validate_params`, `set_pll` and `set_params`. Words of 32 bits are natural numbers, truncated where
the code does not exclude it. The filter computation of `set_params` takes the truncation as an
argument, so that it can be compared with the one of unbounded integers.
-/

namespace Px4.Tuner.Rt710

open Lib (Round)

/-- `Rt710Chip`. -/
inductive Chip
  | unknown | rt710 | rt720
  deriving DecidableEq, Repr

/-- The fields of `Rt710`; `demod` is the address of the demodulator it stands behind. `initialize`
has told the chip before it sets `initialized`. -/
structure Fields where
  demod : Fin 128
  chip : Chip := .unknown
  initialized : Bool := false
  frequencyKhz : Nat := 0
  known : initialized = true → chip ≠ .unknown := by simp

/-- `kTunerAddress`. -/
def kTunerAddress : Nat := 0x7a

/-- `kRegisterCount`. -/
def kRegisterCount : Nat := 0x10

/-- `kXtalKHz`. -/
def kXtalKHz : Nat := 24000

/-- `kRt710Init`. -/
def kRt710Init : List UInt8 :=
  [0x40, 0x1d, 0x20, 0x10, 0x41, 0x50, 0xed, 0x25, 0x07, 0x58, 0x39, 0x64, 0x38, 0xe7, 0x90, 0x35]

/-- `kRt720Init`. -/
def kRt720Init : List UInt8 :=
  [0x00, 0x1c, 0x00, 0x10, 0x41, 0x48, 0xda, 0x4b, 0x07, 0x58, 0x38, 0x40, 0x37, 0xe7, 0x4c, 0x59]

/-- `Bandwidth`. -/
structure Bandwidth where
  limit : Nat
  coarse : Nat
  fine : Nat

/-- `kBandwidth`. -/
def kBandwidth : List Bandwidth :=
  [⟨50000, 0, 0⟩, ⟨73000, 0, 1⟩, ⟨96000, 1, 0⟩, ⟨104000, 1, 1⟩, ⟨116000, 2, 0⟩, ⟨126000, 2, 1⟩,
    ⟨134000, 3, 0⟩, ⟨146000, 3, 1⟩, ⟨158000, 4, 0⟩, ⟨170000, 4, 1⟩, ⟨178000, 5, 0⟩, ⟨190000, 5, 1⟩,
    ⟨202000, 6, 0⟩, ⟨212000, 6, 1⟩, ⟨218000, 7, 0⟩, ⟨234000, 7, 1⟩, ⟨244000, 9, 1⟩, ⟨246000, 10, 0⟩,
    ⟨262000, 10, 1⟩, ⟨266000, 11, 0⟩, ⟨282000, 11, 1⟩, ⟨298000, 12, 1⟩, ⟨318000, 13, 1⟩,
    ⟨340000, 14, 1⟩, ⟨358000, 15, 1⟩, ⟨379999, 16, 1⟩]

/-! ## The mixer divider -/

/-- `mix_div` and `vco_frequency`. -/
structure Divider where
  mixDiv : Nat
  vco : Nat
  deriving DecidableEq, Repr

/-- The VCO runs between `vco_min` and `vco_max`. -/
def Divider.inBand (d : Divider) : Bool := 2350000 ≤ d.vco && d.vco ≤ 4700000

/-- A round of the search for the divider. -/
def dividerRound (frequency : Nat) (d : Divider) : Round Divider :=
  if d.mixDiv ≤ 16 ∧ !d.inBand then
    let mixDiv := d.mixDiv * 2 % 256
    .again ⟨mixDiv, if mixDiv ≤ 16 then word (frequency * mixDiv) else d.vco⟩
  else .done d

/-- The search, and the check of what it has found. -/
def mixer (frequency : Nat) : Except Stop Divider := do
  let d ← defined (Lib.Loop.run (dividerRound frequency) 5 ⟨2, word (frequency * 2)⟩)
  refuse (16 < d.mixDiv ∨ !d.inBand)
  return d

/-- `nint`, in its range. -/
def wholePart (vco : Nat) : Except Stop Nat := do
  let nint := vco / 2 / kXtalKHz
  refuse (nint < 13 ∨ 268 < nint)
  return nint

/-! ## Parameters -/

/-- `coarse` from the distance into the first range of the scan, in a variable that `narrow`
truncates to. -/
def firstScan (narrow : Nat → Nat) (delta : Nat) : Nat :=
  let coarse := narrow (delta / 20000 + (if delta % 20000 ≠ 0 then 1 else 0))
  if 6 < coarse then narrow (coarse + 1) else coarse

/-- `coarse` from the distance into the second range; `rest` is what tells whether to round up. -/
def secondScan (narrow : Nat → Nat) (delta rest : Nat) : Nat :=
  let coarse := narrow (delta / 20000 + 15)
  let coarse := if rest ≠ 0 then narrow (coarse + 1) else coarse
  if 33 ≤ coarse then narrow (coarse + 3)
  else if 29 ≤ coarse then narrow (coarse + 2)
  else if 27 ≤ coarse then narrow (coarse + 3)
  else if 24 ≤ coarse then narrow (coarse + 2)
  else if 19 ≤ coarse then narrow (coarse + 1)
  else coarse

/-- `coarse` of the RT720 from the scan value; `range` as the code has it for the rolloff, `sum` is
`s + 25216`. -/
def scanCoarse (narrow : Nat → Nat) (s range sum : Nat) : Except Stop Nat :=
  if s ≤ 88000 + range then .ok 0
  else if s ≤ 368000 + range then .ok (firstScan narrow (sub32 (sub32 s 88000) range))
  else if s ≤ 764000 + range then do
    refuse (max32 - 25216 + range < s)
    return secondScan narrow (sub32 (sub32 s 368000) range) (sub32 sum range % 20000)
  else .ok 42

/-- `coarse` of the RT710 from the bandwidth, as `validate_params` computes it. -/
def bandwidthCoarse (bandwidth : Nat) : Except Stop Nat :=
  if 380000 ≤ bandwidth then
    let remainder := bandwidth - 380000
    .ok (16 + remainder / 17400 + (if remainder % 17400 ≠ 0 then 1 else 0))
  else
    match kBandwidth.find? fun entry => bandwidth ≤ entry.limit with
    | some entry => .ok entry.coarse
    | none => .error (.failure .invalidArgument)

/-- `coarse` as `validate_params` computes it. -/
def validateCoarse (chip : Chip) (symbolRate rolloff : Nat) : Except Stop Nat := do
  let manual := chip = .rt720 ∧ 15000 ≤ symbolRate
  refuse (manual ∧ max32 - 6000 < symbolRate)
  let effective := if manual then word (symbolRate + 6000) else symbolRate
  let multiplier := word (115 + word (rolloff * 5))
  refuse (max32 / multiplier < effective)
  let bandwidth := word (effective * multiplier) / 10
  refuse (bandwidth = 0)
  refuse (chip = .rt720 ∧ (max32 / 12 < effective ∨
    (effective ≤ 15000 ∧ max32 - 3000 < effective) ∨
    (15000 < effective ∧ effective ≤ 20000 ∧ max32 - 2000 < effective) ∨
    (20000 < effective ∧ effective ≤ 30000 ∧ max32 - 1000 < effective)))
  let s := if chip = .rt720 then word (effective * 12) else 0
  if chip = .rt710 then bandwidthCoarse bandwidth
  else scanCoarse word s (if 1 < rolloff then 20000 else 0) (word (s + 25216))

/-- `validate_params`. -/
def validateParams (chip : Chip) (frequencyKhz symbolRate rolloff : Nat) : Except Stop Unit := do
  refuse (frequencyKhz < 146875 ∨ 2350000 < frequencyKhz ∨ symbolRate = 0 ∨ 5 < rolloff)
  let d ← mixer frequencyKhz
  let _ ← wholePart d.vco
  let coarse ← validateCoarse chip symbolRate rolloff
  refuse (63 < coarse)

/-! ## The PLL -/

/-- `write_regs` of registers of the image. -/
def writeRegs : Regs → Nat → Nat → Drive Fields Unit :=
  writeSpan (·.demod) kTunerAddress kRegisterCount

/-- `divider`, the code of the mixer divider. -/
def dividerCode (mixDiv : Nat) : UInt8 :=
  if mixDiv = 2 then 1 else if mixDiv = 4 then 0 else if mixDiv = 8 then 2 else 3

/-- Register 0x05: `ni` and `si`. -/
def register (pll : Synthesis) : UInt8 :=
  let ni : UInt8 := UInt8.ofNat ((pll.nint - 13) / 4)
  let si : UInt8 := UInt8.ofNat (pll.nint - ni.toNat * 4 - 13)
  let high : UInt8 := si <<< 6
  ni &&& 0x3f ||| high &&& 0xc0

/-- `effective_nint` and `fraction`: fractions close to a multiple of the crystal's are moved. -/
def synthesis (vco : Nat) : Except Stop Synthesis := do
  let nint ← wholePart vco
  let rest := sub32 vco (word (kXtalKHz * 2 * nint))
  let beyond := kXtalKHz * 127 / 64 < rest
  refuse (¬rest < kXtalKHz / 64 ∧ beyond ∧ nint = 268)
  let fraction := if rest < kXtalKHz / 64 ∨ beyond then 0 else rest
  let nint := if fraction = 0 ∧ beyond then nint + 1 else nint
  return ⟨nint,
    if kXtalKHz * 127 / 128 < fraction ∧ fraction < kXtalKHz then kXtalKHz * 127 / 128
    else if kXtalKHz < fraction ∧ fraction < kXtalKHz * 129 / 128 then kXtalKHz * 129 / 128
    else fraction⟩

/-- A round of the sigma-delta loop, on words of 16 bits. -/
def sdmRound : Lib.SigmaDelta.State → Round Lib.SigmaDelta.State :=
  Lib.SigmaDelta.round 16 (kXtalKHz * 2) (· % 2 ^ 16) fun nsdm => 0x8000 ≤ nsdm

/-- `sdm`. -/
def sdm (fraction : Nat) : Except Stop Nat :=
  defined ((Lib.Loop.run sdmRound 16 (Lib.SigmaDelta.start fraction)).map (·.sdm))

/-- The registers of the mixer divider on the RT720. -/
def rt720Divider (regs : Regs) (divider : UInt8) : Regs :=
  if divider ≤ 1 then ((regs.keep 0x04 0x3f).set 0x04 0x40).set 0x0c 0x10
  else ((regs.keep 0x04 0x3f).set 0x04 0x80).keep 0x0c 0xef

/-- The part of `set_pll` that writes the mixer divider. -/
def setDivider (regs : Regs) (mixDiv : Nat) : Drive Fields Regs := do
  let divider := dividerCode mixDiv
  let regs := regs.mask 0x04 0xfe (divider &&& 1)
  writeRegs regs 0x04 1
  if (← Drive.fields).chip = .rt720 then
    let regs := regs.mask 0x08 0xef (divider <<< 3 &&& 0x10)
    writeRegs regs 0x08 1
    let regs := rt720Divider regs divider
    writeRegs regs 0x04 1
    writeRegs regs 0x0c 1
    return regs
  else return regs

/-- The part of `set_pll` that writes the integer part and the word of the fraction. -/
def setSynthesis (regs : Regs) (vco : Nat) : Drive Fields Regs := do
  let pll ← Drive.lift (synthesis vco)
  let regs := regs.put 0x05 (register pll)
  writeRegs regs 0x05 1
  let regs := if pll.fraction = 0 then regs.set 0x04 0x02 else regs
  writeRegs regs 0x04 1
  let sdm ← Drive.lift (sdm pll.fraction)
  let regs := (regs.put 0x07 (UInt8.ofNat (sdm >>> 8))).put 0x06 (UInt8.ofNat sdm)
  writeRegs regs 0x07 1
  writeRegs regs 0x06 1
  return regs

/-- `set_pll`, with the image it leaves. -/
def setPll (regs : Regs) (frequencyKhz : Nat) : Drive Fields Regs := do
  Drive.assign ({ · with frequencyKhz := 0 })
  Drive.lift (refuse (frequencyKhz = 0))
  let d ← Drive.lift (mixer frequencyKhz)
  let regs ← setDivider regs d.mixDiv
  let regs ← setSynthesis regs d.vco
  Drive.assign ({ · with frequencyKhz })
  return regs

/-! ## The channel filter -/

/-- The filter computation of `set_params`: `effective_symbol_rate` after the manual-scan adjustment
and after the compensation, `s`, the multiplier, the product behind `bandwidth`, `s + 25216` where
it is computed, which are the results of all additions and multiplications of 32 bits in it, and the
filter. -/
structure Filter where
  manual : Nat
  s : Nat
  multiplier : Nat
  product : Nat
  compensated : Nat
  sum : Nat
  coarse : Nat
  fine : Nat
  deriving DecidableEq, Repr

/-- `coarse` and `fine` of the RT710 from the bandwidth, as `set_params` computes them. -/
def bandwidthFilter (bandwidth : Nat) : Nat × Nat :=
  if 380000 ≤ bandwidth then
    let remainder := bandwidth - 380000
    let coarse := if remainder % 17400 ≠ 0 then 1 else 0
    ((coarse + remainder / 17400 % 256 + 0x10) % 256, 1)
  else
    match kBandwidth.find? fun entry => bandwidth ≤ entry.limit with
    | some entry => (entry.coarse, entry.fine)
    | none => (0, 0)

/-- The filter computation of `set_params`, with `wrap` for words of 32 bits; `coarse` is of 8 bits.
-/
def filter (wrap : Nat → Nat) (chip : Chip) (symbolRate rolloff : Nat) : Except Stop Filter := do
  let manual := if chip ≠ .rt710 ∧ 15000 ≤ symbolRate then wrap (symbolRate + 6000) else symbolRate
  let s := if chip ≠ .rt710 then wrap (manual * 12) else 0
  let multiplier := wrap (115 + wrap (rolloff * 5))
  let product := wrap (manual * multiplier)
  let bandwidth := product / 10
  let compensated :=
    if chip = .rt720 then
      if manual ≤ 15000 then wrap (manual + 3000)
      else if manual ≤ 20000 then wrap (manual + 2000)
      else if manual ≤ 30000 then wrap (manual + 1000)
      else manual
    else manual
  let fine := if 1 < rolloff then 1 else 0
  let range := fine * 20000
  let sum := if 368000 + range < s ∧ s ≤ 764000 + range then wrap (s + 25216) else 0
  if chip = .rt710 then
    let (coarse, fine) := bandwidthFilter bandwidth
    return ⟨manual, s, multiplier, product, compensated, sum, coarse, fine⟩
  else
    let coarse ← scanCoarse (· % 256) s range sum
    return ⟨manual, s, multiplier, product, compensated, sum, coarse, fine⟩

/-- The image `set_params` starts with. -/
def startImage (chip : Chip) : Regs :=
  let regs := Regs.image (if chip = .rt710 then kRt710Init else kRt720Init)
  let regs := ((((regs.set 0x01 0x04).set 0x03 0x10).keep 0x0b 0xef).set 0x0d 0x10).keep 0x0b 0xf7
  if chip = .rt710 then regs.keep 0x0e 0xfc else (regs.keep 0x0e 0xfe).keep 0x03 0xf0

/-- The registers of the gain of the RT710. -/
def gainImage (regs : Regs) (frequencyKhz : Nat) : Regs :=
  if 350000 ≤ sub32 frequencyKhz 1600000 then
    let regs := (regs.keep 0x02 0xbf).keep 0x08 0x7f
    if 1950000 ≤ frequencyKhz then regs.put 0x0a 0x38 else regs
  else (regs.set 0x02 0x40).set 0x08 0x80

/-- What `set_params` writes between the PLL and the filter. -/
def setGain (chip : Chip) (regs : Regs) (frequencyKhz : Nat) : Drive Fields Regs := do
  if chip = .rt710 then
    let regs := gainImage regs frequencyKhz
    writeRegs regs 0x0a 1
    writeRegs regs 0x02 1
    writeRegs regs 0x08 1
    let regs := regs.keep 0x0e 0xf3
    let regs := if 2000000 ≤ frequencyKhz then regs.set 0x0e 0x08 else regs
    writeRegs regs 0x0e 1
    return regs
  else
    let regs := regs.keep 0x0b 0xfc
    writeRegs regs 0x0b 1
    return regs

/-- Register 0x0f. -/
def filterRegister (coarse fine : Nat) : UInt8 :=
  UInt8.ofNat (coarse <<< 2) ||| UInt8.ofNat (fine &&& 3)

/-- `set_params`; the wait for the PLL is left out. -/
def setParams (frequencyKhz symbolRate rolloff : Nat) : Drive Fields Unit := do
  let chip ← Drive.fields
  if !chip.initialized then Drive.fail .notReady
  else
    Drive.lift (validateParams chip.chip frequencyKhz symbolRate rolloff)
    let regs := startImage chip.chip
    writeRegs regs 0 kRegisterCount
    let regs ← setPll regs frequencyKhz
    let regs ← setGain chip.chip regs frequencyKhz
    let filter ← Drive.lift (filter word chip.chip symbolRate rolloff)
    writeRegs (regs.put 0x0f (filterRegister filter.coarse filter.fine)) 0x0f 1

end Px4.Tuner.Rt710
