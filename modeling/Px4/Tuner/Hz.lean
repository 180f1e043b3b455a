import Px4.Frontend.Single

/-!
# Frequencies in Hz (`px4_tuner_hz.h`)

What is advertised for a system, next to `px4_frequency_khz`. The type of the profile is not part of
this repository: its fields are those that `px4_strict_profile` sets, and a fresh one is a
parameter.
-/

namespace Px4.Tuner

open Px4.Ipc (System)

/-- `TunerStrictProfile`. -/
structure TunerStrictProfile where
  nativeHz : Bool
  minHz : Nat
  maxHz : Nat
  lnbVoltageMask : UInt8
  slotCount : Nat
  deriving DecidableEq, Repr

/-- The frequency is in the range of the profile. -/
def TunerStrictProfile.Advertises (profile : TunerStrictProfile) (hz : Nat) : Prop :=
  profile.nativeHz = true ∧ profile.minHz ≤ hz ∧ hz ≤ profile.maxHz

instance (profile : TunerStrictProfile) (hz : Nat) : Decidable (profile.Advertises hz) :=
  inferInstanceAs (Decidable (_ ∧ _))

/-- `px4_strict_profile`. -/
def px4StrictProfile (fresh : TunerStrictProfile) (system : System) (supportsLnb15v : Bool) :
    TunerStrictProfile :=
  match system with
  | .isdbT => { fresh with nativeHz := true, minHz := 40000000, maxHz := 1002000000 }
  | .isdbS =>
    { nativeHz := true, minHz := 146875000, maxHz := 2350000000,
      lnbVoltageMask := if supportsLnb15v then 0x03 else 0x01, slotCount := 12 }
  | .isdbTOrS => fresh

/-- `programmed_hz` of `px4_programming`. -/
def programmedHz (frequencyKhz : Nat) : Nat := frequencyKhz * 1000

end Px4.Tuner
