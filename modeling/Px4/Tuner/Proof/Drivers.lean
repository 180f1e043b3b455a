import Px4.Tuner.Hz
import Px4.Tuner.Proof.Rt710
import Px4.Tuner.Proof.R850
import Px4.Tuner.Proof.Cxd2858er

/-!
# The tuners together

* `pll_accuracy`: what the PLLs of the RT710, the RT720 and the R850 are programmed to.
* `frequency_admission`: what is advertised is accepted, and no driver refuses what is accepted.
-/

namespace Px4.Tuner

open Px4.Ipc (System)
open Px4.Frontend.Single (px4FrequencyKhz)

/-! ## The PLLs -/

/-- **The PLLs are accurate.** For each frequency that the driver admits there are a divider, an
integer part and a word of the fraction with which the VCO is in its band and close to where it
should be, and these are in the registers when the driver reports success. -/
theorem pll_accuracy :
    (∀ (chip : Rt710.Chip) (frequency symbolRate rolloff : UInt32),
      Rt710.validateParams chip frequency.toNat symbolRate.toNat rolloff.toNat = .ok () →
      ∃ d pll sdm, Rt710.Tunes frequency.toNat d pll sdm ∧
        ∀ regs s regs', ((Rt710.setPll regs frequency.toNat).exec s).1 = .ok regs' →
          Rt710.Holds pll sdm regs') ∧
    ∀ (chipVariant : Bool) (frequency : UInt32), 40000 ≤ frequency.toNat →
    frequency.toNat ≤ 1002000 →
      ∃ d pll sdm, R850.Tunes chipVariant (frequency.toNat - 4063) d pll sdm ∧
        ∀ s : R850.Fields × Bus, s.1.chipVariant = chipVariant →
          ((R850.setFrequency frequency.toNat).exec s).1 = .ok () →
          R850.Holds pll sdm ((R850.setFrequency frequency.toNat).exec s).2.1.registers := by
  constructor
  · intro chip frequency symbolRate rolloff h
    obtain ⟨coarse, hvalid⟩ := Rt710.validateParams_ok h
    have hlow := hvalid.low
    obtain ⟨d, pll, sdm, htunes⟩ := Rt710.tunes hlow hvalid.high
    refine ⟨d, pll, sdm, htunes, fun regs s regs' hexec => ?_⟩
    exact ((Rt710.setPll_sound (by omega) htunes regs s).returns regs' hexec).2
  · intro chipVariant frequency hlow hhigh
    obtain ⟨d, pll, sdm, htunes⟩ := @R850.tunes chipVariant (frequency.toNat - 4063)
      ⟨by omega, by omega⟩
    refine ⟨d, pll, sdm, htunes, ?_⟩
    rintro s rfl hexec
    obtain ⟨hinit, hsystem, -, -⟩ := R850.setFrequency_ready hexec
    exact (R850.setFrequency_sound hinit hsystem hlow hhigh htunes).returns () hexec

/-! ## Admission -/

/-- What is accepted is what is advertised. -/
theorem px4FrequencyKhz_iff {fresh : TunerStrictProfile} (hfresh : fresh.nativeHz = false)
    (supportsLnb15v : Bool) (hz : Nat) (system : System) :
    (∃ khz, px4FrequencyKhz hz system = .ok khz) ↔
      (px4StrictProfile fresh system supportsLnb15v).Advertises hz := by
  cases system with
  | isdbT =>
    simp only [px4FrequencyKhz, px4StrictProfile, TunerStrictProfile.Advertises]
    split
    · simp
      omega
    · simp
      omega
  | isdbS =>
    simp only [px4FrequencyKhz, px4StrictProfile, TunerStrictProfile.Advertises]
    split
    · simp
      omega
    · simp
      omega
  | isdbTOrS => simp [px4FrequencyKhz, px4StrictProfile, TunerStrictProfile.Advertises, hfresh]

/-- What is accepted, with the frequency it is rounded to. -/
theorem px4FrequencyKhz_ok {hz khz : Nat} {system : System}
    (h : px4FrequencyKhz hz system = .ok khz) :
    khz = hz / 1000 ∧ (system = .isdbT → 40000 ≤ khz ∧ khz ≤ 1002000) ∧
      (system = .isdbS → 146875 ≤ khz ∧ khz ≤ 2350000) := by
  cases system with
  | isdbT =>
    simp only [px4FrequencyKhz] at h
    split at h
    · cases h
    · cases h
      exact ⟨rfl, fun _ => by omega, nofun⟩
  | isdbS =>
    simp only [px4FrequencyKhz] at h
    split at h
    · cases h
    · cases h
      exact ⟨rfl, nofun, fun _ => by omega⟩
  | isdbTOrS => cases h

/-- Validation of a satellite channel looks at the frequency only. -/
theorem validateParams_satellite (chip : Rt710.Chip) {frequency : Nat} (hlow : 146875 ≤ frequency)
    (hhigh : frequency ≤ 2350000) : Rt710.validateParams chip frequency 28860 4 = .ok () := by
  obtain ⟨d, hd, hserves⟩ := Rt710.mixer_ok hlow hhigh
  obtain ⟨coarse, hcoarse, hfits⟩ :
      ∃ coarse, Rt710.validateCoarse chip 28860 4 = .ok coarse ∧ coarse ≤ 63 := by
    cases chip with
    | unknown => exact ⟨0, by decide +kernel⟩
    | rt710 => exact ⟨17, by decide +kernel⟩
    | rt720 => exact ⟨17, by decide +kernel⟩
  unfold Rt710.validateParams
  rw [refuse_of_not (by omega), ok_bind, hd, ok_bind, Rt710.wholePart_ok hserves.low hserves.high,
    ok_bind, hcoarse, ok_bind]
  exact refuse_of_not (by omega)

/-- **What is advertised is accepted**, and no driver refuses a frequency that is accepted. -/
theorem frequency_admission {fresh : TunerStrictProfile} (hfresh : fresh.nativeHz = false)
    (supportsLnb15v : Bool) (hz : UInt64) (system : System) :
    ((∃ khz, px4FrequencyKhz hz.toNat system = .ok khz) ↔
      (px4StrictProfile fresh system supportsLnb15v).Advertises hz.toNat) ∧
    ∀ khz, px4FrequencyKhz hz.toNat system = .ok khz →
      khz < 2 ^ 32 ∧ programmedHz khz ≤ hz.toNat ∧ hz.toNat < programmedHz khz + 1000 ∧
      (system = .isdbT →
        (∀ s : R850.Fields × Bus, ((R850.setFrequency khz).exec s).1 =
          .error (.failure .invalidArgument) →
          s.1.initialized = false ∨ s.1.system = none ∨
            Reports s.2 ((R850.setFrequency khz).exec s).2.2 .invalidArgument) ∧
        ∀ s, OnlyReported (Cxd2858er.setParamsT khz) s) ∧
      (system = .isdbS →
        (∀ s, OnlyReported (Rt710.setParams khz 28860 4) s) ∧
        ∀ s, OnlyReported (Cxd2858er.setParamsS khz) s) := by
  refine ⟨px4FrequencyKhz_iff hfresh supportsLnb15v hz.toNat system, fun khz h => ?_⟩
  obtain ⟨rfl, hT, hS⟩ := px4FrequencyKhz_ok h
  have hsmall : hz.toNat / 1000 < 2 ^ 32 := by
    cases system with
    | isdbT => have := hT rfl; omega
    | isdbS => have := hS rfl; omega
    | isdbTOrS => cases h
  refine ⟨hsmall, by unfold programmedHz; omega, by unfold programmedHz; omega, fun hsystem => ?_,
    fun hsystem => ?_⟩
  · obtain ⟨hlow, hhigh⟩ := hT hsystem
    refine ⟨fun s => R850.setFrequency_refused hlow hhigh, fun s => ?_⟩
    exact (Cxd2858er.setParamsT_sound (by omega)
      (by unfold Cxd2858er.kMaxFrequencyField; omega)).fair
  · obtain ⟨hlow, hhigh⟩ := hS hsystem
    constructor
    · intro s
      cases hinit : s.1.initialized with
      | true =>
        exact (Rt710.setParams_sound hinit (by decide)
          (validateParams_satellite s.1.chip hlow hhigh)).fair
      | false =>
        intro hexec
        rw [Rt710.setParams_not_ready hinit] at hexec
        cases hexec
    · intro s
      refine (Cxd2858er.setParamsS_sound (by omega) ?_).fair
      unfold Cxd2858er.quarter Cxd2858er.kMaxFrequencyField
      rw [word_eq (by omega)]
      omega

/-- The last frequency of a satellite, short of a kHz. -/
theorem frequency_admission_last : px4FrequencyKhz 2349999999 .isdbS = .ok 2349999 ∧
    programmedHz 2349999 ≤ 2349999999 := by
  have h := (@frequency_admission ⟨false, 0, 0, 0, 0⟩ rfl true 2349999999 .isdbS).2 2349999
    (by decide)
  exact ⟨by decide, h.2.1⟩

end Px4.Tuner
