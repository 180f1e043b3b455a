import Px4.Lib.SigmaDelta
import Mathlib.Algebra.Order.Ring.Rat
import Mathlib.Algebra.Order.Field.Basic
import Mathlib.Tactic.Linarith
import Mathlib.Tactic.FieldSimp

/-!
# What a synthesizer makes of its words

A VCO runs at twice the crystal's frequency times an integer part and a fraction of 16 bits. The
drivers move fractions close to a multiple of the crystal's frequency (`Rounded`) and build the word
of the fraction in a sigma-delta loop.

* `Rounded.converts`: the loop ends, and the VCO runs within a 64th of the crystal's frequency and 8
  kHz of where it should.
-/

namespace Px4.Tuner

open Lib

/-- The integer part and the fraction that are programmed. -/
structure Synthesis where
  nint : Nat
  fraction : Nat
  deriving DecidableEq, Repr

/-- The frequency of the VCO, in kHz. -/
def realised (xtal nint sdm : Nat) : ℚ := 2 * xtal * (nint + sdm / 65536)

/-- An integer part and a fraction for a frequency of the VCO. -/
structure Rounded (xtal vco nint fraction : Nat) : Prop where
  bound : fraction ≤ xtal * 2
  above : xtal * 2 * nint + fraction ≤ vco + xtal / 64
  below : vco ≤ xtal * 2 * nint + fraction + xtal / 64
  above_fine : fraction ≠ 0 → xtal * 2 * nint + fraction ≤ vco + xtal / 128
  below_fine : fraction ≠ 0 → vco ≤ xtal * 2 * nint + fraction + xtal / 128

/-! ## Fractions that are moved -/

namespace Rounded

variable {xtal nint rest : Nat}

/-- A fraction that is left as it is. -/
theorem same (h : rest ≤ xtal * 2) : Rounded xtal (xtal * 2 * nint + rest) nint rest :=
  ⟨h, by omega, by omega, fun _ => by omega, fun _ => by omega⟩

/-- To the multiple of twice the crystal's frequency below. -/
theorem down (h : rest < xtal / 64) : Rounded xtal (xtal * 2 * nint + rest) nint 0 :=
  ⟨by omega, by omega, by omega, nofun, nofun⟩

/-- To the one above. -/
theorem up (h : xtal * 127 / 64 < rest) (hlt : rest < xtal * 2) :
    Rounded xtal (xtal * 2 * nint + rest) (nint + 1) 0 := by
  have hnext : xtal * 2 * (nint + 1) = xtal * 2 * nint + xtal * 2 := Nat.mul_succ _ _
  exact ⟨by omega, by omega, by omega, nofun, nofun⟩

/-- Away from the odd multiple of the crystal's frequency, downwards. -/
theorem below_odd (h : xtal * 127 / 128 < rest) (hlt : rest < xtal) :
    Rounded xtal (xtal * 2 * nint + rest) nint (xtal * 127 / 128) :=
  ⟨by omega, by omega, by omega, fun _ => by omega, fun _ => by omega⟩

/-- Away from it, upwards. -/
theorem above_odd (h : xtal < rest) (hlt : rest < xtal * 129 / 128) :
    Rounded xtal (xtal * 2 * nint + rest) nint (xtal * 129 / 128) :=
  ⟨by omega, by omega, by omega, fun _ => by omega, fun _ => by omega⟩

end Rounded

/-! ## The word of the fraction -/

/-- The VCO runs close to where it should. -/
def Accurate (xtal vco nint sdm : Nat) : Prop := |realised xtal nint sdm - vco| ≤ xtal / 64 + 8

/-- The bound from inequalities on naturals, in units of the word. -/
theorem accurate_of {xtal vco nint sdm : Nat}
    (habove : 64 * (65536 * (xtal * 2 * nint) + xtal * 2 * sdm) ≤ 65536 * (64 * vco + xtal + 512))
    (hbelow : 65536 * (64 * vco) ≤ 64 * (65536 * (xtal * 2 * nint) + xtal * 2 * sdm) +
      65536 * (xtal + 512)) : Accurate xtal vco nint sdm := by
  have ha : (64 * (65536 * (xtal * 2 * nint) + xtal * 2 * sdm) : ℚ) ≤
      65536 * (64 * vco + xtal + 512) := by exact_mod_cast habove
  have hb : (65536 * (64 * vco) : ℚ) ≤ 64 * (65536 * (xtal * 2 * nint) + xtal * 2 * sdm) +
      65536 * (xtal + 512) := by exact_mod_cast hbelow
  have hrealised : 64 * 65536 * realised xtal nint sdm =
      64 * (65536 * (xtal * 2 * nint) + xtal * 2 * sdm) := by
    unfold realised
    field_simp
  unfold Accurate
  rw [abs_le]
  constructor
  · linarith
  · linarith

/-- The loop of `fraction` ends with the word `sdm`. No round divides by zero, and each is that of
unbounded integers. -/
structure Converts (body exact : SigmaDelta.State → Lib.Round SigmaDelta.State)
    (fraction sdm : Nat) :
    Prop where
  word : sdm < 2 ^ 16
  ends : ∃ s, Loop.run body 16 (SigmaDelta.start fraction) = some s ∧ s.sdm = sdm
  exact_round : ∀ s, Loop.Reaches body (SigmaDelta.start fraction) s →
    body s = exact s ∧ body s ≠ .fault

/-- **The word of the fraction**, for a loop on 16 bits. -/
theorem Rounded.converts {xtal vco nint fraction : Nat} (h : Rounded xtal vco nint fraction)
    {wrap : Nat → Nat} {last : Nat → Bool} (hxtal : 1024 ≤ xtal) (hword : xtal * 2 < 2 ^ 16)
    (hwrap : ∀ n, n < 2 ^ 16 → wrap n = n)
    (hlast : ∀ k, k < 16 → last (2 ^ k) = decide (k = 16 - 1)) :
    ∃ sdm, Converts (SigmaDelta.round 16 (xtal * 2) wrap last)
      (SigmaDelta.round 16 (xtal * 2) id last)
      fraction sdm ∧ Accurate xtal vco nint sdm := by
  have habove := h.above
  have hbelow := h.below
  have hexact := fun s => SigmaDelta.round_exact (s := s) hword hwrap hlast (by decide) h.bound
  by_cases hzero : fraction = 0
  · -- The loop ends at once.
    subst hzero
    refine ⟨0, ⟨by decide, ⟨SigmaDelta.start 0, rfl, rfl⟩, hexact⟩, accurate_of ?_ ?_⟩
    · omega
    · omega
  · have hfine := h.above_fine hzero
    have hfine' := h.below_fine hzero
    obtain ⟨s, hrun, hs, hnear⟩ := SigmaDelta.run_spec hword hwrap hlast (by decide) h.bound
    have hn := hnear.above
    have hn' := hnear.below
    refine ⟨s.sdm, ⟨hs, ⟨s, hrun, rfl⟩, hexact⟩, accurate_of ?_ ?_⟩
    · generalize xtal * 2 * s.sdm = word at *
      omega
    · generalize xtal * 2 * s.sdm = word at *
      omega

theorem wrap_word {n : Nat} (h : n < 2 ^ 16) : n % 2 ^ 16 = n := Nat.mod_eq_of_lt h

/-- A word of 16 bits in two registers. -/
def fieldsSdm (low high : UInt8) : Nat := low.toNat + 256 * high.toNat

theorem fieldsSdm_bytes {sdm : Nat} (h : sdm < 2 ^ 16) :
    fieldsSdm (UInt8.ofNat sdm) (UInt8.ofNat (sdm >>> 8)) = sdm := by
  simp only [fieldsSdm, UInt8.toNat_ofNat', Nat.shiftRight_eq_div_pow]
  omega

end Px4.Tuner
