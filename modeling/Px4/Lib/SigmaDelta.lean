import Px4.Lib.Loop
import Mathlib.Algebra.Order.Group.Nat
import Mathlib.Tactic.Ring
import Mathlib.Data.Nat.Log

/-!
# Sigma-delta words

A fraction of a full scale `X`, as the bits of a word of `w` bits, most significant first: a bit is
set if its weight, the full scale divided down and truncated, is less than what is left of the
fraction. The loop stops early when at most one is left.

* `Inv.round_eq`, `Inv.again`, `Inv.done`: all that a round can do to a state that satisfies `Inv`.
* `round_exact`: whenever the loop is at its head nothing is divided by zero and no sum leaves the
  word.
* `run_spec`: the loop ends, with a word that differs from the fraction by at most `w` units.
-/

namespace Lib.SigmaDelta

/-- The loop: what is left of the fraction, the divisor of the bit's weight, and the word so far. -/
structure State where
  fraction : Nat
  nsdm : Nat
  sdm : Nat
  deriving DecidableEq, Repr

/-- The state at the start. -/
def start (fraction : Nat) : State := ⟨fraction, 2, 0⟩

/-- A round. `wrap` is the truncation to a word and `last` tells the divisor of the last bit. -/
def round (w X : Nat) (wrap : Nat → Nat) (last : Nat → Bool) (s : State) : Round State :=
  if s.fraction ≤ 1 then .done s
  else if s.nsdm = 0 then .fault
  else if X / s.nsdm < s.fraction then
    if s.nsdm / 2 = 0 then .fault
    else
      let fraction := s.fraction - X / s.nsdm
      let sdm := wrap (s.sdm + 2 ^ (w - 1) / (s.nsdm / 2))
      if last s.nsdm then .done { s with fraction, sdm }
      else .again { fraction, sdm, nsdm := wrap (s.nsdm * 2) }
  else .again { s with nsdm := wrap (s.nsdm * 2) }

/-- The word over the fraction: at most `low` below it and at most `high` above it, in units. -/
structure Near (w X fraction sdm low high : Nat) : Prop where
  above : X * sdm ≤ 2 ^ w * (fraction + high)
  below : 2 ^ w * fraction ≤ X * sdm + 2 ^ w * low

/-- Before the `k`-th bit of the word for `F`. -/
structure Inv (w X F : Nat) (k : Nat) (s : State) : Prop where
  pos : 1 ≤ k
  lt : k < w
  nsdm : s.nsdm = 2 ^ k
  room : s.sdm + 2 ^ (w + 1 - k) ≤ 2 ^ w
  left : s.fraction ≤ F
  near : Near w X (F - s.fraction) s.sdm 0 (k - 1)
  small : s.fraction ≤ X / 2 ^ (k - 1) + (k - 1)

section

variable {w X F k : Nat} {s : State} {wrap : Nat → Nat} {last : Nat → Bool}

theorem start_inv (hw : 1 < w) (hF : F ≤ X) : Inv w X F 1 (start F) where
  pos := Nat.le_refl 1
  lt := hw
  nsdm := rfl
  room := by simp [start]
  left := Nat.le_refl F
  near := ⟨by simp [start], by simp [start]⟩
  small := by simpa [start] using hF

/-- The weight of a bit, against the full scale: exact but for what the division truncates. -/
theorem weight (hk : k < w) :
    2 ^ w * (X / 2 ^ k) ≤ X * 2 ^ (w - k) ∧ X * 2 ^ (w - k) ≤ 2 ^ w * (X / 2 ^ k + 1) := by
  have hpow : 2 ^ w = 2 ^ (w - k) * 2 ^ k := by rw [← Nat.pow_add, Nat.sub_add_cancel hk.le]
  have hlow : 2 ^ k * (X / 2 ^ k) ≤ X := Nat.mul_div_le X (2 ^ k)
  have hhigh : X ≤ 2 ^ k * (X / 2 ^ k + 1) := (Nat.lt_mul_div_succ X (Nat.two_pow_pos k)).le
  rw [hpow, Nat.mul_comm X]
  constructor
  · rw [Nat.mul_assoc]
    exact Nat.mul_le_mul_left _ hlow
  · rw [Nat.mul_assoc]
    exact Nat.mul_le_mul_left _ hhigh

/-- A weight is half of the one before it, but for what the division truncates. -/
theorem weight_half (hk : 1 ≤ k) : X / 2 ^ (k - 1) ≤ 2 * (X / 2 ^ k) + 1 := by
  obtain ⟨j, rfl⟩ : ∃ j, k = j + 1 := ⟨k - 1, by omega⟩
  rw [Nat.add_sub_cancel, Nat.pow_succ, ← Nat.div_div_eq_div_mul]
  omega

/-- The state after a bit that is set. -/
theorem Inv.set_bit (h : Inv w X F k s) (hset : X / 2 ^ k < s.fraction) :
    s.sdm + 2 ^ (w - k) + 2 ^ (w - k) ≤ 2 ^ w ∧
      Near w X (F - (s.fraction - X / 2 ^ k)) (s.sdm + 2 ^ (w - k)) 0 k ∧
      s.fraction - X / 2 ^ k ≤ X / 2 ^ k + k := by
  have hpos := h.pos
  have hleft := h.left
  have hroom := h.room
  have hpow : 2 ^ (w + 1 - k) = 2 ^ (w - k) + 2 ^ (w - k) := by
    rw [show w + 1 - k = (w - k) + 1 by have := h.lt; omega, Nat.pow_succ, Nat.mul_two]
  obtain ⟨hlow, hhigh⟩ := weight (X := X) h.lt
  have hhalf := weight_half (X := X) hpos
  have hsmall := h.small
  have hnear := h.near
  generalize X / 2 ^ k = weight at *
  have hsub : F - (s.fraction - weight) = F - s.fraction + weight := by omega
  refine ⟨by omega, ⟨?_, ?_⟩, by omega⟩
  · calc X * (s.sdm + 2 ^ (w - k)) = X * s.sdm + X * 2 ^ (w - k) := Nat.mul_add _ _ _
      _ ≤ 2 ^ w * (F - s.fraction + (k - 1)) + 2 ^ w * (weight + 1) :=
        Nat.add_le_add hnear.above hhigh
      _ = 2 ^ w * (F - (s.fraction - weight) + k) := by
        rw [hsub, ← Nat.mul_add]
        congr 1
        omega
  · calc 2 ^ w * (F - (s.fraction - weight))
        = 2 ^ w * (F - s.fraction) + 2 ^ w * weight := by rw [hsub, Nat.mul_add]
      _ ≤ X * s.sdm + 2 ^ w * 0 + X * 2 ^ (w - k) := Nat.add_le_add hnear.below hlow
      _ = X * (s.sdm + 2 ^ (w - k)) + 2 ^ w * 0 := by ring

/-- The round for the `k`-th bit, on unbounded integers. -/
def next (w X k : Nat) (s : State) : Round State :=
  if s.fraction ≤ 1 then .done s
  else if X / 2 ^ k < s.fraction then
    let fraction := s.fraction - X / 2 ^ k
    let sdm := s.sdm + 2 ^ (w - k)
    if k = w - 1 then .done { s with fraction, sdm }
    else .again { fraction, sdm, nsdm := 2 ^ (k + 1) }
  else .again { s with nsdm := 2 ^ (k + 1) }

/-- The weight of the last bit is at most one. -/
theorem last_weight (hX : X < 2 ^ w) (hw : 1 ≤ w) : X / 2 ^ (w - 1) ≤ 1 := by
  have hpow : 2 * 2 ^ (w - 1) = 2 ^ w := by
    rw [← Nat.pow_succ', Nat.succ_eq_add_one, Nat.sub_add_cancel hw]
  have hlt : X / 2 ^ (w - 1) < 2 := by
    rw [Nat.div_lt_iff_lt_mul (Nat.two_pow_pos _), hpow]
    exact hX
  omega

/-- A rest of more than one is set in the last bit. -/
theorem not_last (hX : X < 2 ^ w) (hw : 1 ≤ w) (hmore : ¬s.fraction ≤ 1)
    (hclear : ¬X / 2 ^ k < s.fraction) : k ≠ w - 1 := by
  rintro rfl
  have hone := last_weight hX hw
  omega

/-- **A round is exact**: no sum or product of it leaves the word, and nothing is divided by zero.
-/
theorem Inv.round_eq (hX : X < 2 ^ w) (hwrap : ∀ n, n < 2 ^ w → wrap n = n)
    (hlast : ∀ k, k < w → last (2 ^ k) = decide (k = w - 1)) (h : Inv w X F k s) :
    round w X wrap last s = next w X k s := by
  have hpos := h.pos
  have hlt := h.lt
  have hroom := h.room
  have hhalf : 2 ^ k / 2 = 2 ^ (k - 1) := by
    obtain ⟨j, rfl⟩ : ∃ j, k = j + 1 := ⟨k - 1, by omega⟩
    rw [Nat.pow_succ, Nat.mul_div_cancel _ (by decide), Nat.add_sub_cancel]
  have hbit : 2 ^ (w - 1) / 2 ^ (k - 1) = 2 ^ (w - k) := by
    rw [Nat.pow_div (by omega) (by decide)]
    congr 1
    omega
  have hword : wrap (s.sdm + 2 ^ (w - k)) = s.sdm + 2 ^ (w - k) := by
    have hless : 2 ^ (w - k) < 2 ^ (w + 1 - k) := Nat.pow_lt_pow_right (by decide) (by omega)
    exact hwrap _ (by omega)
  have hdouble (hk : k ≠ w - 1) : wrap (2 ^ k * 2) = 2 ^ (k + 1) := by
    rw [← Nat.pow_succ]
    exact hwrap _ (Nat.pow_lt_pow_right (by decide) (by omega))
  unfold round next
  rw [h.nsdm, if_neg (Nat.two_pow_pos k).ne', hhalf, if_neg (Nat.two_pow_pos _).ne', hbit, hword,
    hlast k hlt]
  split
  · rfl
  rename_i hmore
  split
  · by_cases hk : k = w - 1
    · simp [hk]
    · simp [hk, hdouble hk]
  · rename_i hclear
    rw [hdouble (not_last hX (by omega) hmore hclear)]

/-- The loop ends with a word near the fraction. -/
theorem Inv.done (hX : X < 2 ^ w) {s' : State} (h : Inv w X F k s)
    (hnext : next w X k s = .done s') : s'.sdm < 2 ^ w ∧ Near w X F s'.sdm w w := by
  have hpos := h.pos
  have hlt := h.lt
  have hleft := h.left
  have hroom := h.room
  unfold next at hnext
  split at hnext
  · cases hnext
    have hbits := Nat.two_pow_pos (w + 1 - k)
    refine ⟨by omega, h.near.above.trans (Nat.mul_le_mul_left _ (by omega)), ?_⟩
    calc 2 ^ w * F ≤ 2 ^ w * (F - s.fraction + w) := Nat.mul_le_mul_left _ (by omega)
      _ = 2 ^ w * (F - s.fraction) + 2 ^ w * w := Nat.mul_add _ _ _
      _ ≤ X * s.sdm + 2 ^ w * w := Nat.add_le_add_right h.near.below _
  split at hnext
  · rename_i hset
    obtain ⟨hsum, hnear, hsmall⟩ := h.set_bit hset
    dsimp only at hnext
    split at hnext
    · rename_i hk
      cases hnext
      have hbits := Nat.two_pow_pos (w - k)
      -- What is left after the last bit is lost.
      have hrest : s.fraction - X / 2 ^ k ≤ w := by
        have hone := last_weight hX (by omega)
        rw [hk] at hsmall ⊢
        generalize s.fraction - X / 2 ^ (w - 1) = rest at *
        omega
      generalize s.fraction - X / 2 ^ k = rest at *
      refine ⟨by simp only; omega, hnear.above.trans (Nat.mul_le_mul_left _ (by omega)), ?_⟩
      calc 2 ^ w * F ≤ 2 ^ w * (F - rest + w) := Nat.mul_le_mul_left _ (by omega)
        _ = 2 ^ w * (F - rest) + 2 ^ w * w := Nat.mul_add _ _ _
        _ ≤ X * (s.sdm + 2 ^ (w - k)) + 2 ^ w * w := Nat.add_le_add_right hnear.below _
    · cases hnext
  · cases hnext

/-- The loop goes on with the next bit. -/
theorem Inv.again (hX : X < 2 ^ w) {s' : State} (h : Inv w X F k s)
    (hnext : next w X k s = .again s') : Inv w X F (k + 1) s' := by
  have hpos := h.pos
  have hlt := h.lt
  have hleft := h.left
  have hroom := h.room
  unfold next at hnext
  split at hnext
  · cases hnext
  rename_i hmore
  split at hnext
  · rename_i hset
    obtain ⟨hsum, hnear, hsmall⟩ := h.set_bit hset
    dsimp only at hnext
    split at hnext
    · cases hnext
    · cases hnext
      refine ⟨by omega, by omega, rfl, ?_, ?_, hnear, hsmall⟩
      · rw [Nat.add_sub_add_right]
        exact hsum
      · exact (Nat.sub_le _ _).trans hleft
  · rename_i hclear
    have hk := not_last hX (by omega) hmore hclear
    cases hnext
    refine ⟨by omega, by omega, rfl, ?_, hleft, ?_, ?_⟩
    · have hbits : 2 ^ (w - k) ≤ 2 ^ (w + 1 - k) := Nat.pow_le_pow_right (by decide) (by omega)
      rw [Nat.add_sub_add_right]
      simp only
      omega
    · refine ⟨h.near.above.trans (Nat.mul_le_mul_left _ ?_), h.near.below⟩
      rw [Nat.add_sub_cancel]
      dsimp only
      omega
    · rw [Nat.add_sub_cancel]
      exact (Nat.le_of_not_lt hclear).trans (Nat.le_add_right _ _)

section

variable (hX : X < 2 ^ w) (hwrap : ∀ n, n < 2 ^ w → wrap n = n)
  (hlast : ∀ k, k < w → last (2 ^ k) = decide (k = w - 1))
include hX hwrap hlast

/-- The invariant, whenever the loop is at its head. -/
theorem reaches_inv (hw : 1 < w) (hF : F ≤ X)
    (hs : Loop.Reaches (round w X wrap last) (start F) s) : ∃ k, Inv w X F k s := by
  refine hs.inv (I := fun s => ∃ k, Inv w X F k s) ?_ ⟨1, start_inv hw hF⟩
  rintro s s' ⟨k, h⟩ hround
  rw [h.round_eq hX hwrap hlast] at hround
  exact ⟨k + 1, h.again hX hround⟩

/-- **Every round is that of unbounded integers**, and divides by something. -/
theorem round_exact (hw : 1 < w) (hF : F ≤ X)
    (hs : Loop.Reaches (round w X wrap last) (start F) s) :
    round w X wrap last s = round w X id last s ∧ round w X wrap last s ≠ .fault := by
  obtain ⟨k, h⟩ := reaches_inv hX hwrap hlast hw hF hs
  have hid : ∀ n, n < 2 ^ w → id n = n := fun _ _ => rfl
  rw [h.round_eq hX hwrap hlast, h.round_eq hX hid hlast]
  refine ⟨rfl, ?_⟩
  unfold next
  dsimp only
  split_ifs <;> nofun

/-- **The loop ends**, within a round for each bit, with a word near the fraction. -/
theorem run_spec (hw : 1 < w) (hF : F ≤ X) :
    ∃ s, Loop.run (round w X wrap last) w (start F) = some s ∧ s.sdm < 2 ^ w ∧
      Near w X F s.sdm w w := by
  -- The rank is the number of bits that are left, as the divisor tells it.
  refine Loop.run_total (I := fun s => ∃ k, Inv w X F k s) (fun s => w - 1 - Nat.log 2 s.nsdm)
    ?_ ?_ ?_ ⟨1, start_inv hw hF⟩ ?_
  · rintro s ⟨k, h⟩ hfault
    rw [h.round_eq hX hwrap hlast] at hfault
    unfold next at hfault
    dsimp only at hfault
    split_ifs at hfault
  · rintro s s' ⟨k, h⟩ hround
    rw [h.round_eq hX hwrap hlast] at hround
    have h' := h.again hX hround
    refine ⟨⟨k + 1, h'⟩, ?_⟩
    have hlt := h'.lt
    rw [h.nsdm, h'.nsdm, Nat.log_pow (by decide), Nat.log_pow (by decide)]
    omega
  · rintro s s' ⟨k, h⟩ hround
    rw [h.round_eq hX hwrap hlast] at hround
    exact h.done hX hround
  · omega

end

end

end Lib.SigmaDelta
