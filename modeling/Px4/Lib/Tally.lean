import Mathlib.Data.Nat.Count

/-!
# Counting indices

`Nat.count p n` is the number of indices below `n` that satisfy `p`. A table that changes at one
index changes such a number by that index alone (`count_change`); a number of at most one is what
holds of one index only (`eq_of_count_le_one`).
-/

namespace Lib

variable {p q : Nat → Prop} [DecidablePred p] [DecidablePred q] {r n : Nat}

theorem count_congr (h : ∀ i < n, q i ↔ p i) : Nat.count q n = Nat.count p n :=
  le_antisymm (Nat.count_mono_left fun i hi => (h i hi).1)
    (Nat.count_mono_left fun i hi => (h i hi).2)

/-- **A change at one index.** -/
theorem count_change (hr : r < n) (h : ∀ i, i ≠ r → (q i ↔ p i)) :
    Nat.count q n + (if p r then 1 else 0) = Nat.count p n + (if q r then 1 else 0) := by
  induction n with
  | zero => omega
  | succ n ih =>
    rw [Nat.count_succ, Nat.count_succ]
    rcases eq_or_ne r n with rfl | hne
    · rw [count_congr (p := p) (q := q) fun i hi => h i hi.ne]
      omega
    · have := ih (by omega)
      simp only [h n hne.symm]
      omega

theorem count_pos (hr : r < n) (h : p r) : 0 < Nat.count p n :=
  Nat.pos_of_ne_zero (Nat.count_ne_iff_exists.2 ⟨r, hr, h⟩)

/-- Two indices count twice. -/
theorem eq_of_count_le_one {i j : Nat} (h : Nat.count p n ≤ 1) (hi : i < n) (hj : j < n) (hpi : p i)
    (hpj : p j) : i = j := by
  by_contra hne
  have hchange := count_change (p := p) (q := fun k => k ≠ i ∧ p k) hi
    fun k hk => ⟨fun hq => hq.2, fun hp => ⟨hk, hp⟩⟩
  have hpos := count_pos (p := fun k => k ≠ i ∧ p k) hj ⟨Ne.symm hne, hpj⟩
  rw [if_pos hpi, if_neg fun hi => hi.1 rfl] at hchange
  omega

end Lib
