import Mathlib.Data.List.Basic

/-!
# Incremental consumers

An `Incremental` machine consumes a list from its front. A step is decided by the elements it
sees: it is the same step when more elements stand behind them (`stable`), and every step lowers
a rank, so a run ends (`run`). Two facts follow, whatever the machine does:

* `Reach.append`: what was reached with the input so far stays reached when more input arrives.
* `Reach.run_eq`: a run may be cut anywhere; every state reached on the way has the same run
  before it.

So a consumer that is fed in pieces, and that may stop between two steps and go on later, does
what the machine does on the whole list.
-/

namespace Lib

/-- A machine that consumes a list from its front, a decided step at a time. -/
structure Incremental (S α O : Type*) where
  step : S → List α → Option (S × List α × List O)
  rank : S → List α → Nat
  rank_lt : ∀ {s b s' b' o}, step s b = some (s', b', o) → rank s' b' < rank s b
  stable : ∀ {s b s' b' o} (c), step s b = some (s', b', o) →
    step s (b ++ c) = some (s', b' ++ c, o)

namespace Incremental

variable {S α O : Type*} (M : Incremental S α O)

/-- The whole run on `b`: the last state, what is left, and all outputs. -/
def run (s : S) (b : List α) : S × List α × List O :=
  match _h : M.step s b with
  | none => (s, b, [])
  | some (s', b', o) => ((run s' b').1, (run s' b').2.1, o ++ (run s' b').2.2)
termination_by M.rank s b
decreasing_by all_goals exact M.rank_lt _h

/-- `s'` with `b'` left is reached from `s` with `b`, giving the outputs `o`. -/
inductive Reach : S → List α → List O → S → List α → Prop
  | refl (s : S) (b : List α) : Reach s b [] s b
  | step {s b s₁ b₁ o₁ o s' b'} : M.step s b = some (s₁, b₁, o₁) → Reach s₁ b₁ o s' b' →
      Reach s b (o₁ ++ o) s' b'

variable {M}

theorem run_none {s : S} {b : List α} (h : M.step s b = none) : M.run s b = (s, b, []) := by
  rw [run]
  split
  · rfl
  · rename_i hs
    rw [h] at hs
    cases hs

theorem run_some {s s' : S} {b b' : List α} {o : List O} (h : M.step s b = some (s', b', o)) :
    M.run s b = ((M.run s' b').1, (M.run s' b').2.1, o ++ (M.run s' b').2.2) := by
  rw [run]
  split
  · rename_i hs
    rw [h] at hs
    cases hs
  · rename_i hs
    rw [h] at hs
    cases hs
    rfl

namespace Reach

theorem one {s s' : S} {b b' : List α} {o : List O} (h : M.step s b = some (s', b', o)) :
    M.Reach s b o s' b' := by
  simpa using Reach.step h (.refl s' b')

theorem trans {s₁ s₂ s₃ : S} {b₁ b₂ b₃ : List α} {o₁ o₂ : List O}
    (h₁ : M.Reach s₁ b₁ o₁ s₂ b₂) (h₂ : M.Reach s₂ b₂ o₂ s₃ b₃) :
    M.Reach s₁ b₁ (o₁ ++ o₂) s₃ b₃ := by
  induction h₁ with
  | refl => exact h₂
  | step hs _ ih =>
    rw [List.append_assoc]
    exact .step hs (ih h₂)

/-- What stands behind the input changes nothing. -/
theorem append {s s' : S} {b b' : List α} {o : List O} (h : M.Reach s b o s' b') (c : List α) :
    M.Reach s (b ++ c) o s' (b' ++ c) := by
  induction h with
  | refl => exact .refl _ _
  | step hs _ ih => exact .step (M.stable c hs) ih

/-- A run passes through every state it can reach. -/
theorem run_eq {s s' : S} {b b' : List α} {o : List O} (h : M.Reach s b o s' b') :
    M.run s b = ((M.run s' b').1, (M.run s' b').2.1, o ++ (M.run s' b').2.2) := by
  induction h with
  | refl => rfl
  | step hs _ ih =>
    rw [run_some hs, ih]
    simp [List.append_assoc]

/-- A run ends where no step is left. -/
theorem run_eq_of_none {s s' : S} {b b' : List α} {o : List O} (h : M.Reach s b o s' b')
    (hn : M.step s' b' = none) : M.run s b = (s', b', o) := by
  rw [h.run_eq, run_none hn, List.append_nil]

end Reach

/-- A run reaches its end. -/
theorem reach_run (s : S) (b : List α) :
    M.Reach s b (M.run s b).2.2 (M.run s b).1 (M.run s b).2.1 := by
  induction s, b using Incremental.run.induct M with
  | case1 s b h =>
    rw [run_none h]
    exact .refl _ _
  | case2 s b s' b' o h ih =>
    rw [run_some h]
    exact .step h ih

end Incremental

end Lib
