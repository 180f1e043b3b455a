import Mathlib.Data.List.Basic

/-!
# Runs of a step function

A run is a fold of a step function over a list of operations. `foldl_history` carries a relation
between a state and the history of operations that led to it (latest first). `AllSteps` says that
something holds of every step of a run, with the state before it; `allSteps_iff` is the rule by
which the runs whose steps all behave are exactly those whose steps all meet a condition.
-/

namespace Lib

variable {S Op : Type*} {step : S → Op → S}

/-- An invariant of the steps is one of the runs. -/
theorem foldl_inv {P : S → Prop} (hstep : ∀ s op, P s → P (step s op)) (ops : List Op) {s : S}
    (h : P s) : P (ops.foldl step s) := by
  induction ops generalizing s with
  | nil => exact h
  | cons op ops ih => exact ih (hstep s op h)

/-- A relation of states and histories is kept by a run that every step keeps it by. -/
theorem foldl_history {R : S → List Op → Prop}
    (hstep : ∀ s history op, R s history → R (step s op) (op :: history)) (ops : List Op) {s : S}
    {history : List Op} (h : R s history) : R (ops.foldl step s) (ops.reverse ++ history) := by
  induction ops generalizing s history with
  | nil => exact h
  | cons op ops ih => simpa using ih (hstep s history op h)

/-! ## Every step of a run -/

/-- `P` holds of every step of the run of `ops` from `s`, with the state before it. -/
def AllSteps (step : S → Op → S) (P : S → Op → Prop) : S → List Op → Prop
  | _, [] => True
  | s, op :: ops => P s op ∧ AllSteps step P (step s op) ops

instance AllSteps.decidable {P : S → Op → Prop} [∀ s op, Decidable (P s op)] :
    ∀ (s : S) (ops : List Op), Decidable (AllSteps step P s ops)
  | _, [] => isTrue trivial
  | s, op :: ops =>
    have := AllSteps.decidable (P := P) (step s op) ops
    inferInstanceAs (Decidable (P s op ∧ AllSteps step P (step s op) ops))

theorem AllSteps.last {P : S → Op → Prop} {ops : List Op} {op : Op} {s : S}
    (h : AllSteps step P s (ops ++ [op])) : P (ops.foldl step s) op := by
  induction ops generalizing s with
  | nil => exact h.1
  | cons _ ops ih => exact ih h.2

/-- An invariant that the steps of a run keep holds of every state reached. -/
theorem AllSteps.inv {I : S → Prop} {P : S → Op → Prop}
    (hstep : ∀ s op, I s → P s op → I (step s op)) {ops : List Op} {s : S}
    (h : AllSteps step P s ops) (hs : I s) (n : Nat) : I ((ops.take n).foldl step s) := by
  induction ops generalizing s n with
  | nil => simpa using hs
  | cons op ops ih =>
    cases n with
    | zero => exact hs
    | succ n => exact ih h.2 (hstep s op hs h.1) n

/-- **Runs and a step condition.** `Cond` keeps the invariant and gives `Good`, and without it a
step is not `Good`: then every step of a run is good exactly when every step meets `Cond`. -/
theorem allSteps_iff {Inv : S → Prop} {Cond Good : S → Op → Prop}
    (hgood : ∀ s op, Inv s → Cond s op → Inv (step s op) ∧ Good s op)
    (hbad : ∀ s op, Inv s → ¬Cond s op → ¬Good s op) (ops : List Op) {s : S} (h : Inv s) :
    AllSteps step Good s ops ↔ AllSteps step Cond s ops := by
  induction ops generalizing s with
  | nil => exact Iff.rfl
  | cons op ops ih =>
    by_cases hc : Cond s op
    · obtain ⟨hinv, hg⟩ := hgood s op h hc
      exact and_congr (iff_of_true hg hc) (ih hinv)
    · exact iff_of_false (fun hs => hbad s op h hc hs.1) (fun hs => hc hs.1)

end Lib
