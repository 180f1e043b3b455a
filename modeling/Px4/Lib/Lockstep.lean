import Mathlib.Data.List.Basic

/-!
# Machines in lockstep

A machine takes operations and gives an output for each of them. Two machines whose steps keep a
relation of their states and give the same outputs give the same outputs in every run.
-/

namespace Lib

variable {S T Op O : Type*}

/-- The state after a run, and its outputs. -/
def trace (step : S → Op → S × O) : S → List Op → S × List O
  | s, [] => (s, [])
  | s, op :: ops =>
    let (s, out) := step s op
    let (s, outs) := trace step s ops
    (s, out :: outs)

/-- Related states make steps with the same output, to related states. -/
def Lockstep (R : S → T → Prop) (f : S → Op → S × O) (g : T → Op → T × O) : Prop :=
  ∀ s t op, R s t → (f s op).2 = (g t op).2 ∧ R (f s op).1 (g t op).1

/-- **Lockstep.** Runs from related states give the same outputs and end in related states. -/
theorem Lockstep.trace {R : S → T → Prop} {f : S → Op → S × O} {g : T → Op → T × O}
    (h : Lockstep R f g) (ops : List Op) {s : S} {t : T} (hst : R s t) :
    (Lib.trace f s ops).2 = (Lib.trace g t ops).2 ∧ R (Lib.trace f s ops).1
    (Lib.trace g t ops).1 := by
  induction ops generalizing s t with
  | nil => exact ⟨rfl, hst⟩
  | cons op ops ih =>
    obtain ⟨hout, hnext⟩ := h s t op hst
    obtain ⟨houts, hend⟩ := ih hnext
    exact ⟨by simp only [Lib.trace, hout, houts], hend⟩

end Lib
