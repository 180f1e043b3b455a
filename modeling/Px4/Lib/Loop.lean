import Mathlib.Data.List.Basic

/-!
# Loops

A loop of a program by its body: the next state, the end of the loop with its last state, or a fault
(what the language leaves undefined, such as a division by zero). `Loop.run` counts rounds, so that
it is defined for loops that do not end.

* `Reaches.inv`: an invariant holds whenever the loop is at its head.
* `run_total`: a loop whose rounds keep an invariant and lower a rank has no fault and ends.
-/

namespace Lib

/-- What a round of a loop comes to. -/
inductive Round (S : Type*)
  | again (s : S)
  | done (s : S)
  | fault

namespace Loop

variable {S : Type*} (body : S → Round S)

/-- At most `fuel` rounds: the last state, or `none` if there was a fault or too little fuel. -/
def run : Nat → S → Option S
  | 0, _ => none
  | fuel + 1, s =>
    match body s with
    | .again s' => run fuel s'
    | .done s' => some s'
    | .fault => none

/-- `s'` is at the head of the loop that started with `s`. -/
inductive Reaches : S → S → Prop
  | refl (s : S) : Reaches s s
  | again {s s' s'' : S} : body s = .again s' → Reaches s' s'' → Reaches s s''

variable {body}

theorem Reaches.inv {I : S → Prop} (hstep : ∀ s s', I s → body s = .again s' → I s') {s s' : S}
    (h : Reaches body s s') (hs : I s) : I s' := by
  induction h with
  | refl => exact hs
  | again hbody _ ih => exact ih (hstep _ _ hs hbody)

/-- **Loops that end.** -/
theorem run_total {I P : S → Prop} (rank : S → Nat) (hfault : ∀ s, I s → body s ≠ .fault)
    (hstep : ∀ s s', I s → body s = .again s' → I s' ∧ rank s' < rank s)
    (hdone : ∀ s s', I s → body s = .done s' → P s') {fuel : Nat} {s : S} (hs : I s)
    (hfuel : rank s < fuel) : ∃ s', run body fuel s = some s' ∧ P s' := by
  induction fuel generalizing s with
  | zero => omega
  | succ fuel ih =>
    unfold run
    cases hbody : body s with
    | again s' =>
      obtain ⟨hs', hrank⟩ := hstep s s' hs hbody
      exact ih hs' (by omega)
    | done s' => exact ⟨s', rfl, hdone s s' hs hbody⟩
    | fault => exact absurd hbody (hfault s hs)

/-- What holds at the end of a loop that has ended. -/
theorem run_inv {I P : S → Prop} (hstep : ∀ s s', I s → body s = .again s' → I s')
    (hdone : ∀ s s', I s → body s = .done s' → P s') {fuel : Nat} {s s' : S} (hs : I s)
    (h : run body fuel s = some s') : P s' := by
  induction fuel generalizing s with
  | zero => cases h
  | succ fuel ih =>
    unfold run at h
    split at h
    · rename_i hbody
      exact ih (hstep _ _ hs hbody) h
    · rename_i hbody
      cases h
      exact hdone _ _ hs hbody
    · cases h

end Loop

end Lib
