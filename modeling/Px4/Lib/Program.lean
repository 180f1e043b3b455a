import Mathlib.Data.List.Basic

/-!
# Programs that may stop early

A program works on a state and ends with a value, or stops. What it has done to the state until then
stays done.

* `exec_bind`: programs in sequence.
-/

namespace Lib

/-- A program on states `S` that may stop with an `E`. -/
abbrev Program (S E α : Type) := ExceptT E (StateM S) α

namespace Program

variable {S E α β : Type}

/-- The outcome and the state after it. -/
def exec (x : Program S E α) (s : S) : Except E α × S := x.run.run s

@[simp] theorem exec_pure (a : α) (s : S) : (pure a : Program S E α).exec s = (.ok a, s) := rfl

@[simp] theorem exec_throw (e : E) (s : S) : (throw e : Program S E α).exec s = (.error e, s) := rfl

/-- **In sequence.** -/
theorem exec_bind (x : Program S E α) (f : α → Program S E β) (s : S) :
    (x >>= f).exec s = match x.exec s with
      | (.ok a, s') => (f a).exec s'
      | (.error e, s') => (.error e, s') := by
  unfold exec
  rw [ExceptT.run_bind, StateT.run_bind]
  rcases x.run.run s with ⟨e | a, s'⟩
  · rfl
  · rfl

/-- A program from what it does to a state. -/
def of (f : S → Except E α × S) : Program S E α := ExceptT.mk f

@[simp] theorem exec_of (f : S → Except E α × S) (s : S) : (of f).exec s = f s := rfl

/-- A program, and then another one whatever has come of the first; the outcome is that of the
first. -/
def leaving (x : Program S E α) (last : Program S E Unit) : Program S E α :=
  of fun s => ((x.exec s).1, (last.exec (x.exec s).2).2)

end Program

end Lib
