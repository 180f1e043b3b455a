import Mathlib.Data.List.Basic
import Mathlib.Data.List.Forall2

/-!
# Parsers that read what a writer writes

A `Parser` takes a value off the front of its input or fails. `Grammar p Ok write` says all of it in
one equivalence: `p` takes `a` off the front of `input` exactly when `a` is `Ok` and `input` starts
with `write a`. Both directions of a round trip follow.

The rules `bind_iff`, `pure_iff`, `guard_iff` and `mapM_iff` turn a parser in `do` notation into the
conditions on its fields.
-/

namespace Lib

/-- What is taken off the front of the input, and what is left. -/
abbrev Parser (τ α : Type) := StateT (List τ) Option α

namespace Parser

variable {τ α β : Type}

theorem bind_iff (p : Parser τ α) (f : α → Parser τ β) (input rest : List τ) (b : β) :
    (p >>= f) input = some (b, rest) ↔
      ∃ a middle, p input = some (a, middle) ∧ f a middle = some (b, rest) := by
  show (StateT.bind p f input : Option (β × List τ)) = _ ↔ _
  simp [StateT.bind, Option.bind_eq_some_iff]

theorem pure_iff (a b : α) (input rest : List τ) :
    (pure a : Parser τ α) input = some (b, rest) ↔ a = b ∧ input = rest := by
  show some (a, input) = some (b, rest) ↔ _
  rw [Option.some.injEq, Prod.mk.injEq]

theorem guard_iff (p : Prop) [Decidable p] (u : Unit) (input rest : List τ) :
    (guard p : Parser τ Unit) input = some (u, rest) ↔ p ∧ input = rest := by
  unfold guard
  split
  · next h => simp [pure_iff, h]
  · next h =>
    refine iff_of_false (fun hf => ?_) (fun hp => h hp.1)
    cases hf

/-- A parser lifted from an option. -/
theorem lift_iff (o : Option α) (a : α) (input rest : List τ) :
    (liftM o : Parser τ α) input = some (a, rest) ↔ o = some a ∧ input = rest := by
  show (StateT.lift o input : Option (α × List τ)) = _ ↔ _
  cases o <;> simp [StateT.lift]

end Parser

/-- `p` reads exactly what `write` writes, of the values that are `Ok`. -/
def Grammar {τ α : Type} (p : Parser τ α) (Ok : α → Prop) (write : α → List τ) : Prop :=
  ∀ input a rest, p input = some (a, rest) ↔ Ok a ∧ input = write a ++ rest

/-- A parser for each of a list of `indices`, one after the other. -/
theorem Grammar.mapM {ι τ α : Type} {p : ι → Parser τ α} {Ok : ι → α → Prop} {write : α → List τ}
    (h : ∀ i, Grammar (p i) (Ok i) write) (indices : List ι) :
    Grammar (indices.mapM p) (List.Forall₂ Ok indices) (·.flatMap write) := by
  induction indices with
  | nil =>
    intro input values rest
    rw [List.mapM_nil, Parser.pure_iff]
    cases values <;> simp
  | cons i indices ih =>
    intro input values rest
    simp only [List.mapM_cons, Parser.bind_iff, Parser.pure_iff]
    constructor
    · rintro ⟨a, middle, ha, as, middle', has, rfl, rfl⟩
      obtain ⟨hok, rfl⟩ := (h i _ _ _).1 ha
      obtain ⟨hoks, rfl⟩ := (ih _ _ _).1 has
      exact ⟨.cons hok hoks, by simp⟩
    · rintro ⟨hok, rfl⟩
      cases hok with
      | cons ha has =>
        refine ⟨_, _, (h i _ _ _).2 ⟨ha, ?_⟩, _, _, (ih _ _ _).2 ⟨has, rfl⟩, rfl, rfl⟩
        simp

end Lib
