import Mathlib.Data.List.Basic

/-!
# What a program asks of its surroundings

A program that asks questions of something outside of it. `A q` is the type of the answers to `q`.
An answer may depend on everything asked and answered so far, so that a statement about all
`Oracle`s is one about all behaviours of the outside. `log` holds the questions with their answers,
oldest first.
-/

namespace Lib

variable {Q : Type*} {A : Q → Type*}

/-- Questions asked so far, with their answers, and how the next ones are answered. -/
structure Oracle (Q : Type*) (A : Q → Type*) where
  log : List (Sigma A) := []
  answer : List (Sigma A) → (q : Q) → A q

namespace Oracle

/-- A question. -/
def ask (o : Oracle Q A) (q : Q) : Oracle Q A × A q :=
  ({ o with log := o.log ++ [⟨q, o.answer o.log q⟩] }, o.answer o.log q)

@[simp] theorem ask_log (o : Oracle Q A) (q : Q) :
    (o.ask q).1.log = o.log ++ [⟨q, (o.ask q).2⟩] := rfl

@[simp] theorem ask_answer (o : Oracle Q A) (q : Q) : (o.ask q).1.answer = o.answer := rfl

/-- `o'` is `o` some questions later. -/
structure Later (o o' : Oracle Q A) : Prop where
  answer : o'.answer = o.answer
  log : o.log <+: o'.log

namespace Later

variable {o o' o'' : Oracle Q A}

theorem refl (o : Oracle Q A) : Later o o := ⟨rfl, List.prefix_refl _⟩

theorem trans (h : Later o o') (h' : Later o' o'') : Later o o'' :=
  ⟨h'.answer.trans h.answer, h.log.trans h'.log⟩

theorem ask (o : Oracle Q A) (q : Q) : Later o (o.ask q).1 := ⟨rfl, List.prefix_append _ _⟩

end Later

/-- What has been answered stays in the log. -/
theorem Later.mem {o o' : Oracle Q A} (h : Later o o') {e : Sigma A}
    (he : e ∈ o.log) : e ∈ o'.log :=
  h.log.subset he

end Oracle

end Lib
