import Mathlib.Data.List.Basic

/-!
# Loops that may pass over an element

A loop over a list whose body sees an element and the one after it, and goes on after either, or
stops. What a position has been to the loop, an element that its body has seen or one that it has
passed over, is its `Role`.

* `walk_inv`: an invariant of the body is one of the loop.
-/

namespace Lib

/-- What a body does: go on with the next element or the one after it, or stop. -/
inductive Advance (S R : Type*)
  | next (s : S)
  | pass (s : S)
  | stop (r : R)
  deriving DecidableEq, Repr

/-- What a position has been: seen, or passed over. -/
inductive Role
  | seen | passed
  deriving DecidableEq, Repr

/-- What a loop has made of a list: the roles of the positions until it ends, and the last state or
where it has stopped. -/
structure Walk (S R : Type*) where
  roles : List Role
  outcome : Except R S

/-- Positions before the others. -/
def Walk.after {S R : Type*} (w : Walk S R) (roles : List Role) : Walk S R :=
  { w with roles := roles ++ w.roles }

variable {α S R : Type*}

/-- A loop. -/
def walk (body : S → α → Option α → Advance S R) : List α → S → Walk S R
  | [], s => ⟨[], .ok s⟩
  | a :: rest, s =>
    match body s a rest.head? with
    | .stop r => ⟨[.seen], .error r⟩
    | .next s => (walk body rest s).after [.seen]
    | .pass s =>
      match rest with
      | [] => ⟨[.seen], .ok s⟩
      | _ :: rest => (walk body rest s).after [.seen, .passed]

variable {body : S → α → Option α → Advance S R}

theorem walk_stop {s : S} {a : α} {rest : List α} {r : R} (h : body s a rest.head? = .stop r) :
    walk body (a :: rest) s = ⟨[.seen], .error r⟩ := by
  rw [walk, h]

theorem walk_next {s s' : S} {a : α} {rest : List α} (h : body s a rest.head? = .next s') :
    walk body (a :: rest) s = (walk body rest s').after [.seen] := by
  rw [walk, h]

theorem walk_pass {s s' : S} {a b : α} {rest : List α} (h : body s a (some b) = .pass s') :
    walk body (a :: b :: rest) s = (walk body rest s').after [.seen, .passed] := by
  rw [walk, List.head?_cons, h]

/-- **An invariant of the body is one of the loop.** -/
theorem walk_inv {P : S → Prop} {Q : R → Prop}
    (hnext : ∀ s a next s', P s → body s a next = .next s' → P s')
    (hpass : ∀ s a next s', P s → body s a next = .pass s' → P s')
    (hstop : ∀ s a next r, P s → body s a next = .stop r → Q r) (xs : List α) {s : S} (h : P s) :
    match (walk body xs s).outcome with
    | .ok s' => P s'
    | .error r => Q r := by
  match xs with
  | [] => exact h
  | a :: rest =>
    cases hbody : body s a rest.head? with
    | stop r =>
      rw [walk_stop hbody]
      exact hstop s a _ r h hbody
    | next s' =>
      rw [walk_next hbody]
      exact walk_inv hnext hpass hstop rest (hnext s a _ s' h hbody)
    | pass s' =>
      have hs' := hpass s a _ s' h hbody
      match rest with
      | [] =>
        rw [walk, hbody]
        exact hs'
      | b :: rest =>
        rw [walk_pass hbody]
        exact walk_inv hnext hpass hstop rest hs'
termination_by xs.length

end Lib
