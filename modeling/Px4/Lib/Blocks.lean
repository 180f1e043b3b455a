import Mathlib.Data.List.Basic

/-!
# Folding over blocks

A state that takes in a list by blocks of `size` elements.

* `absorb_append`: what comes after the blocks does not matter.
* `absorb_succ`: one block more, at the end.
-/

namespace Lib

variable {α S : Type*}

/-- The state when it has taken in the first `count` blocks. -/
def absorb (size : Nat) (f : S → List α → S) : Nat → S → List α → S
  | 0, s, _ => s
  | count + 1, s, xs => absorb size f count (f s (xs.take size)) (xs.drop size)

variable {size : Nat} {f : S → List α → S} {s : S} {xs ys : List α}

theorem absorb_cons (count : Nat) :
    absorb size f (count + 1) s xs = absorb size f count (f s (xs.take size)) (xs.drop size) := rfl

/-- A block in front. -/
theorem absorb_block {block : List α} (h : block.length = size) (count : Nat) :
    absorb size f (count + 1) s (block ++ xs) = absorb size f count (f s block) xs := by
  rw [absorb_cons, List.take_left' h, List.drop_left' h]

/-- **What comes after the blocks does not matter.** -/
theorem absorb_append {count : Nat} (h : size * count ≤ xs.length) :
    absorb size f count s (xs ++ ys) = absorb size f count s xs := by
  induction count generalizing s xs with
  | zero => rfl
  | succ count ih =>
    rw [Nat.mul_succ] at h
    have hfirst : size ≤ xs.length := by omega
    rw [absorb_cons, absorb_cons, List.take_append_of_le_length hfirst,
      List.drop_append_of_le_length hfirst]
    apply ih
    rw [List.length_drop]
    omega

/-- Blocks after blocks. -/
theorem absorb_add (count count' : Nat) :
    absorb size f (count + count') s xs =
      absorb size f count' (absorb size f count s xs) (xs.drop (size * count)) := by
  induction count generalizing s xs with
  | zero =>
    rw [Nat.zero_add, Nat.mul_zero, List.drop_zero]
    rfl
  | succ count ih =>
    rw [Nat.add_right_comm, absorb_cons, absorb_cons, ih, List.drop_drop, Nat.mul_succ,
      Nat.add_comm size]

/-- **One block more.** -/
theorem absorb_succ (count : Nat) :
    absorb size f (count + 1) s xs =
      f (absorb size f count s xs) ((xs.drop (size * count)).take size) :=
  absorb_add count 1

end Lib
