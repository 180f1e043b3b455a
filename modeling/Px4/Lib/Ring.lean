import Mathlib.Data.Nat.ModEq
import Mathlib.Data.List.Basic
import Mathlib.Logic.Function.Basic

/-!
# Ring buffers

A ring of `cap` slots holds `count` elements from the slot `head` on, wrapping at `cap`. A push
writes the slot `(head + count) % cap`; a pop copies in at most two parts, up to the end of the
slots and from their start.

* `contents_push` — a push appends.
* `copy_two_parts` — the two parts of a pop are the first elements.
* `contents_advance` — moving the head drops them.
* `contents_pop` — the first element and the others.
-/

namespace Lib.Ring

variable {α : Type*} (slots : Nat → α) (cap head count : Nat)

/-- The elements of the ring, oldest first. -/
def contents : List α := (List.range count).map fun i => slots ((head + i) % cap)

/-- The `n` slots from `first` on. -/
def copy (first n : Nat) : List α := (List.range' first n).map slots

@[simp] theorem contents_length : (contents slots cap head count).length = count := by
  simp [contents]

@[simp] theorem contents_zero : contents slots cap head 0 = [] := rfl

variable {slots cap head count}

/-- Two places of the ring are different slots. -/
theorem slot_ne {i j : Nat} (hi : i < cap) (hj : j < cap) (hne : i ≠ j) :
    (head + i) % cap ≠ (head + j) % cap := by
  intro h
  have hmod : i % cap = j % cap := Nat.ModEq.add_left_cancel' head h
  rw [Nat.mod_eq_of_lt hi, Nat.mod_eq_of_lt hj] at hmod
  exact hne hmod

/-- The slot behind the last element is not one of them. -/
theorem contents_update (x : α) (hcount : count < cap) :
    contents (Function.update slots ((head + count) % cap) x) cap head count =
      contents slots cap head count := by
  refine List.map_congr_left fun i hi => ?_
  have hi : i < count := List.mem_range.mp hi
  have hne : (head + i) % cap ≠ (head + count) % cap := slot_ne (by omega) hcount (by omega)
  exact Function.update_of_ne hne x slots

/-- **A push** into a ring that is not full appends. -/
theorem contents_push (x : α) (hcount : count < cap) :
    contents (Function.update slots ((head + count) % cap) x) cap head (count + 1) =
      contents slots cap head count ++ [x] := by
  rw [← contents_update x hcount]
  simp only [contents, List.range_succ, List.map_append, List.map_cons, List.map_nil,
    Function.update_self]

/-- **The two parts of a pop** are the first elements of the ring. -/
theorem copy_two_parts {n first : Nat} (hhead : head < cap) (hn : n ≤ count) (hcount : count ≤ cap)
    (hfirst : first = if n > cap - head then cap - head else n) :
    copy slots head first ++ copy slots 0 (n - first) =
      (contents slots cap head count).take n := by
  have hfn : first ≤ n := by rw [hfirst]; split <;> omega
  refine List.ext_getElem (by simp [copy]; omega) fun i h1 h2 => ?_
  have hin : i < n := by simp at h2; omega
  simp only [contents, List.getElem_take, List.getElem_map, List.getElem_range]
  by_cases hi : i < first
  · rw [List.getElem_append_left (by simpa [copy] using hi)]
    have hlt : head + i < cap := by rw [hfirst] at hi; split at hi <;> omega
    simp [copy, Nat.mod_eq_of_lt hlt]
  · rw [List.getElem_append_right (by simpa [copy] using hi)]
    -- the second part starts at slot 0, reached by wrapping once
    have hf : first = cap - head := by rw [hfirst] at hi ⊢; split at hi <;> simp_all
    have hwrap : (head + i) % cap = i - first := by
      rw [Nat.mod_eq_sub_mod (by omega), Nat.mod_eq_of_lt (by omega)]
      omega
    simp [copy, hwrap]

/-- **Moving the head** drops the first elements. -/
theorem contents_advance (n : Nat) :
    contents slots cap ((head + n) % cap) (count - n) =
      (contents slots cap head count).drop n := by
  refine List.ext_getElem (by simp) fun i h1 h2 => ?_
  simp [contents, Nat.add_assoc]

/-- **A pop** of one element. -/
theorem contents_pop (hcount : count ≠ 0) (hhead : head < cap) :
    contents slots cap head count =
      slots head :: contents slots cap ((head + 1) % cap) (count - 1) := by
  obtain ⟨k, rfl⟩ := Nat.exists_eq_succ_of_ne_zero hcount
  rw [contents_advance]
  simp [contents, List.range_succ_eq_map, Nat.mod_eq_of_lt hhead]

end Lib.Ring
