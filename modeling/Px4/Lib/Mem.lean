import Mathlib.Data.List.Basic

/-!
# Cells, slices and checked copies

A block of storage is a function from indices to cells; the owner knows how many of the cells
exist. `slice m off n` lists `n` cells from `off`, `write m off xs` overwrites the cells from `off`
by `xs`. The checked forms (`read?`, `readN?`, `write?`) fail on any access past the block's
`cap` cells, so a model built from them has a value only where no access leaves the block.
-/

namespace Lib

variable {α : Type*}

/-- The `n` cells from `off` on. -/
def slice (m : Nat → α) (off n : Nat) : List α := (List.range' off n).map m

/-- The cells from `off` on overwritten by `xs`. -/
def write (m : Nat → α) (off : Nat) (xs : List α) : Nat → α := fun i =>
  if i < off then m i else xs.getD (i - off) (m i)

/-- A read of one cell, undefined past the block. -/
def read? (cap : Nat) (m : Nat → α) (i : Nat) : Option α := if i < cap then some (m i) else none

/-- A read of `n` cells, undefined past the block. -/
def readN? (cap : Nat) (m : Nat → α) (off n : Nat) : Option (List α) :=
  if off + n ≤ cap then some (slice m off n) else none

/-- A copy into the block, undefined past it. -/
def write? (cap : Nat) (m : Nat → α) (off : Nat) (xs : List α) : Option (Nat → α) :=
  if off + xs.length ≤ cap then some (write m off xs) else none

@[simp] theorem slice_length (m : Nat → α) (off n : Nat) : (slice m off n).length = n := by
  simp [slice]

@[simp] theorem getElem_slice (m : Nat → α) (off n i : Nat) (h : i < (slice m off n).length) :
    (slice m off n)[i] = m (off + i) := by
  simp [slice]

theorem getElem?_slice (m : Nat → α) {off n i : Nat} (h : i < n) :
    (slice m off n)[i]? = some (m (off + i)) := by
  rw [List.getElem?_eq_getElem (by simpa using h), getElem_slice]

theorem slice_add (m : Nat → α) (off a b : Nat) :
    slice m off (a + b) = slice m off a ++ slice m (off + a) b := by
  unfold slice
  rw [← List.map_append, List.range'_append_1]

theorem slice_drop (m : Nat → α) (off n k : Nat) :
    (slice m off n).drop k = slice m (off + k) (n - k) := by
  apply List.ext_getElem
  · simp
  · intro i h₁ h₂
    simp [Nat.add_assoc]

theorem slice_take (m : Nat → α) (off : Nat) {n k : Nat} (h : k ≤ n) :
    (slice m off n).take k = slice m off k := by
  apply List.ext_getElem
  · simp [h]
  · intro i h₁ h₂
    simp

/-- The cells just written read back. -/
theorem slice_write_self (m : Nat → α) (off : Nat) (xs : List α) :
    slice (write m off xs) off xs.length = xs := by
  apply List.ext_getElem
  · simp
  · intro i h₁ h₂
    have hi : ¬ off + i < off := by omega
    simp [write, hi, h₂]

/-- Cells before the written ones are kept. -/
theorem slice_write_before (m : Nat → α) {off a n : Nat} (xs : List α) (h : a + n ≤ off) :
    slice (write m off xs) a n = slice m a n := by
  apply List.ext_getElem
  · simp
  · intro i h₁ h₂
    have hi : a + i < off := by simp at h₁; omega
    simp [write, hi]

/-- A copy behind a slice extends it. -/
theorem slice_write_append (m : Nat → α) (off n : Nat) (xs : List α) :
    slice (write m (off + n) xs) off (n + xs.length) = slice m off n ++ xs := by
  rw [slice_add, slice_write_before m xs (Nat.le_refl _), slice_write_self]

theorem write?_of_le {cap : Nat} (m : Nat → α) {off : Nat} {xs : List α}
    (h : off + xs.length ≤ cap) : write? cap m off xs = some (write m off xs) := by
  simp [write?, h]

theorem read?_of_lt {cap : Nat} (m : Nat → α) {i : Nat} (h : i < cap) :
    read? cap m i = some (m i) := by
  simp [read?, h]

theorem readN?_of_le {cap : Nat} (m : Nat → α) {off n : Nat} (h : off + n ≤ cap) :
    readN? cap m off n = some (slice m off n) := by
  simp [readN?, h]

end Lib
