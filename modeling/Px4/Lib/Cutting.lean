import Mathlib.Data.List.Basic

/-!
# Cutting a list into blocks

`Recognises next P`: `next` finds the block of kind `P` that a list starts with. Then no block
starts with another one, a list is cut into blocks in one way at most, and `cut` finds it.

* `Cutting.unique`: the cutting is unique.
* `cut_iff`: `cut` finds a cutting if there is one.
-/

namespace Lib

variable {α : Type*}

/-- `blocks` are of kind `P`, and `l` when put together. -/
structure Cutting (P : List α → Prop) (blocks : List (List α)) (l : List α) : Prop where
  flatten : blocks.flatten = l
  all : ∀ block ∈ blocks, P block

namespace Cutting

variable {P : List α → Prop} {block l : List α} {blocks : List (List α)}

theorem nil : Cutting P [] [] := ⟨rfl, nofun⟩

theorem cons (hblock : P block) (h : Cutting P blocks l) :
    Cutting P (block :: blocks) (block ++ l) :=
  ⟨by rw [List.flatten_cons, h.flatten], List.forall_mem_cons.2 ⟨hblock, h.all⟩⟩

theorem tail (h : Cutting P (block :: blocks) l) : Cutting P blocks (l.drop block.length) := by
  refine ⟨?_, fun b hb => h.all b (List.mem_cons_of_mem _ hb)⟩
  rw [← h.flatten, List.flatten_cons, List.drop_left]

end Cutting

/-- `next` finds the size of the block of kind `P` that a list starts with. -/
structure Recognises (next : List α → Option Nat) (P : List α → Prop) : Prop where
  ne_nil : ∀ {block}, P block → block ≠ []
  complete : ∀ {block} rest, P block → next (block ++ rest) = some block.length
  sound : ∀ {l size}, next l = some size → size ≤ l.length ∧ P (l.take size)

/-- A cutting by `next`, in `fuel` rounds at most. -/
def cut (next : List α → Option Nat) : Nat → List α → Option (List (List α))
  | 0, _ => none
  | fuel + 1, l =>
    if l = [] then some []
    else
      match next l with
      | none => none
      | some size => (cut next fuel (l.drop size)).map (l.take size :: ·)

namespace Recognises

variable {next : List α → Option Nat} {P : List α → Prop} {l : List α} {blocks : List (List α)}

theorem size_pos (h : Recognises next P) {size : Nat} (hnext : next l = some size) : 0 < size := by
  refine Nat.pos_of_ne_zero ?_
  rintro rfl
  exact h.ne_nil (h.sound hnext).2 (List.take_zero)

/-- The first block of a cutting is the one that is found. -/
theorem next_of_cutting (h : Recognises next P) {block : List α}
    (hcut : Cutting P (block :: blocks) l) : next l = some block.length := by
  rw [← hcut.flatten, List.flatten_cons]
  exact h.complete _ (hcut.all block List.mem_cons_self)

/-- **What is cut is cut in one way.** -/
theorem unique (h : Recognises next P) {blocks' : List (List α)} (hcut : Cutting P blocks l)
    (hcut' : Cutting P blocks' l) : blocks = blocks' := by
  induction blocks generalizing blocks' l with
  | nil =>
    cases blocks' with
    | nil => rfl
    | cons block blocks' =>
      have hnil := hcut'.flatten.trans hcut.flatten.symm
      rw [List.flatten_cons, List.flatten_nil, List.append_eq_nil_iff] at hnil
      exact absurd hnil.1 (h.ne_nil (hcut'.all block List.mem_cons_self))
  | cons block blocks ih =>
    cases blocks' with
    | nil =>
      have hnil := hcut.flatten.trans hcut'.flatten.symm
      rw [List.flatten_cons, List.flatten_nil, List.append_eq_nil_iff] at hnil
      exact absurd hnil.1 (h.ne_nil (hcut.all block List.mem_cons_self))
    | cons block' blocks' =>
      have hsize := (h.next_of_cutting hcut).symm.trans (h.next_of_cutting hcut')
      rw [Option.some.injEq] at hsize
      have hflatten := hcut.flatten.trans hcut'.flatten.symm
      rw [List.flatten_cons, List.flatten_cons] at hflatten
      obtain ⟨rfl, -⟩ := List.append_inj hflatten hsize
      rw [ih hcut.tail hcut'.tail]

/-- **`cut` finds the cutting.** -/
theorem cut_iff (h : Recognises next P) {fuel : Nat} (hfuel : l.length < fuel) :
    cut next fuel l = some blocks ↔ Cutting P blocks l := by
  induction fuel generalizing l blocks with
  | zero => omega
  | succ fuel ih =>
    unfold cut
    by_cases hnil : l = []
    · subst hnil
      rw [if_pos rfl, Option.some.injEq]
      constructor
      · rintro rfl
        exact .nil
      · exact fun hcut => h.unique .nil hcut
    rw [if_neg hnil]
    cases hnext : next l with
    | none =>
      refine iff_of_false nofun fun hcut => ?_
      cases blocks with
      | nil => exact hnil hcut.flatten.symm
      | cons block blocks => simp [h.next_of_cutting hcut] at hnext
    | some size =>
      obtain ⟨hsize, hblock⟩ := h.sound hnext
      have hpos := h.size_pos hnext
      have hrest : (l.drop size).length < fuel := by
        rw [List.length_drop]
        omega
      simp only [Option.map_eq_some_iff, ih hrest]
      constructor
      · rintro ⟨blocks, hcut, rfl⟩
        simpa using hcut.cons hblock
      · intro hcut
        cases blocks with
        | nil => exact absurd hcut.flatten.symm hnil
        | cons block blocks =>
          have hlength := hnext.symm.trans (h.next_of_cutting hcut)
          rw [Option.some.injEq] at hlength
          subst hlength
          refine ⟨blocks, hcut.tail, ?_⟩
          rw [← hcut.flatten, List.flatten_cons, List.take_left]

end Recognises

end Lib
