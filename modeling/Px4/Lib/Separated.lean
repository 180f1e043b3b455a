import Mathlib.Data.List.Basic

/-!
# Lists with separators

* `idxOf?_iff`: the first occurrence of an element splits a list before it.
-/

namespace Lib

variable {α : Type*} [DecidableEq α]

/-- **The first occurrence.** -/
theorem idxOf?_iff {a : α} {xs : List α} {i : Nat} :
    xs.idxOf? a = some i ↔ ∃ before after, xs = before ++ a :: after ∧ a ∉ before ∧
    before.length = i := by
  induction xs generalizing i with
  | nil => simp
  | cons x xs ih =>
    rw [List.idxOf?_cons]
    by_cases hx : x = a
    · subst hx
      rw [if_pos (by simp)]
      constructor
      · rintro ⟨⟩
        exact ⟨[], xs, rfl, List.not_mem_nil, rfl⟩
      · rintro ⟨before, after, hxs, hnot, rfl⟩
        cases before with
        | nil => rfl
        | cons b before =>
          obtain ⟨rfl, -⟩ := List.cons.inj hxs
          exact absurd List.mem_cons_self hnot
    · rw [if_neg (by simpa using hx), Option.map_eq_some_iff]
      constructor
      · rintro ⟨j, hj, rfl⟩
        obtain ⟨before, after, rfl, hnot, rfl⟩ := ih.1 hj
        refine ⟨x :: before, after, rfl, ?_, rfl⟩
        rw [List.mem_cons, not_or]
        exact ⟨fun h => hx h.symm, hnot⟩
      · rintro ⟨before, after, hxs, hnot, rfl⟩
        cases before with
        | nil => exact absurd (List.cons.inj hxs).1 hx
        | cons b before =>
          obtain ⟨rfl, rfl⟩ := List.cons.inj hxs
          exact ⟨before.length, ih.2 ⟨before, after, rfl, fun h =>
            hnot (List.mem_cons_of_mem _ h), rfl⟩, rfl⟩

end Lib
