import Mathlib.Data.List.Basic
import Mathlib.Order.Lattice

/-!
# Sorting by a strict weak order

`StrictWeakOn less l` is what a comparison has to be, on the elements of a list, to sort it. A
`StdSort` is a sort that says no more than that: its result is a permutation of the list and nothing
in it is less than what stands before it; the order of elements that do not compare is its own.
Where all elements compare, there is only one result (`StdSort.sort_map_eq`), whatever the sort and
whatever the order of the input.
-/

namespace Lib

variable {α β κ : Type}

/-- `less` is a strict weak order on the elements of `l`. -/
structure StrictWeakOn (less : α → α → Bool) (l : List α) : Prop where
  asymm : ∀ a ∈ l, ∀ b ∈ l, less a b = true → less b a = false
  cotrans : ∀ a ∈ l, ∀ b ∈ l, ∀ c ∈ l, less a c = true → less a b = true ∨ less b c = true

/-- A comparison of keys. -/
theorem StrictWeakOn.of_key [LinearOrder κ] {less : α → α → Bool} {l : List α} (key : α → κ)
    (h : ∀ a ∈ l, ∀ b ∈ l, less a b = true ↔ key a < key b) : StrictWeakOn less l where
  asymm a ha b hb hab := by
    rw [← Bool.not_eq_true, h b hb a ha]
    exact lt_asymm ((h a ha b hb).1 hab)
  cotrans a ha b hb c hc hac := by
    rw [h a ha b hb, h b hb c hc]
    have hlt := (h a ha c hc).1 hac
    exact (lt_or_ge (key a) (key b)).imp_right fun hba => lt_of_le_of_lt hba hlt

theorem StrictWeakOn.mono {less : α → α → Bool} {l l' : List α} (h : StrictWeakOn less l)
    (hsub : l' ⊆ l) : StrictWeakOn less l' where
  asymm a ha b hb := h.asymm a (hsub ha) b (hsub hb)
  cotrans a ha b hb c hc := h.cotrans a (hsub ha) b (hsub hb) c (hsub hc)

/-- A sort, as far as it is specified. -/
structure StdSort where
  sort : {α : Type} → (α → α → Bool) → List α → List α
  perm : ∀ {α : Type} (less : α → α → Bool) (l : List α), (sort less l).Perm l
  sorted : ∀ {α : Type} {less : α → α → Bool} {l : List α}, StrictWeakOn less l →
    (sort less l).Pairwise fun a b => less b a = false

namespace StdSort

theorem mem (S : StdSort) {less : α → α → Bool} {l : List α} {a : α} :
    a ∈ S.sort less l ↔ a ∈ l := (S.perm less l).mem_iff

/-- **One result**: two sorts of the same elements, renamed by `f`, agree where all elements
compare. -/
theorem sort_map_eq (S S' : StdSort) {f : α → β} {less : α → α → Bool} {less' : β → β → Bool}
    {l : List α} {l' : List β} (hperm : l'.Perm (l.map f))
    (hless : ∀ a ∈ l, ∀ b ∈ l, less' (f a) (f b) = less a b) (hweak : StrictWeakOn less l)
    (htotal : ∀ a ∈ l, ∀ b ∈ l, less a b = false → less b a = false → a = b) :
    S'.sort less' l' = (S.sort less l).map f := by
  have hmem : ∀ b ∈ l', ∃ a ∈ l, f a = b := fun b hb => List.mem_map.1 (hperm.subset hb)
  have hweak' : StrictWeakOn less' l' := by
    constructor
    · intro x hx y hy
      obtain ⟨a, ha, rfl⟩ := hmem x hx
      obtain ⟨b, hb, rfl⟩ := hmem y hy
      rw [hless a ha b hb, hless b hb a ha]
      exact hweak.asymm a ha b hb
    · intro x hx y hy z hz
      obtain ⟨a, ha, rfl⟩ := hmem x hx
      obtain ⟨b, hb, rfl⟩ := hmem y hy
      obtain ⟨c, hc, rfl⟩ := hmem z hz
      rw [hless a ha b hb, hless b hb c hc, hless a ha c hc]
      exact hweak.cotrans a ha b hb c hc
  have hsorted : ((S.sort less l).map f).Pairwise fun a b => less' b a = false := by
    rw [List.pairwise_map]
    refine (S.sorted hweak).imp_of_mem fun {a b} ha hb hab => ?_
    rw [hless b (S.mem.1 hb) a (S.mem.1 ha)]
    exact hab
  refine List.Perm.eq_of_pairwise ?_ (S'.sorted hweak') hsorted
    ((S'.perm less' l').trans (hperm.trans ((S.perm less l).symm.map f)))
  intro x y hx hy hxy hyx
  obtain ⟨a, ha, rfl⟩ := hmem x (S'.mem.1 hx)
  obtain ⟨b, hb, rfl⟩ := List.mem_map.1 hy
  have hb := S.mem.1 hb
  rw [hless b hb a ha] at hxy
  rw [hless a ha b hb] at hyx
  rw [htotal a ha b hb hyx hxy]

/-! ## One such sort -/

/-- `a` in front of the first element that it is less than. -/
def insert (less : α → α → Bool) (a : α) : List α → List α
  | [] => [a]
  | b :: l => if less a b then a :: b :: l else b :: insert less a l

theorem insert_perm (less : α → α → Bool) (a : α) (l : List α) :
    (insert less a l).Perm (a :: l) := by
  induction l with
  | nil => exact .refl _
  | cons b l ih =>
    unfold insert
    split
    · exact .refl _
    · exact (ih.cons b).trans (.swap a b l)

theorem insert_sorted {less : α → α → Bool} {a : α} {l : List α}
    (hweak : StrictWeakOn less (a :: l)) (h : l.Pairwise fun x y => less y x = false) :
    (insert less a l).Pairwise fun x y => less y x = false := by
  induction l with
  | nil => exact List.pairwise_singleton _ _
  | cons b l ih =>
    obtain ⟨hb, hl⟩ := List.pairwise_cons.1 h
    have ha : a ∈ a :: b :: l := List.mem_cons_self
    have hbm : b ∈ a :: b :: l := List.mem_cons_of_mem _ List.mem_cons_self
    unfold insert
    split
    · next hab =>
      refine List.pairwise_cons.2 ⟨?_, h⟩
      intro c hc
      rcases List.mem_cons.1 hc with rfl | hc
      · exact hweak.asymm a ha c hbm hab
      · have hcm : c ∈ a :: b :: l := List.mem_cons_of_mem _ (List.mem_cons_of_mem _ hc)
        cases hca : less c a with
        | false => rfl
        | true =>
          -- `b` would stand between them
          rcases hweak.cotrans c hcm b hbm a ha hca with hcb | hba
          · rw [hb c hc] at hcb
            cases hcb
          · rw [hweak.asymm a ha b hbm hab] at hba
            cases hba
    · next hab =>
      have hsub : a :: l ⊆ a :: b :: l :=
        List.cons_subset_cons _ (List.subset_cons_self _ _)
      refine List.pairwise_cons.2 ⟨?_, ih (hweak.mono hsub) hl⟩
      intro c hc
      rcases List.mem_cons.1 ((insert_perm less a l).subset hc) with rfl | hc
      · exact Bool.not_eq_true _ ▸ hab
      · exact hb c hc

theorem foldr_insert_perm (less : α → α → Bool) (l : List α) :
    (l.foldr (insert less) []).Perm l := by
  induction l with
  | nil => exact .refl _
  | cons a l ih => exact (insert_perm less a _).trans (ih.cons a)

/-- Insertion sort. -/
def insertion : StdSort where
  sort less l := l.foldr (insert less) []
  perm := foldr_insert_perm
  sorted {α less l} h := by
    induction l with
    | nil => exact .nil
    | cons a l ih =>
      refine insert_sorted (h.mono ?_) (ih (h.mono (List.subset_cons_self _ _)))
      exact List.cons_subset_cons _ (foldr_insert_perm less l).subset

end StdSort

end Lib
