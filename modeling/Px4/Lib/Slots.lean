import Mathlib.Data.List.ReduceOption

/-!
# Tables of slots

A table has a fixed number of slots, each of which is free or holds an entry. A new entry goes to
the first free slot.
-/

namespace Lib

/-- A table. -/
abbrev Slots (α : Type*) := List (Option α)

namespace Slots

variable {α : Type*}

/-- A table without entries. -/
def free (size : Nat) : Slots α := List.replicate size none

/-- The entries, in the order of their slots. -/
def entries (t : Slots α) : List α := t.reduceOption

/-- The table with one more entry, if there is room. -/
def insert (a : α) : Slots α → Option (Slots α)
  | [] => none
  | none :: t => some (some a :: t)
  | some b :: t => (insert a t).map (some b :: ·)

/-- The table without the first entry of a kind. -/
def erase (p : α → Bool) : Slots α → Slots α
  | [] => []
  | none :: t => none :: erase p t
  | some a :: t => if p a then none :: t else some a :: erase p t

/-- The table with the first entry of a kind changed. -/
def update (p : α → Bool) (f : α → α) : Slots α → Slots α
  | [] => []
  | none :: t => none :: update p f t
  | some a :: t => if p a then some (f a) :: t else some a :: update p f t

/-- The table with the entry of one slot changed. -/
def change (i : Nat) (f : α → α) (t : Slots α) : Slots α := t.modify i (Option.map f)

/-- The table without the entries of a kind. -/
def clear (p : α → Bool) (t : Slots α) : Slots α := t.map (Option.filter (!p ·))

end Slots

end Lib
