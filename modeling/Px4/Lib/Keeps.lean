import Mathlib.Data.List.Basic

/-!
# What a program keeps

A program on a state leads from one property to another if the second holds after the program
whenever the first held before, and it keeps a property if it leads from it to itself. The rules
take a program apart.

* `Leads.bind`: programs in sequence.
* `Leads.forM`: loops over a list.
-/

namespace Lib

variable {S α β : Type}

/-- The program leads from one property to another. -/
structure Leads (I J : S → Prop) (x : StateM S α) : Prop where
  run : ∀ s, I s → J (x s).2

/-- The program keeps the property. -/
abbrev Keeps (I : S → Prop) (x : StateM S α) : Prop := Leads I I x

namespace Leads

variable {I J K : S → Prop} {x y : StateM S α}

/-- **In sequence.** -/
theorem bind {f : α → StateM S β} (hx : Leads I J x) (hf : ∀ a, Leads J K (f a)) :
    Leads I K (x >>= f) :=
  ⟨fun s h => (hf _).run _ (hx.run s h)⟩

/-- **In sequence**, of programs that keep the property. -/
theorem seq {f : α → StateM S β} (hx : Keeps I x) (hf : ∀ a, Keeps I (f a)) :
    Keeps I (x >>= f) := hx.bind hf

/-- A property that is as strong may stand before. -/
theorem before (hx : Leads J K x) (h : ∀ s, I s → J s) : Leads I K x :=
  ⟨fun s hs => hx.run s (h s hs)⟩

/-- A property that is as weak may stand after. -/
theorem after (hx : Leads I J x) (h : ∀ s, J s → K s) : Leads I K x :=
  ⟨fun s hs => h _ (hx.run s hs)⟩

theorem pure (a : α) : Leads I I (Pure.pure a : StateM S α) := ⟨fun _ h => h⟩

theorem get : Leads I I (MonadState.get : StateM S S) := ⟨fun _ h => h⟩

/-- A look at the state, which the program then knows. -/
theorem get_bind {f : S → StateM S β} (hf : ∀ s, I s → J (f s s).2) :
    Leads I J (MonadState.get >>= f) := ⟨hf⟩

theorem modify {f : S → S} (hf : ∀ s, I s → J (f s)) : Leads I J (modify f : StateM S PUnit) := ⟨hf⟩

/-- **Loops.** -/
theorem forM {f : β → StateM S PUnit} (hf : ∀ b, Leads I I (f b)) (bs : List β) :
    Leads I I (bs.forM f) := by
  induction bs with
  | nil => exact pure _
  | cons b bs ih => exact (hf b).bind fun _ => ih

end Leads

end Lib
