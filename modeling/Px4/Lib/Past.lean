import Mathlib.Data.List.Basic

/-!
# What a log says of its past

Properties of a log in terms of what came before: `Always P` (every entry is allowed by the ones
before it), `Since start ends` (an entry has started something that no later one has ended) and
`last f` (the last value that an entry has). Each has a rule for a log that grows by an entry.
-/

namespace Lib

variable {α β : Type*}

/-- The places of a log that has grown by an entry. -/
theorem append_eq_split_iff {l before after : List α} {a b : α} :
    l ++ [a] = before ++ b :: after ↔
      after = [] ∧ before = l ∧ b = a ∨ ∃ after', after = after' ++ [a] ∧
      l = before ++ b :: after' := by
  constructor
  · intro h
    obtain rfl | ⟨after', c, rfl⟩ := List.eq_nil_or_concat after
    · obtain ⟨hl, ha⟩ := List.append_inj' h rfl
      simp only [List.cons.injEq, and_true] at ha
      exact .inl ⟨rfl, hl.symm, ha.symm⟩
    · rw [List.concat_eq_append, ← List.cons_append, ← List.append_assoc] at h
      obtain ⟨hl, ha⟩ := List.append_inj' h rfl
      simp only [List.cons.injEq, and_true] at ha
      exact .inr ⟨after', by rw [List.concat_eq_append, ha], hl⟩
  · rintro (⟨rfl, rfl, rfl⟩ | ⟨after', rfl, rfl⟩)
    · rfl
    · rw [List.append_assoc, List.cons_append]

/-- Every entry is allowed by the ones before it. -/
def Always (P : List α → α → Prop) (l : List α) : Prop :=
  ∀ before a after, l = before ++ a :: after → P before a

/-- An entry has started something that no later one has ended. -/
def Since (start : List α → α → Prop) (ends : α → Prop) (l : List α) : Prop :=
  ∃ before a after, l = before ++ a :: after ∧ start before a ∧ ∀ b ∈ after, ¬ends b

/-- The last value that an entry has. -/
def last (f : α → Option β) (l : List α) : Option β := (l.filterMap f).getLast?

variable {P Q : List α → α → Prop} {start : List α → α → Prop} {ends : α → Prop} {f : α → Option β}
  {l : List α} {a : α}

theorem always_nil : Always P [] := by
  intro before a after h
  simp at h

/-- **A log of allowed entries that grows by one.** -/
theorem always_append : Always P (l ++ [a]) ↔ Always P l ∧ P l a := by
  constructor
  · intro h
    refine ⟨fun before b after hl => ?_, h l a [] rfl⟩
    exact h before b (after ++ [a]) (append_eq_split_iff.2 (.inr ⟨after, rfl, hl⟩))
  · rintro ⟨hl, ha⟩ before b after h
    obtain ⟨-, rfl, rfl⟩ | ⟨after', -, hsplit⟩ := append_eq_split_iff.1 h
    · exact ha
    · exact hl before b after' hsplit

theorem Always.mono (h : Always P l) (hPQ : ∀ before a, P before a → Q before a) : Always Q l :=
  fun before a after hl => hPQ before a (h before a after hl)

/-- **Something started in a log that grows by an entry.** -/
theorem since_append : Since start ends (l ++ [a]) ↔ start l a ∨ Since start ends l ∧ ¬ends a := by
  constructor
  · rintro ⟨before, b, after, h, hstart, hends⟩
    obtain ⟨-, rfl, rfl⟩ | ⟨after', rfl, hsplit⟩ := append_eq_split_iff.1 h
    · exact .inl hstart
    · refine .inr ⟨⟨before, b, after', hsplit, hstart, fun c hc => ?_⟩, ?_⟩
      · exact hends c (List.mem_append_left _ hc)
      · exact hends a (List.mem_append_right _ List.mem_cons_self)
  · rintro (hstart | ⟨⟨before, b, after, rfl, hstart, hends⟩, ha⟩)
    · exact ⟨l, a, [], rfl, hstart, nofun⟩
    · refine ⟨before, b, after ++ [a], append_eq_split_iff.2 (.inr ⟨after, rfl, rfl⟩), hstart, ?_⟩
      intro c hc
      obtain hc | hc := List.mem_append.1 hc
      · exact hends c hc
      · rwa [List.mem_singleton.1 hc]

@[simp] theorem last_nil : last f [] = none := rfl

/-- The last value in a log that grows by an entry. -/
theorem last_append : last f (l ++ [a]) = (f a).or (last f l) := by
  unfold last
  rw [List.filterMap_append]
  cases hfa : f a with
  | none => simp [hfa]
  | some b => simp [hfa]

/-- A last value is that of an entry. -/
theorem exists_of_last {b : β} (h : last f l = some b) : ∃ a ∈ l, f a = some b := by
  obtain ⟨a, ha, hfa⟩ := List.mem_filterMap.1 (List.mem_of_getLast? h)
  exact ⟨a, ha, hfa⟩

end Lib
