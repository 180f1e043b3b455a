import Mathlib.Data.List.Basic

/-!
# Interleaved callers

A pool of callers over a shared state. A caller is where it is in its operation; `advance` is its
next step, on the shared state and with a reply from outside. A run is any sequence of moves: an
operation is called, or some caller takes its next step. A step of a blocked caller leaves
everything as it is.

`run_inv` is the rule for invariants of all interleavings. `count_advance` is the rule for something
that at most one caller holds, such as a mutex or a reference, and `alone` says that nobody else
then holds it. `run_to_end` is the rule by which no caller is stuck for ever.
-/

namespace Lib

variable {S C Op R : Type*}

/-- A shared state and the callers over it, oldest first. -/
structure Pool (S C : Type*) where
  shared : S
  callers : List C := []

/-- What may happen next. -/
inductive Move (Op R : Type*)
  | enter (op : Op)
  | step (caller : Nat) (reply : R)

section

variable (begin : Op → C) (advance : R → S → C → S × C)

/-- A move. -/
def Pool.move (p : Pool S C) : Move Op R → Pool S C
  | .enter op => { p with callers := p.callers ++ [begin op] }
  | .step t reply =>
    match p.callers[t]? with
    | none => p
    | some c =>
      { shared := (advance reply p.shared c).1, callers :=
        p.callers.set t (advance reply p.shared c).2 }

/-- A run of moves. -/
def Pool.run (p : Pool S C) (moves : List (Move Op R)) : Pool S C :=
  moves.foldl (Pool.move begin advance) p

/-- **What a step does**: one caller is replaced, all others are where they were. -/
theorem Pool.step_cases (p : Pool S C) (t : Nat) (reply : R) :
    p.move begin advance (.step t reply) = p ∨
      ∃ before c after, p.callers = before ++ c :: after ∧
        p.move begin advance (.step t reply) =
          ⟨(advance reply p.shared c).1, before ++ (advance reply p.shared c).2 :: after⟩ := by
  by_cases ht : t < p.callers.length
  · right
    refine ⟨p.callers.take t, p.callers[t], p.callers.drop (t + 1), ?_, ?_⟩
    · rw [← List.drop_eq_getElem_cons ht, List.take_append_drop]
    · simp only [Pool.move, List.getElem?_eq_getElem ht,
        List.set_eq_take_append_cons_drop, if_pos ht]
  · left
    simp only [Pool.move, List.getElem?_eq_none (Nat.le_of_not_lt ht)]

variable {begin advance}

/-- **Invariants of all interleavings.** -/
theorem Pool.run_inv {I : S → List C → Prop}
    (henter : ∀ s callers op, I s callers → I s (callers ++ [begin op]))
    (hstep : ∀ reply s before c after, I s (before ++ c :: after) →
      I (advance reply s c).1 (before ++ (advance reply s c).2 :: after))
    (moves : List (Move Op R)) {p : Pool S C} (h : I p.shared p.callers) :
    I (p.run begin advance moves).shared (p.run begin advance moves).callers := by
  induction moves generalizing p with
  | nil => exact h
  | cons m moves ih =>
    refine ih (p := p.move begin advance m) ?_
    cases m with
    | enter op => exact henter _ _ op h
    | step t reply =>
      rcases p.step_cases begin advance t reply with heq | ⟨before, c, after, hc, heq⟩
      · rw [heq]
        exact h
      · rw [heq]
        rw [hc] at h
        exact hstep reply p.shared before c after h

variable (begin advance) in
/-- The step of a caller that is there. -/
theorem Pool.step_of_eq {p : Pool S C} {before after : List C} {c : C}
    (h : p.callers = before ++ c :: after) (reply : R) :
    p.move begin advance (.step before.length reply) =
      ⟨(advance reply p.shared c).1, before ++ (advance reply p.shared c).2 :: after⟩ := by
  simp [Pool.move, h]

variable (begin) in
/-- **The callers can always be brought to their end**, if under the invariant one of those that are
not there yet can come closer. -/
theorem Pool.run_to_end {I : S → List C → Prop} (rank : C → Nat)
    (hstep : ∀ reply s before c after, I s (before ++ c :: after) →
      I (advance reply s c).1 (before ++ (advance reply s c).2 :: after))
    (hsome : ∀ s callers, I s callers → (∀ c ∈ callers, rank c = 0) ∨
      ∃ c ∈ callers, ∃ reply, rank (advance reply s c).2 < rank c)
    (p : Pool S C) (h : I p.shared p.callers) :
    ∃ more : List (Move Op R), ∀ c ∈ (p.run begin advance more).callers, rank c = 0 := by
  generalize hn : (p.callers.map rank).sum = n
  induction n using Nat.strongRecOn generalizing p with
  | _ n ih =>
    rcases hsome p.shared p.callers h with hdone | ⟨c, hc, reply, hless⟩
    · exact ⟨[], hdone⟩
    · obtain ⟨before, after, hcallers⟩ := List.append_of_mem hc
      have hmove := Pool.step_of_eq begin advance hcallers reply
      have hnext : I (p.move begin advance (.step before.length reply)).shared
          (p.move begin advance (.step before.length reply)).callers := by
        rw [hmove]
        rw [hcallers] at h
        exact hstep reply p.shared before c after h
      have hsum :
          ((p.move begin advance (.step before.length reply)).callers.map rank).sum < n := by
        rw [hmove, ← hn, hcallers]
        simp only [List.map_append, List.map_cons, List.sum_append, List.sum_cons]
        omega
      obtain ⟨more, hmore⟩ := ih _ hsum _ hnext rfl
      exact ⟨.step before.length reply :: more, hmore⟩

end

/-! ## What at most one caller holds -/

section

variable {holds : C → Bool} {before after : List C} {c c' : C} {a a' n n' : Nat}

theorem countP_middle (holds : C → Bool) (before after : List C) (c : C) :
    (before ++ c :: after).countP holds =
      (before.countP holds + after.countP holds) + (holds c).toNat := by
  rw [List.countP_append, List.countP_cons]
  cases holds c
  · simp
  · simp [Nat.add_assoc]

/-- **A step that conserves keeps the count**: what the callers hold, together with what the state
holds by itself (`a`), is the number the state records (`n`). -/
theorem count_advance (h : (before ++ c :: after).countP holds + a = n)
    (hconserves : (holds c').toNat + a' + n = (holds c).toNat + a + n') :
    (before ++ c' :: after).countP holds + a' = n' := by
  rw [countP_middle] at h ⊢
  omega

/-- **What one caller holds, no other does.** -/
theorem alone (h : (before ++ c :: after).countP holds ≤ 1) (hc : holds c = true) :
    ∀ d ∈ before ++ after, holds d = false := by
  intro d hd
  rw [countP_middle, hc, Bool.toNat_true] at h
  have hbefore : before.countP holds = 0 := by omega
  have hafter : after.countP holds = 0 := by omega
  rw [List.countP_eq_zero] at hbefore hafter
  rcases List.mem_append.1 hd with hd | hd
  · simpa using hbefore d hd
  · simpa using hafter d hd

theorem countP_pos_middle (before after : List C) (hc : holds c = true) :
    0 < (before ++ c :: after).countP holds := by
  rw [countP_middle, hc, Bool.toNat_true]
  omega

/-- **What a caller holds is held**, where there is one of it. -/
theorem held_of_count {b : Bool} (hc : holds c = true)
    (h : (before ++ c :: after).countP holds + n = b.toNat) : b = true := by
  have hpos := countP_pos_middle before after hc
  cases b with
  | true => rfl
  | false =>
    rw [Bool.toNat_false] at h
    omega

theorem le_one_of_count {callers : List C} {b : Bool} (h : callers.countP holds + n = b.toNat) :
    callers.countP holds ≤ 1 := by
  have := Bool.toNat_le b
  omega

end

end Lib
