import Mathlib.Data.List.Basic

/-!
# Logs that surroundings produce

Surroundings with states `G` that go on with every entry of a log, in one or several ways. `Surely`
says what holds of all states in which they may be after the entries from the `start`-th on.

* `plays_append`: logs in sequence.
* `Surely.snoc`: a log that grows by an entry.
-/

namespace Lib

variable {E G : Type*}

/-- The entries take surroundings from a state to another one. -/
inductive Plays (step : G → E → G → Prop) : G → List E → G → Prop
  | nil (g : G) : Plays step g [] g
  | cons {g g' g'' : G} {e : E} {log : List E} :
    step g e g' → Plays step g' log g'' → Plays step g (e :: log) g''

variable {step : G → E → G → Prop}

/-- **In sequence.** -/
theorem plays_append {log log' : List E} {g g'' : G} :
    Plays step g (log ++ log') g'' ↔ ∃ g', Plays step g log g' ∧ Plays step g' log' g'' := by
  induction log generalizing g with
  | nil =>
    constructor
    · exact fun h => ⟨g, .nil g, h⟩
    · rintro ⟨g', hnil, h⟩
      cases hnil
      exact h
  | cons e log ih =>
    constructor
    · rintro (_ | ⟨hstep, h⟩)
      obtain ⟨g', hlog, hlog'⟩ := ih.1 h
      exact ⟨g', .cons hstep hlog, hlog'⟩
    · rintro ⟨g', _ | ⟨hstep, hlog⟩, hlog'⟩
      exact .cons hstep (ih.2 ⟨g', hlog, hlog'⟩)

theorem plays_singleton {e : E} {g g' : G} : Plays step g [e] g' ↔ step g e g' := by
  constructor
  · rintro (_ | ⟨hstep, _ | _⟩)
    exact hstep
  · exact fun h => .cons h (.nil g')

/-- What holds of all states after the entries from the `start`-th on. -/
def Surely (step : G → E → G → Prop) (start : Nat) (first : G) (log : List E)
    (P : G → Prop) : Prop :=
  start ≤ log.length ∧ ∀ g, Plays step first (log.drop start) g → P g

variable {start : Nat} {first : G} {log : List E} {P Q : G → Prop}

/-- At the start. -/
theorem Surely.begin (step : G → E → G → Prop) (log : List E) (first : G) :
    Surely step log.length first log (· = first) := by
  refine ⟨Nat.le_refl _, fun g h => ?_⟩
  rw [List.drop_length] at h
  cases h
  rfl

theorem Surely.mono (h : Surely step start first log P) (hPQ : ∀ g, P g → Q g) :
    Surely step start first log Q := ⟨h.1, fun g hg => hPQ g (h.2 g hg)⟩

/-- **One entry more.** -/
theorem Surely.snoc (h : Surely step start first log P) (e : E) :
    Surely step start first (log ++ [e]) fun g' => ∃ g, P g ∧ step g e g' := by
  refine ⟨?_, fun g' hg' => ?_⟩
  · rw [List.length_append]
    exact Nat.le_trans h.1 (Nat.le_add_right _ _)
  · rw [List.drop_append_of_le_length h.1, plays_append] at hg'
    obtain ⟨g, hg, hstep⟩ := hg'
    exact ⟨g, h.2 g hg, plays_singleton.1 hstep⟩

/-- What holds at the end of a run. -/
theorem Surely.plays {new : List E} {g : G} (h : Surely step log.length first (log ++ new) P)
    (hplays : Plays step first new g) : P g := by
  refine h.2 g ?_
  rwa [List.drop_left]

end Lib
