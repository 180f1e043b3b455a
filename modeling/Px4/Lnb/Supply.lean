import Px4.Lnb.Coordinator
import Px4.Lib.Faulty

/-!
# One LNB supply

What a coordinator believes of the supply of a bridge (`state`, `debt`), beside what is true of it
(`output`), the writes issued to it (`log`) and whether one of them has reported the bridge lost
(`reported`). `Applied` is all that one attempt to bring the supply to a desired level can do; both
coordinators work by such attempts alone.

* `Ok`: the belief is right, debt is exactly the unknown state, no write switches on a supply that
  is not allowed to be on, and what was reported lost is lost. `Applied.ok`: attempts keep it.
* `Agrees`: a known state is the desired one. `Applied.agrees`: it is after an attempt.
-/

namespace Px4.Lnb

/-- A supply: belief and truth. -/
structure Supply where
  state : PhysicalState := .off
  debt : Bool := false
  output : Bool := false
  log : List Bool := []
  reported : Prop := False

/-- The state of a supply at a known level. -/
def known (on : Bool) : PhysicalState := if on then .on else .off

theorem known_eq_on {on : Bool} : known on = .on ↔ on = true := by cases on <;> simp [known]

theorem known_eq_off {on : Bool} : known on = .off ↔ on = false := by cases on <;> simp [known]

theorem known_ne_unknown (on : Bool) : known on ≠ .unknown := by cases on <;> simp [known]

namespace Supply

/-- An attempt to bring a supply to the level `desired`: nothing is done to a supply that is lost,
or already there; otherwise a write is issued, and its outcome decides the belief. -/
inductive Applied (desired : Bool) (s : Supply) : Supply → Result Unit → Prop
  | gone : s.state = .disconnected → Applied desired s s (.error .disconnected)
  | kept : s.state = known desired → Applied desired s s (.ok ())
  | done (reported : Prop) : s.state ≠ .disconnected → (reported → s.reported) →
      Applied desired s ⟨known desired, false, desired, s.log ++ [desired], reported⟩ (.ok ())
  | lost (output : Bool) (reported : Prop) : s.state ≠ .disconnected →
      Applied desired s ⟨.disconnected, false, output, s.log ++ [desired], reported⟩
        (.error .disconnected)
  | failed (e : Error) (output : Bool) (reported : Prop) :
      s.state ≠ .disconnected → e ≠ .disconnected → (reported → s.reported) →
      Applied desired s ⟨.unknown, true, output, s.log ++ [desired], reported⟩ (.error e)

/-- What is owed to a supply. -/
structure Ok (allow : Bool) (s : Supply) : Prop where
  on : s.state = .on → s.output = true
  off : s.state = .off → s.output = false
  debt : s.debt = true ↔ s.state = .unknown
  allowed : allow = false → ∀ on ∈ s.log, on = false
  reported : s.reported → s.state = .disconnected

/-- A known state is the desired one. -/
def Agrees (desired : Bool) (s : Supply) : Prop :=
  (s.state = .on → desired = true) ∧ (s.state = .off → desired = false)

/-- A lost supply stays lost and gets no more writes. -/
def Absorbs (s s' : Supply) : Prop :=
  s.state = .disconnected → s'.state = .disconnected ∧ s'.log = s.log

variable {desired allow : Bool} {s s' s'' : Supply} {r : Result Unit}

theorem Absorbs.refl (s : Supply) : s.Absorbs s := fun h => ⟨h, rfl⟩

theorem Absorbs.trans (h : s.Absorbs s') (h' : s'.Absorbs s'') : s.Absorbs s'' := by
  intro hs
  obtain ⟨h1, h2⟩ := h hs
  obtain ⟨h3, h4⟩ := h' h1
  exact ⟨h3, h4.trans h2⟩

/-- A new supply is off. -/
theorem ok_new (allow : Bool) {reported : Prop} (h : ¬reported) :
    Ok allow ⟨.off, false, false, [], reported⟩ :=
  ⟨nofun, fun _ => rfl, by simp, nofun, fun hr => absurd hr h⟩

theorem Ok.append (h : s.Ok allow) (hd : desired = true → allow = true) (ha : allow = false) :
    ∀ on ∈ s.log ++ [desired], on = false := by
  intro on hon
  rcases List.mem_append.1 hon with hon | hon
  · exact h.allowed ha on hon
  · rw [List.mem_singleton.1 hon]
    cases hdes : desired with
    | false => rfl
    | true => rw [hd hdes] at ha; cases ha

/-- **Attempts keep what is owed**, if nothing that is not allowed is desired. -/
theorem Applied.ok (h : Applied desired s s' r) (hs : s.Ok allow)
    (hd : desired = true → allow = true) : s'.Ok allow := by
  cases h with
  | gone _ => exact hs
  | kept _ => exact hs
  | done reported hne hr =>
    refine ⟨fun hon => known_eq_on.1 hon, fun hoff => known_eq_off.1 hoff, ?_, hs.append hd, ?_⟩
    · exact iff_of_false Bool.false_ne_true (known_ne_unknown desired)
    · exact fun h => absurd (hs.reported (hr h)) hne
  | lost output reported _ => exact ⟨nofun, nofun, by simp, hs.append hd, fun _ => rfl⟩
  | failed e output reported hne _ hr =>
    exact ⟨nofun, nofun, by simp, hs.append hd, fun h => absurd (hs.reported (hr h)) hne⟩

/-- **After an attempt a known state is the desired one.** -/
theorem Applied.agrees (h : Applied desired s s' r) : s'.Agrees desired := by
  cases h with
  | gone hs => exact ⟨fun hon => by simp [hs] at hon, fun hoff => by simp [hs] at hoff⟩
  | kept hs => exact ⟨fun hon => known_eq_on.1 (hs ▸ hon), fun hoff => known_eq_off.1 (hs ▸ hoff)⟩
  | done _ _ _ => exact ⟨known_eq_on.1, known_eq_off.1⟩
  | lost output _ _ => exact ⟨nofun, nofun⟩
  | failed e output _ _ _ _ => exact ⟨nofun, nofun⟩

theorem Applied.absorbs (h : Applied desired s s' r) : s.Absorbs s' := by
  intro hs
  cases h with
  | gone _ => exact ⟨hs, rfl⟩
  | kept _ => exact ⟨hs, rfl⟩
  | done _ hne _ => exact absurd hs hne
  | lost output _ hne => exact absurd hs hne
  | failed e output _ hne _ _ => exact absurd hs hne

/-- Off, lost, or left with debt after an off write. -/
def Ended (s s' : Supply) : Prop :=
  s'.state = .off ∨ s'.state = .disconnected ∨ (s'.debt = true ∧ s'.log = s.log ++ [false])

/-- **An attempt to switch off** ends the supply. -/
theorem Applied.ended (h : Applied false s s' r) : s.Ended s' := by
  cases h with
  | gone hs => exact .inr (.inl hs)
  | kept hs => exact .inl hs
  | done _ _ _ => exact .inl rfl
  | lost output _ _ => exact .inr (.inl rfl)
  | failed e output _ _ _ _ => exact .inr (.inr ⟨rfl, rfl⟩)

end Supply

end Px4.Lnb
