import Px4.Lnb.Board

/-!
# Steps of a board

* `Guarded` with `Step.safe`: the supplies are right, without permission nothing asks for 15 V, and
  a lost bridge gets no more writes.
* `Agreeing` with `Step.agreeing`: a supply in a known state is on exactly if it is wanted.
* `Recorded` with `Step.recorded`: the requests are those begun and committed.
* `SameEffect` with `Step.failed`: a failure to switch on changes no request in effect.
-/

namespace Px4.Lnb

open Board

variable {w : Wiring} {a a' a'' : Board}

/-! ## Safety -/

/-- What every reachable board has. -/
structure Guarded (a : Board) : Prop where
  supply : ∀ b, (a.supply b).Ok a.allow
  independent : a.independent = true → a.allow = true
  pending : ∀ r, a.pending r = some true → a.allow = true
  committed : ∀ r, a.committed r = true → a.allow = true

theorem Guarded.effective (h : Guarded a) {r : Nat} (hr : a.effective r = true) :
    a.allow = true := by
  unfold Board.effective at hr
  cases hp : a.pending r with
  | none =>
    rw [hp] at hr
    exact h.committed r hr
  | some on =>
    rw [hp] at hr
    exact h.pending r (hp.trans (congrArg some hr))

theorem Guarded.wanted (h : Guarded a) {b : Nat} (hw : a.Wanted w b) : a.allow = true := by
  rcases hw with hi | ⟨r, -, -, hr⟩
  · exact h.independent hi
  · exact h.effective hr

/-- What a step keeps: the guard, lost bridges without more writes, and the permission. -/
structure Safe (a a' : Board) : Prop where
  guarded : Guarded a'
  absorbs : ∀ b, (a.supply b).Absorbs (a'.supply b)
  allow : a'.allow = a.allow

theorem Safe.refl (h : Guarded a) : Safe a a := ⟨h, fun _ => .refl _, rfl⟩

theorem Safe.trans (h : Safe a a') (h' : Safe a' a'') : Safe a a'' :=
  ⟨h'.guarded, fun b => (h.absorbs b).trans (h'.absorbs b), h'.allow.trans h.allow⟩

theorem Board.Attempt.safe {B : Nat → Prop} (h : a.Attempt w B a') (hg : Guarded a) :
    Safe a a' := by
  refine ⟨⟨fun b => ?_, ?_, ?_, ?_⟩, fun b => ?_, h.allow⟩
  · rw [h.allow]
    by_cases hb : B b
    · obtain ⟨on, r, hon, hr⟩ := h.applied b hb
      exact hr.ok (hg.supply b) fun ho => hg.wanted (hon.1 ho)
    · rw [h.other b hb]
      exact hg.supply b
  · rw [h.allow, h.independent]
    exact hg.independent
  · rw [h.allow, h.pending]
    exact hg.pending
  · rw [h.allow, h.committed]
    exact hg.committed
  · by_cases hb : B b
    · obtain ⟨on, r, -, hr⟩ := h.applied b hb
      exact hr.absorbs
    · rw [h.other b hb]
      exact .refl _

/-- Attempts after a safe change. -/
theorem Safe.attempt {B : Nat → Prop} (h : Safe a a') (h' : a'.Attempt w B a'') : Safe a a'' :=
  h.trans (h'.safe h.guarded)

theorem Guarded.setPending (h : Guarded a) (receiver : Nat) (on : Option Bool)
    (hon : on = some true → a.allow = true) : Safe a (a.setPending receiver on) := by
  refine ⟨⟨h.supply, h.independent, fun r hr => ?_, h.committed⟩, fun _ => .refl _, rfl⟩
  change Function.update a.pending receiver on r = some true at hr
  by_cases he : r = receiver
  · rw [he, Function.update_self] at hr
    exact hon hr
  · rw [Function.update_of_ne he] at hr
    exact h.pending r hr

theorem Guarded.setCommitted (h : Guarded a) (receiver : Nat) (on : Bool)
    (hon : on = true → a.allow = true) : Safe a (a.setCommitted receiver on) := by
  refine ⟨⟨h.supply, h.independent, h.pending, fun r hr => ?_⟩, fun _ => .refl _, rfl⟩
  change Function.update a.committed receiver on r = true at hr
  by_cases he : r = receiver
  · rw [he, Function.update_self] at hr
    exact hon hr
  · rw [Function.update_of_ne he] at hr
    exact h.committed r hr

theorem Guarded.setIndependent (h : Guarded a) (on : Bool) (hon : on = true → a.allow = true) :
    Safe a (a.setIndependent on) :=
  ⟨⟨h.supply, hon, h.pending, h.committed⟩, fun _ => .refl _, rfl⟩

theorem Guarded.released (h : Guarded a) (receiver : Nat) : Safe a (a.released receiver) := by
  have h₁ := h.setPending receiver none nofun
  exact h₁.trans (h₁.guarded.setCommitted receiver false nofun)

theorem Guarded.cleared (h : Guarded a) : Safe a a.cleared :=
  ⟨⟨h.supply, nofun, nofun, nofun⟩, fun _ => .refl _, rfl⟩

theorem lose_supply (bridge b : Nat) : (a.lose w bridge).supply b =
    if b = bridge then { a.supply b with state := .disconnected, debt := false }
    else a.supply b := by
  by_cases hb : b = bridge
  · rw [if_pos hb, hb]
    exact Function.update_self _ _ _
  · rw [if_neg hb]
    exact Function.update_of_ne hb _ _

theorem Guarded.lose (h : Guarded a) (bridge : Nat) : Safe a (a.lose w bridge) := by
  refine ⟨⟨fun b => ?_, nofun, fun r hr => ?_, fun r hr => ?_⟩, fun b => ?_, rfl⟩
  · rw [lose_supply]
    split
    · exact ⟨nofun, nofun, by simp, (h.supply b).allowed, fun _ => rfl⟩
    · exact h.supply b
  · change (if _ then none else a.pending r) = some true at hr
    split at hr
    · cases hr
    · exact h.pending r hr
  · change (if _ then false else a.committed r) = true at hr
    split at hr
    · cases hr
    · exact h.committed r hr
  · rw [lose_supply]
    split
    · exact fun _ => ⟨rfl, rfl⟩
    · exact .refl _

/-- **Every step is safe.** -/
theorem Board.Step.safe {op : Operation} {r : Result Unit} (h : Step w a op a' r)
    (hg : Guarded a) : Safe a a' := by
  cases h with
  | refused _ => exact .refl hg
  | @begun receiver on _ _ hon _ h1 =>
    exact (hg.setPending receiver (some on) fun hs => hon (Option.some.inj hs)).attempt h1
  | @unbegun receiver on _ _ _ _ hon _ h1 h2 =>
    have h₁ := (hg.setPending receiver (some on) fun hs => hon (Option.some.inj hs)).attempt h1
    exact (h₁.trans (h₁.guarded.setPending receiver none nofun)).attempt h2
  | @committed receiver on _ hp =>
    have h₁ := hg.setPending receiver none nofun
    refine h₁.trans (h₁.guarded.setCommitted receiver on fun ho => ?_)
    exact hg.pending receiver (hp.trans (congrArg some ho))
  | @rolledBack receiver _ _ _ _ h1 => exact (hg.setPending receiver none nofun).attempt h1
  | released _ h1 => exact (hg.released _).attempt h1
  | @switched on _ _ hon h1 => exact (hg.setIndependent on fun ho => (hon ho).1).attempt h1
  | unswitched ha h1 h2 =>
    have h₁ := (hg.setIndependent true fun _ => ha).attempt h1
    exact (h₁.trans (h₁.guarded.setIndependent _ fun _ => h1.allow.trans ha)).attempt h2
  | reconciled h1 => exact h1.safe hg
  | disconnected _ => exact hg.lose _
  | down h1 => exact hg.cleared.attempt h1

/-! ## References -/

/-- A supply in a known state is on exactly if it is wanted. -/
def Agreeing (w : Wiring) (a : Board) : Prop := ∀ b, b < w.bridges →
  ((a.supply b).state = .on → a.Wanted w b) ∧ ((a.supply b).state = .off → ¬a.Wanted w b)

/-- The wants of a bridge depend on the requests in effect of its receivers. -/
theorem wanted_congr {b : Nat} (hi : a'.independent = a.independent)
    (he : ∀ r, w.valid r = true → w.bridgeOf r = b → a'.effective r = a.effective r) :
    a'.Wanted w b ↔ a.Wanted w b := by
  unfold Wanted
  rw [hi]
  refine or_congr_right (exists_congr fun r => ?_)
  refine and_congr_right fun hv => and_congr_right fun hb => ?_
  rw [he r hv hb]

theorem Board.Attempt.effective {B : Nat → Prop} (h : a.Attempt w B a') (r : Nat) :
    a'.effective r = a.effective r := by
  unfold Board.effective
  rw [h.pending, h.committed]

theorem Board.Attempt.wanted {B : Nat → Prop} (h : a.Attempt w B a') (b : Nat) :
    a'.Wanted w b ↔ a.Wanted w b :=
  wanted_congr h.independent fun r _ _ => h.effective r

/-- The bridges that were attempted agree; the others must have agreed before. -/
theorem Board.Attempt.agreeing {B : Nat → Prop} (h : a.Attempt w B a')
    (hs : ∀ b, b < w.bridges → ¬B b → ((a.supply b).state = .on → a.Wanted w b) ∧
      ((a.supply b).state = .off → ¬a.Wanted w b)) : Agreeing w a' := by
  intro b hb
  rw [h.wanted b]
  by_cases hB : B b
  · obtain ⟨on, r, hon, hr⟩ := h.applied b hB
    refine ⟨fun hs => hon.1 (hr.agrees.1 hs), fun hs hw => ?_⟩
    rw [hon.2 hw] at hr
    exact Bool.false_ne_true (hr.agrees.2 hs).symm
  · rw [h.other b hB]
    exact hs b hb hB

theorem agreeing_all (h : a.Attempt w (· < w.bridges) a') : Agreeing w a' :=
  h.agreeing fun _ hb hne => absurd hb hne

/-- Attempts after a change of one receiver's requests. -/
theorem Agreeing.change {a₀ : Board} (h : Agreeing w a) {receiver : Nat}
    (ha : a₀.Attempt w (· = w.bridgeOf receiver) a')
    (hsupply : a₀.supply = a.supply) (hi : a₀.independent = a.independent)
    (he : ∀ r, r ≠ receiver → a₀.effective r = a.effective r) : Agreeing w a' := by
  refine ha.agreeing fun b hb hne => ?_
  have hw : a₀.Wanted w b ↔ a.Wanted w b := by
    refine wanted_congr hi fun r _ hr => he r fun heq => hne ?_
    rw [← hr, heq]
  rw [hsupply, hw]
  exact h b hb

theorem effective_setPending {receiver r : Nat} (on : Option Bool) (h : r ≠ receiver) :
    (a.setPending receiver on).effective r = a.effective r := by
  unfold effective setPending
  dsimp only
  rw [Function.update_of_ne h]

theorem effective_released {receiver r : Nat} (h : r ≠ receiver) :
    (a.released receiver).effective r = a.effective r := by
  unfold effective released setPending setCommitted
  dsimp only
  rw [Function.update_of_ne h, Function.update_of_ne h]

/-- A commit changes no request in effect. -/
theorem effective_commit {receiver : Nat} {on : Bool} (h : a.pending receiver = some on) (r : Nat) :
    ((a.setPending receiver none).setCommitted receiver on).effective r = a.effective r := by
  unfold effective setPending setCommitted
  dsimp only
  by_cases he : r = receiver
  · subst he
    simp [h]
  · rw [Function.update_of_ne he, Function.update_of_ne he]

/-- **Every step but a disconnect keeps the agreement.** -/
theorem Board.Step.agreeing {op : Operation} {r : Result Unit} (h : Step w a op a' r)
    (hop : ∀ bridge, op ≠ .disconnect bridge) (hs : Agreeing w a) : Agreeing w a' := by
  cases h with
  | refused _ => exact hs
  | begun _ _ _ h1 => exact hs.change h1 rfl rfl fun _ => effective_setPending _
  | unbegun _ _ _ h1 h2 =>
    have hs₁ := hs.change h1 rfl rfl fun _ => effective_setPending _
    exact hs₁.change h2 rfl rfl fun _ => effective_setPending _
  | @committed receiver on _ hp =>
    intro b hb
    have hw : ((a.setPending receiver none).setCommitted receiver on).Wanted w b ↔ a.Wanted w b :=
      wanted_congr rfl fun r _ _ => effective_commit hp r
    rw [hw]
    exact hs b hb
  | rolledBack _ _ h1 => exact hs.change h1 rfl rfl fun _ => effective_setPending _
  | released _ h1 => exact hs.change h1 rfl rfl fun _ => effective_released
  | switched _ h1 => exact agreeing_all h1
  | unswitched _ _ h2 => exact agreeing_all h2
  | reconciled h1 => exact agreeing_all h1
  | @disconnected bridge _ => exact absurd rfl (hop bridge)
  | down h1 => exact agreeing_all h1

/-! ## What was begun and committed -/

/-- The requests are those begun and committed. -/
def Recorded (a : Board) (t : Tunes) : Prop := ∀ r,
  (∀ on, a.pending r = some on → on = t.begun r) ∧ a.committed r = t.committed r

theorem Recorded.attempt {B : Nat → Prop} {t : Tunes} (h : Recorded a t) (ha : a.Attempt w B a') :
    Recorded a' t := by
  intro r
  rw [ha.pending, ha.committed]
  exact h r

/-- A tune is pending. -/
theorem Recorded.begun {t : Tunes} (h : Recorded a t) (receiver : Nat) (on : Bool) :
    Recorded (a.setPending receiver (some on)) (t.tuneBegun receiver on) := by
  intro r
  refine ⟨fun on' hp => ?_, (h r).2⟩
  change Function.update a.pending receiver (some on) r = some on' at hp
  change on' = Function.update t.begun receiver on r
  by_cases he : r = receiver
  · subst he
    rw [Function.update_self] at hp ⊢
    exact (Option.some.inj hp).symm
  · rw [Function.update_of_ne he] at hp ⊢
    exact (h r).1 on' hp

/-- A tune is withdrawn, and with it what was begun last is of no account. -/
theorem Recorded.withdrawn {t t' : Tunes} (h : Recorded a t) {receiver : Nat}
    (hb : ∀ r, r ≠ receiver → t'.begun r = t.begun r) (hc : t'.committed = t.committed) :
    Recorded (a.setPending receiver none) t' := by
  intro r
  rw [hc]
  refine ⟨fun on hp => ?_, (h r).2⟩
  change Function.update a.pending receiver none r = some on at hp
  by_cases he : r = receiver
  · rw [he, Function.update_self] at hp
    cases hp
  · rw [Function.update_of_ne he] at hp
    rw [hb r he]
    exact (h r).1 on hp

theorem Recorded.setIndependent {t : Tunes} (h : Recorded a t) (on : Bool) :
    Recorded (a.setIndependent on) t := h

theorem Recorded.setCommitted {t : Tunes} (h : Recorded a t) (receiver : Nat) {on : Bool}
    {t' : Tunes} (hb : t'.begun = t.begun)
    (hc : t'.committed = Function.update t.committed receiver on) :
    Recorded (a.setCommitted receiver on) t' := by
  intro r
  rw [hb, hc]
  refine ⟨(h r).1, ?_⟩
  change Function.update a.committed receiver on r = _
  by_cases he : r = receiver
  · rw [he, Function.update_self, Function.update_self]
  · rw [Function.update_of_ne he, Function.update_of_ne he]
    exact (h r).2

/-- **Every step but a disconnect keeps the record.** -/
theorem Board.Step.recorded {op : Operation} {r : Result Unit} {t : Tunes} (h : Step w a op a' r)
    (hop : ∀ bridge, op ≠ .disconnect bridge) (hs : Recorded a t) :
    Recorded a' (t.note w op r) := by
  cases h with
  | @refused op _ hr =>
    cases op with
    | release receiver =>
      have hv : w.valid receiver = false := hr
      rw [Tunes.note, hv]
      exact hs
    | reconcile => exact hr.elim
    | shutdown => exact hr.elim
    | disconnect bridge => exact absurd rfl (hop bridge)
    | _ => exact hs
  | @begun receiver on _ _ _ _ h1 => exact (hs.begun receiver on).attempt h1
  | @unbegun receiver on a₁ _ _ _ _ _ h1 h2 =>
    have hs₁ := (hs.begun receiver on).attempt h1
    have hs₂ : Recorded (a₁.setPending receiver none) t :=
      hs₁.withdrawn (fun r hr => (Function.update_of_ne hr _ _).symm) rfl
    exact hs₂.attempt h2
  | @committed receiver on _ hp =>
    refine (hs.withdrawn (fun _ _ => rfl) rfl).setCommitted receiver rfl ?_
    rw [(hs receiver).1 on hp]
    rfl
  | rolledBack _ _ h1 => exact (hs.withdrawn (fun _ _ => rfl) rfl).attempt h1
  | @released receiver _ _ hv h1 =>
    rw [Tunes.note, if_pos hv]
    have hs₁ : Recorded (a.released receiver) (t.released receiver) :=
      Recorded.setCommitted (t := t) (hs.withdrawn (fun _ _ => rfl) rfl) receiver rfl rfl
    exact hs₁.attempt h1
  | switched _ h1 => exact (hs.setIndependent _).attempt h1
  | unswitched _ h1 h2 =>
    have hs₁ := (hs.setIndependent true).attempt h1
    exact (hs₁.setIndependent _).attempt h2
  | reconciled h1 => exact hs.attempt h1
  | @disconnected bridge _ => exact absurd rfl (hop bridge)
  | down h1 => exact Recorded.attempt (a := a.cleared) (fun r => ⟨nofun, rfl⟩) h1

/-- **After a commit** the request in effect is the one begun. -/
theorem Board.Step.tuned {r : Result Unit} {t : Tunes} {receiver : Nat}
    (h : Step w a (.commit receiver) a' r) (hs : Recorded a t) (hr : r = .ok ()) :
    a'.effective receiver = t.begun receiver := by
  cases h with
  | refused _ => cases hr
  | committed _ hp =>
    rw [effective_commit hp, effective, hp]
    exact (hs receiver).1 _ hp

/-- **After a rollback** it is the one committed last. -/
theorem Board.Step.untuned {r : Result Unit} {t : Tunes} {receiver : Nat}
    (h : Step w a (.rollback receiver) a' r) (hs : Recorded a t) (hv : w.valid receiver = true)
    (hp : a.pending receiver ≠ none) : a'.effective receiver = t.committed receiver := by
  cases h with
  | refused hr =>
    rcases hr with hr | hr
    · rw [hv] at hr
      cases hr
    · exact absurd hr hp
  | rolledBack _ _ h1 =>
    unfold effective
    rw [h1.pending, h1.committed]
    show (Function.update a.pending receiver none receiver).getD _ = _
    rw [Function.update_self]
    exact (hs receiver).2

/-! ## Failures -/

/-- The requests in effect are the same. -/
def SameEffect (a a' : Board) : Prop :=
  (∀ r, a'.effective r = a.effective r) ∧ a'.independent = a.independent

/-- The operations that may switch on. -/
def Operation.switchesOn : Operation → Bool
  | .begin _ _ | .independent true => true
  | _ => false

/-- **A failure to switch on changes no request in effect.** -/
theorem Board.Step.failed {op : Operation} {e : Error} (h : Step w a op a' (.error e))
    (hop : op.switchesOn = true) : SameEffect a a' := by
  cases h with
  | refused _ => exact ⟨fun _ => rfl, rfl⟩
  | @unbegun receiver on a₁ _ _ _ _ hp h1 h2 =>
    refine ⟨fun r => ?_, h2.independent.trans h1.independent⟩
    rw [h2.effective]
    by_cases he : r = receiver
    · subst he
      have hc : a₁.committed = a.committed := h1.committed
      simp [Board.effective, Board.setPending, hp, hc]
    · rw [effective_setPending none he, h1.effective, effective_setPending _ he]
  | @switched on _ _ hon h1 =>
    cases on with
    | true => cases (hon rfl).2
    | false => cases hop
  | unswitched _ h1 h2 =>
    refine ⟨fun r => ?_, h2.independent⟩
    rw [h2.effective]
    exact h1.effective r
  | rolledBack _ _ _ => cases hop
  | released _ _ => cases hop
  | reconciled _ => cases hop
  | down _ => cases hop

/-- **A bridge is lost by its disconnect.** -/
theorem Board.Step.lost {r : Result Unit} {b : Nat} (h : Step w a (.disconnect b) a' r)
    (hb : b < w.bridges) : (a'.supply b).state = .disconnected := by
  cases h with
  | refused hr => exact absurd hb (Nat.not_lt.2 hr)
  | disconnected _ => rw [lose_supply, if_pos rfl]

/-- **A shutdown ends every supply.** -/
theorem Board.Step.ended {r : Result Unit} (h : Step w a .shutdown a' r) {b : Nat}
    (hb : b < w.bridges) : (a.supply b).Ended (a'.supply b) := by
  cases h with
  | refused hr => exact hr.elim
  | down h1 =>
    obtain ⟨on, r, hon, hr⟩ := h1.applied b hb
    have hoff : on = false := by
      cases on with
      | false => rfl
      | true =>
        rcases hon.1 rfl with hi | ⟨_, _, _, he⟩
        · cases hi
        · cases he
    rw [hoff] at hr
    exact hr.ended

end Px4.Lnb
