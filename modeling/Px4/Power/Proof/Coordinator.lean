import Px4.Power.Coordinator
import Px4.Lib.Run

/-!
# The power coordinator over any backends

* `Rule`: what `set_bridge_locked` and a change of references keep, every operation keeps.
* References: a failed acquire changes none, the others change the one they name.
* `applyDesired_ok`: what a success says of the bridges.
-/

namespace Px4.Power

open It930x (PowerState)

theorem Bridge.other_ne (b : Bridge) : b.other ≠ b := by cases b <;> exact nofun

theorem Bridge.eq_or_other (b first : Bridge) : b = first ∨ b = first.other := by
  cases b <;> cases first <;> simp [Bridge.other]

/-- Who uses a bridge. -/
theorem desiredPower_iff (s : Snapshot) (b : Bridge) :
    s.desiredPower b = true ↔ s.receiverMask ≠ 0 ∨ (b = .dev1 ∧ s.cardAcquired = true) := by
  unfold Snapshot.desiredPower
  split <;> simp_all

section

variable {σ : Type} {be : Backend σ} {s s' : Sys σ} {r : Result Unit}

/-! ## Invariants -/

/-- `P` is kept by the two moves the operations are made of. -/
structure Rule (be : Backend σ) (P : Sys σ → Prop) : Prop where
  bridge : ∀ b on s, P s → P (setBridge be b on s).1
  references : ∀ mask card s, P s → P (s.setReferences mask card)

namespace Rule

variable {P : Sys σ → Prop} (h : Rule be P)
include h

theorem applyDesired (first : Bridge) (hs : P s) : P (Power.applyDesired be first s).1 := by
  have h1 := h.bridge first (s.state.desiredPower first) s hs
  unfold Power.applyDesired
  split
  · rename_i s₁ e heq
    rw [heq] at h1
    exact h1
  · rename_i s₁ heq
    rw [heq] at h1
    exact h.bridge _ _ _ h1

theorem acquire (mask : BitVec 8) (card : Bool) (first : Bridge) (hs : P s) :
    P (Power.acquire be mask card first s).1 := by
  have h1 := h.applyDesired first (h.references mask card s hs)
  unfold Power.acquire
  split
  · rename_i s₁ heq
    rw [heq] at h1
    exact h1
  · rename_i s₁ e heq
    rw [heq] at h1
    exact h.applyDesired first (h.references _ _ _ h1)

theorem acquireReceiver (receiver : Nat) (hs : P s) :
    P (Power.acquireReceiver be receiver s).1 := by
  unfold Power.acquireReceiver
  dsimp only
  repeat' split
  all_goals first
    | exact hs
    | exact h.acquire _ _ _ hs

theorem releaseReceiver (receiver : Nat) (hs : P s) :
    P (Power.releaseReceiver be receiver s).1 := by
  unfold Power.releaseReceiver
  dsimp only
  repeat' split
  all_goals first
    | exact hs
    | exact h.applyDesired _ (h.references _ _ _ hs)

theorem acquireCard (hs : P s) : P (Power.acquireCard be s).1 := by
  unfold Power.acquireCard
  dsimp only
  repeat' split
  all_goals first
    | exact hs
    | exact h.acquire _ _ _ hs

theorem releaseCard (hs : P s) : P (Power.releaseCard be s).1 := by
  unfold Power.releaseCard
  split
  · exact hs
  · exact h.applyDesired _ (h.references _ _ _ hs)

theorem reconcile (hs : P s) : P (Power.reconcile be s).1 := by
  unfold Power.reconcile
  split
  · exact hs
  · exact h.applyDesired _ hs

/-- **Every operation keeps what the moves and a disconnect keep.** -/
theorem call (hd : ∀ b s, P s → P (disconnect b s).1) (op : Call) (hs : P s) :
    P (Power.call be s op).1 := by
  cases op with
  | acquireReceiver receiver => exact h.acquireReceiver receiver hs
  | releaseReceiver receiver => exact h.releaseReceiver receiver hs
  | acquireCard => exact h.acquireCard hs
  | releaseCard => exact h.releaseCard hs
  | reconcile => exact h.reconcile hs
  | disconnect b => exact hd b s hs

end Rule

/-! ## One bridge -/

/-- **All that `set_bridge_locked` can do.** -/
theorem setBridge_cases (be : Backend σ) (b : Bridge) (on : Bool) (s : Sys σ) :
    (s.state.backendState b = .disconnected ∧
      setBridge be b on s = (s, if on then .error .disconnected else .ok ())) ∨
    (s.state.backendState b = (if on then .on else .off) ∧ setBridge be b on s = (s, .ok ())) ∨
    (s.state.backendState b ≠ .disconnected ∧ ∃ hw r state, be b on s.hw = (hw, r) ∧
      setBridge be b on s = (⟨s.state.setBackend b state, hw⟩, r) ∧
      (r = .ok () ∧ state = (if on then .on else .off) ∨
        ∃ e, r = .error e ∧ state = if e = .disconnected then .disconnected else .unknown)) := by
  unfold setBridge
  dsimp only
  split
  · rename_i hgone
    exact .inl ⟨hgone, rfl⟩
  rename_i hne
  split
  · rename_i hthere
    refine .inr (.inl ⟨?_, rfl⟩)
    simp only [Bool.or_eq_true, Bool.and_eq_true, Bool.not_eq_true', beq_iff_eq] at hthere
    rcases hthere with ⟨hon, hstate⟩ | ⟨hoff, hstate⟩
    · rw [hon, hstate]
      rfl
    · rw [hoff, hstate]
      rfl
  · refine .inr (.inr ⟨hne, ?_⟩)
    split
    · rename_i hw heq
      exact ⟨hw, .ok (), _, heq, rfl, .inl ⟨rfl, rfl⟩⟩
    · rename_i hw e heq
      exact ⟨hw, .error e, _, heq, rfl, .inr ⟨e, rfl, rfl⟩⟩

theorem setBackend_self (s : Snapshot) (b : Bridge) (state : PowerState) :
    (s.setBackend b state).backendState b = state := Function.update_self _ _ _

theorem setBackend_of_ne (s : Snapshot) {b j : Bridge} (h : j ≠ b) (state : PowerState) :
    (s.setBackend b state).backendState j = s.backendState j := Function.update_of_ne h _ _

/-- The bridges after a disconnect. -/
theorem disconnect_state (s : Snapshot) (bridge b : Bridge) :
    (s.disconnect bridge).backendState b =
      if b = bridge then .disconnected
      else if s.backendState b = .on then .unknown else s.backendState b := by
  have hother : (s.setBackend bridge .disconnected).backendState bridge.other =
      s.backendState bridge.other := setBackend_of_ne _ bridge.other_ne _
  unfold Snapshot.disconnect Snapshot.setReferences
  dsimp only
  rw [hother]
  rcases b.eq_or_other bridge with rfl | rfl
  · rw [if_pos rfl]
    split
    · exact (setBackend_of_ne _ b.other_ne.symm _).trans (setBackend_self _ _ _)
    · exact setBackend_self _ _ _
  · rw [if_neg bridge.other_ne]
    split
    · exact setBackend_self _ _ _
    · exact hother

/-- The references of two states are the same. -/
def SameReferences (s s' : Sys σ) : Prop :=
  s'.state.receiverMask = s.state.receiverMask ∧ s'.state.cardAcquired = s.state.cardAcquired

theorem SameReferences.desired (h : SameReferences s s') (b : Bridge) :
    s'.state.desiredPower b = s.state.desiredPower b := by
  unfold Snapshot.desiredPower
  rw [h.1, h.2]

theorem SameReferences.trans {s'' : Sys σ} (h : SameReferences s s') (h' : SameReferences s' s'') :
    SameReferences s s'' := ⟨h'.1.trans h.1, h'.2.trans h.2⟩

theorem setBridge_references (be : Backend σ) (b : Bridge) (on : Bool) (s : Sys σ) :
    SameReferences s (setBridge be b on s).1 := by
  rcases setBridge_cases be b on s with ⟨-, h⟩ | ⟨-, h⟩ | ⟨-, hw, r, state, -, h, -⟩ <;> rw [h] <;>
    exact ⟨rfl, rfl⟩

theorem setBridge_other (be : Backend σ) {b j : Bridge} (hj : j ≠ b) (on : Bool) (s : Sys σ) :
    (setBridge be b on s).1.state.backendState j = s.state.backendState j := by
  rcases setBridge_cases be b on s with ⟨-, h⟩ | ⟨-, h⟩ | ⟨-, hw, r, state, -, h, -⟩ <;> rw [h]
  exact setBackend_of_ne _ hj _

/-- A lost bridge stays lost. -/
theorem setBridge_lost {j : Bridge} (b : Bridge) (on : Bool) {s : Sys σ}
    (hj : s.state.backendState j = .disconnected) :
    (setBridge be b on s).1.state.backendState j = .disconnected := by
  by_cases hjb : j = b
  · subst hjb
    rcases setBridge_cases be j on s with ⟨-, h⟩ | ⟨-, h⟩ | ⟨hne, -⟩
    · rw [h]
      exact hj
    · rw [h]
      exact hj
    · exact absurd hj hne
  · rw [setBridge_other be hjb]
    exact hj

/-- Lost, or in the state it should be in. -/
def Snapshot.Settled (s : Snapshot) (b : Bridge) (on : Bool) : Prop :=
  s.backendState b ≠ .disconnected → s.backendState b = if on then .on else .off

theorem setBridge_ok {b : Bridge} {on : Bool} (h : setBridge be b on s = (s', .ok ())) :
    s'.state.Settled b on := by
  intro hne
  rcases setBridge_cases be b on s with ⟨hgone, hs⟩ | ⟨hthere, hs⟩ | ⟨-, hw, r, state, -, hs, hr⟩
  · rw [hs] at h
    obtain ⟨rfl, -⟩ := Prod.mk.inj h
    exact absurd hgone hne
  · rw [hs] at h
    cases h
    exact hthere
  · rw [hs] at h
    cases h
    rcases hr with ⟨-, hstate⟩ | ⟨e, he, -⟩
    · exact (setBackend_self _ _ _).trans hstate
    · cases he

/-! ## References -/

theorem applyDesired_references (be : Backend σ) (first : Bridge) (s : Sys σ) :
    SameReferences s (applyDesired be first s).1 := by
  have h1 : SameReferences s (setBridge be first (s.state.desiredPower first) s).1 :=
    setBridge_references be _ _ _
  unfold applyDesired
  split
  · rename_i s₁ e heq
    rw [heq] at h1
    exact h1
  · rename_i s₁ heq
    rw [heq] at h1
    exact h1.trans (setBridge_references be _ _ _)

/-- Every bridge is lost or in the state it should be in. -/
def Snapshot.AllSettled (s : Snapshot) : Prop := ∀ b, s.Settled b (s.desiredPower b)

/-- **A success settles every bridge.** -/
theorem applyDesired_ok {first : Bridge} (h : applyDesired be first s = (s', .ok ())) :
    s'.state.AllSettled := by
  intro b
  have hrefs : SameReferences s s' := by
    have := applyDesired_references be first s
    rwa [h] at this
  unfold applyDesired at h
  split at h
  · cases h
  rename_i s₁ h1
  have hrefs₁ : SameReferences s s₁ := by
    have := setBridge_references be first (s.state.desiredPower first) s
    rwa [h1] at this
  rw [hrefs.desired]
  rcases b.eq_or_other first with rfl | rfl
  · have hsettled := setBridge_ok h1
    have hstate := setBridge_other be b.other_ne.symm (s₁.state.desiredPower b.other) s₁
    rw [h] at hstate
    unfold Snapshot.Settled at hsettled ⊢
    rw [hstate]
    exact hsettled
  · rw [← hrefs₁.desired]
    exact setBridge_ok h

/-- **A failed acquire leaves the references as they were**; one that succeeds has taken them and
settled every bridge. -/
theorem acquire_spec {mask : BitVec 8} {card : Bool} {first : Bridge}
    (h : acquire be mask card first s = (s', r)) :
    (r = .ok () ∧ s'.state.receiverMask = mask ∧ s'.state.cardAcquired = card ∧
      s'.state.AllSettled) ∨
    (∃ e, r = .error e) ∧ SameReferences s s' := by
  unfold acquire at h
  split at h
  · rename_i s₁ heq
    cases h
    have hrefs := applyDesired_references be first (s.setReferences mask card)
    rw [heq] at hrefs
    exact .inl ⟨rfl, hrefs.1, hrefs.2, applyDesired_ok heq⟩
  · rename_i s₁ e heq
    cases h
    refine .inr ⟨⟨e, rfl⟩, ?_⟩
    have hrefs := applyDesired_references be first
      (s₁.setReferences s.state.receiverMask s.state.cardAcquired)
    exact hrefs

theorem acquireReceiver_spec {receiver : Nat} (h : acquireReceiver be receiver s = (s', r)) :
    (r = .ok () ∧ s.state.enclosureDisconnected = false ∧
      s'.state.receiverMask = s.state.receiverMask ||| receiverBit receiver ∧
      s'.state.cardAcquired = s.state.cardAcquired ∧ s'.state.AllSettled) ∨
    (∃ e, r = .error e) ∧ SameReferences s s' := by
  unfold acquireReceiver at h
  dsimp only at h
  split at h
  · cases h
    exact .inr ⟨⟨_, rfl⟩, rfl, rfl⟩
  rename_i hconnected
  split at h
  · cases h
    exact .inr ⟨⟨_, rfl⟩, rfl, rfl⟩
  split at h
  · cases h
    exact .inr ⟨⟨_, rfl⟩, rfl, rfl⟩
  exact (acquire_spec h).imp (fun ⟨hok, hrest⟩ => ⟨hok, by simpa using hconnected, hrest⟩) id

theorem acquireCard_spec (h : acquireCard be s = (s', r)) :
    (r = .ok () ∧ s.state.enclosureDisconnected = false ∧
      s'.state.receiverMask = s.state.receiverMask ∧ s'.state.cardAcquired = true ∧
      s'.state.AllSettled) ∨
    (∃ e, r = .error e) ∧ SameReferences s s' := by
  unfold acquireCard at h
  dsimp only at h
  split at h
  · cases h
    exact .inr ⟨⟨_, rfl⟩, rfl, rfl⟩
  rename_i hconnected
  split at h
  · cases h
    exact .inr ⟨⟨_, rfl⟩, rfl, rfl⟩
  exact (acquire_spec h).imp (fun ⟨hok, hrest⟩ => ⟨hok, by simpa using hconnected, hrest⟩) id

/-- Power is applied after a change of references. -/
theorem applyDesired_spec {first : Bridge} {mask : BitVec 8} {card : Bool}
    (h : applyDesired be first (s.setReferences mask card) = (s', r)) :
    s'.state.receiverMask = mask ∧ s'.state.cardAcquired = card ∧
      (r = .ok () → s'.state.AllSettled) := by
  have hrefs := applyDesired_references be first (s.setReferences mask card)
  rw [h] at hrefs
  refine ⟨hrefs.1, hrefs.2, fun hr => ?_⟩
  rw [hr] at h
  exact applyDesired_ok h

/-- **A release gives the reference back**, if it was held. -/
theorem releaseReceiver_spec {receiver : Nat} (h : releaseReceiver be receiver s = (s', r)) :
    (r = .error .invalidArgument ∧ s' = s ∧
      (7 < receiver ∨ s.state.receiverMask &&& receiverBit receiver = 0)) ∨
    (s'.state.receiverMask = s.state.receiverMask &&& ~~~receiverBit receiver ∧
      s'.state.cardAcquired = s.state.cardAcquired ∧ (r = .ok () → s'.state.AllSettled)) := by
  unfold releaseReceiver at h
  dsimp only at h
  split at h
  · rename_i hr
    cases h
    exact .inl ⟨rfl, rfl, .inl hr⟩
  split at h
  · rename_i hr
    cases h
    exact .inl ⟨rfl, rfl, .inr hr⟩
  · exact .inr (applyDesired_spec h)

theorem releaseCard_spec (h : releaseCard be s = (s', r)) :
    (r = .error .invalidArgument ∧ s' = s ∧ s.state.cardAcquired = false) ∨
    (s'.state.receiverMask = s.state.receiverMask ∧ s'.state.cardAcquired = false ∧
      (r = .ok () → s'.state.AllSettled)) := by
  unfold releaseCard at h
  split at h
  · rename_i hr
    cases h
    exact .inl ⟨rfl, rfl, by simpa using hr⟩
  · exact .inr (applyDesired_spec h)

theorem reconcile_spec (h : reconcile be s = (s', r)) :
    SameReferences s s' ∧ (r = .ok () → s'.state.AllSettled) := by
  unfold reconcile at h
  split at h
  · cases h
    exact ⟨⟨rfl, rfl⟩, nofun⟩
  · have hspec := applyDesired_spec (s := s) h
    exact ⟨⟨hspec.1, hspec.2.1⟩, hspec.2.2⟩

end

end Px4.Power
