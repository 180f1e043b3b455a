import Px4.Frontend.Enclosure
import Px4.Power.Proof.Coordinator

/-!
# What the operations on an enclosure touch

* `Chips`: commands to the chips of a bank touch its tuners at most.
* `acquirePower_spec`, `releasePower_spec`: which reference a bank takes and gives back.
-/

namespace Px4.Frontend

open Px4.Power (Bridge SameReferences)

/-! ## Chips -/

/-- Only the wire and the tuners of one bank differ. -/
structure Chips (bridge : Bridge) (e e' : Enclosure) : Prop where
  state : e'.power.state = e.power.state
  card : e'.cardPowerAcquired = e.cardPowerAcquired
  other : ∀ b, b ≠ bridge → e'.bank b = e.bank b
  receivers : (e'.bank bridge).receiverState = (e.bank bridge).receiverState
  lost : (e'.bank bridge).disconnected = (e.bank bridge).disconnected

/-- The tuners are the same as well. -/
structure Wired (e e' : Enclosure) : Prop where
  state : e'.power.state = e.power.state
  card : e'.cardPowerAcquired = e.cardPowerAcquired
  bank : e'.bank = e.bank

variable {bridge : Bridge} {e e' e'' : Enclosure} {r : Result Unit}

theorem Chips.refl (bridge : Bridge) (e : Enclosure) : Chips bridge e e :=
  ⟨rfl, rfl, fun _ _ => rfl, rfl, rfl⟩

theorem Chips.trans (h : Chips bridge e e') (h' : Chips bridge e' e'') : Chips bridge e e'' :=
  ⟨h'.state.trans h.state, h'.card.trans h.card,
    fun b hb => (h'.other b hb).trans (h.other b hb), h'.receivers.trans h.receivers,
    h'.lost.trans h.lost⟩

theorem Wired.refl (e : Enclosure) : Wired e e := ⟨rfl, rfl, rfl⟩

theorem Wired.trans (h : Wired e e') (h' : Wired e' e'') : Wired e e'' :=
  ⟨h'.state.trans h.state, h'.card.trans h.card, h'.bank.trans h.bank⟩

theorem Wired.setWire (e : Enclosure) (w : Wire) : Wired e (e.setWire w) := ⟨rfl, rfl, rfl⟩

theorem Wired.chips (h : Wired e e') (bridge : Bridge) : Chips bridge e e' :=
  ⟨h.state, h.card, fun b _ => congrFun h.bank b, congrArg _ (congrFun h.bank bridge),
    congrArg _ (congrFun h.bank bridge)⟩

/-- A command and the mark it leaves on a tuner. -/
theorem Chips.setTuner (e : Enclosure) (w : Wire) (bridge : Bridge) (index : Nat) (value : Bool) :
    Chips bridge e ((e.setWire w).setBank bridge ((e.bank bridge).setTuner index value)) := by
  have hbank : ((e.setWire w).setBank bridge ((e.bank bridge).setTuner index value)).bank bridge =
      (e.bank bridge).setTuner index value := Function.update_self _ _ _
  exact ⟨rfl, rfl, fun b hb => Function.update_of_ne hb _ _, by rw [hbank]; rfl, by rw [hbank]; rfl⟩

theorem tuner_setTuner (e : Enclosure) (w : Wire) (bridge : Bridge) (index : Nat) (value : Bool)
    (i : Nat) :
    (((e.setWire w).setBank bridge ((e.bank bridge).setTuner index value)).bank
      bridge).tunerInitialized i =
      if i = index then value else (e.bank bridge).tunerInitialized i := by
  have hbank : ((e.setWire w).setBank bridge ((e.bank bridge).setTuner index value)).bank bridge =
      (e.bank bridge).setTuner index value := Function.update_self _ _ _
  rw [hbank]
  exact Function.update_apply _ _ _ _

theorem sleepReceiver_wired (bridge : Bridge) (receiver : Nat) (e : Enclosure) :
    Wired e (sleepReceiver bridge receiver e).1 := Wired.setWire e _

/-- `terminate_initialized` clears every mark. -/
theorem terminateLoop_spec (bridge : Bridge) (indices : List Nat)
    (first : Option Error) (e : Enclosure) :
    Chips bridge e (terminateLoop bridge indices first e).1 ∧
      ∀ i, ((terminateLoop bridge indices first e).1.bank bridge).tunerInitialized i =
        if i ∈ indices then false else (e.bank bridge).tunerInitialized i := by
  induction indices generalizing first e with
  | nil => exact ⟨.refl bridge e, fun i => by simp [terminateLoop]⟩
  | cons index rest ih =>
    unfold terminateLoop
    split
    · obtain ⟨h1, h2⟩ :=
        ih (rememberFirst first (e.wire.perform bridge (.i2c (.terminate index))).2)
        ((e.setWire (e.wire.perform bridge (.i2c (.terminate index))).1).setBank bridge
          ((e.bank bridge).setTuner index false))
      refine ⟨(Chips.setTuner e _ bridge index false).trans h1, fun i => ?_⟩
      rw [h2, tuner_setTuner]
      by_cases hi : i = index <;> by_cases hr : i ∈ rest <;> simp [hi, hr]
    · rename_i hfalse
      obtain ⟨h1, h2⟩ := ih first e
      refine ⟨h1, fun i => ?_⟩
      rw [h2]
      by_cases hi : i = index
      · subst hi
        have hfalse : (e.bank bridge).tunerInitialized i = false := by simpa using hfalse
        simp [hfalse]
      · simp [hi]

theorem terminateInitialized_spec (bridge : Bridge) (e : Enclosure) :
    Chips bridge e (terminateInitialized bridge e).1 ∧
      ∀ i, i < 4 → ((terminateInitialized bridge e).1.bank bridge).tunerInitialized i = false := by
  obtain ⟨h1, h2⟩ := terminateLoop_spec bridge [3, 2, 1, 0] none e
  refine ⟨h1, fun i hi => (h2 i).trans (if_pos ?_)⟩
  have : i = 3 ∨ i = 2 ∨ i = 1 ∨ i = 0 := by omega
  simpa using this

/-- The initialization sets the marks of the tuners that answered. -/
theorem initializeTuners_spec (indices : List Nat) {e e' : Enclosure}
    (h : initializeTuners bridge indices e = (e', r)) :
    Chips bridge e e' ∧
      (r = .ok () → ∀ i, (e'.bank bridge).tunerInitialized i =
        if i ∈ indices then true else (e.bank bridge).tunerInitialized i) := by
  induction indices generalizing e with
  | nil =>
    obtain ⟨rfl, rfl⟩ := Prod.mk.inj h
    exact ⟨.refl bridge _, fun _ i => by simp⟩
  | cons index rest ih =>
    unfold initializeTuners at h
    split at h
    · cases h
      exact ⟨(Wired.setWire e _).chips bridge, nofun⟩
    · obtain ⟨h1, h2⟩ := ih h
      refine ⟨(Chips.setTuner e _ bridge index true).trans h1, fun hr i => ?_⟩
      rw [h2 hr, tuner_setTuner]
      by_cases hi : i = index <;> by_cases hm : i ∈ rest <;> simp [hi, hm]

theorem sleepOthers_wired (indices : List Nat) {e e' : Enclosure}
    (h : sleepOthers bridge indices e = (e', r)) : Wired e e' := by
  induction indices generalizing e with
  | nil =>
    obtain ⟨rfl, rfl⟩ := Prod.mk.inj h
    exact .refl _
  | cons index rest ih =>
    unfold sleepOthers at h
    have hsleep := sleepReceiver_wired bridge index e
    split at h
    · rename_i e₁ failure heq
      rw [heq] at hsleep
      cases h
      exact hsleep
    · rename_i e₁ heq
      rw [heq] at hsleep
      exact hsleep.trans (ih h)

theorem prepareBank_spec {receiver : Nat} (h : prepareBank bridge receiver e = (e', r)) :
    Chips bridge e e' ∧
      (r = .ok () → ∀ i, i < 4 → (e'.bank bridge).tunerInitialized i = true) := by
  unfold prepareBank at h
  split at h
  · rename_i e₁ failure heq
    cases h
    exact ⟨(initializeTuners_spec _ heq).1, nofun⟩
  · rename_i e₁ heq
    obtain ⟨h1, h2⟩ := initializeTuners_spec _ heq
    have h3 := sleepOthers_wired _ h
    refine ⟨h1.trans (h3.chips bridge), fun _ i hi => ?_⟩
    rw [h3.bank, h2 rfl, if_pos (List.mem_range.2 hi)]

/-- **What an open does to the chips**: on a success of a first open all tuners are marked, and a
later open leaves the marks alone. -/
theorem openChips_spec {receiver : Nat} {system : System} {firstOpen : Bool}
    (h : openChips bridge receiver system firstOpen e = (e', r)) :
    Chips bridge e e' ∧
      (firstOpen = true → r = .ok () → ∀ i, i < 4 → (e'.bank bridge).tunerInitialized i = true) ∧
      (firstOpen = false → e'.bank = e.bank) := by
  cases firstOpen with
  | false =>
    unfold openChips at h
    rw [if_neg Bool.false_ne_true] at h
    dsimp only at h
    have hwired : Wired e e' := by
      split at h
      · cases h
        exact .setWire e _
      · rw [if_neg Bool.false_ne_true] at h
        cases h
        exact .setWire e _
    exact ⟨hwired.chips bridge, nofun, fun _ => hwired.bank⟩
  | true =>
    unfold openChips at h
    rw [if_pos rfl] at h
    split at h
    · rename_i e₁ failure heq
      cases h
      exact ⟨(prepareBank_spec heq).1, fun _ => nofun, nofun⟩
    · rename_i e₁ heq
      obtain ⟨h1, h2⟩ := prepareBank_spec heq
      have hwired : Wired e₁ e' := by
        split at h
        · cases h
          exact .setWire e₁ _
        · rw [if_pos rfl] at h
          cases h
          exact .setWire e₁ _
      refine ⟨h1.trans (hwired.chips bridge), fun _ _ i hi => ?_, nofun⟩
      rw [hwired.bank]
      exact h2 rfl i hi

/-! ## Power -/

theorem bit_or (m : BitVec 8) {g : Nat} (hg : g < 8) (i : Nat) :
    (m ||| Power.receiverBit g).getLsbD i = (m.getLsbD i || decide (i = g)) := by
  have hbit : Power.receiverBit g = BitVec.twoPow 8 g := rfl
  rw [hbit, BitVec.getLsbD_or, BitVec.getLsbD_twoPow]
  by_cases hi : i = g
  · subst hi
    simp [hg]
  · simp [hi, Ne.symm hi]

theorem bit_clear (m : BitVec 8) (g : Nat) {i : Nat} (hi : i < 8) :
    (m &&& ~~~Power.receiverBit g).getLsbD i = (m.getLsbD i && decide (i ≠ g)) := by
  have hbit : Power.receiverBit g = BitVec.twoPow 8 g := rfl
  rw [hbit, BitVec.getLsbD_and, BitVec.getLsbD_not, BitVec.getLsbD_twoPow]
  by_cases h : i = g
  · subst h
    simp [hi]
  · simp [hi, h, Ne.symm h]

theorem bit_and_eq_zero (m : BitVec 8) {g : Nat} (hg : g < 8) :
    m &&& Power.receiverBit g = 0 ↔ m.getLsbD g = false := by
  have hbit : Power.receiverBit g = BitVec.twoPow 8 g := rfl
  rw [hbit, BitVec.and_twoPow]
  cases hm : m.getLsbD g with
  | false => simp
  | true =>
    refine iff_of_false (fun h => ?_) nofun
    have := congrArg (BitVec.getLsbD · g) h
    simp [hg] at this

/-- The bits of the receiver mask. -/
def Enclosure.held (e : Enclosure) (global : Nat) : Bool :=
  e.power.state.receiverMask.getLsbD global

/-- Only the wire and the state of the coordinator differ; lost bridges stay lost. -/
structure Powered (e e' : Enclosure) : Prop where
  card : e'.cardPowerAcquired = e.cardPowerAcquired
  bank : e'.bank = e.bank
  lost : ∀ b, e.power.state.backendState b = .disconnected →
    e'.power.state.backendState b = .disconnected

theorem lost_rule (state : Power.Snapshot) : Power.Rule wireBackend fun s =>
    ∀ b, state.backendState b = .disconnected → s.state.backendState b = .disconnected where
  bridge b on _ h j hj := Power.setBridge_lost b on (h j hj)
  references _ _ _ h := h

theorem globalBase_add_lt (bridge : Bridge) {receiver : Nat} (h : receiver < 4) :
    globalBase bridge + receiver < 8 := by
  cases bridge <;> simp only [globalBase] <;> omega

/-- The receiver of another bank, or another one of this bank. -/
theorem globalBase_add_inj {b b' : Bridge} {i j : Nat} (hi : i < 4) (hj : j < 4) :
    globalBase b + i = globalBase b' + j ↔ b = b' ∧ i = j := by
  cases b <;> cases b' <;> simp only [globalBase] <;> simp <;> omega

/-- **A bank takes the reference of its receiver** in an enclosure that is connected; a failure
takes none. -/
theorem acquirePower_spec {receiver : Nat} (hr : receiver < 4)
    (h : acquirePower bridge receiver e = (e', r)) :
    Powered e e' ∧ e'.power.state.cardAcquired = e.power.state.cardAcquired ∧
      (r = .ok () ∧ e.power.state.enclosureDisconnected = false ∧
        (∀ i, e'.held i = (e.held i || decide (i = globalBase bridge + receiver))) ∨
      (∃ error, r = .error error) ∧
        e'.power.state.receiverMask = e.power.state.receiverMask) := by
  have hlost := (lost_rule e.power.state).acquireReceiver (globalBase bridge + receiver)
    (s := e.power) fun _ hb => hb
  unfold acquirePower at h
  dsimp only at h
  rw [if_neg (by omega)] at h
  cases hacq : Power.acquireReceiver wireBackend (globalBase bridge + receiver) e.power with
  | mk power result =>
    rw [hacq] at h hlost
    cases h
    refine ⟨⟨rfl, rfl, hlost⟩, ?_⟩
    rcases Power.acquireReceiver_spec hacq with ⟨hok, hconnected, hmask, hcard, -⟩ | ⟨herror, hsame⟩
    · refine ⟨hcard, .inl ⟨hok, hconnected, fun i => ?_⟩⟩
      show power.state.receiverMask.getLsbD i = _
      rw [hmask]
      exact bit_or _ (globalBase_add_lt bridge hr) i
    · exact ⟨hsame.2, .inr ⟨herror, hsame.1⟩⟩

/-- **A bank gives back the reference of its receiver**, whatever the power writes come to. -/
theorem releasePower_spec {receiver : Nat} (hr : receiver < 4)
    (h : releasePower bridge receiver e = (e', r)) :
    Powered e e' ∧ e'.power.state.cardAcquired = e.power.state.cardAcquired ∧
      ∀ i, i < 8 → e'.held i = (e.held i && decide (i ≠ globalBase bridge + receiver)) := by
  have hg := globalBase_add_lt bridge hr
  have hlost := (lost_rule e.power.state).releaseReceiver (globalBase bridge + receiver)
    (s := e.power) fun _ hb => hb
  cases hrel : Power.releaseReceiver wireBackend (globalBase bridge + receiver) e.power with
  | mk power result =>
    rw [hrel] at hlost
    have hpower : e' = e.setPower power := by
      unfold releasePower at h
      dsimp only at h
      rw [if_neg (by omega), hrel] at h
      split at h <;> rename_i heq <;> cases heq <;> cases h <;> rfl
    subst hpower
    refine ⟨⟨rfl, rfl, hlost⟩, ?_⟩
    rcases Power.releaseReceiver_spec hrel with ⟨-, rfl, hfree⟩ | ⟨hmask, hcard, -⟩
    · refine ⟨rfl, fun i _ => ?_⟩
      have hfree := (bit_and_eq_zero _ hg).1 (hfree.resolve_left (by omega))
      show e.held i = _
      by_cases hi : i = globalBase bridge + receiver
      · subst hi
        simp [Enclosure.held, hfree]
      · simp [hi]
    · refine ⟨hcard, fun i hi => ?_⟩
      show power.state.receiverMask.getLsbD i = _
      rw [hmask]
      exact bit_clear _ _ hi

end Px4.Frontend
