import Px4.Frontend.Proof.Enclosure
import Px4.Lib.Run

/-!
# Who owns the power of an enclosure

`Owned`: the receiver mask and the card reference of the coordinator are those the banks and the
card backend hold, and the tuners of a bank are initialized exactly while one of its receivers is
not closed. `Sound` is the invariant of all runs: until a bridge is marked disconnected everything
is `Owned`.
-/

namespace Px4.Frontend

open Px4.Power (Bridge SameReferences)

/-- Some receiver of the bank is not closed. -/
def Bank.InUse (b : Bank) : Prop := ∃ r, r < 4 ∧ b.receiverState r ≠ .closed

theorem anyOpen_iff (b : Bank) : b.anyOpen = true ↔ b.InUse := by
  simp [Bank.anyOpen, Bank.InUse, List.any_eq_true]

theorem anyOtherOpen_iff (b : Bank) (receiver : Nat) :
    b.anyOtherOpen receiver = true ↔ ∃ r, r < 4 ∧ r ≠ receiver ∧ b.receiverState r ≠ .closed := by
  simp [Bank.anyOtherOpen, List.any_eq_true]

/-- The references are those held, and the tuners of a bank are initialized while it is in use. -/
structure Owned (e : Enclosure) : Prop where
  receiver : ∀ b r, r < 4 → (e.held (globalBase b + r) = true ↔
    (e.bank b).receiverState r ≠ .closed)
  card : e.power.state.cardAcquired = e.cardPowerAcquired
  tuner : ∀ b i, i < 4 → ((e.bank b).tunerInitialized i = true ↔ (e.bank b).InUse)

/-- What every reachable enclosure has. -/
structure Sound (e : Enclosure) : Prop where
  lost : ∀ b, (e.bank b).disconnected = true → e.power.state.backendState b = .disconnected
  owned : (∀ b, (e.bank b).disconnected = false) → Owned e

/-- The logical states of two enclosures agree. -/
structure Same (e e' : Enclosure) : Prop where
  references : SameReferences e.power e'.power
  card : e'.cardPowerAcquired = e.cardPowerAcquired
  closed : ∀ b r, r < 4 → ((e'.bank b).receiverState r = .closed ↔
    (e.bank b).receiverState r = .closed)
  tuner : ∀ b i, i < 4 → (e'.bank b).tunerInitialized i = (e.bank b).tunerInitialized i
  marked : ∀ b, (e'.bank b).disconnected = (e.bank b).disconnected
  lost : ∀ b, e.power.state.backendState b = .disconnected →
    e'.power.state.backendState b = .disconnected

variable {bridge : Bridge} {e e' e'' : Enclosure} {r : Result Unit}

theorem Same.trans (h : Same e e') (h' : Same e' e'') : Same e e'' where
  references := h.references.trans h'.references
  card := h'.card.trans h.card
  closed b r hr := (h'.closed b r hr).trans (h.closed b r hr)
  tuner b i hi := (h'.tuner b i hi).trans (h.tuner b i hi)
  marked b := (h'.marked b).trans (h.marked b)
  lost b hb := h'.lost b (h.lost b hb)

theorem Same.inUse (h : Same e e') (b : Bridge) : (e'.bank b).InUse ↔ (e.bank b).InUse :=
  exists_congr fun r => and_congr_right fun hr => not_congr (h.closed b r hr)

/-- **Operations that keep the logical states keep the invariant.** -/
theorem Same.sound (h : Same e e') (hs : Sound e) : Sound e' := by
  refine ⟨fun b hb => ?_, fun hconnected => ?_⟩
  · rw [h.marked] at hb
    exact h.lost b (hs.lost b hb)
  · have ho := hs.owned fun b => (h.marked b).symm.trans (hconnected b)
    refine ⟨fun b r hr => ?_, ?_, fun b i hi => ?_⟩
    · rw [Ne, h.closed b r hr, Enclosure.held, h.references.1]
      exact ho.receiver b r hr
    · rw [h.references.2, h.card]
      exact ho.card
    · rw [h.tuner b i hi, h.inUse]
      exact ho.tuner b i hi

theorem Wired.same (h : Wired e e') : Same e e' := by
  refine ⟨⟨by rw [h.state], by rw [h.state]⟩, h.card, ?_, ?_, ?_, fun b hb => ?_⟩
  · exact fun b r _ => by rw [h.bank]
  · exact fun b i _ => by rw [h.bank]
  · exact fun b => by rw [h.bank]
  · rw [h.state]
    exact hb

/-- Two states of a bank with the same receivers closed, and the same tuners. -/
structure Bank.Like (b b' : Bank) : Prop where
  closed : ∀ r, b'.receiverState r = .closed ↔ b.receiverState r = .closed
  tuner : b'.tunerInitialized = b.tunerInitialized
  marked : b'.disconnected = b.disconnected

theorem Bank.Like.setState (b : Bank) {receiver : Nat} {state : ReceiverState}
    (hr : b.receiverState receiver ≠ .closed) (hs : state ≠ .closed) :
    b.Like (b.setState receiver state) := by
  refine ⟨fun r => ?_, rfl, rfl⟩
  show Function.update b.receiverState receiver state r = .closed ↔ _
  by_cases h : r = receiver
  · subst h
    rw [Function.update_self]
    exact iff_of_false hs hr
  · rw [Function.update_of_ne h]

theorem Bank.Like.setSelection (b : Bank) (receiver : Nat) (selected : Bool) (tsid : Nat) :
    b.Like (b.setSelection receiver selected tsid) := ⟨fun _ => Iff.rfl, rfl, rfl⟩

theorem setBank_self (e : Enclosure) (bridge : Bridge) (bank : Bank) :
    (e.setBank bridge bank).bank bridge = bank := Function.update_self _ _ _

theorem setBank_of_ne (e : Enclosure) {bridge b : Bridge} (h : b ≠ bridge) (bank : Bank) :
    (e.setBank bridge bank).bank b = e.bank b := Function.update_of_ne h _ _

theorem Same.setBank {bank : Bank} (h : (e.bank bridge).Like bank) :
    Same e (e.setBank bridge bank) := by
  have hlike (b : Bridge) : (e.bank b).Like ((e.setBank bridge bank).bank b) := by
    by_cases hb : b = bridge
    · subst hb
      rw [setBank_self]
      exact h
    · rw [setBank_of_ne e hb]
      exact ⟨fun _ => Iff.rfl, rfl, rfl⟩
  refine ⟨⟨rfl, rfl⟩, rfl, ?_, ?_, fun b => (hlike b).marked, fun _ hb => hb⟩
  · exact fun b r _ => (hlike b).closed r
  · exact fun b i _ => congrFun (hlike b).tuner i

/-! ## Operations that keep the logical states -/

theorem tuneReceiver_same (receiver khz : Nat) (system : System) (timeout : Nat) (e : Enclosure) :
    Same e (tuneReceiver bridge receiver khz system timeout e).1 := by
  have hsame : Same e e := (Wired.refl e).same
  unfold tuneReceiver
  dsimp only
  iterate 3
    split
    · exact hsame
  split
  · exact hsame
  rename_i hopen
  split
  · exact hsame
  split
  · exact (Wired.setWire e _).same
  · exact (Wired.setWire e _).same.trans (.setBank (.setState _ hopen nofun))

theorem selectTsid_same (receiver tsid timeout : Nat) (e : Enclosure) :
    Same e (selectTsid bridge receiver tsid timeout e).1 := by
  unfold selectTsid
  split
  · exact (Wired.setWire e _).same
  · exact (Wired.setWire e _).same.trans (.setBank (.setSelection _ _ _ _))

theorem selectSatelliteSlot_same (receiver slot timeout : Nat) (e : Enclosure) :
    Same e (selectSatelliteSlot bridge receiver slot timeout e).1 := by
  have hsame : Same e e := (Wired.refl e).same
  unfold selectSatelliteSlot
  dsimp only
  iterate 4
    split
    · exact hsame
  split
  · exact (Wired.setWire e _).same
  · exact (Wired.setWire e _).same.trans (selectTsid_same _ _ _ _)

theorem selectSatelliteTsid_same (receiver tsid timeout : Nat) (e : Enclosure) :
    Same e (selectSatelliteTsid bridge receiver tsid timeout e).1 := by
  have hsame : Same e e := (Wired.refl e).same
  unfold selectSatelliteTsid
  dsimp only
  iterate 3
    split
    · exact hsame
  exact selectTsid_same _ _ _ _

theorem purgeFirst_wired (bridge : Bridge) (e : Enclosure) : Wired e (purgeFirst bridge e).1 := by
  unfold purgeFirst
  split
  · exact .setWire e _
  · exact .refl e

theorem startCapture_same (receiver : Nat) (system : System) (e : Enclosure) :
    Same e (startCapture bridge receiver system e).1 := by
  have hsame : Same e e := (Wired.refl e).same
  have hpurge := purgeFirst_wired bridge e
  unfold startCapture
  dsimp only
  iterate 3
    split
    · exact hsame
  split
  · exact hsame
  rename_i htuned
  have hopen : (e.bank bridge).receiverState receiver ≠ .closed := by
    rw [not_not.1 htuned]
    exact nofun
  split
  · exact hsame
  split
  · rename_i e₁ purged heq
    rw [heq] at hpurge
    exact hpurge.same
  · rename_i e₁ heq
    rw [heq] at hpurge
    have hwired := hpurge.trans (Wired.setWire e₁
      (e₁.wire.perform bridge (.i2c (.enableTsPins receiver true))).1)
    split
    · refine hwired.same.trans (.setBank ?_)
      rw [hwired.bank]
      exact .setState _ hopen nofun
    · exact hwired.same

theorem disableCapture_same {receiver : Nat}
    (hr : (e.bank bridge).receiverState receiver ≠ .closed) :
    Same e (disableCapture bridge receiver e).1 := by
  unfold disableCapture
  split
  · exact (Wired.setWire e _).same
  · exact (Wired.setWire e _).same.trans (.setBank (.setState _ hr nofun))

theorem stopCapture_same (receiver : Nat) (system : System) (e : Enclosure) :
    Same e (stopCapture bridge receiver system e).1 := by
  have hsame : Same e e := (Wired.refl e).same
  unfold stopCapture
  dsimp only
  iterate 3
    split
    · exact hsame
  split
  · exact hsame
  rename_i hcapturing
  refine disableCapture_same ?_
  rw [not_not.1 hcapturing]
  exact nofun

theorem isLocked_same (receiver : Nat) (system : System) (e : Enclosure) :
    Same e (isLocked bridge receiver system e).1 := by
  have hsame : Same e e := (Wired.refl e).same
  unfold isLocked
  dsimp only
  iterate 4
    split
    · exact hsame
  exact (Wired.setWire e _).same

/-! ## The end of a receiver -/

/-- Commands to the chips of a bank, and perhaps another state of one receiver. -/
structure Near (bridge : Bridge) (receiver : Nat) (e e' : Enclosure) : Prop where
  state : e'.power.state = e.power.state
  card : e'.cardPowerAcquired = e.cardPowerAcquired
  other : ∀ b, b ≠ bridge → e'.bank b = e.bank b
  receivers : ∀ r, r ≠ receiver → (e'.bank bridge).receiverState r = (e.bank bridge).receiverState r
  marked : (e'.bank bridge).disconnected = (e.bank bridge).disconnected

/-- A receiver is closed and its reference is given back. -/
structure Gave (bridge : Bridge) (receiver : Nat) (e e' : Enclosure) : Prop where
  card : e'.cardPowerAcquired = e.cardPowerAcquired
  reference : e'.power.state.cardAcquired = e.power.state.cardAcquired
  held : ∀ i, i < 8 → e'.held i = (e.held i && decide (i ≠ globalBase bridge + receiver))
  other : ∀ b, b ≠ bridge → e'.bank b = e.bank b
  receivers : ∀ r, (e'.bank bridge).receiverState r =
    if r = receiver then .closed else (e.bank bridge).receiverState r
  marked : (e'.bank bridge).disconnected = (e.bank bridge).disconnected
  lost : ∀ b, e.power.state.backendState b = .disconnected →
    e'.power.state.backendState b = .disconnected

variable {receiver : Nat}

theorem Chips.near (h : Chips bridge e e') (receiver : Nat) : Near bridge receiver e e' :=
  ⟨h.state, h.card, h.other, fun r _ => congrFun h.receivers r, h.lost⟩

theorem Near.trans (h : Near bridge receiver e e') (h' : Near bridge receiver e' e'') :
    Near bridge receiver e e'' where
  state := h'.state.trans h.state
  card := h'.card.trans h.card
  other b hb := (h'.other b hb).trans (h.other b hb)
  receivers r hr := (h'.receivers r hr).trans (h.receivers r hr)
  marked := h'.marked.trans h.marked

/-- The bank of a receiver that is forgotten. -/
theorem forget_bank (bridge : Bridge) (receiver : Nat) (e : Enclosure) :
    (forget bridge receiver e).bank bridge =
      ((e.bank bridge).setState receiver .closed).setSelection receiver false 0 :=
  setBank_self _ _ _

theorem forget_other {b : Bridge} (hb : b ≠ bridge) (receiver : Nat) (e : Enclosure) :
    (forget bridge receiver e).bank b = e.bank b := setBank_of_ne _ hb _

/-- A receiver is forgotten and its reference given back, in either order. -/
theorem Near.gave {e₁ e₂ : Enclosure} (h : Near bridge receiver e e₁) (hr : receiver < 4)
    (hrelease : releasePower bridge receiver e₁ = (e₂, r)) (hpower : e'.power = e₂.power)
    (hcard : e'.cardPowerAcquired = e₁.cardPowerAcquired)
    (hbank : e'.bank = (forget bridge receiver e₁).bank) : Gave bridge receiver e e' := by
  obtain ⟨hpowered, href, hheld⟩ := releasePower_spec hr hrelease
  refine ⟨hcard.trans h.card, ?_, fun i hi => ?_, fun b hb => ?_, fun j => ?_, ?_, fun b hb => ?_⟩
  · rw [hpower, href, h.state]
  · unfold Enclosure.held at hheld ⊢
    rw [hpower, hheld i hi, h.state]
  · rw [hbank, forget_other hb, h.other b hb]
  · rw [hbank, forget_bank]
    show Function.update (e₁.bank bridge).receiverState receiver .closed j = _
    rw [Function.update_apply]
    split
    · rfl
    · rename_i hj
      exact h.receivers j hj
  · rw [hbank, forget_bank]
    exact h.marked
  · rw [hpower]
    refine hpowered.lost b ?_
    rw [h.state]
    exact hb

/-- The tuners of a forgotten receiver's bank. -/
theorem forget_tuner (bridge : Bridge) (receiver : Nat) (e : Enclosure) (i : Nat) :
    ((forget bridge receiver e).bank bridge).tunerInitialized i =
      (e.bank bridge).tunerInitialized i := by
  rw [forget_bank]
  rfl

theorem releasePower_bank (bridge : Bridge) (e : Enclosure) (hr : receiver < 4) :
    (releasePower bridge receiver e).1.bank = e.bank ∧
      (releasePower bridge receiver e).1.cardPowerAcquired = e.cardPowerAcquired := by
  cases h : releasePower bridge receiver e with
  | mk e' result =>
    obtain ⟨hpowered, -⟩ := releasePower_spec hr h
    exact ⟨hpowered.bank, hpowered.card⟩

/-- **The cleanup of a failed open** closes the receiver and gives its reference back; a first open
also terminates the tuners. -/
theorem cleanupOpenFailure_spec {firstOpen : Bool} {primary : Error} (hr : receiver < 4)
    (h : cleanupOpenFailure bridge receiver firstOpen primary e = (e', r)) :
    Gave bridge receiver e e' ∧
      (∀ i, i < 4 → (e'.bank bridge).tunerInitialized i =
        if firstOpen then false else (e.bank bridge).tunerInitialized i) := by
  obtain ⟨e₁, hnear, htuner, hrest⟩ : ∃ e₁, Near bridge receiver e e₁ ∧
      (∀ i, i < 4 → (e₁.bank bridge).tunerInitialized i =
        if firstOpen then false else (e.bank bridge).tunerInitialized i) ∧
      forget bridge receiver (releasePower bridge receiver e₁).1 = e' := by
    unfold cleanupOpenFailure at h
    cases firstOpen with
    | true =>
      obtain ⟨hchips, hfalse⟩ := terminateInitialized_spec bridge e
      exact ⟨_, hchips.near receiver, hfalse, congrArg Prod.fst h⟩
    | false =>
      have hwired := sleepReceiver_wired bridge receiver e
      exact ⟨_, (hwired.chips bridge).near receiver, fun i _ => by rw [hwired.bank]; rfl,
        congrArg Prod.fst h⟩
  obtain ⟨hbank, hcard⟩ := releasePower_bank bridge e₁ hr
  subst hrest
  constructor
  · refine hnear.gave hr rfl rfl hcard ?_
    unfold forget Enclosure.setBank
    dsimp only
    rw [hbank]
  · intro i hi
    rw [forget_tuner, hbank]
    exact htuner i hi

/-- A receiver that ends leaves everything owned, if the tuners follow. -/
theorem Gave.owned (h : Gave bridge receiver e e') (hr : receiver < 4) (ho : Owned e)
    (htuner : ∀ i, i < 4 → ((e'.bank bridge).tunerInitialized i = true ↔ (e'.bank bridge).InUse)) :
    Owned e' := by
  refine ⟨fun b j hj => ?_, ?_, fun b i hi => ?_⟩
  · rw [h.held _ (globalBase_add_lt b hj), Bool.and_eq_true, decide_eq_true_iff, Ne,
      globalBase_add_inj hj hr, ho.receiver b j hj]
    by_cases hb : b = bridge
    · subst hb
      rw [h.receivers j]
      by_cases hjr : j = receiver
      · simp [hjr]
      · simp [hjr]
    · rw [h.other b hb]
      simp [hb]
  · rw [h.reference, h.card]
    exact ho.card
  · by_cases hb : b = bridge
    · subst hb
      exact htuner i hi
    · rw [h.other b hb]
      exact ho.tuner b i hi

/-- No other bank is marked, or unmarked. -/
theorem Gave.marked_all (h : Gave bridge receiver e e') (b : Bridge) :
    (e'.bank b).disconnected = (e.bank b).disconnected := by
  by_cases hb : b = bridge
  · subst hb
    exact h.marked
  · rw [h.other b hb]

/-! ## Open -/

/-- What a failed open leaves as it was. -/
structure Unchanged (e e' : Enclosure) : Prop where
  mask : e'.power.state.receiverMask = e.power.state.receiverMask
  reference : e'.power.state.cardAcquired = e.power.state.cardAcquired
  card : e'.cardPowerAcquired = e.cardPowerAcquired
  receivers : ∀ b r, r < 4 → (e'.bank b).receiverState r = (e.bank b).receiverState r
  tuner : ∀ b i, i < 4 → (e'.bank b).tunerInitialized i = (e.bank b).tunerInitialized i

theorem Unchanged.refl (e : Enclosure) : Unchanged e e :=
  ⟨rfl, rfl, rfl, fun _ _ _ => rfl, fun _ _ _ => rfl⟩

/-- What an operation does that fails, with the bridges that are lost. -/
structure Failed (e e' : Enclosure) : Prop extends Unchanged e e' where
  marked : ∀ b, (e'.bank b).disconnected = (e.bank b).disconnected
  lost : ∀ b, e.power.state.backendState b = .disconnected →
    e'.power.state.backendState b = .disconnected

theorem Failed.refl (e : Enclosure) : Failed e e :=
  ⟨.refl e, fun _ => rfl, fun _ hb => hb⟩

theorem Failed.same (h : Failed e e') : Same e e' where
  references := ⟨h.mask, h.reference⟩
  card := h.card
  closed b r hr := by rw [h.receivers b r hr]
  tuner := h.tuner
  marked := h.marked
  lost := h.lost

/-- A reference was taken for a receiver that was closed. -/
structure Took (bridge : Bridge) (receiver : Nat) (e e' : Enclosure) : Prop where
  card : e'.cardPowerAcquired = e.cardPowerAcquired
  reference : e'.power.state.cardAcquired = e.power.state.cardAcquired
  held : ∀ i, e'.held i = (e.held i || decide (i = globalBase bridge + receiver))
  other : ∀ b, b ≠ bridge → e'.bank b = e.bank b
  receivers : (e'.bank bridge).receiverState = (e.bank bridge).receiverState
  marked : (e'.bank bridge).disconnected = (e.bank bridge).disconnected
  lost : ∀ b, e.power.state.backendState b = .disconnected →
    e'.power.state.backendState b = .disconnected

/-- Taken and given back. -/
theorem Took.gave (h : Took bridge receiver e e') (h' : Gave bridge receiver e' e'')
    (hclosed : (e.bank bridge).receiverState receiver = .closed)
    (hfree : e.held (globalBase bridge + receiver) = false)
    (htuner : ∀ i, i < 4 → (e''.bank bridge).tunerInitialized i =
      (e.bank bridge).tunerInitialized i) : Failed e e'' := by
  have hother (b : Bridge) (hb : b ≠ bridge) : e''.bank b = e.bank b :=
    (h'.other b hb).trans (h.other b hb)
  refine ⟨⟨?_, h'.reference.trans h.reference, h'.card.trans h.card, fun b j _ => ?_,
    fun b i hi => ?_⟩, fun b => ?_, fun b hb => h'.lost b (h.lost b hb)⟩
  · refine BitVec.eq_of_getLsbD_eq fun i hi => ?_
    have hbit := (h'.held i hi).trans (congrArg (· && decide _) (h.held i))
    refine hbit.trans ?_
    by_cases hg : i = globalBase bridge + receiver
    · subst hg
      have hfree : e.power.state.receiverMask.getLsbD (globalBase bridge + receiver) =
          false := hfree
      simp [hfree]
    · simp [hg]
      rfl
  · by_cases hb : b = bridge
    · subst hb
      rw [h'.receivers j, h.receivers]
      split
      · rename_i hj
        rw [hj, hclosed]
      · rfl
    · rw [hother b hb]
  · by_cases hb : b = bridge
    · subst hb
      exact htuner i hi
    · rw [hother b hb]
  · by_cases hb : b = bridge
    · subst hb
      exact h'.marked.trans h.marked
    · rw [hother b hb]

/-- A bank that opens its receiver leaves everything owned. -/
theorem Took.owned (h : Took bridge receiver e e') (hr : receiver < 4) (ho : Owned e)
    (htuner : ∀ i, i < 4 → (e'.bank bridge).tunerInitialized i = true) {bank : Bank}
    (hbank : bank =
      ((e'.bank bridge).setState receiver .opened).setSelection receiver false 0) :
    Owned (e'.setBank bridge bank) := by
  have hself : (e'.setBank bridge bank).bank bridge = bank := setBank_self _ _ _
  have hstate (j : Nat) : bank.receiverState j =
      if j = receiver then .opened else (e.bank bridge).receiverState j := by
    rw [hbank, ← h.receivers]
    exact Function.update_apply _ _ _ _
  refine ⟨fun b j hj => ?_, ?_, fun b i hi => ?_⟩
  · show e'.held (globalBase b + j) = true ↔ _
    rw [h.held, Bool.or_eq_true, decide_eq_true_iff, globalBase_add_inj hj hr,
      ho.receiver b j hj]
    by_cases hb : b = bridge
    · subst hb
      rw [hself, hstate]
      by_cases hjr : j = receiver
      · simp [hjr]
      · simp [hjr]
    · rw [setBank_of_ne _ hb, h.other b hb]
      simp [hb]
  · exact h.reference.trans (ho.card.trans h.card.symm)
  · by_cases hb : b = bridge
    · subst hb
      rw [hself]
      refine iff_of_true ?_ ⟨receiver, hr, ?_⟩
      · rw [hbank]
        exact htuner i hi
      · rw [hstate, if_pos rfl]
        exact nofun
    · rw [setBank_of_ne _ hb, h.other b hb]
      exact ho.tuner b i hi

/-- An enclosure that takes references has no bridge marked. -/
theorem Sound.connected (hs : Sound e) (h : e.power.state.enclosureDisconnected = false)
    (b : Bridge) : (e.bank b).disconnected = false := by
  cases hb : (e.bank b).disconnected with
  | false => rfl
  | true =>
    have hlost := hs.lost b hb
    unfold Power.Snapshot.enclosureDisconnected at h
    cases b <;> simp [hlost] at h

/-- **An open that fails leaves the logical states as they were**, and one that succeeds keeps
everything owned. -/
theorem openReceiver_spec {system : System} (hs : Sound e)
    (h : openReceiver bridge receiver system e = (e', r)) :
    (r = .ok () ∧ Sound e' ∧ ∀ b, (e'.bank b).disconnected = (e.bank b).disconnected) ∨
      (∃ error, r = .error error) ∧ Failed e e' := by
  unfold openReceiver at h
  dsimp only at h
  split at h
  · cases h
    exact .inr ⟨⟨_, rfl⟩, .refl e⟩
  split at h
  · cases h
    exact .inr ⟨⟨_, rfl⟩, .refl e⟩
  rename_i hr
  have hr : receiver < 4 := by omega
  split at h
  · cases h
    exact .inr ⟨⟨_, rfl⟩, .refl e⟩
  split at h
  · cases h
    exact .inr ⟨⟨_, rfl⟩, .refl e⟩
  rename_i hclosed
  have hclosed := not_not.1 hclosed
  split at h
  · rename_i e₁ power hpower
    cases h
    obtain ⟨hpowered, href, ⟨hok, -⟩ | ⟨-, hmask⟩⟩ := acquirePower_spec hr hpower
    · cases hok
    · refine .inr ⟨⟨_, rfl⟩, ⟨⟨hmask, href, hpowered.card, ?_, ?_⟩, ?_, hpowered.lost⟩⟩
      · exact fun b j _ => by rw [hpowered.bank]
      · exact fun b i _ => by rw [hpowered.bank]
      · exact fun b => by rw [hpowered.bank]
  rename_i e₁ hpower
  obtain ⟨hpowered, href, ⟨-, hconnected, hheld⟩ | ⟨⟨error, he⟩, -⟩⟩ := acquirePower_spec hr hpower
  case inr => cases he
  -- the enclosure is connected, so that what the banks hold is known from here on
  have ho := hs.owned (hs.connected hconnected)
  have hfree : e.held (globalBase bridge + receiver) = false := by
    rw [← Bool.not_eq_true, ho.receiver bridge receiver hr]
    exact not_not.2 hclosed
  have htook {e₂ : Enclosure} (hchips : Chips bridge e₁ e₂) : Took bridge receiver e e₂ := by
    refine ⟨hchips.card.trans hpowered.card, by rw [hchips.state, href], fun i => ?_,
      fun b hb => by rw [hchips.other b hb, hpowered.bank], ?_, ?_, fun b hb => ?_⟩
    · unfold Enclosure.held at hheld ⊢
      rw [hchips.state, hheld i]
    · rw [hchips.receivers, hpowered.bank]
    · rw [hchips.lost, hpowered.bank]
    · rw [hchips.state]
      exact hpowered.lost b hb
  split at h
  · rename_i e₂ failure hchips
    obtain ⟨hc, -, hlater⟩ := openChips_spec hchips
    obtain ⟨hgave, htuner⟩ := cleanupOpenFailure_spec hr h
    have hresult : ∃ error, r = .error error := ⟨_, (congrArg Prod.snd h).symm⟩
    refine .inr ⟨hresult, (htook hc).gave hgave hclosed hfree fun i hi => ?_⟩
    rw [htuner i hi]
    cases hfirst : (e.bank bridge).anyOpen with
    | true =>
      rw [hfirst] at hlater
      rw [if_neg (by simp), hlater rfl, hpowered.bank]
    | false =>
      rw [if_pos (by simp)]
      have hnone : ¬(e.bank bridge).tunerInitialized i = true := by
        rw [ho.tuner bridge i hi, ← anyOpen_iff, hfirst]
        exact Bool.false_ne_true
      exact (Bool.not_eq_true _ ▸ hnone).symm
  · rename_i e₂ hchips
    cases h
    obtain ⟨hc, hfirst, hlater⟩ := openChips_spec hchips
    have htuner (i : Nat) (hi : i < 4) : (e₂.bank bridge).tunerInitialized i = true := by
      cases hopen : (e.bank bridge).anyOpen with
      | false => exact hfirst (by rw [hopen]; rfl) rfl i hi
      | true =>
        rw [hopen] at hlater
        rw [hlater rfl, hpowered.bank, ho.tuner bridge i hi, ← anyOpen_iff, hopen]
    have hmarked (b : Bridge) : ((e₂.setBank bridge (((e₂.bank bridge).setState receiver
        .opened).setSelection receiver false 0)).bank b).disconnected =
        (e.bank b).disconnected := by
      by_cases hb : b = bridge
      · subst hb
        rw [setBank_self]
        exact (htook hc).marked
      · rw [setBank_of_ne _ hb, (htook hc).other b hb]
    refine .inl ⟨rfl, ⟨fun b hb => ?_, fun _ => (htook hc).owned hr ho htuner rfl⟩, hmarked⟩
    rw [hmarked, hs.connected hconnected b] at hb
    cases hb

theorem openReceiver_failed (bridge : Bridge) (receiver : Nat) (system : System) (hs : Sound e)
    {error : Error} (h : (openReceiver bridge receiver system e).2 = .error error) :
    Failed e (openReceiver bridge receiver system e).1 := by
  cases hopen : openReceiver bridge receiver system e with
  | mk e' result =>
    rw [hopen] at h
    rcases openReceiver_spec hs hopen with ⟨rfl, -⟩ | ⟨-, hfailed⟩
    · cases h
    · exact hfailed

/-! ## Close -/

theorem endCapture_near (bridge : Bridge) (receiver : Nat) (e : Enclosure) :
    Near bridge receiver e (endCapture bridge receiver e).1 ∧
      ((endCapture bridge receiver e).1.bank bridge).tunerInitialized =
        (e.bank bridge).tunerInitialized := by
  unfold endCapture
  split
  case isFalse => exact ⟨(Chips.refl bridge e).near receiver, rfl⟩
  dsimp only
  unfold disableCapture
  split
  · rename_i w failed heq
    exact ⟨((Wired.setWire e w).chips bridge).near receiver, rfl⟩
  · rename_i w heq
    have hself : ((e.setWire w).setBank bridge
        ((e.bank bridge).setState receiver .tuned)).bank bridge =
        (e.bank bridge).setState receiver .tuned := setBank_self _ _ _
    refine ⟨⟨rfl, rfl, fun b hb => setBank_of_ne _ hb _, fun j hj => ?_, ?_⟩, ?_⟩ <;> rw [hself]
    · exact Function.update_of_ne hj _ _
    · rfl
    · rfl

/-- The chips of a receiver that is closed: the last one takes the tuners with it. -/
theorem closeChips_spec (bridge : Bridge) (receiver : Nat) (e : Enclosure) :
    let e₁ := (if !(e.bank bridge).anyOtherOpen receiver then terminateInitialized bridge e
      else sleepReceiver bridge receiver e).1
    Chips bridge e e₁ ∧ ∀ i, i < 4 → (e₁.bank bridge).tunerInitialized i =
      if (e.bank bridge).anyOtherOpen receiver then (e.bank bridge).tunerInitialized i
      else false := by
  intro e₁
  cases hopen : (e.bank bridge).anyOtherOpen receiver with
  | true =>
    have he : e₁ = (sleepReceiver bridge receiver e).1 := by simp [e₁, hopen]
    have hwired := sleepReceiver_wired bridge receiver e
    rw [he]
    exact ⟨hwired.chips bridge, fun i _ => by rw [hwired.bank]; rfl⟩
  | false =>
    have he : e₁ = (terminateInitialized bridge e).1 := by simp [e₁, hopen]
    obtain ⟨hchips, hfalse⟩ := terminateInitialized_spec bridge e
    rw [he]
    exact ⟨hchips, hfalse⟩

/-- **What a close does** to a receiver that was not closed. -/
theorem closeReceiver_gave (hconnected : (e.bank bridge).disconnected = false)
    (hr : receiver < 4) (hopen : (e.bank bridge).receiverState receiver ≠ .closed) :
    Gave bridge receiver e (closeReceiver bridge receiver e).1 ∧
      ∀ i, i < 4 → ((closeReceiver bridge receiver e).1.bank bridge).tunerInitialized i =
        if (e.bank bridge).anyOtherOpen receiver then (e.bank bridge).tunerInitialized i
        else false := by
  obtain ⟨hnear, htuner⟩ := endCapture_near bridge receiver e
  obtain ⟨hchips, hafter⟩ := closeChips_spec bridge receiver (endCapture bridge receiver e).1
  have hother : ((endCapture bridge receiver e).1.bank bridge).anyOtherOpen receiver =
      (e.bank bridge).anyOtherOpen receiver := by
    rw [Bool.eq_iff_iff, anyOtherOpen_iff, anyOtherOpen_iff]
    refine exists_congr fun j => and_congr_right fun _ => and_congr_right fun hj => ?_
    rw [hnear.receivers j hj]
  unfold closeReceiver
  dsimp only
  rw [if_neg (by simp [hconnected]), if_neg (by omega), if_neg hopen]
  dsimp only
  generalize (if !((endCapture bridge receiver e).1.bank bridge).anyOtherOpen receiver then
    terminateInitialized bridge (endCapture bridge receiver e).1
    else sleepReceiver bridge receiver (endCapture bridge receiver e).1).1 = e₁ at *
  obtain ⟨hbank, hcard⟩ := releasePower_bank bridge (forget bridge receiver e₁) hr
  have hforget : Near bridge receiver e₁ (forget bridge receiver e₁) := by
    refine ⟨rfl, rfl, fun b hb => forget_other hb _ _, fun j hj => ?_, ?_⟩
    · rw [forget_bank]
      exact Function.update_of_ne hj _ _
    · rw [forget_bank]
      rfl
  constructor
  · refine ((hnear.trans (hchips.near receiver)).trans hforget).gave hr rfl rfl hcard ?_
    rw [hbank]
    funext b
    by_cases hb : b = bridge
    · subst hb
      rw [forget_bank, forget_bank, forget_bank]
      simp [Bank.setState, Bank.setSelection]
    · rw [forget_other hb, forget_other hb, forget_other hb]
  · intro i hi
    rw [hbank, forget_tuner, hafter i hi, hother, htuner]

theorem closeReceiver_sound (bridge : Bridge) (receiver : Nat) (hs : Sound e) :
    Sound (closeReceiver bridge receiver e).1 ∧
      ∀ b, ((closeReceiver bridge receiver e).1.bank b).disconnected = (e.bank b).disconnected := by
  by_cases hconnected : (e.bank bridge).disconnected = true
  · -- a bank that is marked has only its own records
    have hclose : (closeReceiver bridge receiver e).1 =
        if receiver < 4 then forget bridge receiver e else e := by
      unfold closeReceiver
      dsimp only
      rw [if_pos hconnected]
    have hmarked (b : Bridge) :
        ((closeReceiver bridge receiver e).1.bank b).disconnected = (e.bank b).disconnected := by
      rw [hclose]
      split
      · by_cases hb : b = bridge
        · subst hb
          rw [forget_bank]
          rfl
        · rw [forget_other hb]
      · rfl
    refine ⟨⟨fun b hb => ?_, fun hall => ?_⟩, hmarked⟩
    · rw [hmarked] at hb
      have hpower : (closeReceiver bridge receiver e).1.power = e.power := by
        rw [hclose]
        split <;> rfl
      rw [hpower]
      exact hs.lost b hb
    · have hfalse := hall bridge
      rw [hmarked, hconnected] at hfalse
      cases hfalse
  rw [Bool.not_eq_true] at hconnected
  by_cases hr : receiver < 4
  case neg =>
    have hclose : (closeReceiver bridge receiver e).1 = e := by
      unfold closeReceiver
      dsimp only
      rw [if_neg (by simp [hconnected]), if_pos (by omega)]
    rw [hclose]
    exact ⟨hs, fun _ => rfl⟩
  by_cases hopen : (e.bank bridge).receiverState receiver = .closed
  · have hclose : (closeReceiver bridge receiver e).1 = e := by
      unfold closeReceiver
      dsimp only
      rw [if_neg (by simp [hconnected]), if_neg (by omega), if_pos hopen]
    rw [hclose]
    exact ⟨hs, fun _ => rfl⟩
  obtain ⟨hgave, htuner⟩ := closeReceiver_gave hconnected hr hopen
  refine ⟨⟨fun b hb => ?_, fun hall => ?_⟩, hgave.marked_all⟩
  · rw [hgave.marked_all] at hb
    exact hgave.lost b (hs.lost b hb)
  have ho := hs.owned fun b => (hgave.marked_all b).symm.trans (hall b)
  refine hgave.owned hr ho fun i hi => ?_
  -- after the close the bank is in use exactly if another receiver was open
  have huse : ((closeReceiver bridge receiver e).1.bank bridge).InUse ↔
      (e.bank bridge).anyOtherOpen receiver = true := by
    rw [anyOtherOpen_iff]
    refine exists_congr fun j => and_congr_right fun _ => ?_
    rw [hgave.receivers j]
    by_cases hj : j = receiver
    · simp [hj]
    · simp [hj]
  rw [htuner i hi, huse]
  split
  · rename_i hother
    exact iff_of_true ((ho.tuner bridge i hi).2 ⟨receiver, hr, hopen⟩) hother
  · rename_i hother
    exact iff_of_false Bool.false_ne_true hother

/-! ## The card and the loss of a bridge -/

/-- Operations of the coordinator that keep the receivers' references. -/
theorem Sound.setPower (hs : Sound e) {power : Power.Sys Wire} {card : Bool}
    (hmask : power.state.receiverMask = e.power.state.receiverMask)
    (hcard : Owned e → power.state.cardAcquired = card)
    (hlost : ∀ b, e.power.state.backendState b = .disconnected →
      power.state.backendState b = .disconnected) : Sound ((e.setPower power).setCard card) := by
  refine ⟨fun b hb => hlost b (hs.lost b hb), fun hall => ?_⟩
  have ho := hs.owned hall
  refine ⟨fun b j hj => ?_, hcard ho, ho.tuner⟩
  show power.state.receiverMask.getLsbD _ = true ↔ _
  rw [hmask]
  exact ho.receiver b j hj

theorem setCardPower_sound (hs : Sound e) (on : Bool) :
    Sound (setCardPower on e).1 ∧ (setCardPower on e).1.bank = e.bank := by
  have hkept : ∀ b, e.power.state.backendState b = .disconnected →
      e.power.state.backendState b = .disconnected := fun _ hb => hb
  unfold setCardPower
  split
  · split
    · exact ⟨hs, rfl⟩
    · rename_i hfree
      have hlost := (lost_rule e.power.state).acquireCard (s := e.power) hkept
      unfold acquireCard
      cases hacq : Power.acquireCard wireBackend e.power with
      | mk power result =>
        rw [hacq] at hlost
        rcases Power.acquireCard_spec hacq with ⟨rfl, -, hmask, hcard, -⟩ | ⟨⟨error, rfl⟩, hsame⟩
        · exact ⟨hs.setPower hmask (fun _ => hcard) hlost, rfl⟩
        · exact ⟨hs.setPower hsame.1 (fun ho => hsame.2.trans ho.card) hlost, rfl⟩
  · split
    · have hlost := (lost_rule e.power.state).reconcile (s := e.power) hkept
      unfold reconcilePower
      cases hrec : Power.reconcile wireBackend e.power with
      | mk power result =>
        rw [hrec] at hlost
        have hsame := (Power.reconcile_spec hrec).1
        exact ⟨hs.setPower hsame.1 (fun ho => hsame.2.trans ho.card) hlost, rfl⟩
    · have hlost := (lost_rule e.power.state).releaseCard (s := e.power) hkept
      unfold releaseCard
      have hpower : (e.setCard false).power = e.power := rfl
      rw [hpower]
      cases hrel : Power.releaseCard wireBackend e.power with
      | mk power result =>
        rw [hrel] at hlost
        have hsound : Sound ((e.setPower power).setCard false) := by
          rcases Power.releaseCard_spec hrel with ⟨-, rfl, hfree⟩ | ⟨hmask, hcard, -⟩
          · exact hs.setPower rfl (fun _ => hfree) hlost
          · exact hs.setPower hmask (fun _ => hcard) hlost
        split <;> rename_i heq <;> cases heq <;> exact ⟨hsound, rfl⟩

theorem markBridgeDisconnected_sound (hs : Sound e) (bridge : Bridge) :
    Sound (markBridgeDisconnected bridge e).1 ∧
      ((markBridgeDisconnected bridge e).1.bank bridge).disconnected = true ∧
      ∀ b, (e.bank b).disconnected = true →
        ((markBridgeDisconnected bridge e).1.bank b).disconnected = true := by
  have hself : (markBridgeDisconnected bridge e).1.bank bridge = (e.bank bridge).lost :=
    setBank_self _ _ _
  have hmarked : ((markBridgeDisconnected bridge e).1.bank bridge).disconnected = true := by
    rw [hself]
    rfl
  refine ⟨⟨fun b hb => ?_, fun hall => ?_⟩, hmarked, fun b hb => ?_⟩
  · show (e.power.state.disconnect bridge).backendState b = .disconnected
    rw [Power.disconnect_state]
    by_cases hbb : b = bridge
    · rw [if_pos hbb]
    · have hold : (markBridgeDisconnected bridge e).1.bank b = e.bank b := setBank_of_ne _ hbb _
      rw [hold] at hb
      rw [if_neg hbb, hs.lost b hb]
      rfl
  · rw [hall bridge] at hmarked
    cases hmarked
  · by_cases hbb : b = bridge
    · subst hbb
      exact hmarked
    · have hold : (markBridgeDisconnected bridge e).1.bank b = e.bank b := setBank_of_ne _ hbb _
      rw [hold]
      exact hb

/-! ## Runs -/

/-- What every operation keeps: the invariant, and the marks of lost bridges. -/
def Kept (e e' : Enclosure) : Prop :=
  Sound e' ∧ ∀ b, (e.bank b).disconnected = true → (e'.bank b).disconnected = true

theorem Same.kept (h : Same e e') (hs : Sound e) : Kept e e' :=
  ⟨h.sound hs, fun b hb => (h.marked b).trans hb⟩

theorem Kept.route {op : Bridge → Nat → Enclosure → Enclosure × Result Unit} (hs : Sound e)
    (h : ∀ b r, Kept e (op b r e).1) (receiver : Nat) : Kept e (route receiver op e).1 := by
  unfold Frontend.route
  split
  · exact ⟨hs, fun _ hb => hb⟩
  · exact h _ _

/-- **Every operation keeps the invariant.** -/
theorem call_kept (hs : Sound e) (op : Call) : Kept e (call e op).1 := by
  cases op with
  | «open» receiver system =>
    refine Kept.route hs (fun b r => ?_) receiver
    cases hopen : openReceiver b r system e with
    | mk e' result =>
      rcases openReceiver_spec hs hopen with ⟨-, hsound, hmarked⟩ | ⟨-, hfailed⟩
      · exact ⟨hsound, fun j hj => (hmarked j).trans hj⟩
      · exact hfailed.same.kept hs
  | tune receiver khz system timeout =>
    exact Kept.route hs (fun b r => (tuneReceiver_same r khz system timeout e).kept hs) receiver
  | selectSlot receiver slot timeout =>
    exact Kept.route hs (fun b r => (selectSatelliteSlot_same r slot timeout e).kept hs) receiver
  | selectTsid receiver tsid timeout =>
    exact Kept.route hs (fun b r => (selectSatelliteTsid_same r tsid timeout e).kept hs) receiver
  | startCapture receiver system =>
    exact Kept.route hs (fun b r => (startCapture_same r system e).kept hs) receiver
  | stopCapture receiver system =>
    exact Kept.route hs (fun b r => (stopCapture_same r system e).kept hs) receiver
  | isLocked receiver system =>
    exact Kept.route hs (fun b r => (isLocked_same r system e).kept hs) receiver
  | close receiver =>
    refine Kept.route hs (fun b r => ?_) receiver
    obtain ⟨hsound, hmarked⟩ := closeReceiver_sound b r hs
    exact ⟨hsound, fun j hj => (hmarked j).trans hj⟩
  | setCardPower on =>
    obtain ⟨hsound, hbank⟩ := setCardPower_sound hs on
    exact ⟨hsound, fun b hb => by
      show ((setCardPower on e).1.bank b).disconnected = true
      rw [hbank]
      exact hb⟩
  | markBridgeDisconnected bridge =>
    obtain ⟨hsound, -, hmarked⟩ := markBridgeDisconnected_sound hs bridge
    exact ⟨hsound, hmarked⟩

theorem calls_kept (hs : Sound e) (ops : List Call) : Kept e (calls e ops) := by
  refine Lib.foldl_inv (P := Kept e) (fun e' op h => ?_) ops ⟨hs, fun _ hb => hb⟩
  obtain ⟨hsound, hmarked⟩ := call_kept h.1 op
  exact ⟨hsound, fun b hb => hmarked b (h.2 b hb)⟩

theorem start_sound (purgers : Bridge → Bool) (replies : Nat → Result Nat) :
    Sound (start purgers replies) := by
  refine ⟨nofun, fun _ => ⟨fun b j _ => ?_, rfl, fun b i _ => ?_⟩⟩
  · refine iff_of_false ?_ (not_not.2 rfl)
    show ¬(0#8).getLsbD _ = true
    simp
  · exact iff_of_false Bool.false_ne_true fun ⟨_, _, hne⟩ => hne rfl

/-- **A marked bank does nothing.** -/
theorem call_silent {op : Call} {receiver : Nat} (hop : op.receiver? = some receiver)
    (hmarked : (e.bank (Power.bridgeOf receiver)).disconnected = true) :
    (call e op).1.wire = e.wire := by
  have hroute {f : Bridge → Nat → Enclosure → Enclosure × Result Unit}
      (hf : (f (Power.bridgeOf receiver) (receiver % 4) e).1.wire = e.wire) :
      (route receiver f e).1.wire = e.wire := by
    unfold route
    split
    · rfl
    · exact hf
  cases op with
  | setCardPower on => cases hop
  | markBridgeDisconnected bridge => cases hop
  | close r =>
    obtain rfl := Option.some.inj hop
    refine hroute ?_
    unfold closeReceiver
    dsimp only
    rw [if_pos hmarked]
    dsimp only
    split <;> rfl
  | _ =>
    obtain rfl := Option.some.inj hop
    refine hroute ?_
    simp only [openReceiver, tuneReceiver, selectSatelliteSlot, selectSatelliteTsid, startCapture,
      stopCapture, isLocked, hmarked, if_true]

/-- A global receiver and its place in a bank. -/
theorem globalBase_bridgeOf {receiver : Nat} (h : receiver < 8) :
    globalBase (Power.bridgeOf receiver) + receiver % 4 = receiver := by
  unfold Power.bridgeOf
  split <;> simp only [globalBase] <;> omega

/-- **Who owns the power of an enclosure.** In every state of every run, whatever the I2C transfers,
purges and power writes come to: as long as no bridge is disconnected, the bit of a receiver is set
in the coordinator's mask exactly if the receiver is not closed, the card reference is the one the
card backend holds, and the tuners of a bank are initialized, all four, exactly if one of its
receivers is not closed; an open that fails leaves all of this as it was; and after
`mark_bridge_disconnected` no operation on a receiver of that bridge accesses a bridge. -/
theorem enclosure_ownership (purgers : Bridge → Bool) (replies : Nat → Result Nat)
    (ops : List Call) :
    let e := calls (start purgers replies) ops
    ((∀ b, e.power.state.backendState b ≠ .disconnected) →
      (∀ r, r < 8 → (e.power.state.receiverMask.getLsbD r = true ↔
        (e.bank (Power.bridgeOf r)).receiverState (r % 4) ≠ .closed)) ∧
      e.power.state.cardAcquired = e.cardPowerAcquired ∧
      (∀ b i, i < 4 → ((e.bank b).tunerInitialized i = true ↔
        ∃ r, r < 4 ∧ (e.bank b).receiverState r ≠ .closed))) ∧
    (∀ receiver system error, (call e (.open receiver system)).2 = .error error →
      Unchanged e (call e (.open receiver system)).1) ∧
    (∀ more op receiver, op.receiver? = some receiver →
      let e' := calls e (.markBridgeDisconnected (Power.bridgeOf receiver) :: more)
      (call e' op).1.wire.log = e'.wire.log) := by
  intro e
  have hs : Sound e := (calls_kept (start_sound purgers replies) ops).1
  refine ⟨fun hconnected => ?_, fun receiver system error herror => ?_,
    fun more op receiver hop => ?_⟩
  · have ho : Owned e := by
      refine hs.owned fun b => ?_
      cases hb : (e.bank b).disconnected with
      | false => rfl
      | true => exact absurd (hs.lost b hb) (hconnected b)
    refine ⟨fun r hr => ?_, ho.card, ho.tuner⟩
    have hreceiver := ho.receiver (Power.bridgeOf r) (r % 4) (Nat.mod_lt _ (by decide))
    rwa [globalBase_bridgeOf hr] at hreceiver
  · have hopen : call e (.open receiver system) =
        route receiver (fun b r => openReceiver b r system) e := rfl
    rw [hopen] at herror ⊢
    unfold route at herror ⊢
    split at herror
    · rename_i hr
      rw [if_pos hr]
      exact .refl e
    · rename_i hr
      rw [if_neg hr]
      exact (openReceiver_failed _ _ system hs herror).toUnchanged
  · intro e'
    obtain ⟨hsound, hmarked, -⟩ := markBridgeDisconnected_sound hs (Power.bridgeOf receiver)
    have hstill := (calls_kept hsound more).2 _ hmarked
    exact congrArg Wire.log (call_silent hop hstill)

end Px4.Frontend
