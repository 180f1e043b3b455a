import Px4.Power.Mlt5Pe
import Px4.Lib.Lockstep

/-!
# One bridge and two

`Mlt5PePowerCoordinator` and a `Q3U4PowerCoordinator` whose second bridge never fails run in
lockstep on the receivers of the first bridge: `Same` relates their states and `call_lockstep` is
one operation of both.
-/

namespace Px4.Power

open It930x (PowerState)

section

variable {σ : Type} (be : Mlt5Pe.Backend σ)

/-- The backends of an enclosure whose second bridge always succeeds, at no cost to the first. -/
def besideGood : Backend σ
  | .dev1, on, hw => be on hw
  | .dev2, _, hw => (hw, .ok ())

/-- The operations that both coordinators have, on the receivers of the first bridge. -/
inductive SharedCall
  | acquireReceiver (receiver : Fin 4)
  | releaseReceiver (receiver : Fin 4)
  | acquireCard
  | releaseCard
  | reconcile
  | disconnect
  deriving DecidableEq, Repr

/-- As a call of `Mlt5PePowerCoordinator`. -/
def SharedCall.one : SharedCall → Mlt5Pe.Call
  | .acquireReceiver receiver => .acquireReceiver receiver
  | .releaseReceiver receiver => .releaseReceiver receiver
  | .acquireCard => .acquireCard
  | .releaseCard => .releaseCard
  | .reconcile => .reconcile
  | .disconnect => .disconnect

/-- As a call of `Q3U4PowerCoordinator`. -/
def SharedCall.two : SharedCall → Call
  | .acquireReceiver receiver => .acquireReceiver receiver
  | .releaseReceiver receiver => .releaseReceiver receiver
  | .acquireCard => .acquireCard
  | .releaseCard => .releaseCard
  | .reconcile => .reconcile
  | .disconnect => .disconnect .dev1

/-- The two coordinators agree: on the references, on the state of the (first) bridge and on its
hardware; and the second bridge is there. -/
structure Same (s : Mlt5Pe.Sys σ) (t : Sys σ) : Prop where
  mask : t.state.receiverMask = s.state.receiverMask
  card : t.state.cardAcquired = s.state.cardAcquired
  backend : t.state.backendState .dev1 = s.state.backendState
  hw : t.hw = s.hw
  second : t.state.backendState .dev2 ≠ .disconnected

variable {s : Mlt5Pe.Sys σ} {t : Sys σ}

theorem Same.setReferences (h : Same s t) (mask : BitVec 8) (card : Bool) :
    Same (s.setReferences mask card) (t.setReferences mask card) :=
  ⟨rfl, rfl, h.backend, h.hw, h.second⟩

theorem Same.desired (h : Same s t) : t.state.desiredPower .dev1 = s.state.wanted := by
  unfold Snapshot.desiredPower Mlt5Pe.Snapshot.wanted
  rw [h.mask, h.card]
  split <;> simp_all

theorem Same.enclosureDisconnected (h : Same s t) :
    t.state.enclosureDisconnected = decide (s.state.backendState = .disconnected) := by
  have h2 : (t.state.backendState .dev2 == .disconnected) = false := by simpa using h.second
  simp only [Snapshot.enclosureDisconnected, h2, Bool.or_false, h.backend]
  cases s.state.backendState <;> rfl

/-- The second bridge follows without a failure. -/
theorem Same.second_bridge (h : Same s t) (on : Bool) :
    (setBridge (besideGood be) .dev2 on t).2 = .ok () ∧
      Same s (setBridge (besideGood be) .dev2 on t).1 := by
  unfold setBridge
  dsimp only
  rw [if_neg h.second]
  split
  · exact ⟨rfl, h⟩
  · refine ⟨rfl, h.mask, h.card, h.backend, h.hw, ?_⟩
    cases on <;> simp [besideGood, Snapshot.setBackend]

/-- The first bridge does what the one bridge does. -/
theorem Same.first_bridge (h : Same s t) :
    (setBridge (besideGood be) .dev1 (t.state.desiredPower .dev1) t).2 = (Mlt5Pe.apply be s).2 ∧
      Same (Mlt5Pe.apply be s).1
        (setBridge (besideGood be) .dev1 (t.state.desiredPower .dev1) t).1 := by
  have hset : ∀ (state : PowerState) (hw : σ), Same (s.setBackend state hw)
      ⟨t.state.setBackend .dev1 state, hw⟩ := fun state hw =>
    ⟨h.mask, h.card, by simp [Snapshot.setBackend, Mlt5Pe.Sys.setBackend], rfl, h.second⟩
  rw [h.desired]
  unfold setBridge Mlt5Pe.apply
  dsimp only
  rw [h.backend]
  split
  · exact ⟨rfl, h⟩
  · split
    · exact ⟨rfl, h⟩
    · simp only [besideGood, h.hw]
      rcases be s.state.wanted s.hw with ⟨hw, e | ⟨⟩⟩
      · exact ⟨rfl, hset _ hw⟩
      · exact ⟨rfl, hset _ hw⟩

/-- **Applying the references** comes to the same. -/
theorem Same.apply (h : Same s t) :
    (applyDesired (besideGood be) .dev1 t).2 = (Mlt5Pe.apply be s).2 ∧
      Same (Mlt5Pe.apply be s).1 (applyDesired (besideGood be) .dev1 t).1 := by
  obtain ⟨hres, hsame⟩ := h.first_bridge be
  unfold applyDesired
  rcases hb : setBridge (besideGood be) .dev1 (t.state.desiredPower .dev1) t with ⟨t1, e | ⟨⟩⟩
  · rw [hb] at hres hsame
    exact ⟨hres, hsame⟩
  · rw [hb] at hres hsame
    obtain ⟨hres2, hsame2⟩ := hsame.second_bridge be
      (t1.state.desiredPower (Bridge.other .dev1))
    exact ⟨hres2.trans hres, hsame2⟩

theorem apply_references (s : Mlt5Pe.Sys σ) :
    (Mlt5Pe.apply be s).1.state.receiverMask = s.state.receiverMask ∧
      (Mlt5Pe.apply be s).1.state.cardAcquired = s.state.cardAcquired := by
  unfold Mlt5Pe.apply
  dsimp only
  split
  · exact ⟨rfl, rfl⟩
  · split
    · exact ⟨rfl, rfl⟩
    · split <;> exact ⟨rfl, rfl⟩

/-- **References that are taken**, and given back if the bridge cannot be switched on. -/
theorem Same.acquire (h : Same s t) (mask : BitVec 8) (card : Bool) :
    let s1 := Mlt5Pe.apply be (s.setReferences mask card)
    let back := Mlt5Pe.apply be (s1.1.setReferences s.state.receiverMask s.state.cardAcquired)
    (Power.acquire (besideGood be) mask card .dev1 t).2 = s1.2 ∧
      Same (if s1.2 = .ok () then s1.1 else back.1)
        (Power.acquire (besideGood be) mask card .dev1 t).1 := by
  obtain ⟨hres, hsame⟩ := (h.setReferences mask card).apply be
  dsimp only
  unfold Power.acquire rollbackLogical
  rcases hx : applyDesired (besideGood be) .dev1 (t.setReferences mask card) with ⟨t1, e | ⟨⟩⟩
  · rw [hx] at hres hsame
    refine ⟨hres, ?_⟩
    rw [← hres, if_neg nofun, h.mask, h.card]
    exact ((hsame.setReferences s.state.receiverMask s.state.cardAcquired).apply be).2
  · rw [hx] at hres hsame
    refine ⟨hres, ?_⟩
    rw [← hres, if_pos rfl]
    exact hsame

theorem or_and_not_of_and_eq_zero {mask bit : BitVec 8} (h : mask &&& bit = 0) :
    (mask ||| bit) &&& ~~~bit = mask := by
  ext i hi
  have hi' := congrArg (fun v : BitVec 8 => v.getLsbD i) h
  simp at hi' ⊢
  grind

theorem Same.acquireReceiver (h : Same s t) (receiver : Fin 4) :
    (Power.acquireReceiver (besideGood be) receiver t).2 =
    (Mlt5Pe.acquireReceiver be receiver s).2 ∧
      Same (Mlt5Pe.acquireReceiver be receiver s).1
        (Power.acquireReceiver (besideGood be) receiver t).1 := by
  have h7 : ¬7 < receiver.val := by omega
  have h5 : ¬Device.kMlt5PeReceiverCount ≤ receiver.val := by
    simp only [Device.kMlt5PeReceiverCount]
    omega
  have hb : bridgeOf receiver = .dev1 := by simp [bridgeOf]
  unfold Power.acquireReceiver Mlt5Pe.acquireReceiver
  dsimp only
  rw [h.enclosureDisconnected, h.mask, h.card, if_neg h7, if_neg h5, hb]
  by_cases hd : s.state.backendState = .disconnected
  · simp only [hd, decide_true, if_true]
    exact ⟨trivial, h⟩
  · simp only [hd, decide_false, Bool.false_eq_true, if_false]
    split
    · exact ⟨rfl, h⟩
    · next hbit =>
      have ha := h.acquire be (s.state.receiverMask ||| receiverBit receiver) s.state.cardAcquired
      have href := apply_references be (s.setReferences
        (s.state.receiverMask ||| receiverBit receiver) s.state.cardAcquired)
      rcases hx : Mlt5Pe.apply be (s.setReferences
        (s.state.receiverMask ||| receiverBit receiver) s.state.cardAcquired) with ⟨s1, e | ⟨⟩⟩
      · rw [hx] at ha href
        have hm : s1.state.receiverMask &&& ~~~receiverBit receiver = s.state.receiverMask := by
          rw [href.1]
          exact or_and_not_of_and_eq_zero (not_not.1 hbit)
        have hc : s1.state.cardAcquired = s.state.cardAcquired := href.2
        simpa [hm, hc] using ha
      · rw [hx] at ha
        simpa using ha

theorem Same.releaseReceiver (h : Same s t) (receiver : Fin 4) :
    (Power.releaseReceiver (besideGood be) receiver t).2 =
    (Mlt5Pe.releaseReceiver be receiver s).2 ∧
      Same (Mlt5Pe.releaseReceiver be receiver s).1
        (Power.releaseReceiver (besideGood be) receiver t).1 := by
  have h7 : ¬7 < receiver.val := by omega
  have h5 : ¬Device.kMlt5PeReceiverCount ≤ receiver.val := by
    simp only [Device.kMlt5PeReceiverCount]
    omega
  have hb : bridgeOf receiver = .dev1 := by simp [bridgeOf]
  unfold Power.releaseReceiver Mlt5Pe.releaseReceiver
  dsimp only
  rw [h.mask, h.card, if_neg h7, if_neg h5, hb]
  split
  · exact ⟨rfl, h⟩
  · exact (h.setReferences _ _).apply be

theorem Same.acquireCard (h : Same s t) :
    (Power.acquireCard (besideGood be) t).2 = (Mlt5Pe.acquireCard be s).2 ∧
      Same (Mlt5Pe.acquireCard be s).1 (Power.acquireCard (besideGood be) t).1 := by
  unfold Power.acquireCard Mlt5Pe.acquireCard
  dsimp only
  rw [h.enclosureDisconnected, h.mask, h.card]
  by_cases hd : s.state.backendState = .disconnected
  · simp only [hd, decide_true, if_true]
    exact ⟨trivial, h⟩
  · simp only [hd, decide_false, Bool.false_eq_true, if_false]
    split
    · exact ⟨rfl, h⟩
    · next hcard =>
      have ha := h.acquire be s.state.receiverMask true
      have href := apply_references be (s.setReferences s.state.receiverMask true)
      rcases hx : Mlt5Pe.apply be (s.setReferences s.state.receiverMask true) with ⟨s1, e | ⟨⟩⟩
      · rw [hx] at ha href
        have hm : s1.state.receiverMask = s.state.receiverMask := href.1
        have hc : s.state.cardAcquired = false := by simpa using hcard
        simpa [hm, hc] using ha
      · rw [hx] at ha
        simpa using ha

theorem Same.releaseCard (h : Same s t) :
    (Power.releaseCard (besideGood be) t).2 = (Mlt5Pe.releaseCard be s).2 ∧
      Same (Mlt5Pe.releaseCard be s).1 (Power.releaseCard (besideGood be) t).1 := by
  unfold Power.releaseCard Mlt5Pe.releaseCard
  rw [h.mask, h.card]
  split
  · exact ⟨rfl, h⟩
  · exact (h.setReferences _ _).apply be

theorem Same.reconcile (h : Same s t) :
    (Power.reconcile (besideGood be) t).2 = (Mlt5Pe.reconcile be s).2 ∧
      Same (Mlt5Pe.reconcile be s).1 (Power.reconcile (besideGood be) t).1 := by
  unfold Power.reconcile Mlt5Pe.reconcile
  rw [h.enclosureDisconnected]
  by_cases hd : s.state.backendState = .disconnected
  · simp only [hd, decide_true, if_true]
    exact ⟨trivial, h⟩
  · simp only [hd, decide_false, Bool.false_eq_true, if_false]
    exact h.apply be

theorem Same.disconnect (h : Same s t) :
    Same (Mlt5Pe.disconnect s) (Power.disconnect .dev1 t).1 := by
  have hsecond := h.second
  unfold Power.disconnect Snapshot.disconnect Mlt5Pe.disconnect
  dsimp only
  split
  · exact ⟨rfl, rfl, by simp [Snapshot.setBackend, Snapshot.setReferences, Bridge.other], h.hw,
      by simp [Snapshot.setBackend, Bridge.other]⟩
  · exact ⟨rfl, rfl, by simp [Snapshot.setBackend, Snapshot.setReferences], h.hw,
      by simpa [Snapshot.setBackend, Snapshot.setReferences] using hsecond⟩

/-- **One operation of both.** -/
theorem call_lockstep :
    Lib.Lockstep Same (fun s (op : SharedCall) => Mlt5Pe.call be s op.one)
      (fun t op => call (besideGood be) t op.two) := by
  intro s t op h
  cases op with
  | acquireReceiver receiver => exact (h.acquireReceiver be receiver).imp Eq.symm id
  | releaseReceiver receiver => exact (h.releaseReceiver be receiver).imp Eq.symm id
  | acquireCard => exact (h.acquireCard be).imp Eq.symm id
  | releaseCard => exact (h.releaseCard be).imp Eq.symm id
  | reconcile => exact (h.reconcile be).imp Eq.symm id
  | disconnect => exact ⟨rfl, h.disconnect⟩

end

end Px4.Power
