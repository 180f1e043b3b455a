import Px4.Lnb.Coordinator
import Px4.Lnb.Mlt5Pe
import Px4.Power.Proof.OneBridge

/-!
# One line and two

`Mlt5PeLnbPowerCoordinator` and the first bridge of a `Q3U4LnbPowerCoordinator` whose second bridge
never fails run in lockstep on the receivers 0 and 1 (`call_lockstep`). With `Power.call_lockstep`
this is `coordinators_agree`.
-/

namespace Px4.Lnb.OneBridge

open Mlt5Pe (Line)

/-- The backends of an enclosure whose second bridge always succeeds, at no cost to the first. -/
def besideGood : Backend Line := fun bridge on hw =>
  if bridge = 0 then hw.write () on else (hw, .ok ())

/-- The operations that both coordinators have, on the satellite receivers of the first bridge. -/
inductive SharedCall
  | beginTune (receiver : Fin 2) (voltage : Nat)
  | commitTune (receiver : Fin 2)
  | rollbackTune (receiver : Fin 2)
  | release (receiver : Fin 2)
  | setIndependentPower (enabled : Bool)
  | shutdown
  | disconnect
  deriving DecidableEq, Repr

/-- As a call of `Mlt5PeLnbPowerCoordinator`. -/
def SharedCall.one (s : Mlt5Pe.Sys) : SharedCall → Mlt5Pe.Sys × Result Unit
  | .beginTune receiver voltage => Mlt5Pe.beginTune receiver voltage s
  | .commitTune receiver => Mlt5Pe.commitTune receiver s
  | .rollbackTune receiver => Mlt5Pe.rollbackTune receiver s
  | .release receiver => Mlt5Pe.releaseReceiver receiver s
  | .setIndependentPower enabled => Mlt5Pe.setIndependentPower enabled s
  | .shutdown => Mlt5Pe.shutdown s
  | .disconnect => (Mlt5Pe.disconnect s, .ok ())

/-- As a call of `Q3U4LnbPowerCoordinator`. -/
def SharedCall.two (t : Sys Line) : SharedCall → Sys Line × Result Unit
  | .beginTune receiver voltage => Lnb.beginTune besideGood receiver voltage t
  | .commitTune receiver => Lnb.commitTune receiver t
  | .rollbackTune receiver => Lnb.rollbackTune besideGood receiver t
  | .release receiver => Lnb.releaseReceiver besideGood receiver t
  | .setIndependentPower enabled => Lnb.setIndependentPower besideGood enabled t
  | .shutdown => Lnb.shutdown besideGood t
  | .disconnect => Lnb.disconnect 0 t

/-- The same request: without a commit nothing is committed. -/
structure SameRequest (a : Mlt5Pe.ReceiverRequest) (b : ReceiverRequest) : Prop where
  pending : b.pending = a.pending
  pending15v : b.pending15v = a.pending15v
  committed15v : (b.committed && b.committed15v) = a.committed15v

theorem SameRequest.enabled {a : Mlt5Pe.ReceiverRequest} {b : ReceiverRequest}
    (h : SameRequest a b) : b.enabled = a.enabled := by
  unfold ReceiverRequest.enabled Mlt5Pe.ReceiverRequest.enabled
  rw [h.pending, h.pending15v, h.committed15v]

/-- The two coordinators agree on the receivers 0 and 1, on independent power, on the state of the
(first) bridge and on its line; nobody else asks for power, and the second bridge is there. -/
structure Same (s : Mlt5Pe.Sys) (t : Sys Line) : Prop where
  allow : t.coord.allow15v = s.coord.allow15v
  requests : ∀ r < 2, SameRequest (s.coord.receivers r) (t.coord.receivers r)
  others : ∀ r, 2 ≤ r → s.coord.receivers r = {}
  independent : t.coord.independent15v = s.coord.independent15v
  state : t.coord.physicalState 0 = s.coord.physicalState
  debt : t.coord.cleanupDebt 0 = s.coord.cleanupDebt
  hw : t.hw = s.hw
  second : t.coord.physicalState 1 ≠ .disconnected

variable {s : Mlt5Pe.Sys} {t : Sys Line}

theorem Same.refCount (h : Same s t) : t.coord.refCount 0 = s.coord.refCount := by
  have h0 := (h.requests 0 (by omega)).enabled
  have h1 := (h.requests 1 (by omega)).enabled
  have hoff : Mlt5Pe.ReceiverRequest.enabled {} = false := rfl
  have hrange : List.range Device.kMlt5PeReceiverCount = [0, 1, 2, 3, 4] := by decide
  simp only [Coordinator.refCount, Mlt5Pe.Coordinator.refCount, hrange, if_true, h0, h1,
    h.independent, List.filter_cons, List.filter_nil, h.others 2 (by omega), h.others 3 (by omega),
    h.others 4 (by omega), hoff]
  cases (s.coord.receivers 0).enabled <;> cases (s.coord.receivers 1).enabled <;> simp

/-- Another request of a receiver 0 or 1. -/
theorem Same.setRequest (h : Same s t) {receiver : Nat} (hr : receiver < 2)
    {a : Mlt5Pe.ReceiverRequest} {b : ReceiverRequest} (hab : SameRequest a b) :
    Same (s.with (s.coord.setRequest receiver a))
      { t with coord := t.coord.setRequest receiver b } := by
  refine ⟨h.allow, fun r hr' => ?_, fun r hr' => ?_, h.independent, h.state, h.debt, h.hw, h.second⟩
  · by_cases he : r = receiver
    · subst he
      simpa [Mlt5Pe.Sys.with, Mlt5Pe.Coordinator.setRequest] using hab
    · simpa [Mlt5Pe.Sys.with, Mlt5Pe.Coordinator.setRequest, he] using h.requests r hr'
  · have hne : r ≠ receiver := by omega
    simpa [Mlt5Pe.Sys.with, Mlt5Pe.Coordinator.setRequest, hne] using h.others r hr'

theorem Same.setIndependent (h : Same s t) (enabled : Bool) :
    Same (s.with (s.coord.setIndependent enabled))
      { t with coord := t.coord.setIndependent enabled } :=
  ⟨h.allow, h.requests, h.others, rfl, h.state, h.debt, h.hw, h.second⟩

/-- The second bridge follows without a failure. -/
theorem Same.second_bridge (h : Same s t) :
    (applyBridge besideGood 1 t).2 = .ok () ∧ Same s (applyBridge besideGood 1 t).1 := by
  unfold applyBridge
  dsimp only
  rw [if_neg h.second]
  split
  · exact ⟨rfl, h⟩
  · refine ⟨rfl, h.allow, h.requests, h.others, h.independent, ?_, ?_, h.hw, ?_⟩
    · simpa [besideGood] using h.state
    · simpa [besideGood] using h.debt
    · cases t.coord.refCount 1 != 0 <;> simp [besideGood]

/-- The first bridge does what the one bridge does. -/
theorem Same.first_bridge (h : Same s t) :
    (applyBridge besideGood 0 t).2 = (Mlt5Pe.apply s).2 ∧
      Same (Mlt5Pe.apply s).1 (applyBridge besideGood 0 t).1 := by
  have hset : ∀ (state : PhysicalState) (debt : Bool) (hw : Line),
      Same ⟨s.coord.setPhysical state debt, hw⟩ ⟨t.coord.setPhysical 0 state debt, hw⟩ :=
    fun state debt hw => ⟨h.allow, h.requests, h.others, h.independent, by
      simp [Mlt5Pe.Coordinator.setPhysical], by simp [Mlt5Pe.Coordinator.setPhysical], rfl, by
      simpa using h.second⟩
  unfold applyBridge Mlt5Pe.apply
  dsimp only
  rw [h.refCount, h.state, h.debt]
  split
  · exact ⟨rfl, h⟩
  · split
    · exact ⟨rfl, h⟩
    · simp only [besideGood, if_true, h.hw]
      rcases s.hw.write () (s.coord.refCount != 0) with ⟨hw, e | ⟨⟩⟩
      · cases e <;> exact ⟨rfl, hset _ _ hw⟩
      · exact ⟨rfl, hset _ _ hw⟩

theorem Same.both (h : Same s t) :
    (applyBoth besideGood t).2 = (Mlt5Pe.apply s).2 ∧
      Same (Mlt5Pe.apply s).1 (applyBoth besideGood t).1 := by
  obtain ⟨hres, hsame⟩ := h.first_bridge
  unfold applyBoth
  rcases hb : applyBridge besideGood 0 t with ⟨t1, e | ⟨⟩⟩
  · rw [hb] at hres hsame
    exact ⟨hres, hsame.second_bridge.2⟩
  · rw [hb] at hres hsame
    exact ⟨hsame.second_bridge.1.trans hres, hsame.second_bridge.2⟩

/-! ## The operations -/

theorem valid_receiver (receiver : Fin 2) : validSatelliteReceiver receiver = true := by
  rcases receiver with ⟨_ | _ | r, hlt⟩
  · rfl
  · rfl
  · omega

theorem bridgeIndex_receiver (receiver : Fin 2) : bridgeIndexForReceiver receiver = 0 := by
  unfold bridgeIndexForReceiver
  rw [if_pos (by omega)]

theorem not_count_le_receiver (receiver : Fin 2) :
    ¬Device.kMlt5PeReceiverCount ≤ receiver.val := by
  simp only [Device.kMlt5PeReceiverCount]
  omega

theorem Same.beginTune (h : Same s t) (receiver : Fin 2) (voltage : Nat) :
    (Lnb.beginTune besideGood receiver voltage t).2 = (Mlt5Pe.beginTune receiver voltage s).2 ∧
      Same (Mlt5Pe.beginTune receiver voltage s).1
        (Lnb.beginTune besideGood receiver voltage t).1 := by
  have hr := h.requests receiver receiver.isLt
  unfold Lnb.beginTune Mlt5Pe.beginTune
  simp only [valid_receiver, not_count_le_receiver, bridgeIndex_receiver, h.allow, h.state,
    h.second, or_false, false_or, Bool.not_true, Bool.false_or, hr.pending]
  have hv : ((voltage != 0 && voltage != 15) = true) ↔ voltage ≠ 0 ∧ voltage ≠ 15 := by simp
  simp only [hv]
  split
  · exact ⟨rfl, h⟩
  split
  · exact ⟨rfl, h⟩
  split
  · exact ⟨rfl, h⟩
  split
  · exact ⟨rfl, h⟩
  -- the request is pending on both sides, and is withdrawn on both if the bridge fails
  have hbegun := (h.setRequest receiver.isLt
    (a := ⟨(s.coord.receivers receiver).committed15v, true, voltage == 15⟩)
    (b := ⟨(t.coord.receivers receiver).committed, (t.coord.receivers receiver).committed15v, true,
      voltage == 15⟩) ⟨rfl, rfl, hr.committed15v⟩).first_bridge
  revert hbegun
  rcases Mlt5Pe.apply (s.with (s.coord.setRequest receiver
    ⟨(s.coord.receivers receiver).committed15v, true, voltage == 15⟩)) with ⟨s1, r⟩
  rcases applyBridge besideGood 0 ⟨t.coord.setRequest receiver
    ⟨(t.coord.receivers receiver).committed, (t.coord.receivers receiver).committed15v, true,
      voltage == 15⟩, t.hw⟩ with ⟨t1, r'⟩
  rintro ⟨rfl, hsame⟩
  rcases r' with applied | ⟨⟩
  · have hr1 := hsame.requests receiver receiver.isLt
    have hback := (hsame.setRequest receiver.isLt
      (a := ⟨(s1.coord.receivers receiver).committed15v, false,
        (s1.coord.receivers receiver).pending15v⟩)
      (b := ⟨(t1.coord.receivers receiver).committed, (t1.coord.receivers receiver).committed15v,
        false, (t1.coord.receivers receiver).pending15v⟩)
      ⟨rfl, hr1.pending15v, hr1.committed15v⟩).first_bridge
    revert hback
    dsimp only
    rcases Mlt5Pe.apply (s1.with (s1.coord.setRequest receiver
      ⟨(s1.coord.receivers receiver).committed15v, false,
        (s1.coord.receivers receiver).pending15v⟩)) with ⟨s2, r⟩
    rcases applyBridge besideGood 0 ⟨t1.coord.setRequest receiver
      ⟨(t1.coord.receivers receiver).committed, (t1.coord.receivers receiver).committed15v, false,
        (t1.coord.receivers receiver).pending15v⟩, t1.hw⟩ with ⟨t2, r'⟩
    rintro ⟨rfl, hsame2⟩
    rcases r' with e | ⟨⟩
    · cases e <;> exact ⟨rfl, hsame2⟩
    · exact ⟨rfl, hsame2⟩
  · exact ⟨rfl, hsame⟩

theorem Same.setIndependentPower (h : Same s t) (enabled : Bool) :
    (Lnb.setIndependentPower besideGood enabled t).2 = (Mlt5Pe.setIndependentPower enabled s).2 ∧
      Same (Mlt5Pe.setIndependentPower enabled s).1
        (Lnb.setIndependentPower besideGood enabled t).1 := by
  have hboth := (h.setIndependent enabled).both
  unfold Lnb.setIndependentPower Mlt5Pe.setIndependentPower
  simp only [h.allow, h.state, h.second, or_false, h.independent]
  split
  · exact ⟨rfl, h⟩
  split
  · exact ⟨rfl, h⟩
  cases enabled with
  | true =>
    simp only [Bool.not_true, Bool.false_eq_true, if_false]
    revert hboth
    rcases Mlt5Pe.apply (s.with (s.coord.setIndependent true)) with ⟨s1, r⟩
    rcases applyBoth besideGood ⟨t.coord.setIndependent true, t.hw⟩ with ⟨t1, r'⟩
    rintro ⟨rfl, hsame⟩
    rcases r' with applied | ⟨⟩
    · have hback := (hsame.setIndependent s.coord.independent15v).both
      revert hback
      dsimp only
      rcases Mlt5Pe.apply (s1.with (s1.coord.setIndependent s.coord.independent15v)) with ⟨s2, r⟩
      rcases applyBoth besideGood ⟨t1.coord.setIndependent s.coord.independent15v, t1.hw⟩ with
        ⟨t2, r'⟩
      rintro ⟨rfl, hsame2⟩
      rcases r' with e | ⟨⟩
      · cases e <;> exact ⟨rfl, hsame2⟩
      · exact ⟨rfl, hsame2⟩
    · exact ⟨rfl, hsame⟩
  | false =>
    simp only [Bool.not_false, if_true]
    revert hboth
    rcases Mlt5Pe.apply (s.with (s.coord.setIndependent false)) with ⟨s1, r⟩
    rcases applyBoth besideGood ⟨t.coord.setIndependent false, t.hw⟩ with ⟨t1, r'⟩
    rintro ⟨rfl, hsame⟩
    rcases r' with e | ⟨⟩ <;> exact ⟨rfl, hsame⟩

theorem Same.commitTune (h : Same s t) (receiver : Fin 2) :
    (Lnb.commitTune receiver t).2 = (Mlt5Pe.commitTune receiver s).2 ∧
      Same (Mlt5Pe.commitTune receiver s).1 (Lnb.commitTune receiver t).1 := by
  have hr := h.requests receiver receiver.isLt
  unfold Lnb.commitTune Mlt5Pe.commitTune
  simp only [valid_receiver, not_count_le_receiver, false_or, Bool.not_true, Bool.false_or,
    hr.pending]
  cases hp : (s.coord.receivers receiver).pending with
  | false => exact ⟨rfl, h⟩
  | true => exact ⟨rfl, h.setRequest receiver.isLt ⟨rfl, hr.pending15v, hr.pending15v⟩⟩

theorem Same.rollbackTune (h : Same s t) (receiver : Fin 2) :
    (Lnb.rollbackTune besideGood receiver t).2 = (Mlt5Pe.rollbackTune receiver s).2 ∧
      Same (Mlt5Pe.rollbackTune receiver s).1 (Lnb.rollbackTune besideGood receiver t).1 := by
  have hr := h.requests receiver receiver.isLt
  unfold Lnb.rollbackTune Mlt5Pe.rollbackTune
  simp only [valid_receiver, not_count_le_receiver, bridgeIndex_receiver, false_or, Bool.not_true,
    Bool.false_or, hr.pending]
  cases hp : (s.coord.receivers receiver).pending with
  | false => exact ⟨rfl, h⟩
  | true =>
    have hback : SameRequest { s.coord.receivers receiver with pending := false }
        { t.coord.receivers receiver with pending := false } :=
      ⟨rfl, hr.pending15v, hr.committed15v⟩
    exact (h.setRequest receiver.isLt hback).first_bridge

theorem Same.releaseReceiver (h : Same s t) (receiver : Fin 2) :
    (Lnb.releaseReceiver besideGood receiver t).2 = (Mlt5Pe.releaseReceiver receiver s).2 ∧
      Same (Mlt5Pe.releaseReceiver receiver s).1
        (Lnb.releaseReceiver besideGood receiver t).1 := by
  unfold Lnb.releaseReceiver Mlt5Pe.releaseReceiver
  simp only [valid_receiver, not_count_le_receiver, bridgeIndex_receiver, Bool.not_true,
    Bool.false_eq_true, if_false]
  exact (h.setRequest receiver.isLt ⟨rfl, rfl, rfl⟩).first_bridge

theorem Same.shutdown (h : Same s t) :
    (Lnb.shutdown besideGood t).2 = (Mlt5Pe.shutdown s).2 ∧
      Same (Mlt5Pe.shutdown s).1 (Lnb.shutdown besideGood t).1 := by
  have hcleared : Same (s.with (s.coord.setIndependent false).clearRequests)
      ⟨(t.coord.setIndependent false).clearRequests, t.hw⟩ :=
    ⟨h.allow, fun _ _ => ⟨rfl, rfl, rfl⟩, fun _ _ => rfl, rfl, h.state, h.debt, h.hw, h.second⟩
  exact hcleared.both

theorem Same.disconnect (h : Same s t) :
    Same (Mlt5Pe.disconnect s) (Lnb.disconnect 0 t).1 := by
  refine ⟨h.allow, fun r hr => ?_, fun _ _ => rfl, rfl, ?_, ?_, h.hw, ?_⟩
  · obtain rfl | rfl : r = 0 ∨ r = 1 := by omega
    · exact ⟨rfl, rfl, rfl⟩
    · exact ⟨rfl, rfl, rfl⟩
  · simp [Lnb.disconnect, Mlt5Pe.disconnect, Mlt5Pe.Sys.with, Mlt5Pe.Coordinator.setPhysical,
      Mlt5Pe.Coordinator.setIndependent, Mlt5Pe.Coordinator.clearRequests]
  · simp [Lnb.disconnect, Mlt5Pe.disconnect, Mlt5Pe.Sys.with, Mlt5Pe.Coordinator.setPhysical,
      Mlt5Pe.Coordinator.setIndependent, Mlt5Pe.Coordinator.clearRequests]
  · simpa [Lnb.disconnect] using h.second

/-- **One operation of both.** -/
theorem call_lockstep : Lib.Lockstep Same SharedCall.one SharedCall.two := by
  intro s t op h
  cases op with
  | beginTune receiver voltage => exact (h.beginTune receiver voltage).imp Eq.symm id
  | commitTune receiver => exact (h.commitTune receiver).imp Eq.symm id
  | rollbackTune receiver => exact (h.rollbackTune receiver).imp Eq.symm id
  | release receiver => exact (h.releaseReceiver receiver).imp Eq.symm id
  | setIndependentPower enabled => exact (h.setIndependentPower enabled).imp Eq.symm id
  | shutdown => exact h.shutdown.imp Eq.symm id
  | disconnect => exact ⟨rfl, h.disconnect⟩

/-! ## Both coordinators -/

/-- The power coordinators before any operation, over a device whose writes come to `outcomes`. -/
def powerOne (outcomes : Nat → Lib.Outcome Error) : Power.Mlt5Pe.Sys Line :=
  ⟨{}, { value := fun _ => false, outcomes }⟩

/-- `powerOne` with a second bridge. -/
def powerTwo (outcomes : Nat → Lib.Outcome Error) : Power.Sys Line :=
  ⟨{}, { value := fun _ => false, outcomes }⟩

/-- `set_backend_power` of the device. -/
def powerLine : Power.Mlt5Pe.Backend Line := fun on hw => hw.write () on

/-- A run of the power coordinators, with its results. -/
def runPowerOne (outcomes : Nat → Lib.Outcome Error) (ops : List Power.SharedCall) :=
  Lib.trace (fun s (op : Power.SharedCall) => Power.Mlt5Pe.call powerLine s op.one)
    (powerOne outcomes) ops

/-- A run of the two-bridge power coordinator, with its results. -/
def runPowerTwo (outcomes : Nat → Lib.Outcome Error) (ops : List Power.SharedCall) :=
  Lib.trace (fun t (op : Power.SharedCall) => Power.call (Power.besideGood powerLine) t op.two)
    (powerTwo outcomes) ops

/-- The two-bridge LNB coordinator before any operation. -/
def lnbTwo (allow15v : Bool) (outcomes : Nat → Lib.Outcome Error) : Sys Line :=
  ⟨{ allow15v }, { value := fun _ => false, outcomes }⟩

/-- A run of the one-bridge LNB coordinator, with its results. -/
def runLnbOne (allow15v : Bool) (outcomes : Nat → Lib.Outcome Error) (ops : List SharedCall) :=
  Lib.trace SharedCall.one (Mlt5Pe.start allow15v outcomes) ops

/-- A run of the two-bridge LNB coordinator, with its results. -/
def runLnbTwo (allow15v : Bool) (outcomes : Nat → Lib.Outcome Error) (ops : List SharedCall) :=
  Lib.trace SharedCall.two (lnbTwo allow15v outcomes) ops

/-- **One-bridge coordinators agree with the two-bridge ones** whose second bridge always succeeds.
For every sequence of operations and every outcome of the writes to the device: the same results,
the same writes to the device, the same references and the same belief of its power. -/
theorem coordinators_agree (outcomes : Nat → Lib.Outcome Error) :
    (∀ ops : List Power.SharedCall,
      let one := runPowerOne outcomes ops
      let two := runPowerTwo outcomes ops
      one.2 = two.2 ∧ one.1.hw.log = two.1.hw.log ∧
        one.1.state.receiverMask = two.1.state.receiverMask ∧
        one.1.state.cardAcquired = two.1.state.cardAcquired ∧
        one.1.state.backendState = two.1.state.backendState .dev1) ∧
    ∀ (allow15v : Bool) (ops : List SharedCall),
      let one := runLnbOne allow15v outcomes ops
      let two := runLnbTwo allow15v outcomes ops
      one.2 = two.2 ∧ one.1.hw.log = two.1.hw.log ∧
        one.1.coord.refCount = two.1.coord.refCount 0 ∧
        one.1.coord.physicalState = two.1.coord.physicalState 0 ∧
        one.1.coord.cleanupDebt = two.1.coord.cleanupDebt 0 := by
  constructor
  · intro ops
    have hstart : Power.Same (powerOne outcomes) (powerTwo outcomes) := ⟨rfl, rfl, rfl, rfl, nofun⟩
    obtain ⟨hres, hsame⟩ := (Power.call_lockstep powerLine).trace ops hstart
    exact ⟨hres, congrArg _ hsame.hw.symm, hsame.mask.symm, hsame.card.symm, hsame.backend.symm⟩
  · intro allow15v ops
    have hstart : Same (Mlt5Pe.start allow15v outcomes) (lnbTwo allow15v outcomes) :=
      ⟨rfl, fun _ _ => ⟨rfl, rfl, rfl⟩, fun _ _ => rfl, rfl, rfl, rfl, rfl, nofun⟩
    obtain ⟨hres, hsame⟩ := call_lockstep.trace ops hstart
    exact ⟨hres, congrArg _ hsame.hw.symm, hsame.refCount.symm, hsame.state.symm, hsame.debt.symm⟩

end Px4.Lnb.OneBridge
