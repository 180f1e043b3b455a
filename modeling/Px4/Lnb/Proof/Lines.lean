import Px4.Lnb.Lines
import Px4.Lnb.Proof.Board

/-!
# `Q3U4LnbPowerCoordinator` is a board

`applyBridge_attempt` says once what `apply_bridge_locked` does: an attempt on the supply of its
bridge. Every operation is then a step of the board (`call_step`).
-/

namespace Px4.Lnb

open Board

/-! ## Requests -/

theorem board_effective (s : Sys Lines) (r : Nat) :
    s.board.effective r = (s.coord.receivers r).enabled := by
  unfold Board.effective Sys.board ReceiverRequest.enabled
  dsimp only
  split <;> rfl

/-- The references of a bridge are counted right. -/
theorem refCount_wanted (s : Sys Lines) {b : Nat} (hb : b < 2) :
    (s.coord.refCount b != 0) = true ↔ s.board.Wanted q3u4Wiring b := by
  have hcount : (s.coord.refCount b != 0) = true ↔
      (s.coord.receivers (if b = 0 then 0 else 4)).enabled = true ∨
        (s.coord.receivers ((if b = 0 then 0 else 4) + 1)).enabled = true ∨
          s.coord.independent15v = true := by
    unfold Coordinator.refCount
    dsimp only
    generalize (s.coord.receivers (if b = 0 then 0 else 4)).enabled = x,
      (s.coord.receivers ((if b = 0 then 0 else 4) + 1)).enabled = y,
      s.coord.independent15v = z
    revert x y z
    decide
  rw [hcount]
  have hvalid (r : Nat) : q3u4Wiring.valid r = true ↔ r = 0 ∨ r = 1 ∨ r = 4 ∨ r = 5 := by
    simp [q3u4Wiring, validSatelliteReceiver, or_assoc]
  constructor
  · rintro (h | h | h)
    · refine .inr ⟨_, ?_, ?_, (board_effective s _).trans h⟩
      · rw [hvalid]
        split <;> simp
      · simp only [q3u4Wiring, bridgeIndexForReceiver]
        split <;> simp <;> omega
    · refine .inr ⟨_, ?_, ?_, (board_effective s _).trans h⟩
      · rw [hvalid]
        split <;> simp
      · simp only [q3u4Wiring, bridgeIndexForReceiver]
        split <;> simp <;> omega
    · exact .inl h
  · rintro (h | ⟨r, hr, hbr, h⟩)
    · exact .inr (.inr h)
    · rw [board_effective] at h
      simp only [q3u4Wiring, bridgeIndexForReceiver] at hbr
      rcases (hvalid r).1 hr with rfl | rfl | rfl | rfl
      · obtain rfl : b = 0 := by simpa using hbr.symm
        exact .inl h
      · obtain rfl : b = 0 := by simpa using hbr.symm
        exact .inr (.inl h)
      · obtain rfl : b = 1 := by simpa using hbr.symm
        exact .inl h
      · obtain rfl : b = 1 := by simpa using hbr.symm
        exact .inr (.inl h)

/-- The system with another request of a receiver. -/
def Sys.request (s : Sys Lines) (receiver : Nat) (request : ReceiverRequest) : Sys Lines :=
  ⟨s.coord.setRequest receiver request, s.hw⟩

/-- What a change of a request does to the book. -/
theorem board_request (s : Sys Lines) (receiver : Nat) (request : ReceiverRequest) :
    (s.request receiver request).board =
      (s.board.setPending receiver
        (if request.pending then some request.pending15v else none)).setCommitted receiver
          (request.committed && request.committed15v) := by
  unfold Sys.request Sys.board Coordinator.setRequest setPending setCommitted
  dsimp only
  congr 1
  all_goals
    funext r
    by_cases he : r = receiver
    · subst he
      simp
    · simp [he]

/-- A request that keeps what was committed. -/
theorem board_request_pending (s : Sys Lines) {receiver : Nat} {request : ReceiverRequest}
    (hc : (request.committed && request.committed15v) = s.board.committed receiver) :
    (s.request receiver request).board =
      s.board.setPending receiver (if request.pending then some request.pending15v else none) := by
  rw [board_request, hc]
  unfold setCommitted setPending
  dsimp only
  rw [Function.update_eq_self]

/-! ## Attempts -/

/-- The state after a write to bridge `b` with its new belief. -/
theorem supply_written (s : Sys Lines) (b : Nat) (state : PhysicalState) (debt on took : Bool) :
    (⟨s.coord.setPhysical b state debt, s.hw.set b on took⟩ : Sys Lines).supply b =
      ⟨state, debt, (s.hw.set b on took).value b, s.hw.logOf b ++ [on],
        (s.hw.set b on took).Reports b .disconnected⟩ := by
  simp [Sys.supply]

theorem supply_written_of_ne (s : Sys Lines) {b j : Nat} (h : j ≠ b) (state : PhysicalState)
    (debt on took : Bool) :
    (⟨s.coord.setPhysical b state debt, s.hw.set b on took⟩ : Sys Lines).supply j =
      s.supply j := by
  simp [Sys.supply, Lib.Faulty.set_value_of_ne _ _ _ _ h, Lib.Faulty.logOf_set_of_ne _ _ _ _ h,
    Lib.Faulty.reports_set, h, h.symm]

/-- A write to bridge `b` changes no request, and no other supply. -/
theorem attempt_written {s : Sys Lines} {b : Nat} (hb : b < 2) {state : PhysicalState}
    {debt on took : Bool} (r : Result Unit) (hon : on = (s.coord.refCount b != 0))
    (h : Supply.Applied on (s.supply b)
      ⟨state, debt, (s.hw.set b on took).value b, s.hw.logOf b ++ [on],
        (s.hw.set b on took).Reports b .disconnected⟩ r) :
    s.board.Attempt q3u4Wiring (· = b)
      (⟨s.coord.setPhysical b state debt, s.hw.set b on took⟩ : Sys Lines).board := by
  refine ⟨?_, fun j hj => supply_written_of_ne s hj _ _ _ _, rfl, rfl, rfl, rfl⟩
  intro j hj
  rw [show j = b from hj]
  refine ⟨on, r, hon ▸ refCount_wanted s hb, ?_⟩
  show Supply.Applied on (s.supply b) (Sys.supply _ b) r
  rw [supply_written s b state debt on took]
  exact h

/-- A bridge that is left alone. -/
theorem attempt_same {s : Sys Lines} {b : Nat} (hb : b < 2) {r : Result Unit}
    (h : Supply.Applied (s.coord.refCount b != 0) (s.supply b) (s.supply b) r) :
    s.board.Attempt q3u4Wiring (· = b) s.board := by
  refine ⟨?_, fun _ _ => rfl, rfl, rfl, rfl, rfl⟩
  intro j hj
  rw [show j = b from hj]
  exact ⟨_, r, refCount_wanted s hb, h⟩

/-- **What `apply_bridge_locked` does.** -/
theorem applyBridge_attempt {s s' : Sys Lines} {b : Nat} {r : Result Unit} (hb : b < 2)
    (h : applyBridge lineBackend b s = (s', r)) :
    s.board.Attempt q3u4Wiring (· = b) s'.board := by
  unfold applyBridge at h
  dsimp only at h
  split at h
  · rename_i hgone
    cases h
    exact attempt_same hb (.gone hgone)
  rename_i hne
  split at h
  · rename_i hkeep
    cases h
    refine attempt_same hb (.kept ?_)
    show s.coord.physicalState b = known (s.coord.refCount b != 0)
    simp only [Bool.or_eq_true, Bool.and_eq_true, Bool.not_eq_true', beq_iff_eq] at hkeep
    rcases hkeep with ⟨hd, hon⟩ | ⟨⟨hd, hoff⟩, -⟩
    · rw [hd, hon]
      rfl
    · rw [hd, hoff]
      rfl
  · split at h
    · rename_i hw heq
      have hreports : hw.Reports b .disconnected → s.hw.Reports b .disconnected :=
        Lib.Faulty.write_ok_reports heq
      obtain rfl := Lib.Faulty.write_ok heq
      cases h
      refine attempt_written hb (.ok ()) rfl ?_
      rw [Lib.Faulty.set_value_true]
      exact .done _ hne hreports
    · rename_i hw heq
      obtain ⟨took, rfl⟩ := Lib.Faulty.write_error heq
      cases h
      exact attempt_written hb _ rfl (.lost _ _ hne)
    · rename_i hw e he heq
      have hreports : hw.Reports b .disconnected → s.hw.Reports b .disconnected := fun hr =>
        (Lib.Faulty.write_error_reports heq hr).resolve_right fun ⟨_, h⟩ => he h.symm
      obtain ⟨took, rfl⟩ := Lib.Faulty.write_error heq
      cases h
      exact attempt_written hb _ rfl (.failed e _ _ hne (fun h => he h) hreports)

/-- An attempt on a state whose requests were changed. -/
theorem applyBridge_changed {s s' : Sys Lines} {b : Nat} {r : Result Unit} {a : Board} (hb : b < 2)
    (h : applyBridge lineBackend b s = (s', r)) (ha : s.board = a) :
    a.Attempt q3u4Wiring (· = b) s'.board := ha ▸ applyBridge_attempt hb h

/-- **What `apply_both_locked` does.** -/
theorem applyBoth_attempt {s s' : Sys Lines} {r : Result Unit}
    (h : applyBoth lineBackend s = (s', r)) :
    s.board.Attempt q3u4Wiring (· < q3u4Wiring.bridges) s'.board := by
  have h0 : s.board.Attempt q3u4Wiring (· = 0) (applyBridge lineBackend 0 s).1.board :=
    applyBridge_attempt (r := (applyBridge lineBackend 0 s).2) (by omega) rfl
  have h1 : (applyBridge lineBackend 0 s).1.board.Attempt q3u4Wiring (· = 1)
      (applyBridge lineBackend 1 (applyBridge lineBackend 0 s).1).1.board :=
    applyBridge_attempt (r := (applyBridge lineBackend 1 (applyBridge lineBackend 0 s).1).2)
      (by omega) rfl
  have hs' : s' = (applyBridge lineBackend 1 (applyBridge lineBackend 0 s).1).1 := by
    unfold applyBoth at h
    dsimp only at h
    split at h <;> cases h <;> rfl
  rw [hs']
  refine ⟨?_, ?_, h1.allow.trans h0.allow, h1.pending.trans h0.pending,
    h1.committed.trans h0.committed, h1.independent.trans h0.independent⟩
  · intro b hb
    have hb : b = 0 ∨ b = 1 := by
      have : b < 2 := hb
      omega
    rcases hb with rfl | rfl
    · rw [h1.other 0 (by omega)]
      exact h0.applied 0 rfl
    · obtain ⟨on, r, hon, hr⟩ := h1.applied 1 rfl
      rw [h0.wanted] at hon
      rw [h0.other 1 (by omega)] at hr
      exact ⟨on, r, hon, hr⟩
  · intro j hj
    have hj : ¬j < 2 := hj
    rw [h1.other j (by omega), h0.other j (by omega)]

theorem bridgeIndex_lt (receiver : Nat) : bridgeIndexForReceiver receiver < 2 := by
  unfold bridgeIndexForReceiver
  split <;> omega

/-! ## The operations -/

theorem beginTune_step (s : Sys Lines) (receiver voltage : Nat) :
    Step q3u4Wiring s.board (.begin receiver (voltage == 15))
      (beginTune lineBackend receiver voltage s).1.board
      (beginTune lineBackend receiver voltage s).2 := by
  unfold beginTune
  dsimp only
  split
  · exact .refused trivial
  rename_i hargs
  split
  · exact .refused trivial
  rename_i hallow
  split
  · exact .refused trivial
  split
  · exact .refused trivial
  rename_i hpending
  simp only [Bool.or_eq_true, Bool.not_eq_true', not_or, Bool.not_eq_false] at hargs
  have hpending : (s.coord.receivers receiver).pending = false := by simpa using hpending
  have hallow : (voltage == 15) = true → s.board.allow = true := by
    intro hv
    cases ha : s.coord.allow15v with
    | true => exact ha
    | false => simp [hv, ha] at hallow
  have hnone : s.board.pending receiver = none := by simp [Sys.board, hpending]
  have hbegin : (s.request receiver
      { s.coord.receivers receiver with pending := true, pending15v := voltage == 15 }).board =
      s.board.setPending receiver (some (voltage == 15)) := board_request_pending s rfl
  split
  · rename_i s₁ heq
    exact .begun hargs.1 hallow hnone (applyBridge_changed (bridgeIndex_lt receiver) heq hbegin)
  · rename_i s₁ applied heq
    have h1 := applyBridge_changed (bridgeIndex_lt receiver) heq hbegin
    have hwithdraw : (s₁.request receiver
        { s₁.coord.receivers receiver with pending := false }).board =
        s₁.board.setPending receiver none := board_request_pending s₁ rfl
    split
    · rename_i s₂ heq₂
      exact .unbegun hargs.1 hallow hnone h1
        (applyBridge_changed (bridgeIndex_lt receiver) heq₂ hwithdraw)
    · rename_i s₂ r _ heq₂
      exact .unbegun hargs.1 hallow hnone h1
        (applyBridge_changed (bridgeIndex_lt receiver) heq₂ hwithdraw)

/-- The board of a system with another independent request. -/
theorem applyBoth_independent {s s' : Sys Lines} {r : Result Unit} {on : Bool}
    (h : applyBoth lineBackend ⟨s.coord.setIndependent on, s.hw⟩ = (s', r)) :
    (s.board.setIndependent on).Attempt q3u4Wiring (· < q3u4Wiring.bridges) s'.board :=
  applyBoth_attempt h

theorem setIndependentPower_step (s : Sys Lines) (enabled : Bool) :
    Step q3u4Wiring s.board (.independent enabled)
      (setIndependentPower lineBackend enabled s).1.board
      (setIndependentPower lineBackend enabled s).2 := by
  unfold setIndependentPower
  dsimp only
  split
  · rename_i hallow
    simp only [Bool.and_eq_true] at hallow
    exact .refused hallow.1
  rename_i hallow
  split
  · rename_i hgone
    exact .refused hgone.1
  have hallow : enabled = true → s.board.allow = true := by
    intro he
    show s.coord.allow15v = true
    simpa [he] using hallow
  split
  · rename_i s₁ heq
    exact .switched (fun he => ⟨hallow he, rfl⟩) (applyBoth_independent heq)
  · rename_i s₁ applied heq
    have h1 := applyBoth_independent heq
    split
    · rename_i hoff
      simp only [Bool.not_eq_true'] at hoff
      subst hoff
      exact .switched nofun h1
    · rename_i hon
      have hon : enabled = true := by simpa using hon
      subst hon
      split
      · rename_i s₂ heq₂
        exact .unswitched (hallow rfl) h1 (applyBoth_independent heq₂)
      · rename_i s₂ r _ heq₂
        exact .unswitched (hallow rfl) h1 (applyBoth_independent heq₂)

theorem commitTune_step (s : Sys Lines) (receiver : Nat) :
    Step q3u4Wiring s.board (.commit receiver) (commitTune receiver s).1.board
      (commitTune receiver s).2 := by
  unfold commitTune
  dsimp only
  split
  · exact .refused trivial
  · rename_i hargs
    simp only [Bool.or_eq_true, Bool.not_eq_true', not_or, Bool.not_eq_false] at hargs
    have hp : s.board.pending receiver = some (s.coord.receivers receiver).pending15v :=
      if_pos hargs.2
    have hboard := board_request s receiver
      ⟨true, (s.coord.receivers receiver).pending15v, false,
        (s.coord.receivers receiver).pending15v⟩
    rw [Bool.true_and] at hboard
    show Step q3u4Wiring s.board (.commit receiver) (Sys.request s receiver _).board (.ok ())
    rw [hboard]
    exact .committed hargs.1 hp

theorem rollbackTune_step (s : Sys Lines) (receiver : Nat) :
    Step q3u4Wiring s.board (.rollback receiver) (rollbackTune lineBackend receiver s).1.board
      (rollbackTune lineBackend receiver s).2 := by
  unfold rollbackTune
  dsimp only
  split
  · rename_i hargs
    simp only [Bool.or_eq_true, Bool.not_eq_true'] at hargs
    refine .refused (hargs.imp id fun hp => ?_)
    simp [Sys.board, hp]
  · rename_i hargs
    simp only [Bool.or_eq_true, Bool.not_eq_true', not_or, Bool.not_eq_false] at hargs
    have hp : s.board.pending receiver ≠ none := by simp [Sys.board, hargs.2]
    have hwithdraw : (s.request receiver
        { s.coord.receivers receiver with pending := false }).board =
        s.board.setPending receiver none := board_request_pending s rfl
    exact .rolledBack hargs.1 hp (applyBridge_changed (bridgeIndex_lt receiver) rfl hwithdraw)

theorem releaseReceiver_step (s : Sys Lines) (receiver : Nat) :
    Step q3u4Wiring s.board (.release receiver) (releaseReceiver lineBackend receiver s).1.board
      (releaseReceiver lineBackend receiver s).2 := by
  unfold releaseReceiver
  split
  · rename_i hargs
    exact .refused (show validSatelliteReceiver receiver = false by simpa using hargs)
  · rename_i hargs
    have hv : validSatelliteReceiver receiver = true := by simpa using hargs
    exact .released hv
      (applyBridge_changed (bridgeIndex_lt receiver) rfl (board_request s receiver {}))

/-- The receivers of a bridge. -/
theorem onBridge_iff {bridge : Nat} (hb : bridge < 2) (r : Nat) :
    (q3u4Wiring.valid r = true ∧ q3u4Wiring.bridgeOf r = bridge) ↔
      (r = (if bridge = 0 then 0 else 4) ∨ r = (if bridge = 0 then 0 else 4) + 1) := by
  have hb : bridge = 0 ∨ bridge = 1 := by omega
  simp only [q3u4Wiring, validSatelliteReceiver, bridgeIndexForReceiver, Bool.or_eq_true,
    beq_iff_eq]
  rcases hb with rfl | rfl
  · constructor
    · rintro ⟨hr, hlt⟩
      split at hlt <;> simp at hlt ⊢
      omega
    · rintro (rfl | rfl) <;> simp
  · constructor
    · rintro ⟨hr, hlt⟩
      split at hlt <;> simp at hlt ⊢
      omega
    · rintro (rfl | rfl) <;> simp

/-- The coordinator after `disconnect`. -/
def Sys.lost (s : Sys Lines) (bridge : Nat) : Sys Lines :=
  let first := if bridge = 0 then 0 else 4
  let c := (s.coord.setPhysical bridge .disconnected false).setIndependent false
  { s with coord := (c.setRequest first {}).setRequest (first + 1) {} }

theorem lost_receivers (s : Sys Lines) {bridge : Nat} (hb : bridge < 2) (r : Nat) :
    (s.lost bridge).coord.receivers r =
      if q3u4Wiring.valid r ∧ q3u4Wiring.bridgeOf r = bridge then {} else s.coord.receivers r := by
  simp only [onBridge_iff hb]
  show Function.update (Function.update s.coord.receivers (if bridge = 0 then 0 else 4) {})
    ((if bridge = 0 then 0 else 4) + 1) {} r = _
  generalize (if bridge = 0 then 0 else 4) = first
  by_cases h1 : r = first + 1
  · rw [if_pos (Or.inr h1), h1, Function.update_self]
  · rw [Function.update_of_ne h1]
    by_cases h0 : r = first
    · rw [if_pos (Or.inl h0), h0, Function.update_self]
    · rw [Function.update_of_ne h0, if_neg (not_or.2 ⟨h0, h1⟩)]

theorem lost_board (s : Sys Lines) {bridge : Nat} (hb : bridge < 2) :
    (s.lost bridge).board = s.board.lose q3u4Wiring bridge := by
  unfold Sys.board Board.lose
  dsimp only
  congr 1
  · funext r
    rw [lost_receivers s hb]
    split <;> rfl
  · funext r
    rw [lost_receivers s hb]
    split <;> rfl
  · funext b
    by_cases he : b = bridge
    · subst he
      simp [Sys.supply, Sys.lost]
    · simp [Sys.supply, Sys.lost, he]

theorem disconnect_step (s : Sys Lines) (bridge : Nat) :
    Step q3u4Wiring s.board (.disconnect bridge) (disconnect bridge s).1.board
      (disconnect bridge s).2 := by
  unfold disconnect
  split
  · rename_i hb
    exact .refused (show 2 ≤ bridge by omega)
  · rename_i hb
    have hb : bridge < 2 := by omega
    show Step q3u4Wiring s.board (.disconnect bridge) (s.lost bridge).board (.ok ())
    rw [lost_board s hb]
    exact .disconnected hb

/-- **Every call is a step of the board.** -/
theorem call_step (s : Sys Lines) (op : Call) :
    Step q3u4Wiring s.board op.operation (call s op).1.board (call s op).2 := by
  cases op with
  | beginTune receiver voltage => exact beginTune_step s receiver voltage
  | commitTune receiver => exact commitTune_step s receiver
  | rollbackTune receiver => exact rollbackTune_step s receiver
  | release receiver => exact releaseReceiver_step s receiver
  | setIndependentPower enabled => exact setIndependentPower_step s enabled
  | reconcile => exact .reconciled (applyBoth_attempt rfl)
  | disconnect bridge => exact disconnect_step s bridge
  | shutdown =>
    exact .down (applyBoth_attempt (s := ⟨(s.coord.setIndependent false).clearRequests, s.hw⟩) rfl)

theorem start_guarded (allow15v : Bool) (outcomes : Nat → Lib.Outcome Error) :
    Guarded (start allow15v outcomes).board :=
  ⟨fun b => Supply.ok_new allow15v (Lib.Faulty.not_reports_of_nil rfl b _), nofun, nofun, nofun⟩

end Px4.Lnb
