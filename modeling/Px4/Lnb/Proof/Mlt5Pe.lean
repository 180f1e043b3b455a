import Px4.Lnb.Mlt5Pe
import Px4.Lnb.Proof.Board

/-!
# `Mlt5PeLnbPowerCoordinator` is a board

One bridge, five receivers: `apply_locked` is an attempt on the one supply (`apply_attempt`), and
every operation is a step of the board (`call_step`).
-/

namespace Px4.Lnb.Mlt5Pe

open Board Px4.Device

/-! ## Requests -/

theorem board_effective (s : Sys) {r : Nat} (hr : mlt5PeWiring.valid r = true) :
    s.board.effective r = (s.coord.receivers r).enabled := by
  unfold Board.effective Sys.board ReceiverRequest.enabled
  dsimp only
  rw [hr, Bool.true_and, Bool.true_and]
  split <;> rfl

theorem valid_iff (r : Nat) : mlt5PeWiring.valid r = true ↔ r < kMlt5PeReceiverCount := by
  simp [mlt5PeWiring]

/-- The references are counted right. -/
theorem refCount_wanted (s : Sys) :
    (s.coord.refCount != 0) = true ↔ s.board.Wanted mlt5PeWiring 0 := by
  have hcount : (s.coord.refCount != 0) = true ↔
      s.coord.independent15v = true ∨
        ∃ r, r < kMlt5PeReceiverCount ∧ (s.coord.receivers r).enabled = true := by
    unfold Coordinator.refCount
    rw [bne_iff_ne, Ne, Nat.add_eq_zero_iff, not_and_or, or_comm]
    refine or_congr ?_ ?_
    · cases s.coord.independent15v <;> simp
    · rw [List.length_eq_zero_iff, List.filter_eq_nil_iff]
      simp
  rw [hcount]
  refine or_congr Iff.rfl (exists_congr fun r => ?_)
  rw [← valid_iff]
  refine and_congr_right fun hr => ?_
  rw [board_effective s hr]
  exact (and_iff_right rfl).symm

/-- What a change of a request does to the book. -/
theorem board_request (s : Sys) {receiver : Nat} (hr : mlt5PeWiring.valid receiver = true)
    (request : ReceiverRequest) :
    (s.with (s.coord.setRequest receiver request)).board =
      (s.board.setPending receiver
        (if request.pending then some request.pending15v else none)).setCommitted receiver
          request.committed15v := by
  unfold Sys.with Sys.board Coordinator.setRequest setPending setCommitted
  dsimp only
  congr 1
  all_goals
    funext r
    by_cases he : r = receiver
    · subst he
      simp [hr]
    · simp [he]

/-- A request that keeps what was committed. -/
theorem board_request_pending (s : Sys) {receiver : Nat} {request : ReceiverRequest}
    (hr : mlt5PeWiring.valid receiver = true)
    (hc : request.committed15v = (s.coord.receivers receiver).committed15v) :
    (s.with (s.coord.setRequest receiver request)).board =
      s.board.setPending receiver (if request.pending then some request.pending15v else none) := by
  have hself : request.committed15v = s.board.committed receiver := by
    unfold Sys.board
    dsimp only
    rw [hr, Bool.true_and, hc]
  rw [board_request s hr, hself]
  unfold setCommitted setPending
  dsimp only
  rw [Function.update_eq_self]

/-! ## Attempts -/

/-- **What `apply_locked` does.** -/
theorem apply_applied {s s' : Sys} {r : Result Unit} (h : apply s = (s', r)) :
    Supply.Applied (s.coord.refCount != 0) s.supply s'.supply r ∧
      s'.coord.allow15v = s.coord.allow15v ∧ s'.coord.receivers = s.coord.receivers ∧
      s'.coord.independent15v = s.coord.independent15v := by
  unfold apply at h
  dsimp only at h
  split at h
  · rename_i hgone
    cases h
    exact ⟨.gone hgone, rfl, rfl, rfl⟩
  rename_i hne
  split at h
  · rename_i hkeep
    cases h
    refine ⟨.kept ?_, rfl, rfl, rfl⟩
    show s.coord.physicalState = known (s.coord.refCount != 0)
    simp only [Bool.or_eq_true, Bool.and_eq_true, Bool.not_eq_true', beq_iff_eq] at hkeep
    rcases hkeep with ⟨hd, hon⟩ | ⟨⟨hd, hoff⟩, -⟩
    · rw [hd, hon]
      rfl
    · rw [hd, hoff]
      rfl
  · have hsupply (state : PhysicalState) (debt on took : Bool) :
        (⟨s.coord.setPhysical state debt, s.hw.set () on took⟩ : Sys).supply =
          ⟨state, debt, (s.hw.set () on took).value (), s.hw.logOf () ++ [on],
            (s.hw.set () on took).Reports () .disconnected⟩ := by
      simp [Sys.supply, Coordinator.setPhysical]
    split at h
    · rename_i hw heq
      have hreports : hw.Reports () .disconnected → s.hw.Reports () .disconnected :=
        Lib.Faulty.write_ok_reports heq
      obtain rfl := Lib.Faulty.write_ok heq
      cases h
      refine ⟨?_, rfl, rfl, rfl⟩
      rw [hsupply, Lib.Faulty.set_value_true]
      exact .done _ hne hreports
    · rename_i hw heq
      obtain ⟨took, rfl⟩ := Lib.Faulty.write_error heq
      cases h
      refine ⟨?_, rfl, rfl, rfl⟩
      rw [hsupply]
      exact .lost _ _ hne
    · rename_i hw e he heq
      have hreports : hw.Reports () .disconnected → s.hw.Reports () .disconnected := fun hr =>
        (Lib.Faulty.write_error_reports heq hr).resolve_right fun ⟨_, h⟩ => he h.symm
      obtain ⟨took, rfl⟩ := Lib.Faulty.write_error heq
      cases h
      refine ⟨?_, rfl, rfl, rfl⟩
      rw [hsupply]
      exact .failed e _ _ hne (fun h => he h) hreports

/-- `apply_locked` as an attempt on the board, after a change of the requests. -/
theorem apply_attempt {s s' : Sys} {r : Result Unit} {a : Board} {B : Nat → Prop}
    (h : apply s = (s', r)) (ha : s.board = a) (hB : ∀ b, B b ↔ b = 0) :
    a.Attempt mlt5PeWiring B s'.board := by
  obtain ⟨happlied, hallow, hreceivers, hindependent⟩ := apply_applied h
  subst ha
  refine ⟨fun b hb => ?_, fun b hb => ?_, hallow, ?_, ?_, hindependent⟩
  · rw [(hB b).1 hb]
    exact ⟨_, r, refCount_wanted s, happlied⟩
  · have hne : b ≠ 0 := fun h0 => hb ((hB b).2 h0)
    show (if b = 0 then s'.supply else {}) = if b = 0 then s.supply else {}
    rw [if_neg hne, if_neg hne]
  · unfold Sys.board
    dsimp only
    rw [hreceivers]
  · unfold Sys.board
    dsimp only
    rw [hreceivers]

theorem lt_one (b : Nat) : b < mlt5PeWiring.bridges ↔ b = 0 := Nat.lt_one_iff

/-! ## The operations -/

theorem beginTune_step (s : Sys) (receiver voltage : Nat) :
    Step mlt5PeWiring s.board (.begin receiver (voltage == 15))
      (beginTune receiver voltage s).1.board (beginTune receiver voltage s).2 := by
  unfold beginTune
  dsimp only
  split
  · exact .refused trivial
  rename_i hargs
  split
  · exact .refused trivial
  rename_i hallow
  split
  · exact .refused trivial
  split
  · exact .refused trivial
  rename_i hpending
  have hv : mlt5PeWiring.valid receiver = true := by
    rw [valid_iff]
    omega
  have hpending : (s.coord.receivers receiver).pending = false := by simpa using hpending
  have hallow : (voltage == 15) = true → s.board.allow = true := by
    intro hv
    cases ha : s.coord.allow15v with
    | true => exact ha
    | false => simp [hv, ha] at hallow
  have hnone : s.board.pending receiver = none := by simp [Sys.board, hpending]
  have hbegin : (s.with (s.coord.setRequest receiver
      { s.coord.receivers receiver with pending := true, pending15v := voltage == 15 })).board =
      s.board.setPending receiver (some (voltage == 15)) := board_request_pending s hv rfl
  split
  · rename_i s₁ heq
    exact .begun hv hallow hnone (apply_attempt heq hbegin fun _ => Iff.rfl)
  · rename_i s₁ applied heq
    have h1 := apply_attempt (B := (· = 0)) heq hbegin fun _ => Iff.rfl
    have hwithdraw : (s₁.with (s₁.coord.setRequest receiver
        { s₁.coord.receivers receiver with pending := false })).board =
        s₁.board.setPending receiver none := board_request_pending s₁ hv rfl
    split
    · rename_i s₂ heq₂
      exact .unbegun hv hallow hnone h1 (apply_attempt heq₂ hwithdraw fun _ => Iff.rfl)
    · rename_i s₂ r _ heq₂
      exact .unbegun hv hallow hnone h1 (apply_attempt heq₂ hwithdraw fun _ => Iff.rfl)

theorem setIndependentPower_step (s : Sys) (enabled : Bool) :
    Step mlt5PeWiring s.board (.independent enabled) (setIndependentPower enabled s).1.board
      (setIndependentPower enabled s).2 := by
  unfold setIndependentPower
  dsimp only
  split
  · rename_i hallow
    simp only [Bool.and_eq_true] at hallow
    exact .refused hallow.1
  rename_i hallow
  split
  · rename_i hgone
    exact .refused hgone.1
  have hallow : enabled = true → s.board.allow = true := by
    intro he
    show s.coord.allow15v = true
    simpa [he] using hallow
  have hset (s : Sys) (on : Bool) :
      (s.with (s.coord.setIndependent on)).board = s.board.setIndependent on := rfl
  split
  · rename_i s₁ heq
    exact .switched (fun he => ⟨hallow he, rfl⟩) (apply_attempt heq (hset s enabled) lt_one)
  · rename_i s₁ applied heq
    have h1 := apply_attempt heq (hset s enabled) lt_one
    split
    · rename_i hoff
      simp only [Bool.not_eq_true'] at hoff
      subst hoff
      exact .switched nofun h1
    · rename_i hon
      have hon : enabled = true := by simpa using hon
      subst hon
      split
      · rename_i s₂ heq₂
        exact .unswitched (hallow rfl) h1 (apply_attempt heq₂ (hset s₁ _) lt_one)
      · rename_i s₂ r _ heq₂
        exact .unswitched (hallow rfl) h1 (apply_attempt heq₂ (hset s₁ _) lt_one)

theorem commitTune_step (s : Sys) (receiver : Nat) :
    Step mlt5PeWiring s.board (.commit receiver) (commitTune receiver s).1.board
      (commitTune receiver s).2 := by
  unfold commitTune
  dsimp only
  split
  · exact .refused trivial
  · rename_i hargs
    obtain ⟨hv, hp⟩ := not_or.1 hargs
    have hv := (valid_iff receiver).2 (Nat.not_le.1 hv)
    have hp : (s.coord.receivers receiver).pending = true := by simpa using hp
    have hp : s.board.pending receiver = some (s.coord.receivers receiver).pending15v := by
      simp [Sys.board, hv, hp]
    have hboard := board_request s hv
      ⟨(s.coord.receivers receiver).pending15v, false, (s.coord.receivers receiver).pending15v⟩
    show Step mlt5PeWiring s.board (.commit receiver) (Sys.with s _).board (.ok ())
    rw [hboard]
    exact .committed hv hp

theorem rollbackTune_step (s : Sys) (receiver : Nat) :
    Step mlt5PeWiring s.board (.rollback receiver) (rollbackTune receiver s).1.board
      (rollbackTune receiver s).2 := by
  unfold rollbackTune
  dsimp only
  split
  · rename_i hargs
    refine .refused (hargs.imp (fun hv => ?_) fun hp => ?_)
    · rw [← Bool.not_eq_true, valid_iff]
      omega
    · simp [Sys.board, hp]
  · rename_i hargs
    obtain ⟨hv, hp⟩ := not_or.1 hargs
    have hv := (valid_iff receiver).2 (Nat.not_le.1 hv)
    have hp : (s.coord.receivers receiver).pending = true := by simpa using hp
    have hp : s.board.pending receiver ≠ none := by simp [Sys.board, hv, hp]
    have hwithdraw : (s.with (s.coord.setRequest receiver
        { s.coord.receivers receiver with pending := false })).board =
        s.board.setPending receiver none := board_request_pending s hv rfl
    exact .rolledBack hv hp (apply_attempt rfl hwithdraw fun _ => Iff.rfl)

theorem releaseReceiver_step (s : Sys) (receiver : Nat) :
    Step mlt5PeWiring s.board (.release receiver) (releaseReceiver receiver s).1.board
      (releaseReceiver receiver s).2 := by
  unfold releaseReceiver
  split
  · rename_i hargs
    have hv : mlt5PeWiring.valid receiver = false := by
      rw [← Bool.not_eq_true, valid_iff]
      omega
    exact .refused hv
  · rename_i hargs
    have hv := (valid_iff receiver).2 (Nat.not_le.1 hargs)
    have hreleased : (s.with (s.coord.setRequest receiver {})).board = s.board.released receiver :=
      board_request s hv {}
    exact .released hv (apply_attempt rfl hreleased fun _ => Iff.rfl)

theorem disconnect_board (s : Sys) :
    (disconnect s).board = s.board.lose mlt5PeWiring 0 := by
  have hbridge (r : Nat) : mlt5PeWiring.bridgeOf r = 0 := rfl
  unfold Sys.board Board.lose
  dsimp only
  congr 1
  · funext r
    simp only [hbridge, and_true]
    split <;> simp_all [disconnect, Sys.with, Coordinator.clearRequests]
  · funext r
    simp only [hbridge, and_true]
    split <;> simp_all [disconnect, Sys.with, Coordinator.clearRequests]
  · funext b
    by_cases he : b = 0
    · subst he
      rfl
    · simp [he]

/-- The board with no requests. -/
theorem cleared_board (s : Sys) :
    (s.with (s.coord.setIndependent false).clearRequests).board = s.board.cleared := by
  unfold Sys.board Board.cleared Sys.with
  dsimp only
  congr 1 <;>
  · funext r
    simp [Coordinator.clearRequests]

/-- **Every call is a step of the board.** -/
theorem call_step (s : Sys) (op : Call) :
    Step mlt5PeWiring s.board op.operation (call s op).1.board (call s op).2 := by
  cases op with
  | beginTune receiver voltage => exact beginTune_step s receiver voltage
  | commitTune receiver => exact commitTune_step s receiver
  | rollbackTune receiver => exact rollbackTune_step s receiver
  | release receiver => exact releaseReceiver_step s receiver
  | setIndependentPower enabled => exact setIndependentPower_step s enabled
  | disconnect =>
    show Step mlt5PeWiring s.board (.disconnect 0) (disconnect s).board (.ok ())
    rw [disconnect_board]
    exact .disconnected Nat.one_pos
  | shutdown => exact .down (apply_attempt rfl (cleared_board s) lt_one)

theorem start_guarded (allow15v : Bool) (outcomes : Nat → Lib.Outcome Error) :
    Guarded (start allow15v outcomes).board := by
  refine ⟨fun b => ?_, nofun, fun r hr => ?_, fun r hr => ?_⟩
  · show Supply.Ok allow15v (if b = 0 then (start allow15v outcomes).supply else {})
    split
    · exact Supply.ok_new allow15v (Lib.Faulty.not_reports_of_nil rfl () _)
    · exact Supply.ok_new allow15v id
  · simp [Sys.board, start] at hr
  · simp [Sys.board, start] at hr

end Px4.Lnb.Mlt5Pe
