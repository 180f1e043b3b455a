import Px4.Lnb.Proof.Lines
import Px4.Lnb.Proof.Mlt5Pe

/-!
# LNB power over whole runs

Both coordinators are boards (`Simulates`), so what every step of a board keeps holds in every state
of their runs: `lnb_power_safe` for any operations and any outcomes of the writes,
`lnb_references` for the runs without a disconnect.
-/

namespace Px4.Lnb

open Board

open Px4.Device (kMlt5PeReceiverCount)

/-! ## Runs of a board -/

section

variable {S C : Type} (w : Wiring) (call : S → C → S × Result Unit) (board : S → Board)
  (operation : C → Operation)

/-- Every call is a step of a board. -/
def Simulates : Prop := ∀ s c, Step w (board s) (operation c) (board (call s c).1) (call s c).2

/-- A call with its record of tunes. -/
def record (s : S × Tunes) (c : C) : S × Tunes :=
  ((call s.1 c).1, s.2.note w (operation c) (call s.1 c).2)

variable {w call board operation}

/-- **Every run is safe.** -/
theorem Simulates.safe (h : Simulates w call board operation) (ops : List C) {s : S}
    (hs : Guarded (board s)) : Safe (board s) (board (ops.foldl (fun s c => (call s c).1) s)) := by
  induction ops generalizing s with
  | nil => exact .refl hs
  | cons c ops ih =>
    have hc := (h s c).safe hs
    exact hc.trans (ih hc.guarded)

/-- **Every run without a disconnect** keeps the supplies to the requests, and the requests to the
tunes. -/
theorem Simulates.recorded (h : Simulates w call board operation) {ops : List C}
    (hops : ∀ c ∈ ops, ∀ bridge, operation c ≠ .disconnect bridge) {s s' : S × Tunes}
    (hrun : ops.foldl (record w call operation) s = s')
    (ha : Agreeing w (board s.1)) (hr : Recorded (board s.1) s.2) :
    Agreeing w (board s'.1) ∧ Recorded (board s'.1) s'.2 := by
  induction ops generalizing s with
  | nil =>
    subst hrun
    exact ⟨ha, hr⟩
  | cons c ops ih =>
    have hc := hops c List.mem_cons_self
    refine ih (fun c' hc' => hops c' (List.mem_cons_of_mem c hc')) hrun ?_ ?_
    · exact (h s.1 c).agreeing hc ha
    · exact (h s.1 c).recorded hc hr

end

/-- A board without requests and with every supply off. -/
structure Fresh (a : Board) : Prop where
  off : ∀ b, (a.supply b).state = .off
  pending : ∀ r, a.pending r = none
  committed : ∀ r, a.committed r = false
  independent : a.independent = false

theorem Fresh.agreeing {a : Board} (h : Fresh a) (w : Wiring) : Agreeing w a := by
  intro b _
  refine ⟨fun hon => by simp [h.off b] at hon, fun _ hw => ?_⟩
  rcases hw with hi | ⟨r, -, -, hr⟩
  · simp [h.independent] at hi
  · simp [effective, h.pending r, h.committed r] at hr

theorem Fresh.recorded {a : Board} (h : Fresh a) : Recorded a {} := by
  intro r
  refine ⟨fun on hp => ?_, h.committed r⟩
  rw [h.pending r] at hp
  cases hp

theorem start_fresh (allow15v : Bool) (outcomes : Nat → Lib.Outcome Error) :
    Fresh (start allow15v outcomes).board :=
  ⟨fun _ => rfl, fun _ => rfl, fun _ => rfl, rfl⟩

theorem Mlt5Pe.start_fresh (allow15v : Bool) (outcomes : Nat → Lib.Outcome Error) :
    Fresh (Mlt5Pe.start allow15v outcomes).board := by
  refine ⟨fun b => ?_, fun r => ?_, fun r => ?_, rfl⟩
  · show (if b = 0 then (Mlt5Pe.start allow15v outcomes).supply else {}).state = .off
    split <;> rfl
  · simp [Mlt5Pe.Sys.board, Mlt5Pe.start]
  · simp [Mlt5Pe.Sys.board, Mlt5Pe.start]

/-! ## Safety -/

theorem calls_append (s : Sys Lines) (ops more : List Call) :
    calls s (ops ++ more) = calls (calls s ops) more := List.foldl_append

theorem Mlt5Pe.calls_append (s : Mlt5Pe.Sys) (ops more : List Mlt5Pe.Call) :
    Mlt5Pe.calls s (ops ++ more) = Mlt5Pe.calls (Mlt5Pe.calls s ops) more := List.foldl_append

/-- A reachable state of `Q3U4LnbPowerCoordinator`. -/
theorem calls_safe (allow15v : Bool) (outcomes : Nat → Lib.Outcome Error) (ops : List Call) :
    Safe (start allow15v outcomes).board (calls (start allow15v outcomes) ops).board :=
  Simulates.safe call_step ops (start_guarded allow15v outcomes)

/-- A reachable state of `Mlt5PeLnbPowerCoordinator`. -/
theorem Mlt5Pe.calls_safe (allow15v : Bool) (outcomes : Nat → Lib.Outcome Error)
    (ops : List Mlt5Pe.Call) :
    Safe (Mlt5Pe.start allow15v outcomes).board
      (Mlt5Pe.calls (Mlt5Pe.start allow15v outcomes) ops).board :=
  Simulates.safe Mlt5Pe.call_step ops (Mlt5Pe.start_guarded allow15v outcomes)

/-- **LNB power is safe.** In every state of every run, whatever its writes come to: the belief of
each supply is right, its debt is exactly the unknown state and nothing was switched on without
permission (`Supply.Ok`); a bridge that is lost, be it by a disconnect or by what a write reported,
stays lost and gets no more writes; and a shutdown leaves each bridge off, lost, or with debt after
an off write. -/
theorem lnb_power_safe (allow15v : Bool) (outcomes : Nat → Lib.Outcome Error) :
    (∀ (ops : List Call) (b : Fin 2),
      ((calls (start allow15v outcomes) ops).supply b).Ok allow15v ∧
      (∀ more, ((calls (start allow15v outcomes) ops).supply b).Absorbs
        ((calls (start allow15v outcomes) (ops ++ more)).supply b)) ∧
      ((calls (start allow15v outcomes) (ops ++ [.disconnect b])).supply b).state =
        .disconnected ∧
      ((calls (start allow15v outcomes) ops).supply b).Ended
        ((calls (start allow15v outcomes) (ops ++ [.shutdown])).supply b)) ∧
    (∀ ops : List Mlt5Pe.Call,
      (Mlt5Pe.calls (Mlt5Pe.start allow15v outcomes) ops).supply.Ok allow15v ∧
      (∀ more, (Mlt5Pe.calls (Mlt5Pe.start allow15v outcomes) ops).supply.Absorbs
        (Mlt5Pe.calls (Mlt5Pe.start allow15v outcomes) (ops ++ more)).supply) ∧
      (Mlt5Pe.calls (Mlt5Pe.start allow15v outcomes) (ops ++ [.disconnect])).supply.state =
        .disconnected ∧
      (Mlt5Pe.calls (Mlt5Pe.start allow15v outcomes) ops).supply.Ended
        (Mlt5Pe.calls (Mlt5Pe.start allow15v outcomes) (ops ++ [.shutdown])).supply) := by
  constructor
  · intro ops b
    have hs := calls_safe allow15v outcomes ops
    simp only [calls_append]
    generalize calls (start allow15v outcomes) ops = s at hs
    have hallow : s.board.allow = allow15v := hs.allow
    refine ⟨hallow ▸ hs.guarded.supply b, fun more => ?_, ?_, ?_⟩
    · exact (Simulates.safe call_step more hs.guarded).absorbs b
    · exact (call_step s (.disconnect b)).lost b.isLt
    · exact (call_step s .shutdown).ended b.isLt
  · intro ops
    have hs := Mlt5Pe.calls_safe allow15v outcomes ops
    simp only [Mlt5Pe.calls_append]
    generalize Mlt5Pe.calls (Mlt5Pe.start allow15v outcomes) ops = s at hs
    have hallow : s.board.allow = allow15v := hs.allow
    refine ⟨hallow ▸ hs.guarded.supply 0, fun more => ?_, ?_, ?_⟩
    · exact (Simulates.safe Mlt5Pe.call_step more hs.guarded).absorbs 0
    · exact (Mlt5Pe.call_step s .disconnect).lost Nat.one_pos
    · exact (Mlt5Pe.call_step s .shutdown).ended Nat.one_pos

/-! ## References -/

theorem operation_ne_disconnect {op : Call} (h : ∀ bridge, op ≠ .disconnect bridge) (bridge : Nat) :
    op.operation ≠ .disconnect bridge := by
  cases op with
  | disconnect b => exact absurd rfl (h b)
  | _ => exact nofun

theorem Mlt5Pe.operation_ne_disconnect {op : Mlt5Pe.Call} (h : op ≠ .disconnect) (bridge : Nat) :
    op.operation ≠ .disconnect bridge := by
  cases op with
  | disconnect => exact absurd rfl h
  | _ => exact nofun

/-- A run of `Q3U4LnbPowerCoordinator` without a disconnect. -/
theorem noted_run {allow15v : Bool} {outcomes : Nat → Lib.Outcome Error} {ops : List Call}
    {s : Sys Lines} {t : Tunes} (hops : ∀ op ∈ ops, ∀ b, op ≠ .disconnect b)
    (hrun : ops.foldl noted (start allow15v outcomes, {}) = (s, t)) :
    Agreeing q3u4Wiring s.board ∧ Recorded s.board t := by
  have hfresh := start_fresh allow15v outcomes
  exact Simulates.recorded call_step (fun op hop => operation_ne_disconnect (hops op hop)) hrun
    (hfresh.agreeing q3u4Wiring) hfresh.recorded

/-- A run of `Mlt5PeLnbPowerCoordinator` without a disconnect. -/
theorem Mlt5Pe.noted_run {allow15v : Bool} {outcomes : Nat → Lib.Outcome Error}
    {ops : List Mlt5Pe.Call} {s : Mlt5Pe.Sys} {t : Tunes} (hops : ∀ op ∈ ops, op ≠ .disconnect)
    (hrun : ops.foldl Mlt5Pe.noted (Mlt5Pe.start allow15v outcomes, {}) = (s, t)) :
    Agreeing Mlt5Pe.mlt5PeWiring s.board ∧ Recorded s.board t := by
  have hfresh := Mlt5Pe.start_fresh allow15v outcomes
  exact Simulates.recorded Mlt5Pe.call_step
    (fun op hop => Mlt5Pe.operation_ne_disconnect (hops op hop)) hrun
    (hfresh.agreeing Mlt5Pe.mlt5PeWiring) hfresh.recorded

/-- A known state against the wants of its bridge. -/
theorem Agreeing.on_iff {w : Wiring} {a : Board} (h : Agreeing w a) {b : Nat} (hb : b < w.bridges)
    (hk : (a.supply b).state = .on ∨ (a.supply b).state = .off) :
    (a.supply b).state = .on ↔ a.Wanted w b := by
  refine ⟨(h b hb).1, fun hw => ?_⟩
  rcases hk with hon | hoff
  · exact hon
  · exact absurd hw ((h b hb).2 hoff)

/-- **References and rollback.** In every run without a disconnect, whatever its writes come to, and
at the end of every operation: a bridge in a known state is on exactly if independent power is
requested or a receiver of the bridge effectively requests 15 V; a `begin_tune` or
`set_independent_power(true)` that fails changes no request in effect; and a tune that is committed
or rolled back leaves the request that was begun, or the one committed last. -/
theorem lnb_references (allow15v : Bool) (outcomes : Nat → Lib.Outcome Error) :
    (∀ (ops : List Call) (s : Sys Lines) (t : Tunes), (∀ op ∈ ops, ∀ b, op ≠ .disconnect b) →
      ops.foldl noted (start allow15v outcomes, {}) = (s, t) →
      (∀ b : Fin 2, s.coord.physicalState b = .on ∨ s.coord.physicalState b = .off →
        (s.coord.physicalState b = .on ↔ s.coord.independent15v = true ∨
          ∃ r, validSatelliteReceiver r = true ∧ bridgeIndexForReceiver r = b ∧
            (s.coord.receivers r).enabled = true)) ∧
      (∀ op e, op.operation.switchesOn = true → (call s op).2 = .error e →
        (∀ r, ((call s op).1.coord.receivers r).enabled = (s.coord.receivers r).enabled) ∧
        (call s op).1.coord.independent15v = s.coord.independent15v) ∧
      (∀ r, (commitTune r s).2 = .ok () →
        ((commitTune r s).1.coord.receivers r).enabled = t.begun r) ∧
      (∀ r, validSatelliteReceiver r = true → (s.coord.receivers r).pending = true →
        ((rollbackTune lineBackend r s).1.coord.receivers r).enabled = t.committed r)) ∧
    (∀ (ops : List Mlt5Pe.Call) (s : Mlt5Pe.Sys) (t : Tunes), (∀ op ∈ ops, op ≠ .disconnect) →
      ops.foldl Mlt5Pe.noted (Mlt5Pe.start allow15v outcomes, {}) = (s, t) →
      (s.coord.physicalState = .on ∨ s.coord.physicalState = .off →
        (s.coord.physicalState = .on ↔ s.coord.independent15v = true ∨
          ∃ r, r < kMlt5PeReceiverCount ∧ (s.coord.receivers r).enabled = true)) ∧
      (∀ op e, op.operation.switchesOn = true → (Mlt5Pe.call s op).2 = .error e →
        (∀ r, r < kMlt5PeReceiverCount →
          ((Mlt5Pe.call s op).1.coord.receivers r).enabled = (s.coord.receivers r).enabled) ∧
        (Mlt5Pe.call s op).1.coord.independent15v = s.coord.independent15v) ∧
      (∀ r, (Mlt5Pe.commitTune r s).2 = .ok () →
        ((Mlt5Pe.commitTune r s).1.coord.receivers r).enabled = t.begun r) ∧
      (∀ r, r < kMlt5PeReceiverCount → (s.coord.receivers r).pending = true →
        ((Mlt5Pe.rollbackTune r s).1.coord.receivers r).enabled = t.committed r)) := by
  constructor
  · intro ops s t hops hrun
    obtain ⟨hagree, hrec⟩ := noted_run hops hrun
    refine ⟨fun b hk => ?_, fun op e hop he => ?_, fun r hr => ?_, fun r hv hp => ?_⟩
    · have hwant := hagree.on_iff b.isLt hk
      simp only [Wanted, board_effective] at hwant
      exact hwant
    · have hstep := call_step s op
      rw [he] at hstep
      obtain ⟨heff, hind⟩ := hstep.failed hop
      refine ⟨fun r => ?_, hind⟩
      rw [← board_effective, heff, board_effective]
    · rw [← board_effective]
      exact (call_step s (.commitTune r)).tuned hrec hr
    · have hpending : s.board.pending r ≠ none := by simp [Sys.board, hp]
      rw [← board_effective]
      exact (call_step s (.rollbackTune r)).untuned hrec hv hpending
  · intro ops s t hops hrun
    obtain ⟨hagree, hrec⟩ := Mlt5Pe.noted_run hops hrun
    refine ⟨fun hk => ?_, fun op e hop he => ?_, fun r hr => ?_, fun r hv hp => ?_⟩
    · refine (hagree.on_iff Nat.one_pos hk).trans (or_congr_right (exists_congr fun r => ?_))
      rw [Mlt5Pe.valid_iff]
      refine and_congr_right fun hv => ?_
      rw [Mlt5Pe.board_effective s ((Mlt5Pe.valid_iff r).2 hv)]
      exact and_iff_right rfl
    · have hstep := Mlt5Pe.call_step s op
      rw [he] at hstep
      obtain ⟨heff, hind⟩ := hstep.failed hop
      refine ⟨fun r hv => ?_, hind⟩
      have hv := (Mlt5Pe.valid_iff r).2 hv
      rw [← Mlt5Pe.board_effective _ hv, heff, Mlt5Pe.board_effective _ hv]
    · have hv : r < kMlt5PeReceiverCount := by
        unfold Mlt5Pe.commitTune at hr
        dsimp only at hr
        split at hr
        · cases hr
        · rename_i hargs
          exact Nat.not_le.1 (not_or.1 hargs).1
      rw [← Mlt5Pe.board_effective _ ((Mlt5Pe.valid_iff r).2 hv)]
      exact (Mlt5Pe.call_step s (.commitTune r)).tuned hrec hr
    · have hv := (Mlt5Pe.valid_iff r).2 hv
      have hpending : s.board.pending r ≠ none := by simp [Mlt5Pe.Sys.board, hv, hp]
      rw [← Mlt5Pe.board_effective _ hv]
      exact (Mlt5Pe.call_step s (.rollbackTune r)).untuned hrec hv hpending

/-- A tune to 15 V that is committed leaves its bridge on, while one of the other bridge fails. -/
theorem lnb_references_tuned :
    let s := List.foldl noted
      (start true fun n => if n = 1 then .failed .usbIo true else .ok, {})
      [.beginTune 0 15, .commitTune 0, .beginTune 4 15]
    s.1.coord.physicalState 0 = .on ∧ s.1.coord.physicalState 1 = .off ∧
      (s.1.coord.independent15v = true ∨
        ∃ r, validSatelliteReceiver r = true ∧ bridgeIndexForReceiver r = (0 : Fin 2) ∧
          (s.1.coord.receivers r).enabled = true) := by
  intro s
  have hon : s.1.coord.physicalState 0 = .on := by decide
  refine ⟨hon, by decide, ?_⟩
  have hall := (lnb_references true fun n => if n = 1 then .failed .usbIo true else .ok).1
    [.beginTune 0 15, .commitTune 0, .beginTune 4 15] s.1 s.2 (by simp) rfl
  exact (hall.1 0 (.inl hon)).1 hon

end Px4.Lnb
