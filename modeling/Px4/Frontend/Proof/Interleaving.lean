import Px4.Frontend.Proof.Callers

/-!
# Calls on an MLT board, in any order

`Inv` is the invariant of all interleavings: the reference of a receiver is with one call or with
the receiver while it is open, a bus mutex is with one call, the tune sequence of a call is where
its position says, and the log is in order.
-/

namespace Px4.Frontend.Mlt5Pe

open Px4.Device (kMlt5PeReceiverCount)

/-- The receiver a command of a tune sequence is on. -/
def Action.tunes? : Action → Option Nat
  | .wakeup r _ | .setParams r _ _ | .postTune r => some r
  | _ => none

/-- An action that was in order: references are taken when they are free and given back when they
are held, no capturing receiver is tuned, and nothing is purged during a capture. -/
structure Entry.Ok (e : Entry) : Prop where
  acquire : ∀ r, e.action = .acquire r → e.result = .ok () → e.mask.getLsbD r = false
  release : ∀ r, e.action = .release r → e.mask.getLsbD r = true
  tune : ∀ r, e.action.tunes? = some r → r ∉ e.capturing
  purge : e.action = .purge → e.capturing = []

section

variable {σ : Type} {k : Config σ} {s s' : Shared σ} {c d : Caller} {r : Nat} (reply : Result Unit)

/-! ## The log -/

theorem Shared.mem_capturing :
    r ∈ s.capturing ↔ r < kMlt5PeReceiverCount ∧ (s.receiver r).state = .capturing := by
  simp [Shared.capturing]

/-- What is new in the log is in order. -/
def Logs (s s' : Shared σ) : Prop := ∀ e ∈ s'.log, e ∈ s.log ∨ e.Ok

theorem Logs.refl (s : Shared σ) : Logs s s := fun _ he => .inl he

theorem Logs.record {action : Action} {result : Result Unit}
    (hlog : s'.log = (s.record action result).log)
    (h : (⟨action, result, s.power.state.receiverMask, s.capturing⟩ : Entry).Ok) : Logs s s' := by
  intro e he
  rw [hlog] at he
  rcases List.mem_cons.1 he with rfl | he
  · exact .inr h
  · exact .inl he

/-- A command that is no part of a tune sequence. -/
theorem Logs.plain {action : Action} {result : Result Unit}
    (hlog : s'.log = (s.record action result).log) (hchips : action.chips? ≠ none)
    (htunes : action.tunes? = none) : Logs s s' := by
  refine .record hlog ⟨fun r h => ?_, fun r h => ?_, fun r h => ?_, fun h => ?_⟩
  · cases h
    exact absurd rfl hchips
  · cases h
    exact absurd rfl hchips
  · rw [htunes] at h
    cases h
  · cases h
    exact absurd rfl hchips

/-- A command of a tune sequence, on a receiver that is not capturing. -/
theorem Logs.tune {action : Action} {result : Result Unit} {q : Nat}
    (hlog : s'.log = (s.record action result).log) (htunes : action.tunes? = some q)
    (hstate : (s.receiver q).state = .opened) : Logs s s' := by
  refine .record hlog ⟨fun r h => ?_, fun r h => ?_, fun r h => ?_, fun h => ?_⟩
  · cases h
    cases htunes
  · cases h
    cases htunes
  · obtain rfl := Option.some.inj (htunes.symm.trans h)
    rw [Shared.mem_capturing, hstate]
    exact nofun
  · cases h
    cases htunes

/-- **Every action is in order.** -/
theorem advance_logs (hready : Ready s c) : Logs s (advance k reply s c).1 := by
  have hrelease (q : Nat) (hc : c.owner = some q) (result : Result Unit) :
      (⟨.release q, result, s.power.state.receiverMask, s.capturing⟩ : Entry).Ok := by
    refine ⟨by rintro _ ⟨⟩, fun r h => ?_, by rintro _ ⟨⟩, by rintro ⟨⟩⟩
    cases h
    exact (hready.held q hc).1
  cases c with
  | openAcquire q =>
    cases hacquire : Power.Mlt5Pe.acquireReceiver k.power q s.power with
    | mk power result =>
      have hlog : (advance k reply s (.openAcquire q)).1.log =
          (s.record (.acquire q) result).log := by
        simp only [advance, hacquire]
        rfl
      refine .record hlog ⟨fun r h hok => ?_, by rintro _ ⟨⟩, by rintro _ ⟨⟩, by rintro ⟨⟩⟩
      cases h
      rcases acquireReceiver_spec hacquire with ⟨-, -, hfree, -⟩ | ⟨hfailed, -⟩
      · exact hfree
      · rw [show result = .ok () from hok] at hfailed
        cases hfailed
  | openRelease q e => exact .record rfl (hrelease q rfl _)
  | closeRelease q => exact .record rfl (hrelease q rfl _)
  | openDemod q | openTuner q | openConfigure q | openTerminate q e | closeTerminate q =>
    exact .plain rfl (by rintro ⟨⟩) rfl
  | tuneWakeup q system khz => exact .tune rfl rfl hready.progress
  | tuneParams q system khz => exact .tune rfl rfl hready.progress.1
  | tunePost q system khz => exact .tune rfl rfl hready.progress.1
  | selectChips q selection =>
    exact .record rfl ⟨by rintro _ ⟨⟩, by rintro _ ⟨⟩, by rintro _ ⟨⟩, by rintro ⟨⟩⟩
  | startCapture q =>
    simp only [advance]
    split
    · exact .refl s
    split
    · rename_i hpurge
      split <;> exact .record rfl ⟨by rintro _ ⟨⟩, by rintro _ ⟨⟩,
        by rintro _ ⟨⟩, fun _ => hpurge.1⟩
    · exact .refl s
  | openLock q | closeLock q | tuneLock q system khz | selectLock q selection =>
    simp only [advance, takeBus]
    split <;> exact .refl s
  | openCheck q | closeCheck q | selectCheck q selection | stopCapture q =>
    simp only [advance]
    split <;> exact .refl s
  | tuneCheck q system khz =>
    simp only [advance]
    repeat' split
    all_goals exact .refl s
  | _ => exact .refl s

/-! ## The invariant -/

/-- What holds in every interleaving. -/
structure Inv (k : Config σ) (s : Shared σ) (callers : List Caller) : Prop where
  owners : ∀ r, callers.countP (Caller.owns r) + (s.isOpen r).toNat = (s.held r).toNat
  buses : ∀ bus, callers.countP (Caller.inside k bus) + 0 = (s.locked bus).toNat
  progress : ∀ c ∈ callers, Progress s c
  sequenced : ∀ r, Sequenced s r
  range : ∀ r, s.held r = true → r < kMlt5PeReceiverCount
  tally : ∀ r, acquires r s.log = releases r s.log + (s.held r).toNat
  log : ∀ e ∈ s.log, e.Ok

variable {before after : List Caller}

/-- Somebody has the one there is. -/
theorem eq_of_count_pos {n : Nat} {a b : Bool} (hpos : 0 < n) (h : n + a.toNat = b.toNat) :
    a = false ∧ b = true := by
  cases a <;> cases b <;> simp at h ⊢ <;> omega

/-- A call may rely on the invariant. -/
theorem Inv.ready (h : Inv k s (before ++ c :: after)) : Ready s c := by
  have howned (q : Nat) (hc : c.owner = some q) : s.isOpen q = false ∧ s.held q = true := by
    have hpos := Lib.countP_pos_middle before after
      (show c.owns q = true by simp [Caller.owns, hc])
    exact eq_of_count_pos hpos (h.owners q)
  refine ⟨h.progress c (by simp), fun q hc => ?_, fun q hc => ?_⟩
  · simpa [Shared.isOpen] using (howned q hc).1
  · exact ⟨(howned q hc).2, h.range q (howned q hc).2⟩

/-- Another call's tune sequence is where it was. -/
theorem Frame.progress (h : Frame r s s') (hd : d.tuning = some r) (hs : Progress s d) :
    Progress s' d := by
  have hreceiver (hstate : (s.receiver r).state = .opened) : (s'.receiver r).state = .opened := by
    rcases h.receiver with hsame | ⟨hin, -⟩
    · rw [hsame]
      exact hstate
    · rw [hstate] at hin
      cases hin
  cases d with
  | tuneWakeup q system khz =>
    obtain rfl := Option.some.inj hd
    exact hreceiver hs
  | tuneParams q system khz | tunePost q system khz | tuneSet q system khz =>
    obtain rfl := Option.some.inj hd
    obtain ⟨hstate, rest, hrest⟩ := hs
    exact ⟨hreceiver hstate, rest, h.chips.trans hrest⟩
  | _ => cases hd

theorem progress_of_tuning_none (h : d.tuning = none) : Progress s d := by
  cases d <;> trivial

/-- **Every step keeps the invariant.** -/
theorem Inv.step (h : Inv k s (before ++ c :: after)) :
    Inv k (advance k reply s c).1 (before ++ (advance k reply s c).2 :: after) := by
  have hready := h.ready
  have hreferences := advance_references (k := k) reply hready
  have hinside (bus : Bool) (hc : c.inside k bus = true) : s.locked bus = true := by
    have hpos := Lib.countP_pos_middle before after hc
    exact (eq_of_count_pos (a := false) hpos (h.buses bus)).2
  refine ⟨fun r => ?_, fun bus => ?_, fun d hd => ?_, fun r => ?_, ?_, fun r => ?_, fun e he => ?_⟩
  · exact Lib.count_advance (h.owners r) (hreferences.conserves r)
  · exact Lib.count_advance (h.buses bus) (advance_bus reply bus (hinside bus))
  · have hother (hd : d ∈ before ++ after) : Progress (advance k reply s c).1 d := by
      have hs := h.progress d (by simp at hd ⊢; tauto)
      cases htuning : d.tuning with
      | none => exact progress_of_tuning_none htuning
      | some r =>
        have hbusy := Caller.busy_of_tuning htuning
        refine (advance_frame reply fun hc => ?_).progress htuning hs
        -- both calls would be inside the bus of the receiver
        have hle : (before ++ c :: after).countP (Caller.inside k (k.bus r)) ≤ 1 := by
          have hcount := h.buses (k.bus r)
          have := Bool.toNat_le (s.locked (k.bus r))
          omega
        have halone := Lib.alone hle (Caller.inside_of_busy hc) d hd
        rw [Caller.inside_of_busy hbusy] at halone
        cases halone
    rcases List.mem_append.1 hd with hd | hd
    · exact hother (List.mem_append_left _ hd)
    rcases List.mem_cons.1 hd with rfl | hd
    · exact advance_progress reply hready.progress
    · exact hother (List.mem_append_right _ hd)
  · exact advance_sequenced reply hready (h.sequenced r)
  · exact hreferences.range h.range
  · exact hreferences.tally r (h.tally r)
  · rcases advance_logs reply hready e he with he | hok
    · exact h.log e he
    · exact hok

theorem begin_holds (k : Config σ) (op : Call) :
    (begin k op).owner = none ∧ (begin k op).busy = none ∧ (begin k op).tuning = none := by
  cases op with
  | acquireCard => exact ⟨rfl, rfl, rfl⟩
  | releaseCard => exact ⟨rfl, rfl, rfl⟩
  | reconcilePower => exact ⟨rfl, rfl, rfl⟩
  | _ =>
    simp only [begin]
    split <;> exact ⟨rfl, rfl, rfl⟩

/-- A call that comes in holds nothing. -/
theorem Inv.enter {callers : List Caller} (h : Inv k s callers) (op : Call) :
    Inv k s (callers ++ [begin k op]) := by
  obtain ⟨howner, hbusy, htuning⟩ := begin_holds k op
  refine ⟨fun r => ?_, fun bus => ?_, fun d hd => ?_, h.sequenced, h.range, h.tally, h.log⟩
  · have hnot : (begin k op).owns r = false := by simp [Caller.owns, howner]
    rw [List.countP_append, List.countP_singleton, hnot]
    exact h.owners r
  · have hnot : (begin k op).inside k bus = false := by simp [Caller.inside, hbusy]
    rw [List.countP_append, List.countP_singleton, hnot]
    exact h.buses bus
  · rcases List.mem_append.1 hd with hd | hd
    · exact h.progress d hd
    · obtain rfl := List.mem_singleton.1 hd
      exact progress_of_tuning_none htuning

theorem run_inv (k : Config σ) (hw : σ) (moves : List (Lib.Move Call (Result Unit))) :
    Inv k (run k hw moves).shared (run k hw moves).callers := by
  refine Lib.Pool.run_inv (I := Inv k) (fun _ _ op h => h.enter op)
    (fun reply _ _ _ _ h => h.step reply) moves ?_
  refine ⟨fun r => ?_, fun _ => rfl, nofun, fun r => ?_, fun r hr => ?_, fun r => ?_, nofun⟩
  · simp [Shared.isOpen, Shared.held]
  · exact .of_state (show _ = ReceiverState.closed from rfl) rfl
  · simp [Shared.held] at hr
  · simp [acquires, releases, Shared.held]

/-! ## No call is stuck -/

namespace Caller

/-- The receiver for whose bus the call waits. -/
def waits : Caller → Option Nat
  | .openLock r | .closeLock r | .tuneLock r _ _ | .selectLock r _ => some r
  | _ => none

/-- A bound on the steps that are left. -/
def rank : Caller → Nat
  | .openCheck _ => 11
  | .openAcquire _ => 10
  | .openLock _ | .closeLock _ | .tuneLock _ _ _ | .selectLock _ _ => 9
  | .openDemod _ | .closeCheck _ | .tuneCheck _ _ _ | .selectCheck _ _ => 8
  | .openTuner _ | .closeTerminate _ | .tuneWakeup _ _ _ | .selectChips _ _ => 7
  | .openConfigure _ | .closeUnlock _ | .tuneParams _ _ _ => 6
  | .openTerminate _ _ | .openSet _ | .closeRelease _ | .tunePost _ _ _ => 5
  | .openUnlock _ _ | .tuneSet _ _ _ => 4
  | .openRelease _ _ | .unlock _ _ => 3
  | .startCapture _ | .stopCapture _ | .acquireCard | .releaseCard | .reconcilePower => 1
  | .returned _ => 0

theorem eq_returned {c : Caller} (h : c.rank = 0) : ∃ result, c = .returned result := by
  cases c with
  | returned result => exact ⟨result, rfl⟩
  | _ => cases h

/-- A call that holds a bus mutex waits for none and has not returned. -/
theorem waits_of_busy {c : Caller} {r : Nat} (h : c.busy = some r) :
    c.waits = none ∧ c.rank ≠ 0 := by
  cases c <;> first | exact ⟨rfl, Nat.succ_ne_zero _⟩ | cases h

end Caller

/-- A call that does not wait comes closer to its end. -/
theorem advance_rank (hc : c.rank ≠ 0)
    (hfree : ∀ q, c.waits = some q → s.locked (k.bus q) = false) :
    (advance k reply s c).2.rank < c.rank := by
  cases c with
  | returned result => exact absurd rfl hc
  | openLock q | closeLock q | tuneLock q system khz | selectLock q selection =>
    simp only [advance, takeBus]
    rw [if_neg (by rw [hfree q rfl]; exact Bool.false_ne_true)]
    simp [Caller.rank]
  | openCheck q | closeCheck q | selectCheck q selection | stopCapture q =>
    simp only [advance]
    split <;> simp [Caller.rank]
  | tuneCheck q system khz | startCapture q =>
    simp only [advance]
    repeat' split
    all_goals simp [Caller.rank]
  | openAcquire q =>
    simp only [advance]
    rcases Power.Mlt5Pe.acquireReceiver k.power q s.power with ⟨power, _ | _⟩ <;> simp [Caller.rank]
  | openDemod q | openTuner q | openConfigure q | tuneWakeup q system khz | tuneParams q system khz
  | tunePost q system khz => cases reply <;> simp [advance, command, Caller.rank]
  | openUnlock q result => cases result <;> simp [advance, Caller.rank]
  | _ => simp [advance, Caller.rank]

/-- Some call can go on: one that waits does so for one that does not. -/
theorem Inv.some_goes_on {callers : List Caller} (h : Inv k s callers) :
    (∀ c ∈ callers, c.rank = 0) ∨
      ∃ c ∈ callers, ∃ reply, (advance k reply s c).2.rank < c.rank := by
  by_cases hdone : ∀ c ∈ callers, c.rank = 0
  · exact .inl hdone
  right
  simp only [not_forall] at hdone
  obtain ⟨c, hc, hrank⟩ := hdone
  by_cases hfree : ∀ q, c.waits = some q → s.locked (k.bus q) = false
  · exact ⟨c, hc, .ok (), advance_rank _ hrank hfree⟩
  simp only [not_forall] at hfree
  obtain ⟨q, -, hlocked⟩ := hfree
  have hcount := h.buses (k.bus q)
  rw [Bool.not_eq_false] at hlocked
  rw [hlocked, Bool.toNat_true] at hcount
  obtain ⟨d, hd, hinside⟩ := List.countP_pos_iff.1
    (show 0 < callers.countP (Caller.inside k (k.bus q)) by omega)
  obtain ⟨r, hbusy, -⟩ := (Option.any_eq_true _ _).1 hinside
  obtain ⟨hwaits, hrank'⟩ := Caller.waits_of_busy hbusy
  refine ⟨d, hd, .ok (), advance_rank _ hrank' fun q' hq' => ?_⟩
  rw [hwaits] at hq'
  cases hq'

/-- **The calls under way can always be brought to their end.** -/
theorem exists_returned (k : Config σ) (hw : σ) (moves : List (Lib.Move Call (Result Unit))) :
    ∃ more, ∀ c ∈ (run k hw (moves ++ more)).callers, ∃ result, c = .returned result := by
  obtain ⟨more, hmore⟩ := Lib.Pool.run_to_end (I := Inv k) (begin k) Caller.rank
    (fun reply _ _ _ _ h => Inv.step reply h) (fun _ _ h => h.some_goes_on) (run k hw moves)
    (run_inv k hw moves)
  refine ⟨more, fun c hc => Caller.eq_returned (hmore c ?_)⟩
  rw [run, Lib.Pool.run, List.foldl_append] at hc
  exact hc

/-- **Every interleaving of calls on an MLT board.** Whatever the commands, purges and power writes
come to: a receiver that is not closed holds its power reference; a reference is taken only when it
is free and given back only when it is held, so that those taken are those given back and the one
that is held; the calls under way can always be brought to their end, and once all have returned
only receivers that are not closed hold one; a receiver is tuned or capturing only if its latest
sequence of wakeup, set_params and post_tune since its open was completed for the recorded system;
no tune sequence is under way or sends a command while its receiver is capturing; and the PSB is
purged only when no receiver is capturing. -/
theorem frontend_interleaving (k : Config σ) (hw : σ) (moves : List (Lib.Move Call (Result Unit))) :
    let s := (run k hw moves).shared
    let callers := (run k hw moves).callers
    (∀ r, (s.receiver r).state ≠ .closed → s.held r = true) ∧
    (∀ r, acquires r s.log = releases r s.log + (s.held r).toNat) ∧
    (∀ e ∈ s.log, ∀ r,
      (e.action = .acquire r → e.result = .ok () → e.mask.getLsbD r = false) ∧
      (e.action = .release r → e.mask.getLsbD r = true)) ∧
    (∃ more, ∀ c ∈ (run k hw (moves ++ more)).callers, ∃ result, c = .returned result) ∧
    ((∀ c ∈ callers, ∃ result, c = .returned result) →
      ∀ r, s.held r = true ↔ (s.receiver r).state ≠ .closed) ∧
    (∀ r, (s.receiver r).state = .tuned ∨ (s.receiver r).state = .capturing → TunedFor s r) ∧
    (∀ c ∈ callers, ∀ r, c.tuning = some r → (s.receiver r).state ≠ .capturing) ∧
    (∀ e ∈ s.log, ∀ r, e.action.tunes? = some r → r ∉ e.capturing) ∧
    (∀ e ∈ s.log, e.action = .purge → e.capturing = []) := by
  intro s callers
  have h : Inv k s callers := run_inv k hw moves
  have hheld (r : Nat) (hopen : (s.receiver r).state ≠ .closed) : s.held r = true := by
    have hcount := h.owners r
    rw [show s.isOpen r = true from bne_iff_ne.2 hopen] at hcount
    revert hcount
    cases s.held r <;> simp
  refine ⟨hheld, h.tally, fun e he r => ⟨(h.log e he).acquire r, (h.log e he).release r⟩,
    exists_returned k hw moves, fun hreturned r => ⟨fun hr => ?_, hheld r⟩, fun r htuned => ?_,
    fun c hc r htuning => ?_,
    fun e he => (h.log e he).tune, fun e he => (h.log e he).purge⟩
  · have hnone : callers.countP (Caller.owns r) = 0 := by
      rw [List.countP_eq_zero]
      intro c hc
      obtain ⟨result, rfl⟩ := hreturned c hc
      exact Bool.false_ne_true
    have hcount := h.owners r
    rw [hnone, hr] at hcount
    rw [← bne_iff_ne]
    show s.isOpen r = true
    revert hcount
    cases s.isOpen r <;> simp
  · refine h.sequenced r ?_
    rcases htuned with htuned | htuned <;> rw [htuned] <;> rfl
  · have hprogress := h.progress c hc
    cases c with
    | tuneWakeup q system khz =>
      obtain rfl := Option.some.inj htuning
      rw [show (s.receiver q).state = .opened from hprogress]
      exact nofun
    | tuneParams q system khz | tunePost q system khz | tuneSet q system khz =>
      obtain rfl := Option.some.inj htuning
      rw [hprogress.1]
      exact nofun
    | _ => cases htuning

end

end Px4.Frontend.Mlt5Pe
