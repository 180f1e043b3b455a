import Px4.Frontend.Mlt5Pe
import Px4.Frontend.Proof.Enclosure
import Px4.Power.Proof.OneBridge

/-!
# What a step of a call can do

Each lemma is about one step of one call on an MLT board: which reference it moves
(`advance_owner`), which bus mutex (`advance_bus`), and what it leaves of a receiver whose bus it
does not hold (`advance_frame`).
-/

namespace Px4.Frontend.Mlt5Pe

open Px4.Device (kMlt5PeReceiverCount)
open Px4.Power.Mlt5Pe (acquireReceiver releaseReceiver)

/-! ## What a call holds -/

namespace Caller

/-- The receiver whose bus mutex the call holds. -/
def busy : Caller → Option Nat
  | .openDemod r | .openTuner r | .openConfigure r | .openTerminate r _ | .openSet r
  | .openUnlock r _ | .closeCheck r | .closeTerminate r | .closeUnlock r | .tuneCheck r _ _
  | .tuneWakeup r _ _ | .tuneParams r _ _ | .tunePost r _ _ | .tuneSet r _ _ | .selectCheck r _
  | .selectChips r _ | .unlock r _ => some r
  | _ => none

/-- The receiver whose reference the call holds and has to pass on or give back. -/
def owner : Caller → Option Nat
  | .openLock r | .openDemod r | .openTuner r | .openConfigure r | .openTerminate r _ | .openSet r
  | .openUnlock r (.error _) | .openRelease r _ | .closeTerminate r | .closeUnlock r
  | .closeRelease r => some r
  | _ => none

/-- The receiver whose tune sequence the call is in. -/
def tuning : Caller → Option Nat
  | .tuneWakeup r _ _ | .tuneParams r _ _ | .tunePost r _ _ | .tuneSet r _ _ => some r
  | _ => none

/-- The call owns the reference of the receiver. -/
def owns (r : Nat) (c : Caller) : Bool := c.owner == some r

/-- The call holds the mutex of the bus. -/
def inside (k : Config σ) (bus : Bool) (c : Caller) : Bool := c.busy.any fun r => k.bus r == bus

theorem busy_of_tuning {c : Caller} {r : Nat} (h : c.tuning = some r) : c.busy = some r := by
  cases c <;> first | exact h | cases h

theorem inside_of_busy {k : Config σ} {c : Caller} {r : Nat} (h : c.busy = some r) :
    c.inside k (k.bus r) = true := by
  unfold inside
  rw [h]
  exact beq_self_eq_true _

end Caller

section

variable {σ : Type} {k : Config σ} {s : Shared σ} {r : Nat}

/-! ## The shared state -/

namespace Shared

@[simp] theorem setReceiver_self (state : ReceiverState) (system : System) :
    (s.setReceiver r state system).receiver r = ⟨state, system⟩ := Function.update_self _ _ _

theorem setReceiver_of_ne {q : Nat} (h : r ≠ q) (state : ReceiverState) (system : System) :
    (s.setReceiver q state system).receiver r = s.receiver r := Function.update_of_ne h _ _

/-- The receiver is not closed. -/
def isOpen (s : Shared σ) (r : Nat) : Bool := (s.receiver r).state != .closed

end Shared

/-! ## References -/

theorem receiverMask_acquireCard (p : Power.Mlt5Pe.Sys σ) :
    (Power.Mlt5Pe.acquireCard k.power p).1.state.receiverMask = p.state.receiverMask := by
  unfold Power.Mlt5Pe.acquireCard
  have h := Power.apply_references k.power (p.setReferences p.state.receiverMask true)
  split
  · rfl
  split
  · rfl
  split
  · rename_i p₁ heq
    rw [heq] at h
    exact h.1
  · rename_i p₁ e heq
    rw [heq] at h
    exact (Power.apply_references k.power _).1.trans h.1

theorem receiverMask_releaseCard (p : Power.Mlt5Pe.Sys σ) :
    (Power.Mlt5Pe.releaseCard k.power p).1.state.receiverMask = p.state.receiverMask := by
  unfold Power.Mlt5Pe.releaseCard
  split
  · rfl
  · exact (Power.apply_references k.power _).1

theorem receiverMask_reconcile (p : Power.Mlt5Pe.Sys σ) :
    (Power.Mlt5Pe.reconcile k.power p).1.state.receiverMask = p.state.receiverMask := by
  unfold Power.Mlt5Pe.reconcile
  split
  · rfl
  · exact (Power.apply_references k.power _).1

/-- **A reference is taken** once: it was not held before, and a failure takes none. -/
theorem acquireReceiver_spec {p p' : Power.Mlt5Pe.Sys σ} {q : Nat} {result : Result Unit}
    (h : acquireReceiver k.power q p = (p', result)) :
    (result = .ok () ∧ q < kMlt5PeReceiverCount ∧ p.state.receiverMask.getLsbD q = false ∧
      ∀ i, p'.state.receiverMask.getLsbD i = (p.state.receiverMask.getLsbD i || decide (i = q))) ∨
    result.isOk = false ∧ p'.state.receiverMask = p.state.receiverMask := by
  unfold Power.Mlt5Pe.acquireReceiver at h
  dsimp only at h
  split at h
  · cases h
    exact .inr ⟨rfl, rfl⟩
  rename_i hq
  have hq : q < kMlt5PeReceiverCount := Nat.lt_of_not_le hq
  have hq8 : q < 8 := Nat.lt_trans hq (by decide)
  split at h
  · cases h
    exact .inr ⟨rfl, rfl⟩
  split at h
  · cases h
    exact .inr ⟨rfl, rfl⟩
  rename_i hfree
  have hmask := Power.apply_references k.power
    (p.setReferences (p.state.receiverMask ||| Power.receiverBit q) p.state.cardAcquired)
  split at h
  · rename_i p₁ heq
    rw [heq] at hmask
    cases h
    refine .inl ⟨rfl, hq, (bit_and_eq_zero _ hq8).1 (not_not.1 hfree), fun i => ?_⟩
    rw [hmask.1]
    exact bit_or _ hq8 i
  · rename_i p₁ e heq
    rw [heq] at hmask
    cases h
    refine .inr ⟨rfl, ?_⟩
    rw [(Power.apply_references k.power _).1]
    show p₁.state.receiverMask &&& ~~~Power.receiverBit q = _
    rw [hmask.1]
    exact Power.or_and_not_of_and_eq_zero (not_not.1 hfree)

/-- **A reference that is held is given back**, whatever the backend says. -/
theorem releaseReceiver_spec {p : Power.Mlt5Pe.Sys σ} {q : Nat} (hq : q < kMlt5PeReceiverCount)
    (hheld : p.state.receiverMask.getLsbD q = true) (i : Nat) :
    (releaseReceiver k.power q p).1.state.receiverMask.getLsbD i =
      (p.state.receiverMask.getLsbD i && decide (i ≠ q)) := by
  have hq8 : q < 8 := Nat.lt_trans hq (by decide)
  unfold Power.Mlt5Pe.releaseReceiver
  dsimp only
  rw [if_neg (Nat.not_le.2 hq), if_neg, (Power.apply_references k.power _).1]
  · by_cases hi : i < 8
    · exact bit_clear _ q hi
    · rw [BitVec.getLsbD_of_ge _ _ (Nat.le_of_not_lt hi), BitVec.getLsbD_of_ge _ _
        (Nat.le_of_not_lt hi), Bool.false_and]
  · rw [bit_and_eq_zero _ hq8, hheld]
    exact Bool.noConfusion

/-! ## The tune sequence -/

/-- The receiver whose chips an action sets up, tunes or shuts down. -/
def Action.chips? : Action → Option Nat
  | .initDemod r | .initTuner r | .configureTsOutput r | .terminate r | .wakeup r _
  | .setParams r _ _ | .postTune r => some r
  | _ => none

/-- Those actions on a receiver and what they came to, latest first. -/
def chips (r : Nat) (log : List Entry) : List (Action × Result Unit) :=
  log.filterMap fun e => if e.action.chips? = some r then some (e.action, e.result) else none

theorem chips_record_self {action : Action} (h : action.chips? = some r) (result : Result Unit) :
    chips r (s.record action result).log = (action, result) :: chips r s.log := by
  show chips r (⟨action, result, _, _⟩ :: s.log) = _
  simp [chips, h]

theorem chips_record_of_ne {action : Action} (h : action.chips? ≠ some r) (result : Result Unit) :
    chips r (s.record action result).log = chips r s.log := by
  show chips r (⟨action, result, _, _⟩ :: s.log) = _
  simp [chips, h]

/-- How far the tune sequence of a call has come. -/
def Progress (s : Shared σ) : Caller → Prop
  | .tuneWakeup r _ _ => (s.receiver r).state = .opened
  | .tuneParams r system _ => (s.receiver r).state = .opened ∧
    ∃ rest, chips r s.log = (.wakeup r system, .ok ()) :: rest
  | .tunePost r system khz => (s.receiver r).state = .opened ∧
    ∃ rest, chips r s.log = (.setParams r system khz, .ok ()) :: (.wakeup r system, .ok ()) :: rest
  | .tuneSet r system khz => (s.receiver r).state = .opened ∧
    ∃ rest, chips r s.log = (.postTune r, .ok ()) :: (.setParams r system khz, .ok ()) ::
      (.wakeup r system, .ok ()) :: rest
  | _ => True

/-- The receiver is tuned or capturing. -/
def ReceiverState.tunedIn : ReceiverState → Bool
  | .closed | .opened => false
  | .tuned | .capturing => true

/-- The latest tune sequence on the receiver was completed, for the system that is recorded. -/
def TunedFor (s : Shared σ) (r : Nat) : Prop :=
  ∃ khz rest, chips r s.log = (.postTune r, .ok ()) ::
    (.setParams r (s.receiver r).system khz, .ok ()) :: (.wakeup r (s.receiver r).system, .ok ()) ::
    rest

/-! ## Steps -/

variable {c : Caller} (reply : Result Unit)

/-- The call may rely on this: its tune sequence is where it should be, and the receiver whose
reference it owns is closed. -/
structure Ready (s : Shared σ) (c : Caller) : Prop where
  progress : Progress s c
  closed : ∀ q, c.owner = some q → (s.receiver q).state = .closed
  held : ∀ q, c.owner = some q → s.held q = true ∧ q < kMlt5PeReceiverCount

/-- What a step leaves of a receiver whose bus the call does not hold. -/
structure Frame (r : Nat) (s s' : Shared σ) : Prop where
  chips : chips r s'.log = chips r s.log
  receiver : s'.receiver r = s.receiver r ∨ (s.receiver r).state.tunedIn = true ∧
    (s'.receiver r).state.tunedIn = true ∧ (s'.receiver r).system = (s.receiver r).system

theorem Frame.refl (r : Nat) (s : Shared σ) : Frame r s s := ⟨rfl, .inl rfl⟩

theorem Frame.record {action : Action} (h : action.chips? ≠ some r) (result : Result Unit) :
    Frame r s (s.record action result) := ⟨chips_record_of_ne h result, .inl rfl⟩

theorem Frame.setReceiver {q : Nat} (h : r ≠ q) (state : ReceiverState) (system : System) :
    Frame r s (s.setReceiver q state system) :=
  ⟨rfl, .inl (Shared.setReceiver_of_ne h state system)⟩

theorem Frame.setState {q : Nat} {state : ReceiverState} (h : (s.receiver q).state.tunedIn = true)
    (h' : state.tunedIn = true) : Frame r s (s.setState q state) := by
  by_cases hr : r = q
  · subst hr
    refine ⟨rfl, .inr ⟨h, ?_, ?_⟩⟩ <;> unfold Shared.setState <;> rw [Shared.setReceiver_self]
    exact h'
  · exact .setReceiver hr _ _

theorem Frame.takeBus (q : Nat) (here next : Caller) : Frame r s (takeBus k s q here next).1 := by
  unfold Mlt5Pe.takeBus
  split
  · exact .refl r s
  · exact ⟨rfl, .inl rfl⟩

theorem advance_frame (h : c.busy ≠ some r) : Frame r s (advance k reply s c).1 := by
  have hne {q : Nat} (hq : some q ≠ some r) : r ≠ q := fun hr => hq (congrArg some hr.symm)
  cases c with
  | openCheck q =>
    simp only [advance]
    split <;> exact .refl r s
  | openAcquire q | openRelease q e | closeRelease q =>
    exact ⟨chips_record_of_ne (by simp [Action.chips?]) _, .inl rfl⟩
  | openLock q | closeLock q | tuneLock q system khz | selectLock q selection =>
    exact .takeBus q _ _
  | openDemod q | openTuner q | openConfigure q | openTerminate q e | closeTerminate q
  | tuneWakeup q system khz | tuneParams q system khz | tunePost q system khz =>
    exact .record (by exact h) _
  | openSet q | tuneSet q system khz => exact .setReceiver (hne h) _ _
  | selectChips q selection => exact .record (by simp [Action.chips?]) _
  | closeCheck q =>
    simp only [advance]
    split
    · exact .refl r s
    · exact .setReceiver (hne h) _ _
  | tuneCheck q system khz =>
    simp only [advance]
    split
    · exact .refl r s
    split
    · exact .refl r s
    · exact .setReceiver (hne h) _ _
  | selectCheck q selection =>
    simp only [advance]
    split <;> exact .refl r s
  | startCapture q =>
    simp only [advance]
    split
    · exact .refl r s
    rename_i htuned
    have htuned : (s.receiver q).state.tunedIn = true := by rw [not_not.1 htuned]; rfl
    split
    · split
      · have hstate : Frame r (s.record .purge (.ok ()))
            ((s.record .purge (.ok ())).setState q .capturing) := .setState htuned rfl
        exact ⟨hstate.chips.trans (chips_record_of_ne (by simp [Action.chips?]) _), hstate.receiver⟩
      · exact .record (by simp [Action.chips?]) _
    · exact .setState htuned rfl
  | stopCapture q =>
    simp only [advance]
    split
    · exact .refl r s
    · rename_i hcapturing
      exact .setState (by rw [not_not.1 hcapturing]; rfl) rfl
  | openUnlock q result | closeUnlock q | unlock q result | acquireCard | releaseCard
  | reconcilePower | returned result => exact ⟨rfl, .inl rfl⟩

/-- **The tune sequence goes on.** -/
theorem advance_progress (h : Progress s c) :
    Progress (advance k reply s c).1 (advance k reply s c).2 := by
  cases c with
  | tuneCheck q system khz =>
    simp only [advance]
    split
    · trivial
    split
    · trivial
    · exact congrArg Receiver.state (Shared.setReceiver_self _ _)
  | tuneWakeup q system khz =>
    cases reply with
    | error e => trivial
    | ok _ => exact ⟨h, _, chips_record_self rfl _⟩
  | tuneParams q system khz =>
    cases reply with
    | error e => trivial
    | ok _ =>
      obtain ⟨hstate, rest, hrest⟩ := h
      exact ⟨hstate, rest, (chips_record_self rfl _).trans (congrArg _ hrest)⟩
  | tunePost q system khz =>
    cases reply with
    | error e => trivial
    | ok _ =>
      obtain ⟨hstate, rest, hrest⟩ := h
      exact ⟨hstate, rest, (chips_record_self rfl _).trans (congrArg _ hrest)⟩
  | openCheck q | closeCheck q | selectCheck q selection | stopCapture q =>
    simp only [advance]
    split <;> trivial
  | startCapture q =>
    simp only [advance]
    repeat' split
    all_goals trivial
  | openLock q | closeLock q | tuneLock q system khz | selectLock q selection =>
    simp only [advance, takeBus]
    split <;> trivial
  | openDemod q | openTuner q | openConfigure q => cases reply <;> trivial
  | openUnlock q result => cases result <;> trivial
  | openAcquire q =>
    simp only [advance]
    rcases acquireReceiver k.power q s.power with ⟨power, _ | _⟩ <;> trivial
  | _ => trivial

/-- A tuned receiver has had a complete sequence. -/
def Sequenced (s : Shared σ) (r : Nat) : Prop :=
  (s.receiver r).state.tunedIn = true → TunedFor s r

theorem Frame.sequenced {s' : Shared σ} (h : Frame r s s') (hs : Sequenced s r) :
    Sequenced s' r := by
  intro hin
  have hbefore : (s.receiver r).state.tunedIn = true ∧
      (s'.receiver r).system = (s.receiver r).system := by
    rcases h.receiver with hsame | ⟨hbefore, -, hsystem⟩
    · rw [hsame] at hin
      exact ⟨hin, congrArg Receiver.system hsame⟩
    · exact ⟨hbefore, hsystem⟩
  obtain ⟨khz, rest, hrest⟩ := hs hbefore.1
  refine ⟨khz, rest, ?_⟩
  rw [h.chips, hbefore.2]
  exact hrest

/-- A receiver that is not tuned. -/
theorem Sequenced.of_state {state : ReceiverState} (h : (s.receiver r).state = state)
    (hstate : state.tunedIn = false) : Sequenced s r := by
  intro hin
  rw [h, hstate] at hin
  cases hin

/-- **A tuned receiver has had a complete sequence**, after every step. -/
theorem advance_sequenced (hready : Ready s c) (hs : Sequenced s r) :
    Sequenced (advance k reply s c).1 r := by
  by_cases hbusy : c.busy = some r
  case neg => exact (advance_frame reply hbusy).sequenced hs
  cases c with
  | openDemod q | openTuner q | openConfigure q | openTerminate q e | closeTerminate q =>
    obtain rfl := Option.some.inj hbusy
    exact .of_state (hready.closed _ rfl) rfl
  | openSet q =>
    obtain rfl := Option.some.inj hbusy
    exact .of_state (congrArg Receiver.state (Shared.setReceiver_self _ _)) rfl
  | closeCheck q =>
    obtain rfl := Option.some.inj hbusy
    simp only [advance]
    split
    · exact hs
    · exact .of_state (congrArg Receiver.state (Shared.setReceiver_self _ _)) rfl
  | tuneCheck q system khz =>
    obtain rfl := Option.some.inj hbusy
    simp only [advance]
    split
    · exact hs
    split
    · exact hs
    · exact .of_state (congrArg Receiver.state (Shared.setReceiver_self _ _)) rfl
  | tuneWakeup q system khz =>
    obtain rfl := Option.some.inj hbusy
    exact .of_state hready.progress rfl
  | tuneParams q system khz | tunePost q system khz =>
    obtain rfl := Option.some.inj hbusy
    exact .of_state hready.progress.1 rfl
  | tuneSet q system khz =>
    obtain rfl := Option.some.inj hbusy
    obtain ⟨-, rest, hrest⟩ := hready.progress
    intro _
    refine ⟨khz, rest, ?_⟩
    rw [show ((advance k reply s (.tuneSet q system khz)).1.receiver q).system = system from
      congrArg Receiver.system (Shared.setReceiver_self _ _)]
    exact hrest
  | selectCheck q selection =>
    simp only [advance]
    split <;> exact hs
  | selectChips q selection =>
    have hframe : Frame r s (advance k reply s (.selectChips q selection)).1 :=
      .record (by simp [Action.chips?]) _
    exact hframe.sequenced hs
  | openUnlock q result | closeUnlock q | unlock q result =>
    have hframe : Frame r s (s.setLocked (k.bus q) false) := ⟨rfl, .inl rfl⟩
    exact hframe.sequenced hs
  | _ => cases hbusy

/-! ## Mutexes and references -/

/-- **A bus mutex** is with the call that took it, until that call gives it back. -/
theorem advance_bus (bus : Bool) (h : c.inside k bus = true → s.locked bus = true) :
    ((advance k reply s c).2.inside k bus).toNat + (s.locked bus).toNat =
      (c.inside k bus).toNat + ((advance k reply s c).1.locked bus).toNat := by
  have htake (q : Nat) (here next : Caller) (hhere : here.busy = none)
      (hnext : next.busy = some q) :
      ((takeBus k s q here next).2.inside k bus).toNat + (s.locked bus).toNat =
        (here.inside k bus).toNat + ((takeBus k s q here next).1.locked bus).toNat := by
    unfold takeBus
    split
    · rfl
    · rename_i hfree
      show (next.inside k bus).toNat + _ = _ + (Function.update s.locked (k.bus q) true bus).toNat
      unfold Caller.inside
      rw [hhere, hnext]
      by_cases hb : bus = k.bus q
      · subst hb
        simp [hfree]
      · simp [hb, Ne.symm hb]
  have hgive (q : Nat) (here next : Caller) (hhere : here.busy = some q) (hnext : next.busy = none)
      (h : here.inside k bus = true → s.locked bus = true) :
      (next.inside k bus).toNat + (s.locked bus).toNat =
        (here.inside k bus).toNat + ((s.setLocked (k.bus q) false).locked bus).toNat := by
    show _ = _ + (Function.update s.locked (k.bus q) false bus).toNat
    unfold Caller.inside at h ⊢
    rw [hhere] at h
    rw [hhere, hnext]
    by_cases hb : bus = k.bus q
    · subst hb
      simp [h (beq_self_eq_true _)]
    · simp [hb, Ne.symm hb]
  cases c with
  | openLock q => exact htake q _ _ rfl rfl
  | closeLock q => exact htake q _ _ rfl rfl
  | tuneLock q system khz => exact htake q _ _ rfl rfl
  | selectLock q selection => exact htake q _ _ rfl rfl
  | openUnlock q result =>
    cases result with
    | error e => exact hgive q _ _ rfl rfl h
    | ok _ => exact hgive q _ _ rfl rfl h
  | closeUnlock q => exact hgive q _ _ rfl rfl h
  | unlock q result => exact hgive q _ _ rfl rfl h
  | openCheck q | closeCheck q | selectCheck q selection | stopCapture q =>
    simp only [advance]
    split <;> rfl
  | tuneCheck q system khz =>
    simp only [advance]
    repeat' split
    all_goals rfl
  | startCapture q =>
    simp only [advance]
    repeat' split
    all_goals rfl
  | openAcquire q =>
    simp only [advance]
    rcases acquireReceiver k.power q s.power with ⟨power, _ | _⟩ <;> rfl
  | openDemod q | openTuner q | openConfigure q | tuneWakeup q system khz | tuneParams q system khz
  | tunePost q system khz => cases reply <;> rfl
  | _ => rfl

/-- References taken for a receiver. -/
def acquires (r : Nat) (log : List Entry) : Nat :=
  log.countP fun e => e.action == .acquire r && e.result.isOk

/-- References given back for a receiver. -/
def releases (r : Nat) (log : List Entry) : Nat := log.countP fun e => e.action == .release r

theorem Shared.isOpen_setReceiver (q : Nat) (state : ReceiverState) (system : System) :
    (s.setReceiver q state system).isOpen r = if r = q then state != .closed else s.isOpen r := by
  unfold Shared.isOpen
  by_cases hr : r = q
  · subst hr
    rw [setReceiver_self, if_pos rfl]
  · rw [setReceiver_of_ne hr, if_neg hr]

/-- A receiver that was not closed has another state that is not closed. -/
theorem Shared.isOpen_setReceiver_of_open {q : Nat} {state : ReceiverState}
    (h : (s.receiver q).state ≠ .closed) (hstate : state ≠ .closed) (system : System) :
    (s.setReceiver q state system).isOpen = s.isOpen := by
  funext r
  rw [isOpen_setReceiver]
  split
  · rename_i hr
    rw [hr, Shared.isOpen, bne_iff_ne.2 h, bne_iff_ne.2 hstate]
  · rfl

/-- What a step does to the references: one is taken by the call or given back, or it is passed from
the call to a receiver that becomes open or back from one that is closed, or they stay. -/
inductive References (s s' : Shared σ) (c c' : Caller) : Prop
  | took (q : Nat) (hc : c.owner = none) (hc' : c'.owner = some q)
      (hq : q < kMlt5PeReceiverCount) (hfree : s.held q = false)
      (hheld : ∀ i, s'.held i = (s.held i || decide (i = q)))
      (hlog : s'.log = (s.record (.acquire q) (.ok ())).log) (hopen : s'.isOpen = s.isOpen)
  | gave (q : Nat) (result : Result Unit) (hc : c.owner = some q) (hc' : c'.owner = none)
      (hwas : s.held q = true) (hheld : ∀ i, s'.held i = (s.held i && decide (i ≠ q)))
      (hlog : s'.log = (s.record (.release q) result).log) (hopen : s'.isOpen = s.isOpen)
  | opened (q : Nat) (hc : c.owner = some q) (hc' : c'.owner = none) (hwas : s.isOpen q = false)
      (hopen : ∀ i, s'.isOpen i = (s.isOpen i || decide (i = q))) (hheld : s'.held = s.held)
      (hlog : s'.log = s.log)
  | closed (q : Nat) (hc : c.owner = none) (hc' : c'.owner = some q) (hwas : s.isOpen q = true)
      (hopen : ∀ i, s'.isOpen i = (s.isOpen i && decide (i ≠ q))) (hheld : s'.held = s.held)
      (hlog : s'.log = s.log)
  | kept (hc : c'.owner = c.owner) (hopen : s'.isOpen = s.isOpen) (hheld : s'.held = s.held)
      (hacquires : ∀ r, acquires r s'.log = acquires r s.log)
      (hreleases : ∀ r, releases r s'.log = releases r s.log)

theorem References.same {c c' : Caller} {s' : Shared σ} (hc : c'.owner = c.owner)
    (hopen : s'.isOpen = s.isOpen) (hheld : s'.held = s.held) (hlog : s'.log = s.log) :
    References s s' c c' :=
  .kept hc hopen hheld (fun r => by rw [hlog]) fun r => by rw [hlog]

/-- An action that is not about references. -/
theorem References.record {c c' : Caller} {s' : Shared σ} {action : Action} {result : Result Unit}
    (hc : c'.owner = c.owner) (hopen : s'.isOpen = s.isOpen) (hheld : s'.held = s.held)
    (hlog : s'.log = (s.record action result).log)
    (hacquire : ∀ r, action = .acquire r → result.isOk = false)
    (hrelease : ∀ r, action ≠ .release r) : References s s' c c' := by
  refine .kept hc hopen hheld (fun r => ?_) (fun r => ?_)
  · have hnot : (action == .acquire r && result.isOk) = false := by
      cases hr : action == .acquire r with
      | false => rfl
      | true => exact hacquire r (by simpa using hr)
    rw [hlog]
    show List.countP _ (⟨action, result, _, _⟩ :: s.log) = _
    rw [List.countP_cons_of_neg (by simp [hnot])]
    rfl
  · rw [hlog]
    show List.countP _ (⟨action, result, _, _⟩ :: s.log) = _
    rw [List.countP_cons_of_neg (by simp [hrelease r])]
    rfl

/-- **What a step does to the references.** -/
theorem advance_references (hready : Ready s c) :
    References s (advance k reply s c).1 c (advance k reply s c).2 := by
  have hgave (q : Nat) (hc : c.owner = some q) (c' : Caller) (hc' : c'.owner = none) :
      References s ((s.record (.release q) (releaseReceiver k.power q s.power).2).setPower
        (releaseReceiver k.power q s.power).1) c c' := by
    obtain ⟨hheld, hq⟩ := hready.held q hc
    exact .gave q _ hc hc' hheld (releaseReceiver_spec hq hheld) rfl rfl
  cases c with
  | openAcquire q =>
    cases hacquire : acquireReceiver k.power q s.power with
    | mk power result =>
      rcases acquireReceiver_spec hacquire with ⟨rfl, hq, hfree, hheld⟩ | ⟨hfailed, hmask⟩
      · simp only [advance, hacquire]
        exact .took q rfl rfl hq hfree hheld rfl rfl
      · cases result with
        | ok _ => cases hfailed
        | error e =>
          simp only [advance, hacquire]
          exact .record rfl rfl (funext fun i => congrArg (BitVec.getLsbD · i) hmask) rfl
            (fun _ _ => rfl) nofun
  | openRelease q e => exact hgave q rfl _ rfl
  | closeRelease q => exact hgave q rfl _ rfl
  | openSet q =>
    have hclosed : s.isOpen q = false := by
      unfold Shared.isOpen
      rw [hready.closed q rfl]
      rfl
    refine .opened q rfl rfl hclosed (fun i => ?_) rfl rfl
    rw [show (advance k reply s (.openSet q)).1.isOpen i = _ from Shared.isOpen_setReceiver _ _ _]
    by_cases hi : i = q <;> simp [hi]
  | closeCheck q =>
    simp only [advance]
    split
    · exact .same rfl rfl rfl rfl
    · rename_i hopen
      refine .closed q rfl rfl (bne_iff_ne.2 hopen) (fun i => ?_) rfl rfl
      rw [Shared.isOpen_setReceiver]
      by_cases hi : i = q <;> simp [hi]
  | tuneCheck q system khz =>
    simp only [advance]
    split
    · exact .same rfl rfl rfl rfl
    rename_i hopen
    split
    · exact .same rfl rfl rfl rfl
    · exact .same rfl (Shared.isOpen_setReceiver_of_open hopen (by decide) _) rfl rfl
  | tuneSet q system khz =>
    have hopen : (s.receiver q).state ≠ .closed := by
      rw [hready.progress.1]
      exact nofun
    exact .same rfl (Shared.isOpen_setReceiver_of_open hopen (by decide) _) rfl rfl
  | stopCapture q =>
    simp only [advance]
    split
    · exact .same rfl rfl rfl rfl
    · rename_i hcapturing
      have hopen : (s.receiver q).state ≠ .closed := by
        rw [not_not.1 hcapturing]
        exact nofun
      exact .same rfl (Shared.isOpen_setReceiver_of_open hopen (by decide) _) rfl rfl
  | startCapture q =>
    simp only [advance]
    split
    · exact .same rfl rfl rfl rfl
    rename_i htuned
    have hopen : (s.receiver q).state ≠ .closed := by
      rw [not_not.1 htuned]
      exact nofun
    split
    · split
      · exact .record rfl (Shared.isOpen_setReceiver_of_open (s := s.record .purge (.ok ())) hopen
          (by decide) _) rfl rfl nofun nofun
      · exact .record rfl rfl rfl rfl nofun nofun
    · exact .same rfl (Shared.isOpen_setReceiver_of_open hopen (by decide) _) rfl rfl
  | openLock q | closeLock q | tuneLock q system khz | selectLock q selection =>
    simp only [advance, takeBus]
    split <;> exact .same rfl rfl rfl rfl
  | openCheck q | selectCheck q selection =>
    simp only [advance]
    split <;> exact .same rfl rfl rfl rfl
  | openDemod q | openTuner q | openConfigure q | tuneWakeup q system khz | tuneParams q system khz
  | tunePost q system khz =>
    cases reply <;> exact .record rfl rfl rfl rfl nofun nofun
  | openTerminate q e | closeTerminate q | selectChips q selection =>
    exact .record rfl rfl rfl rfl nofun nofun
  | openUnlock q result => cases result <;> exact .same rfl rfl rfl rfl
  | closeUnlock q | unlock q result | returned result => exact .same rfl rfl rfl rfl
  | acquireCard =>
    exact .same rfl rfl
      (funext fun i => congrArg (BitVec.getLsbD · i) (receiverMask_acquireCard s.power)) rfl
  | releaseCard =>
    exact .same rfl rfl
      (funext fun i => congrArg (BitVec.getLsbD · i) (receiverMask_releaseCard s.power)) rfl
  | reconcilePower =>
    exact .same rfl rfl
      (funext fun i => congrArg (BitVec.getLsbD · i) (receiverMask_reconcile s.power)) rfl

namespace References

variable {s' : Shared σ} {c' : Caller}

/-- **References are conserved**: what calls own and what open receivers have is what is held. -/
theorem conserves (h : References s s' c c') (r : Nat) :
    (c'.owns r).toNat + (s'.isOpen r).toNat + (s.held r).toNat =
      (c.owns r).toNat + (s.isOpen r).toNat + (s'.held r).toNat := by
  unfold Caller.owns
  cases h with
  | took q hc hc' _ hfree hheld _ hopen =>
    rw [hc, hc', hopen, hheld r]
    by_cases hr : r = q
    · subst hr
      simp [hfree, Nat.add_comm]
    · simp [hr, Ne.symm hr]
  | gave q result hc hc' hwas hheld _ hopen =>
    rw [hc, hc', hopen, hheld r]
    by_cases hr : r = q
    · subst hr
      simp [hwas, Nat.add_comm]
    · simp [hr, Ne.symm hr]
  | opened q hc hc' hwas hopen hheld _ =>
    rw [hc, hc', hopen r, hheld]
    by_cases hr : r = q
    · subst hr
      simp [hwas]
    · simp [hr, Ne.symm hr]
  | closed q hc hc' hwas hopen hheld _ =>
    rw [hc, hc', hopen r, hheld]
    by_cases hr : r = q
    · subst hr
      simp [hwas]
    · simp [hr, Ne.symm hr]
  | kept hc hopen hheld _ _ => rw [hc, hopen, hheld]

/-- **The log accounts for every reference that is held.** -/
theorem tally (h : References s s' c c') (r : Nat)
    (hs : acquires r s.log = releases r s.log + (s.held r).toNat) :
    acquires r s'.log = releases r s'.log + (s'.held r).toNat := by
  have hrecord (action : Action) (result : Result Unit) : (s.record action result).log =
      ⟨action, result, s.power.state.receiverMask, s.capturing⟩ :: s.log := rfl
  cases h with
  | took q _ _ _ hfree hheld hlog _ =>
    rw [hlog, hheld r, hrecord]
    unfold acquires releases at hs ⊢
    rw [List.countP_cons, List.countP_cons]
    by_cases hr : r = q
    · subst hr
      simp [hs, hfree]
      rfl
    · simp [hs, hr, Ne.symm hr]
  | gave q result _ _ hwas hheld hlog _ =>
    rw [hlog, hheld r, hrecord]
    unfold acquires releases at hs ⊢
    rw [List.countP_cons, List.countP_cons]
    by_cases hr : r = q
    · subst hr
      simp [hs, hwas]
    · simp [hs, hr, Ne.symm hr]
  | opened q _ _ _ _ hheld hlog => rw [hlog, hheld]; exact hs
  | closed q _ _ _ _ hheld hlog => rw [hlog, hheld]; exact hs
  | kept _ _ hheld hacquires hreleases => rw [hacquires, hreleases, hheld]; exact hs

theorem range (h : References s s' c c') (hs : ∀ r, s.held r = true → r < kMlt5PeReceiverCount) :
    ∀ r, s'.held r = true → r < kMlt5PeReceiverCount := by
  intro r hr
  cases h with
  | took q _ _ hq _ hheld _ _ =>
    rw [hheld r, Bool.or_eq_true, decide_eq_true_eq] at hr
    rcases hr with hr | rfl
    · exact hs r hr
    · exact hq
  | gave q _ _ _ _ hheld _ _ =>
    rw [hheld r, Bool.and_eq_true] at hr
    exact hs r hr.1
  | opened q _ _ _ _ hheld _ => exact hs r (hheld ▸ hr)
  | closed q _ _ _ _ hheld _ => exact hs r (hheld ▸ hr)
  | kept _ _ hheld _ _ => exact hs r (hheld ▸ hr)

end References

end

end Px4.Frontend.Mlt5Pe
