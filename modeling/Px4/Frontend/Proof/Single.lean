import Px4.Frontend.Single
import Px4.Lib.Run

/-!
# The power of a one-receiver enclosure

What a call of `SingleReceiverFrontend` does to the chips and to the power references.

* `Chips`: all that the chip drivers can do to the state. The sequences, the polls and the
  operations on the demodulators are made of them (`execute_chips`, `commands_chips`,
  `pollPll_chips`, ...).
* `acquirePower_cases`, `releasePower_cases`: all that the power functions can do.
* `references_balanced_iff`: the counter is the number of users in every run but those that close a
  receiver that is not open while the card is powered.
-/

namespace Px4.Frontend.Single

open Receiver

/-! ## The chips -/

/-- **All that chip drivers can do**: transfers are logged, and nothing of the power references, of
the receiver's ownership or of the transport's loss changes. -/
structure Chips (s s' : Receiver) : Prop where
  model : s'.model = s.model
  opened : s'.opened = s.opened
  cardPowered : s'.cardPowered = s.cardPowered
  powered : s'.powered = s.powered
  references : s'.references = s.references
  disconnected : s'.disconnected = s.disconnected
  log : ∃ issued : List Command, s'.log = s.log ++ issued.map .i2c

namespace Chips

variable {s s' s'' : Receiver}

theorem refl (s : Receiver) : Chips s s := ⟨rfl, rfl, rfl, rfl, rfl, rfl, [], by simp⟩

theorem trans (h : Chips s s') (h' : Chips s' s'') : Chips s s'' := by
  obtain ⟨issued, hlog⟩ := h.log
  obtain ⟨issued', hlog'⟩ := h'.log
  refine ⟨h'.model.trans h.model, h'.opened.trans h.opened, h'.cardPowered.trans h.cardPowered,
    h'.powered.trans h.powered, h'.references.trans h.references,
    h'.disconnected.trans h.disconnected, issued ++ issued', ?_⟩
  simp [hlog', hlog]

theorem access (s : Receiver) (command : Command) : Chips s (s.access (.i2c command)).1 :=
  ⟨rfl, rfl, rfl, rfl, rfl, rfl, [command], rfl⟩

theorem setR850 (s : Receiver) (initialized : Bool) : Chips s (s.setR850 initialized) :=
  ⟨rfl, rfl, rfl, rfl, rfl, rfl, [], by simp [Receiver.setR850]⟩

theorem setRt710 (s : Receiver) (initialized : Bool) : Chips s (s.setRt710 initialized) :=
  ⟨rfl, rfl, rfl, rfl, rfl, rfl, [], by simp [Receiver.setRt710]⟩

theorem setSatellite (s : Receiver) (satellite : Bool) : Chips s (s.setSatellite satellite) :=
  ⟨rfl, rfl, rfl, rfl, rfl, rfl, [], by simp [Receiver.setSatellite]⟩

theorem setCapturing (s : Receiver) (capturing : Bool) : Chips s (s.setCapturing capturing) :=
  ⟨rfl, rfl, rfl, rfl, rfl, rfl, [], by simp [Receiver.setCapturing]⟩

/-- The log only grows. -/
theorem length_le (h : Chips s s') : s.log.length ≤ s'.log.length := by
  obtain ⟨issued, hlog⟩ := h.log
  simp [hlog]

end Chips

theorem execute_chips (s : Receiver) (command : Command) : Chips s (s.execute command).1 := by
  cases command with
  | initR850 => exact (Chips.access s _).trans (Chips.setR850 _ _)
  | terminateR850 => exact Chips.setR850 s _
  | initRt710 => exact (Chips.access s _).trans (Chips.setRt710 _ _)
  | terminateRt710 => exact Chips.setRt710 s _
  | wakeup => exact Chips.refl s
  | setSystem => exact Chips.refl s
  | setFrequency khz =>
    simp only [execute]
    split
    · exact Chips.refl s
    · exact Chips.access s _
  | isR850PllLocked =>
    simp only [execute]
    split
    · exact Chips.refl s
    · exact Chips.access s _
  | setParams khz symbolRate rolloff =>
    simp only [execute]
    split
    · exact Chips.refl s
    · split
      · exact Chips.refl s
      · exact Chips.access s _
  | isRt710PllLocked =>
    simp only [execute]
    split
    · exact Chips.refl s
    · exact Chips.access s _
  | writeReg demod reg value => exact Chips.access s _
  | sleep demod sleep => exact Chips.access s _
  | setAgc demod on => exact Chips.access s _
  | enableTsPins demod enable => exact Chips.access s _
  | isSignalLocked demod => exact Chips.access s _
  | setTsid tsid => exact Chips.access s _
  | getTsid => exact Chips.access s _
  | tmccGetTsid slot => exact Chips.access s _

/-- A command that has come to something. -/
theorem chips_of_execute {s s' : Receiver} {command : Command} {reply : Result Nat}
    (h : s.execute command = (s', reply)) : Chips s s' := by
  have hc := execute_chips s command
  rwa [h] at hc

theorem commands_chips (s : Receiver) (cmds : List Command) : Chips s (s.commands cmds).1 := by
  induction cmds generalizing s with
  | nil => exact Chips.refl s
  | cons command rest ih =>
    unfold commands
    split
    · next h => exact chips_of_execute h
    · next h => exact (chips_of_execute h).trans (ih _)

theorem chips_of_commands {s s' : Receiver} {cmds : List Command} {reply : Result Unit}
    (h : s.commands cmds = (s', reply)) : Chips s s' := by
  have hc := commands_chips s cmds
  rwa [h] at hc

theorem pollPll_chips (isPllLocked : Command) (polls : Nat) (s : Receiver) :
    Chips s (pollPll isPllLocked polls s).1 := by
  induction polls generalizing s with
  | zero => exact Chips.refl s
  | succ polls ih =>
    unfold pollPll
    split
    · next h => exact chips_of_execute h
    · next h => exact chips_of_execute h
    · next h => exact (chips_of_execute h).trans (ih _)

theorem pollTsid_chips (tsid polls : Nat) (last : Option Error) (s : Receiver) :
    Chips s (pollTsid tsid polls last s).1 := by
  induction polls generalizing s last with
  | zero => exact Chips.refl s
  | succ polls ih =>
    unfold pollTsid
    split
    · next h =>
      split
      · exact chips_of_execute h
      · exact (chips_of_execute h).trans (ih _ _)
    · next h => exact (chips_of_execute h).trans (ih _ _)

theorem pollTmcc_chips (slot timeout polls count elapsed : Nat) (last : Option Error)
    (s : Receiver) : Chips s (pollTmcc slot timeout polls count elapsed last s).1 := by
  induction polls generalizing s count elapsed last with
  | zero => exact Chips.refl s
  | succ polls ih =>
    unfold pollTmcc
    have h := execute_chips s (.tmccGetTsid slot)
    rcases hreply : s.execute (.tmccGetTsid slot) with ⟨s', _ | _ | tsid⟩
    all_goals rw [hreply] at h
    · exact h.trans (ih _ _ _ _)
    · exact h.trans (ih _ _ _ _)
    · exact h

/-! ## The operations on the chips -/

theorem initializeFrontend_chips (s : Receiver) : Chips s (initializeFrontend s).1 := by
  unfold initializeFrontend
  split
  · next h => exact chips_of_commands h
  · next h =>
    split
    · next h' =>
      exact ((chips_of_commands h).trans (chips_of_execute h')).trans (execute_chips _ _)
    · next h' =>
      exact ((chips_of_commands h).trans (chips_of_execute h')).trans (commands_chips _ _)

theorem tuneChips_chips (before : List Command) (isPllLocked : Command) (after : List Command)
    (satellite : Bool) (s : Receiver) :
    Chips s (tuneChips before isPllLocked after satellite s).1 := by
  unfold tuneChips
  split
  · next h => exact chips_of_commands h
  · next s1 h =>
    have hpoll := pollPll_chips isPllLocked 50 s1
    split
    · next hp =>
      rw [hp] at hpoll
      exact (chips_of_commands h).trans hpoll
    · next hp =>
      rw [hp] at hpoll
      have h2 := (chips_of_commands h).trans hpoll
      split
      · next h' => exact h2.trans (chips_of_commands h')
      · next h' => exact (h2.trans (chips_of_commands h')).trans (Chips.setSatellite _ _)

theorem tuneTerrestrial_chips (receiver khz : Nat) (s : Receiver) :
    Chips s (tuneTerrestrial receiver khz s).1 := by
  unfold tuneTerrestrial
  split
  · exact Chips.refl s
  · exact tuneChips_chips _ _ _ _ s

theorem tuneSatellite_chips (receiver khz : Nat) (s : Receiver) :
    Chips s (tuneSatellite receiver khz s).1 := by
  unfold tuneSatellite
  split
  · exact Chips.refl s
  · exact tuneChips_chips _ _ _ _ s

theorem tuneHz_chips {tune : Nat → Nat → Receiver → Receiver × Result Unit}
    (ht : ∀ receiver khz s, Chips s (tune receiver khz s).1) (system : Ipc.System)
    (receiver hz : Nat) (s : Receiver) : Chips s (tuneHz tune system receiver hz s).1 := by
  unfold tuneHz
  split
  · exact Chips.refl s
  · next khz _ =>
    have h := ht receiver khz s
    split
    · exact Chips.refl s
    · split
      · next h' => rwa [h'] at h
      · next h' => rwa [h'] at h

theorem isLocked_chips (receiver : Nat) (system : Ipc.System) (s : Receiver) :
    Chips s (isLocked receiver system s).1 := by
  unfold isLocked
  split
  · exact Chips.refl s
  · exact execute_chips s _

theorem selectSatelliteTsidLocked_chips (tsid timeout : Nat) (s : Receiver) :
    Chips s (selectSatelliteTsidLocked tsid timeout s).1 := by
  unfold selectSatelliteTsidLocked
  split
  · next h => exact chips_of_execute h
  · next h => exact (chips_of_execute h).trans (pollTsid_chips _ _ _ _)

theorem selectSatelliteTsid_chips (receiver tsid timeout : Nat) (s : Receiver) :
    Chips s (selectSatelliteTsid receiver tsid timeout s).1 := by
  unfold selectSatelliteTsid
  split_ifs
  all_goals first
    | exact Chips.refl s
    | exact selectSatelliteTsidLocked_chips tsid timeout s

theorem selectSatelliteSlot_chips (receiver slot timeout : Nat) (s : Receiver) :
    Chips s (selectSatelliteSlot receiver slot timeout s).1 := by
  have hpoll := pollTmcc_chips slot timeout (timeout / 10 + 1) 0 0 none s
  unfold selectSatelliteSlot
  split_ifs
  all_goals try exact Chips.refl s
  split
  · next h => rwa [h] at hpoll
  · next h =>
    rw [h] at hpoll
    exact hpoll.trans (selectSatelliteTsidLocked_chips _ _ _)

theorem enableTsPins_chips (system : Ipc.System) (enable : Bool) (s : Receiver) :
    Chips s (enableTsPins system enable s).1 := by
  unfold enableTsPins
  split
  · next h => exact chips_of_execute h
  · next h => exact (chips_of_execute h).trans (Chips.setCapturing _ _)

theorem startCapture_chips (receiver : Nat) (system : Ipc.System) (s : Receiver) :
    Chips s (startCapture receiver system s).1 := by
  unfold startCapture
  split
  · exact Chips.refl s
  · exact enableTsPins_chips system true s

theorem stopCapture_chips (receiver : Nat) (system : Ipc.System) (s : Receiver) :
    Chips s (stopCapture receiver system s).1 := by
  unfold stopCapture
  split
  · exact Chips.refl s
  · exact enableTsPins_chips system false s

theorem endCapture_chips (s : Receiver) : Chips s (endCapture s) := by
  unfold endCapture
  split
  · exact stopCapture_chips _ _ s
  · exact Chips.refl s

theorem beginTunePower_fst (receiver : Nat) (system : Ipc.System) (voltage : Nat) (s : Receiver) :
    (beginTunePower receiver system voltage s).1 = s := by
  unfold beginTunePower
  split_ifs <;> rfl

/-! ## The power references -/

/-- The counter after one more user. -/
def bump (references : Nat) : Nat := if references ≠ 0xff then references + 1 else references

/-- **All that an acquire can do.** -/
theorem acquirePower_cases (s : Receiver) :
    (s.references = 0 ∧ ∃ on, acquirePower s = ((s.access (.power true)).1, .error on)) ∨
    (s.references = 0 ∧
      acquirePower s = ((s.access (.power true)).1.setReferences 1 true, .ok ())) ∨
    (s.references ≠ 0 ∧
      acquirePower s = (s.setReferences (bump s.references) s.powered, .ok ())) := by
  by_cases h0 : s.references = 0
  · rcases hreply : (s.access (.power true)).2 with on | value
    · refine .inl ⟨h0, on, ?_⟩
      have hx : s.access (.power true) = ((s.access (.power true)).1, .error on) := by rw [← hreply]
      simp only [acquirePower, if_pos h0]
      rw [hx]
    · refine .inr (.inl ⟨h0, ?_⟩)
      have hx : s.access (.power true) = ((s.access (.power true)).1, .ok value) := by rw [← hreply]
      have href : (s.access (.power true)).1.references = 0 := h0
      simp only [acquirePower, if_pos h0]
      rw [hx]
      simp [href]
  · refine .inr (.inr ⟨h0, ?_⟩)
    simp [acquirePower, h0, bump]

/-- **All that a release can do**, where power is on while there is a reference. -/
theorem releasePower_cases (s : Receiver) (hp : s.references ≠ 0 → s.powered = true) :
    (s.references = 0 ∧ releasePower s = (s, .ok ())) ∨
    (s.references = 1 ∧ ∃ powered, (releasePower s).1 =
      ((s.setReferences 0 s.powered).access (.power false)).1.setReferences 0 powered) ∨
    (2 ≤ s.references ∧
      releasePower s = (s.setReferences (s.references - 1) s.powered, .ok ())) := by
  rcases Nat.lt_or_ge s.references 2 with hlt | hge
  · by_cases h0 : s.references = 0
    · exact .inl ⟨h0, by simp [releasePower, h0]⟩
    · have h1 : s.references = 1 := by omega
      refine .inr (.inl ⟨h1, ?_⟩)
      have hpow : s.powered = true := hp h0
      rcases hreply : s.replies s.log.length with off | value
      · exact ⟨true, by simp [releasePower, h1, hpow, setReferences, access, hreply]⟩
      · exact ⟨false, by simp [releasePower, h1, hpow, setReferences, access, hreply]⟩
  · refine .inr (.inr ⟨hge, ?_⟩)
    have h0 : s.references ≠ 0 := by omega
    have h1 : s.references - 1 ≠ 0 := by omega
    simp [releasePower, h0, setReferences, h1]

/-- Power is on while there is a reference. -/
def Powered (s : Receiver) : Prop := s.references ≠ 0 → s.powered = true

theorem Chips.powered_iff {s s' : Receiver} (h : Chips s s') : Powered s' ↔ Powered s := by
  unfold Powered
  rw [h.references, h.powered]

theorem acquirePower_powered {s : Receiver} (h : Powered s) : Powered (acquirePower s).1 := by
  rcases acquirePower_cases s with ⟨h0, on, ha⟩ | ⟨h0, ha⟩ | ⟨h0, ha⟩
  · rw [ha]
    exact h
  · rw [ha]
    exact fun _ => rfl
  · rw [ha]
    exact fun _ => h h0

theorem releasePower_powered {s : Receiver} (h : Powered s) : Powered (releasePower s).1 := by
  rcases releasePower_cases s h with ⟨h0, hr⟩ | ⟨h1, powered, hr⟩ | ⟨h2, hr⟩
  · rw [hr]
    exact h
  · rw [hr]
    exact fun h0 => absurd rfl h0
  · rw [hr]
    exact fun _ => h (by omega)

/-- The users of the power: the open receiver and the powered card. -/
def users (s : Receiver) : Nat := s.opened.toNat + s.cardPowered.toNat

/-- `s'` comes from `s` with the same users, and power is switched off only if `off`. -/
structure Keeps (off : Prop) (s s' : Receiver) : Prop where
  opened : s'.opened = s.opened
  cardPowered : s'.cardPowered = s.cardPowered
  disconnected : s'.disconnected = s.disconnected
  log : ∃ issued, s'.log = s.log ++ issued ∧ (.power false ∈ issued → off)

namespace Keeps

variable {off off' : Prop} {s s' s'' : Receiver}

theorem trans (h : Keeps off s s') (h' : Keeps off' s' s'') : Keeps (off ∨ off') s s'' := by
  obtain ⟨issued, hlog, hoff⟩ := h.log
  obtain ⟨issued', hlog', hoff'⟩ := h'.log
  refine ⟨h'.opened.trans h.opened, h'.cardPowered.trans h.cardPowered,
    h'.disconnected.trans h.disconnected, issued ++ issued', by simp [hlog', hlog], fun hm => ?_⟩
  exact (List.mem_append.1 hm).imp hoff hoff'

theorem imp (h : Keeps off s s') (hoff : off → off') : Keeps off' s s' := by
  obtain ⟨issued, hlog, hi⟩ := h.log
  exact ⟨h.opened, h.cardPowered, h.disconnected, issued, hlog, fun hm => hoff (hi hm)⟩

theorem users_eq (h : Keeps off s s') : users s' = users s := by
  unfold users
  rw [h.opened, h.cardPowered]

theorem length_le (h : Keeps off s s') : s.log.length ≤ s'.log.length := by
  obtain ⟨issued, hlog, -⟩ := h.log
  simp [hlog]

theorem switched_off (h : Keeps off s s') (hm : .power false ∈ s'.log.drop s.log.length) :
    off := by
  obtain ⟨issued, hlog, hoff⟩ := h.log
  rw [hlog, List.drop_left] at hm
  exact hoff hm

end Keeps

theorem Chips.keeps {s s' : Receiver} (h : Chips s s') : Keeps False s s' := by
  obtain ⟨issued, hlog⟩ := h.log
  exact ⟨h.opened, h.cardPowered, h.disconnected, issued.map .i2c, hlog, by simp⟩

theorem acquirePower_keeps (s : Receiver) : Keeps False s (acquirePower s).1 := by
  rcases acquirePower_cases s with ⟨-, on, ha⟩ | ⟨-, ha⟩ | ⟨-, ha⟩
  · rw [ha]
    exact ⟨rfl, rfl, rfl, [.power true], rfl, by simp⟩
  · rw [ha]
    exact ⟨rfl, rfl, rfl, [.power true], rfl, by simp⟩
  · rw [ha]
    exact ⟨rfl, rfl, rfl, [], by simp [setReferences], by simp⟩

theorem releasePower_keeps {s : Receiver} (h : Powered s) :
    Keeps (s.references = 1) s (releasePower s).1 := by
  rcases releasePower_cases s h with ⟨-, hr⟩ | ⟨h1, powered, hr⟩ | ⟨-, hr⟩
  · rw [hr]
    exact ⟨rfl, rfl, rfl, [], by simp, by simp⟩
  · rw [hr]
    exact ⟨rfl, rfl, rfl, [.power false], rfl, fun _ => h1⟩
  · rw [hr]
    exact ⟨rfl, rfl, rfl, [], by simp [setReferences], by simp⟩

theorem acquirePower_error {s s1 : Receiver} {e : Error} (h : acquirePower s = (s1, .error e)) :
    s1.references = s.references := by
  rcases acquirePower_cases s with ⟨-, on, ha⟩ | ⟨-, ha⟩ | ⟨-, ha⟩
  · rw [ha] at h
    cases h
    rfl
  · rw [ha] at h
    cases h
  · rw [ha] at h
    cases h

theorem acquirePower_ok {s s1 : Receiver} (h : acquirePower s = (s1, .ok ()))
    (hlt : s.references < 0xff) : s1.references = s.references + 1 := by
  rcases acquirePower_cases s with ⟨-, on, ha⟩ | ⟨h0, ha⟩ | ⟨-, ha⟩
  · rw [ha] at h
    cases h
  · rw [ha] at h
    cases h
    rw [h0]
    rfl
  · rw [ha] at h
    cases h
    have hne : s.references ≠ 0xff := by omega
    simp [setReferences, bump, hne]

theorem releasePower_references {s : Receiver} (h : Powered s) :
    (releasePower s).1.references = s.references - 1 := by
  rcases releasePower_cases s h with ⟨h0, hr⟩ | ⟨h1, powered, hr⟩ | ⟨-, hr⟩
  · rw [hr, h0]
  · rw [hr, h1]
    rfl
  · rw [hr]
    rfl

/-! ## One call -/

/-- **All that an open can do**: it fails to switch the power on, gives the power back after a
failed initialization, or opens the receiver. -/
theorem openReceiver_cases {s : Receiver} (h : s.opened = false) :
    (∃ e, acquirePower s = ((openReceiver 0 s).1, .error e)) ∨
    ∃ s1 s2, acquirePower s = (s1, .ok ()) ∧ s2 = (initializeFrontend s1).1 ∧
      ((openReceiver 0 s).1 = (releasePower s2).1 ∨
        (openReceiver 0 s).1 = (s2.setOpened true).setSatellite false) := by
  simp only [openReceiver, ne_eq, not_true_eq_false, if_false, h, Bool.false_eq_true]
  rcases ha : acquirePower s with ⟨s1, e | ⟨⟩⟩
  · exact .inl ⟨e, rfl⟩
  · refine .inr ⟨s1, _, rfl, rfl, ?_⟩
    rcases hi : initializeFrontend s1 with ⟨s2, e | ⟨⟩⟩
    · exact .inl (by simp [hi])
    · exact .inr (by simp [hi])

theorem Chips.setOpened {s s' : Receiver} (h : Chips s s') (opened : Bool) :
    Chips (s.setOpened opened) (s'.setOpened opened) :=
  ⟨h.model, rfl, h.cardPowered, h.powered, h.references, h.disconnected, h.log⟩

theorem endTuners_chips (s : Receiver) : Chips (s.setOpened false) (endTuners s) := by
  unfold endTuners
  split
  · have hr850 := execute_chips s .terminateR850
    dsimp only
    split
    · exact (hr850.trans (execute_chips _ .terminateRt710)).setOpened false
    · exact hr850.setOpened false
  · next h =>
    have hs : s.setOpened false = s := by
      cases s
      simp_all [Receiver.setOpened]
    rw [hs]
    exact Chips.refl s

/-- A close is commands to the chips, the end of the receiver and a release. -/
theorem endReceiver_chips (s : Receiver) :
    Chips (s.setOpened false) (endTuners (endCapture s)) :=
  ((endCapture_chips s).setOpened false).trans (endTuners_chips _)

/-- **All that a call can do.** -/
theorem next_cases (s : Receiver) (op : Call) :
    Chips s (next s op) ∨
    (op = .openReceiver 0 ∧ s.opened = false) ∨
    ((op = .closeReceiver 0 ∨ op = .shutdown) ∧
      next s op = (releasePower (endTuners (endCapture s))).1) ∨
    (op = .setPower true ∧ s.cardPowered = false) ∨
    (op = .setPower false ∧ s.cardPowered = true ∧
      next s op = (releasePower (s.setCardPowered false)).1) ∨
    (∃ receiver, op = .markReceiverDisconnected receiver) := by
  cases op with
  | openReceiver receiver =>
    by_cases hr : receiver = 0
    · subst hr
      cases ho : s.opened with
      | false => exact .inr (.inl ⟨rfl, rfl⟩)
      | true => exact .inl (by simpa [next, call, openReceiver, ho] using Chips.refl s)
    · exact .inl (by simpa [next, call, openReceiver, hr] using Chips.refl s)
  | tuneTerrestrial receiver khz => exact .inl (tuneTerrestrial_chips receiver khz s)
  | tuneSatellite receiver khz => exact .inl (tuneSatellite_chips receiver khz s)
  | tuneTerrestrialHz receiver hz =>
    exact .inl (tuneHz_chips tuneTerrestrial_chips .isdbT receiver hz s)
  | tuneSatelliteHz receiver hz =>
    exact .inl (tuneHz_chips tuneSatellite_chips .isdbS receiver hz s)
  | isLocked receiver system => exact .inl (isLocked_chips receiver system s)
  | selectSatelliteSlot receiver slot timeout =>
    exact .inl (selectSatelliteSlot_chips receiver slot timeout s)
  | selectSatelliteTsid receiver tsid timeout =>
    exact .inl (selectSatelliteTsid_chips receiver tsid timeout s)
  | startCapture receiver system => exact .inl (startCapture_chips receiver system s)
  | stopCapture receiver system => exact .inl (stopCapture_chips receiver system s)
  | closeReceiver receiver =>
    by_cases hr : receiver = 0
    · subst hr
      exact .inr (.inr (.inl ⟨.inl rfl, rfl⟩))
    · exact .inl (by simpa [next, call, closeReceiver, hr] using Chips.refl s)
  | beginTunePower receiver system voltage =>
    refine .inl ?_
    simp only [next, call, beginTunePower_fst]
    exact Chips.refl s
  | commitTunePower receiver => exact .inl (Chips.refl s)
  | rollbackTunePower receiver => exact .inl (Chips.refl s)
  | markReceiverDisconnected receiver => exact .inr (.inr (.inr (.inr (.inr ⟨receiver, rfl⟩))))
  | shutdown => exact .inr (.inr (.inl ⟨.inr rfl, rfl⟩))
  | setPower on =>
    cases on <;> cases hc : s.cardPowered
    · exact .inl (by simpa [next, call, setPower, hc] using Chips.refl s)
    · exact .inr (.inr (.inr (.inr (.inl ⟨rfl, rfl, by simp [next, call, setPower, hc]⟩))))
    · exact .inr (.inr (.inr (.inl ⟨rfl, rfl⟩)))
    · exact .inl (by simpa [next, call, setPower, hc] using Chips.refl s)

/-! ## The counter -/

/-- The counter is the number of users, and power is on while there is one. -/
structure Balanced (s : Receiver) : Prop where
  references : s.references = users s
  powered : Powered s

theorem Balanced.references_le {s : Receiver} (h : Balanced s) : s.references ≤ 2 := by
  rw [h.references, users]
  cases s.opened <;> cases s.cardPowered <;> decide

/-- What is asked of a call: after it the counter is the number of users, and if it has switched the
power off there is none. -/
def HoldsPower (s : Receiver) (op : Call) : Prop :=
  (next s op).references = users (next s op) ∧
    (.power false ∈ (next s op).log.drop s.log.length → users (next s op) = 0)

/-- A close of a receiver that is not open, while the card is powered. -/
def StrayClose (s : Receiver) (op : Call) : Prop :=
  (op = .closeReceiver 0 ∨ op = .shutdown) ∧ s.opened = false ∧ s.cardPowered = true

instance (s : Receiver) (op : Call) : Decidable (HoldsPower s op) :=
  inferInstanceAs (Decidable (_ ∧ _))

instance (s : Receiver) (op : Call) : Decidable (StrayClose s op) :=
  inferInstanceAs (Decidable (_ ∧ _))

/-- A release of a user that has gone. -/
theorem releasePower_balanced {s : Receiver} (hp : Powered s) (hr : s.references = users s + 1) :
    Balanced (releasePower s).1 ∧
      (.power false ∈ (releasePower s).1.log.drop s.log.length →
        users (releasePower s).1 = 0) := by
  have hk := releasePower_keeps hp
  refine ⟨⟨?_, releasePower_powered hp⟩, fun hm => ?_⟩
  · rw [releasePower_references hp, hk.users_eq]
    omega
  · have h1 := hk.switched_off hm
    rw [hk.users_eq]
    omega

theorem openReceiver_balanced {s : Receiver} (h : Balanced s) (ho : s.opened = false) :
    Balanced (openReceiver 0 s).1 ∧
      (.power false ∈ (openReceiver 0 s).1.log.drop s.log.length →
        users (openReceiver 0 s).1 = 0) := by
  have hle := h.references_le
  rcases openReceiver_cases ho with ⟨e, ha⟩ | ⟨s1, s2, ha, hs2, hend⟩
  · have hk := acquirePower_keeps s
    have hp := acquirePower_powered h.powered
    rw [ha] at hk hp
    exact ⟨⟨by rw [acquirePower_error ha, hk.users_eq, h.references], hp⟩,
      fun hm => (hk.switched_off hm).elim⟩
  · have hk := acquirePower_keeps s
    have hp := acquirePower_powered h.powered
    rw [ha] at hk hp
    have hi := initializeFrontend_chips s1
    rw [← hs2] at hi
    have hk2 : Keeps False s s2 := (hk.trans hi.keeps).imp (by simp)
    have hp2 : Powered s2 := hi.powered_iff.2 hp
    have href : s2.references = users s2 + 1 := by
      rw [hi.references, acquirePower_ok ha (by omega), hk2.users_eq, h.references]
    rcases hend with hend | hend
    · rw [hend]
      have hrel := releasePower_balanced hp2 href
      refine ⟨hrel.1, fun hm => ?_⟩
      have hoff := (hk2.trans (releasePower_keeps hp2)).switched_off hm
      rw [(releasePower_keeps hp2).users_eq]
      rcases hoff with hf | h1
      · exact hf.elim
      · omega
    · rw [hend]
      refine ⟨⟨?_, hp2⟩, fun hm => (hk2.switched_off hm).elim⟩
      have hs2o : s2.opened = false := by rw [hk2.opened, ho]
      simp only [users, setSatellite, setOpened] at href ⊢
      rw [href, hs2o]
      simp [Nat.add_comm]

theorem setPower_on_balanced {s : Receiver} (h : Balanced s) (hc : s.cardPowered = false) :
    Balanced (next s (.setPower true)) ∧
      (.power false ∈ (next s (.setPower true)).log.drop s.log.length →
        users (next s (.setPower true)) = 0) := by
  have hle := h.references_le
  have hk := acquirePower_keeps s
  have hp := acquirePower_powered h.powered
  rcases ha : acquirePower s with ⟨s1, e | ⟨⟩⟩
  · have hnext : next s (.setPower true) = s1 := by
      simp only [next, call, setPower, hc, if_true, Bool.false_eq_true, if_false, ha]
    rw [ha] at hk hp
    rw [hnext]
    exact ⟨⟨by rw [acquirePower_error ha, hk.users_eq, h.references], hp⟩,
      fun hm => (hk.switched_off hm).elim⟩
  · have hnext : next s (.setPower true) = s1.setCardPowered true := by
      simp only [next, call, setPower, hc, if_true, Bool.false_eq_true, if_false, ha]
    rw [ha] at hk hp
    rw [hnext]
    refine ⟨⟨?_, hp⟩, fun hm => (hk.switched_off hm).elim⟩
    have href := acquirePower_ok ha (by omega)
    have hs1 : s1.cardPowered = false := by rw [hk.cardPowered, hc]
    have hu := hk.users_eq
    simp only [users, setCardPowered] at hu ⊢
    rw [hs1] at hu
    simp only [href, h.references, users, ← hu]
    simp

/-- **A call that is no stray close** keeps the counter. -/
theorem next_balanced {s : Receiver} {op : Call} (h : Balanced s) (hop : ¬StrayClose s op) :
    Balanced (next s op) ∧ HoldsPower s op := by
  suffices hs : Balanced (next s op) ∧
      (.power false ∈ (next s op).log.drop s.log.length → users (next s op) = 0) from
    ⟨hs.1, hs.1.references, hs.2⟩
  rcases next_cases s op with hc | ⟨rfl, ho⟩ | ⟨hop', hn⟩ | ⟨rfl, hc⟩ | ⟨rfl, hc, hn⟩ | ⟨r, rfl⟩
  · refine ⟨⟨?_, hc.powered_iff.2 h.powered⟩, fun hm => (hc.keeps.switched_off hm).elim⟩
    rw [hc.references, hc.keeps.users_eq, h.references]
  · exact openReceiver_balanced h ho
  · rw [hn]
    have he := endReceiver_chips s
    have hp : Powered (endTuners (endCapture s)) := he.powered_iff.2 h.powered
    have hopened : s.opened = true ∨ (s.opened = false ∧ s.cardPowered = false) := by
      cases ho : s.opened <;> cases hcard : s.cardPowered <;> simp_all [StrayClose]
    have hu : users (endTuners (endCapture s)) = s.cardPowered.toNat := by
      rw [he.keeps.users_eq]
      simp [users, setOpened]
    have href : (endTuners (endCapture s)).references = users s := by
      rw [he.references]
      exact h.references
    rcases hopened with ho | ⟨ho, hcard⟩
    · have hrel := releasePower_balanced hp (by rw [href, hu, users, ho]; simp [Nat.add_comm])
      refine ⟨hrel.1, fun hm => ?_⟩
      have hk := (he.keeps.trans (releasePower_keeps hp)).switched_off hm
      rw [(releasePower_keeps hp).users_eq, hu]
      rw [href, users, ho] at hk
      simp at hk
      simp [hk]
    · -- nobody uses the power, and the release does nothing
      have h0 : (endTuners (endCapture s)).references = 0 := by simp [href, users, ho, hcard]
      rcases releasePower_cases _ hp with ⟨-, hr⟩ | ⟨h1, -⟩ | ⟨h2, -⟩
      · rw [hr]
        exact ⟨⟨by rw [h0, hu, hcard]; rfl, hp⟩, fun _ => by rw [hu, hcard]; rfl⟩
      · omega
      · omega
  · exact setPower_on_balanced h hc
  · rw [hn]
    have href : (s.setCardPowered false).references = users (s.setCardPowered false) + 1 := by
      have hr := h.references
      simp only [users, hc] at hr
      simpa [users, setCardPowered] using hr
    exact releasePower_balanced h.powered href
  · refine ⟨⟨h.references, h.powered⟩, fun hm => ?_⟩
    simp [next, call, markReceiverDisconnected] at hm

/-- **A stray close** takes the card's reference. -/
theorem strayClose_not_holdsPower {s : Receiver} {op : Call} (h : Balanced s)
    (hop : StrayClose s op) : ¬HoldsPower s op := by
  obtain ⟨hop, ho, hcard⟩ := hop
  have hn : next s op = (releasePower (endTuners (endCapture s))).1 := by
    rcases hop with rfl | rfl <;> rfl
  have he := endReceiver_chips s
  have hp : Powered (endTuners (endCapture s)) := he.powered_iff.2 h.powered
  rintro ⟨href, -⟩
  rw [hn, releasePower_references hp, (releasePower_keeps hp).users_eq, he.references,
    he.keeps.users_eq] at href
  have hr : s.references = 1 := by simp [h.references, users, ho, hcard]
  simp [setOpened, users, hr, hcard] at href

theorem start_balanced (model : Device.DeviceModel) (replies : Nat → Result Nat) :
    Balanced (start model replies) :=
  ⟨rfl, fun h => absurd rfl h⟩

/-- **The power references.** Every call of a run leaves the counter at the number of users, and
switches the power off only when there is none, exactly when no call of the run closes a receiver
that is not open while the card is powered. -/
theorem references_balanced_iff (model : Device.DeviceModel) (replies : Nat → Result Nat)
    (ops : List Call) :
    Lib.AllSteps next HoldsPower (start model replies) ops ↔
      Lib.AllSteps next (fun s op => ¬StrayClose s op) (start model replies) ops := by
  refine Lib.allSteps_iff (fun s op h hop => next_balanced h hop) (fun s op h hop => ?_) ops
    (start_balanced model replies)
  exact strayClose_not_holdsPower h (not_not.1 hop)

/-- The card is powered and the daemon shuts the receiver down that nobody has opened: the backend
power is switched off under the card. -/
theorem shutdown_under_card :
    ¬Lib.AllSteps next HoldsPower (start .pxM1ur fun _ => .ok 0) [.setPower true, .shutdown] ∧
      (([.setPower true, .shutdown] : List Call).foldl next
        (start .pxM1ur fun _ => .ok 0)).log = [.power true, .power false] ∧
      (([.setPower true, .shutdown] : List Call).foldl next
        (start .pxM1ur fun _ => .ok 0)).cardPowered = true := by
  decide

end Px4.Frontend.Single
