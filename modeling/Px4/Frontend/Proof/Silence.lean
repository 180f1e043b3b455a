import Px4.Frontend.Proof.Single

/-!
# A one-receiver enclosure after a transport loss

`disconnected_` is read by the two selections only. `Quiet` says of every call when it leaves the
bridge alone after `mark_receiver_disconnected`, and `silent_iff` that these are all such calls.
-/

namespace Px4.Frontend.Single

open Receiver

/-- The call issues no I2C transfer and no write of the backend power. -/
def Silent (s : Receiver) (op : Call) : Prop := (next s op).log = s.log

instance (s : Receiver) (op : Call) : Decidable (Silent s op) := inferInstanceAs (Decidable (_ = _))

/-- The calls that leave the bridge alone after a transport loss. -/
def Quiet (s : Receiver) : Call → Bool
  | .openReceiver receiver => receiver != 0 || s.opened
  | .tuneTerrestrial receiver _ => receiver != 0 || !s.opened
  | .tuneSatellite receiver _ => receiver != 0 || !s.opened || !hasSatellite s.model
  | .tuneTerrestrialHz receiver hz =>
    receiver != 0 || !s.opened || !(px4FrequencyKhz hz .isdbT).isOk
  | .tuneSatelliteHz receiver hz =>
    receiver != 0 || !s.opened || !hasSatellite s.model || !(px4FrequencyKhz hz .isdbS).isOk
  | .isLocked receiver _ => receiver != 0
  | .startCapture receiver _ => receiver != 0 || !s.opened
  | .stopCapture receiver _ => receiver != 0
  | .closeReceiver receiver => receiver != 0 || (!s.capturing && s.references != 1)
  | .shutdown => !s.capturing && s.references != 1
  | .setPower true => s.cardPowered || s.references != 0
  | .setPower false => !s.cardPowered || s.references != 1
  | .selectSatelliteSlot .. | .selectSatelliteTsid .. | .beginTunePower .. | .commitTunePower _
  | .rollbackTunePower _ | .markReceiverDisconnected _ => true

/-! ## Calls that reach the bridge -/

theorem length_lt_access (s : Receiver) (a : Access) :
    s.log.length < (s.access a).1.log.length := by
  simp [access]

/-- Commands the first of which is a transfer. -/
theorem length_lt_commands {s : Receiver} {command : Command} (rest : List Command)
    (h : (s.execute command).1.log.length = s.log.length + 1) :
    s.log.length < (s.commands (command :: rest)).1.log.length := by
  unfold commands
  split
  · next hx =>
    rw [hx] at h
    simp only at h ⊢
    omega
  · next s1 _ hx =>
    have hle := (commands_chips s1 rest).length_le
    rw [hx] at h
    simp only at h ⊢
    omega

theorem length_lt_tuneChips {s : Receiver} {command : Command} (rest : List Command)
    (isPllLocked : Command) (after : List Command) (satellite : Bool)
    (h : (s.execute command).1.log.length = s.log.length + 1) :
    s.log.length < (tuneChips (command :: rest) isPllLocked after satellite s).1.log.length := by
  have hlt := length_lt_commands rest h
  unfold tuneChips
  split
  · next hx => rwa [hx] at hlt
  · next s1 hx =>
    rw [hx] at hlt
    have hpoll := (pollPll_chips isPllLocked 50 s1).length_le
    split
    · next hp =>
      rw [hp] at hpoll
      exact Nat.lt_of_lt_of_le hlt hpoll
    · next s2 hp =>
      rw [hp] at hpoll
      have hafter := (commands_chips s2 after).length_le
      split
      · next ha =>
        rw [ha] at hafter
        exact Nat.lt_of_lt_of_le hlt (Nat.le_trans hpoll hafter)
      · next ha =>
        rw [ha] at hafter
        exact Nat.lt_of_lt_of_le hlt (Nat.le_trans hpoll hafter)

theorem length_lt_initializeFrontend (s : Receiver) :
    s.log.length < (initializeFrontend s).1.log.length := by
  have hlt : s.log.length < (s.commands (initCommands s.model)).1.log.length :=
    length_lt_commands _ (by simp [execute, access])
  unfold initializeFrontend
  split
  · next h => rwa [h] at hlt
  · next s1 h =>
    rw [h] at hlt
    have hr850 := (execute_chips s1 .initR850).length_le
    split
    · next s2 _ h' =>
      rw [h'] at hr850
      exact Nat.lt_of_lt_of_le hlt
        (Nat.le_trans hr850 (execute_chips s2 .terminateRt710).length_le)
    · next s2 _ h' =>
      rw [h'] at hr850
      exact Nat.lt_of_lt_of_le hlt (Nat.le_trans hr850 (commands_chips s2 [.setSystem]).length_le)

theorem length_lt_openReceiver {s : Receiver} (hp : Powered s) (ho : s.opened = false) :
    s.log.length < (openReceiver 0 s).1.log.length := by
  rcases openReceiver_cases ho with ⟨e, ha⟩ | ⟨s1, s2, ha, rfl, hend⟩
  · generalize (openReceiver 0 s).1 = s' at ha ⊢
    rcases acquirePower_cases s with ⟨-, on, ha'⟩ | ⟨-, ha'⟩ | ⟨-, ha'⟩ <;> rw [ha] at ha' <;>
      cases ha'
    exact length_lt_access s _
  · have hk := acquirePower_keeps s
    have hp1 := acquirePower_powered hp
    rw [ha] at hk hp1
    have hlt := Nat.lt_of_le_of_lt hk.length_le (length_lt_initializeFrontend s1)
    have hp2 : Powered (initializeFrontend s1).1 :=
      (initializeFrontend_chips s1).powered_iff.2 hp1
    rcases hend with hend | hend
    · rw [hend]
      exact Nat.lt_of_lt_of_le hlt (releasePower_keeps hp2).length_le
    · rw [hend]
      exact hlt

theorem length_lt_enableTsPins (system : Ipc.System) (enable : Bool) (s : Receiver) :
    s.log.length < (enableTsPins system enable s).1.log.length := by
  have hlt := length_lt_access s (.i2c (.enableTsPins (demodOf system) enable))
  unfold enableTsPins
  simp only [execute]
  split
  · next h => rwa [h] at hlt
  · next h => rwa [h] at hlt

/-- A release of the last reference. -/
theorem length_lt_releasePower {s : Receiver} (hp : Powered s) (h1 : s.references = 1) :
    s.log.length < (releasePower s).1.log.length := by
  rcases releasePower_cases s hp with ⟨h0, -⟩ | ⟨-, powered, hr⟩ | ⟨h2, -⟩
  · omega
  · rw [hr]
    simp [setReferences, access]
  · omega

theorem releasePower_log {s : Receiver} (hp : Powered s) (h1 : s.references ≠ 1) :
    (releasePower s).1.log = s.log := by
  rcases releasePower_cases s hp with ⟨-, hr⟩ | ⟨h1', -⟩ | ⟨-, hr⟩
  · rw [hr]
  · exact absurd h1' h1
  · rw [hr]
    rfl

theorem endTuners_log (s : Receiver) : (endTuners s).log = s.log := by
  unfold endTuners
  split
  · dsimp only
    split <;> rfl
  · rfl

/-- **A close** leaves the bridge alone exactly when there is no capture to stop and its reference
is not the last one. -/
theorem closeReceiver_silent_iff {s : Receiver} (hp : Powered s) :
    (closeReceiver 0 s).1.log = s.log ↔ (!s.capturing && s.references != 1) = true := by
  have he := endReceiver_chips s
  have hp' : Powered (endTuners (endCapture s)) := he.powered_iff.2 hp
  have href : (endTuners (endCapture s)).references = s.references := he.references
  have hclose : closeReceiver 0 s = releasePower (endTuners (endCapture s)) := by
    simp [closeReceiver]
  rw [hclose]
  have hlen := (releasePower_keeps hp').length_le
  cases hc : s.capturing with
  | true =>
    have hlt : s.log.length < (endCapture s).log.length := by
      unfold endCapture
      rw [if_pos hc]
      simpa [stopCapture] using length_lt_enableTsPins _ false s
    rw [endTuners_log] at hlen
    refine iff_of_false (fun h => ?_) (by simp)
    rw [h] at hlen
    omega
  | false =>
    have hend : (endTuners (endCapture s)).log = s.log := by
      rw [endTuners_log]
      simp [endCapture, hc]
    by_cases h1 : s.references = 1
    · have hlt := length_lt_releasePower hp' (by rw [href, h1])
      refine iff_of_false (fun h => ?_) (by simp [h1])
      rw [h, hend] at hlt
      omega
    · rw [releasePower_log hp' (by rw [href]; exact h1), hend]
      simp [h1]

theorem tuneHz_silent_iff {tune : Nat → Nat → Receiver → Receiver × Result Unit}
    {system : Ipc.System} {receiver hz : Nat} {s : Receiver} {quiet : Bool}
    (ht : ∀ khz, (tune receiver khz s).1.log = s.log ↔ quiet = true) :
    (tuneHz tune system receiver hz s).1.log = s.log ↔
      (quiet || !receiverSupports s.model receiver system || !(px4FrequencyKhz hz system).isOk) =
        true := by
  unfold tuneHz
  rcases hk : px4FrequencyKhz hz system with e | khz
  · simp [Except.isOk, Except.toBool]
  · cases hs : receiverSupports s.model receiver system with
    | false => simp
    | true =>
      have h := ht khz
      rcases hx : tune receiver khz s with ⟨s', e | ⟨⟩⟩ <;> rw [hx] at h <;>
        simpa [hs, hx, Except.isOk, Except.toBool] using h

/-- A log that has grown is another one. -/
theorem log_ne_of_length_lt {s s' : Receiver} (h : s.log.length < s'.log.length) :
    s'.log ≠ s.log := by
  intro hlog
  rw [hlog] at h
  omega

theorem tuneTerrestrial_silent_iff (receiver khz : Nat) (s : Receiver) :
    (tuneTerrestrial receiver khz s).1.log = s.log ↔ (receiver != 0 || !s.opened) = true := by
  unfold tuneTerrestrial
  split
  · next h => exact iff_of_true rfl (by simpa using h)
  · next h =>
    refine iff_of_false (log_ne_of_length_lt ?_) (by simpa using h)
    exact length_lt_tuneChips _ _ _ _ (by simp [execute, access])

theorem tuneSatellite_silent_iff (receiver khz : Nat) (s : Receiver) :
    (tuneSatellite receiver khz s).1.log = s.log ↔
      (receiver != 0 || !s.opened || !hasSatellite s.model) = true := by
  unfold tuneSatellite
  split
  · next h => exact iff_of_true rfl (by simpa [or_assoc] using h)
  · next h =>
    refine iff_of_false (log_ne_of_length_lt ?_) (by simpa [or_assoc] using h)
    exact length_lt_tuneChips _ _ _ _ (by simp [execute, access])

theorem isLocked_silent_iff (receiver : Nat) (system : Ipc.System) (s : Receiver) :
    (isLocked receiver system s).1.log = s.log ↔ (receiver != 0) = true := by
  unfold isLocked
  split
  · next h => exact iff_of_true rfl (by simpa using h)
  · next h =>
    refine iff_of_false (log_ne_of_length_lt ?_) (by simpa using h)
    exact length_lt_access s _

theorem startCapture_silent_iff (receiver : Nat) (system : Ipc.System) (s : Receiver) :
    (startCapture receiver system s).1.log = s.log ↔ (receiver != 0 || !s.opened) = true := by
  unfold startCapture
  split
  · next h => exact iff_of_true rfl (by simpa using h)
  · next h =>
    exact iff_of_false (log_ne_of_length_lt (length_lt_enableTsPins system true s))
      (by simpa using h)

theorem stopCapture_silent_iff (receiver : Nat) (system : Ipc.System) (s : Receiver) :
    (stopCapture receiver system s).1.log = s.log ↔ (receiver != 0) = true := by
  unfold stopCapture
  split
  · next h => exact iff_of_true rfl (by simpa using h)
  · next h =>
    exact iff_of_false (log_ne_of_length_lt (length_lt_enableTsPins system false s))
      (by simpa using h)

theorem setPower_silent_iff {s : Receiver} (hp : Powered s) (on : Bool) :
    (setPower on s).1.log = s.log ↔ Quiet s (.setPower on) = true := by
  cases on with
  | true =>
    cases hc : s.cardPowered with
    | true => simp [setPower, Quiet, hc]
    | false =>
      simp only [setPower, Quiet, hc, if_true, Bool.false_eq_true, if_false, Bool.false_or]
      rcases acquirePower_cases s with ⟨h0, on, ha⟩ | ⟨h0, ha⟩ | ⟨h0, ha⟩ <;> rw [ha] <;>
        simp [h0, access, setReferences, setCardPowered]
  | false =>
    cases hc : s.cardPowered with
    | false => simp [setPower, Quiet, hc]
    | true =>
      simp only [setPower, Quiet, hc, Bool.false_eq_true, if_false, Bool.not_true, Bool.false_or]
      by_cases h1 : s.references = 1
      · exact iff_of_false
          (log_ne_of_length_lt (length_lt_releasePower (s := s.setCardPowered false)
          hp h1)) (by simp [h1])
      · exact iff_of_true (releasePower_log (s := s.setCardPowered false) hp h1) (by simp [h1])

/-- The selections are the calls that look at the flag. -/
theorem selectSatelliteSlot_of_disconnected {s : Receiver} (hd : s.disconnected = true)
    (receiver slot timeout : Nat) : (selectSatelliteSlot receiver slot timeout s).1 = s := by
  unfold selectSatelliteSlot
  split_ifs <;> rfl

theorem selectSatelliteTsid_of_disconnected {s : Receiver} (hd : s.disconnected = true)
    (receiver tsid timeout : Nat) : (selectSatelliteTsid receiver tsid timeout s).1 = s := by
  unfold selectSatelliteTsid
  split_ifs <;> rfl

/-! ## Every call -/

/-- **One call** after a transport loss leaves the bridge alone exactly when it is a quiet one. -/
theorem silent_iff_quiet {s : Receiver} (hp : Powered s) (hd : s.disconnected = true) (op : Call) :
    Silent s op ↔ Quiet s op = true := by
  cases op with
  | openReceiver receiver =>
    by_cases hr : receiver = 0
    · subst hr
      cases ho : s.opened with
      | false =>
        exact iff_of_false (log_ne_of_length_lt (length_lt_openReceiver hp ho))
          (by simp [Quiet, ho])
      | true => simp [Silent, Quiet, next, call, openReceiver, ho]
    · simp [Silent, Quiet, next, call, openReceiver, hr]
  | tuneTerrestrial receiver khz => exact tuneTerrestrial_silent_iff receiver khz s
  | tuneSatellite receiver khz => exact tuneSatellite_silent_iff receiver khz s
  | tuneTerrestrialHz receiver hz =>
    refine (tuneHz_silent_iff fun khz => tuneTerrestrial_silent_iff receiver khz s).trans ?_
    by_cases hr : receiver = 0 <;> simp [Quiet, receiverSupports, hr]
  | tuneSatelliteHz receiver hz =>
    refine (tuneHz_silent_iff fun khz => tuneSatellite_silent_iff receiver khz s).trans ?_
    by_cases hr : receiver = 0 <;> cases hsat : hasSatellite s.model <;>
      simp [Quiet, receiverSupports, hr, hsat]
  | isLocked receiver system => exact isLocked_silent_iff receiver system s
  | selectSatelliteSlot receiver slot timeout =>
    refine iff_of_true ?_ rfl
    simp only [Silent, next, call, selectSatelliteSlot_of_disconnected hd]
  | selectSatelliteTsid receiver tsid timeout =>
    refine iff_of_true ?_ rfl
    simp only [Silent, next, call, selectSatelliteTsid_of_disconnected hd]
  | startCapture receiver system => exact startCapture_silent_iff receiver system s
  | stopCapture receiver system => exact stopCapture_silent_iff receiver system s
  | closeReceiver receiver =>
    by_cases hr : receiver = 0
    · subst hr
      exact closeReceiver_silent_iff hp
    · simp [Silent, Quiet, next, call, closeReceiver, hr]
  | beginTunePower receiver system voltage =>
    refine iff_of_true ?_ rfl
    simp only [Silent, next, call, beginTunePower_fst]
  | commitTunePower receiver => exact iff_of_true rfl rfl
  | rollbackTunePower receiver => exact iff_of_true rfl rfl
  | markReceiverDisconnected receiver => exact iff_of_true rfl rfl
  | shutdown => exact closeReceiver_silent_iff hp
  | setPower on => exact setPower_silent_iff hp on

theorem openReceiver_powered {s : Receiver} (hp : Powered s) (ho : s.opened = false) :
    Powered (openReceiver 0 s).1 ∧ (openReceiver 0 s).1.disconnected = s.disconnected := by
  have hk := acquirePower_keeps s
  have hp1 := acquirePower_powered hp
  rcases openReceiver_cases ho with ⟨e, ha⟩ | ⟨s1, s2, ha, rfl, hend⟩
  · rw [ha] at hk hp1
    exact ⟨hp1, hk.disconnected⟩
  · rw [ha] at hk hp1
    have hi := initializeFrontend_chips s1
    have hp2 := hi.powered_iff.2 hp1
    have hd2 : (initializeFrontend s1).1.disconnected = s.disconnected :=
      hi.disconnected.trans hk.disconnected
    rcases hend with hend | hend
    · rw [hend]
      exact ⟨releasePower_powered hp2, (releasePower_keeps hp2).disconnected.trans hd2⟩
    · rw [hend]
      exact ⟨hp2, hd2⟩

/-- **Every call** keeps the power on while there is a reference, and the loss of the transport. -/
theorem next_powered {s : Receiver} (hp : Powered s) (op : Call) :
    Powered (next s op) ∧ (s.disconnected = true → (next s op).disconnected = true) := by
  rcases next_cases s op with hc | ⟨rfl, ho⟩ | ⟨-, hn⟩ | ⟨rfl, hc⟩ | ⟨rfl, hc, hn⟩ | ⟨r, rfl⟩
  · exact ⟨hc.powered_iff.2 hp, fun hd => hc.disconnected.trans hd⟩
  · obtain ⟨hp', hd'⟩ := openReceiver_powered hp ho
    exact ⟨hp', fun hd => hd'.trans hd⟩
  · have he := endReceiver_chips s
    have hp' : Powered (endTuners (endCapture s)) := he.powered_iff.2 hp
    rw [hn]
    exact ⟨releasePower_powered hp', fun hd =>
      ((releasePower_keeps hp').disconnected.trans he.disconnected).trans hd⟩
  · have hk := acquirePower_keeps s
    have hp' := acquirePower_powered hp
    simp only [next, call, setPower, hc, if_true, Bool.false_eq_true, if_false]
    rcases ha : acquirePower s with ⟨s1, e | ⟨⟩⟩ <;> rw [ha] at hk hp' <;>
      exact ⟨hp', fun hd => hk.disconnected.trans hd⟩
  · rw [hn]
    have hp' : Powered (s.setCardPowered false) := hp
    exact ⟨releasePower_powered hp', fun hd => (releasePower_keeps hp').disconnected.trans hd⟩
  · exact ⟨hp, fun _ => rfl⟩

/-- A frontend after any history and the loss of its transport. -/
def lost (model : Device.DeviceModel) (replies : Nat → Result Nat) (history : List Call)
    (receiver : Nat) : Receiver :=
  next (history.foldl next (start model replies)) (.markReceiverDisconnected receiver)

/-- **Silence after a transport loss.** After any history and the loss of the transport, no call of
a run issues a transfer or a power write exactly when all of its calls are quiet ones. -/
theorem silent_after_loss_iff (model : Device.DeviceModel) (replies : Nat → Result Nat)
    (history : List Call) (receiver : Nat) (ops : List Call) :
    Lib.AllSteps next Silent (lost model replies history receiver) ops ↔
      Lib.AllSteps next (fun s op => Quiet s op = true) (lost model replies history receiver)
        ops := by
  have hstep : ∀ s op, Powered s → Powered (next s op) := fun s op h => (next_powered h op).1
  have hp := Lib.foldl_inv hstep history (start_balanced model replies).powered
  have hgood : ∀ s op, (Powered s ∧ s.disconnected = true) → Quiet s op = true →
      (Powered (next s op) ∧ (next s op).disconnected = true) ∧ Silent s op := by
    rintro s op ⟨hp, hd⟩ hq
    obtain ⟨hp', hd'⟩ := next_powered hp op
    exact ⟨⟨hp', hd' hd⟩, (silent_iff_quiet hp hd op).2 hq⟩
  refine Lib.allSteps_iff hgood ?_ ops ⟨(next_powered hp _).1, rfl⟩
  rintro s op ⟨hp, hd⟩ hq hs
  exact hq ((silent_iff_quiet hp hd op).1 hs)

/-- The transport is lost and the receiver is opened again: backend power is written and the chips
are initialized. -/
theorem open_after_loss :
    ¬Lib.AllSteps next Silent (lost .pxS1ur (fun _ => .ok 0) [] 0) [.openReceiver 0] ∧
      (next (lost .pxS1ur (fun _ => .ok 0) [] 0) (.openReceiver 0)).log.take 2 =
        [.power true, .i2c (.writeReg .tcT 0xb0 0xa0)] := by
  decide

end Px4.Frontend.Single
