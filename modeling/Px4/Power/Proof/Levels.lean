import Px4.Power.Proof.Coordinator

/-!
# Backend power at two levels

What `set_q3u4_backend_power` makes of the GPIO levels (`setQ3u4BackendPower_spec`), what the
coordinator above it believes (`Coherent`), and that in every run both beliefs agree with the levels
(`backend_power_levels`).
-/

namespace Px4.It930x

/-- The levels after the `on` sequence. -/
def Bus.OnLevels (bus : Bus) : Prop := bus.value gpio2Output = 1 ∧ bus.value gpio7Output = 0

/-- The levels after the `off` sequence. -/
def Bus.OffLevels (bus : Bus) : Prop := bus.value gpio2Output = 0 ∧ bus.value gpio7Output = 1

namespace Controller

/-- A state that is believed on or off is so. -/
structure Sound (c : Controller) : Prop where
  on : c.backendPowerState = .on → c.bus.OnLevels
  off : c.backendPowerState = .off → c.bus.OffLevels

variable {c c' : Controller} {r : Result Unit}

/-- A state that claims nothing. -/
theorem sound_of_ne (hon : c.backendPowerState ≠ .on) (hoff : c.backendPowerState ≠ .off) :
    c.Sound := ⟨fun h => absurd h hon, fun h => absurd h hoff⟩

theorem write_ok {reg : Nat} {value : UInt8} (h : c.write reg value = (c', .ok ())) :
    c'.bus = c.bus.set reg value true := by
  unfold write at h
  obtain ⟨rfl, hr⟩ := Prod.mk.inj h
  exact Lib.Faulty.write_ok (Prod.ext rfl hr)

/-- Two writes that succeed, of different registers. -/
theorem write_write {reg reg' : Nat} {value value' : UInt8} {c'' : Controller}
    (h : c.write reg value = (c', .ok ())) (h' : c'.write reg' value' = (c'', .ok ()))
    (hne : reg ≠ reg') : c''.bus.value reg = value ∧ c''.bus.value reg' = value' := by
  rw [write_ok h', write_ok h, Lib.Faulty.set_value_of_ne _ _ _ _ hne]
  exact ⟨Lib.Faulty.set_value_true _ _ _, Lib.Faulty.set_value_true _ _ _⟩

/-- What a power sequence leaves: a sound state, which is the requested one if it succeeds and
disconnected exactly if that is its error. -/
structure Sequenced (target : PowerState) (c : Controller) (r : Result Unit) : Prop where
  sound : c.Sound
  ok : r = .ok () → c.backendPowerState = target
  lost : r = .error .disconnected ↔ c.backendPowerState = .disconnected

theorem lost_sequenced (c : Controller) (target : PowerState) :
    Sequenced target c.lost.1 c.lost.2 :=
  ⟨sound_of_ne nofun nofun, nofun, iff_of_true rfl rfl⟩

theorem restore_sequenced (c : Controller) (e : Error) (target : PowerState) :
    Sequenced target (c.restore e).1 (c.restore e).2 := by
  unfold restore
  split
  · exact lost_sequenced _ _
  rename_i he
  split
  · exact lost_sequenced _ _
  rename_i c₁ cleanupBackend _ hbackend
  split
  · exact lost_sequenced _ _
  rename_i c₂ cleanupReset _ hreset
  have hlost : (Except.error e : Result Unit) ≠ .error .disconnected :=
    fun h => he (by cases h; rfl)
  cases cleanupBackend with
  | error _ => exact ⟨sound_of_ne nofun nofun, nofun, iff_of_false hlost nofun⟩
  | ok _ =>
    cases cleanupReset with
    | error _ => exact ⟨sound_of_ne nofun nofun, nofun, iff_of_false hlost nofun⟩
    | ok _ =>
      have hlevels := write_write hbackend hreset (by decide)
      exact ⟨⟨nofun, fun _ => hlevels⟩, nofun, iff_of_false hlost nofun⟩

theorem powerOn_sequenced (c : Controller) : Sequenced .on c.powerOn.1 c.powerOn.2 := by
  unfold powerOn
  split
  · exact restore_sequenced _ _ _
  rename_i c₁ hreset
  split
  · exact restore_sequenced _ _ _
  rename_i c₂ hbackend
  have hlevels := write_write hreset hbackend (by decide)
  exact ⟨⟨fun _ => hlevels.symm, nofun⟩, fun _ => rfl, iff_of_false nofun nofun⟩

theorem powerOff_sequenced (c : Controller) : Sequenced .off c.powerOff.1 c.powerOff.2 := by
  unfold powerOff
  split
  · exact lost_sequenced _ _
  rename_i c₁ backend hne hbackend
  split
  · exact lost_sequenced _ _
  rename_i c₂ reset hne' hreset
  have hfailed (e : Error) (he : e ≠ .disconnected) :
      Sequenced .off (c₂.setState (if e = .disconnected then .disconnected else .unknown))
        (.error e) := by
    rw [if_neg he]
    refine ⟨sound_of_ne nofun nofun, nofun, iff_of_false (fun h => he ?_) nofun⟩
    cases h
    rfl
  cases backend with
  | error e => exact hfailed e fun he => hne (he ▸ rfl)
  | ok _ =>
    cases reset with
    | error e => exact hfailed e fun he => hne' (he ▸ rfl)
    | ok _ =>
      have hlevels := write_write hbackend hreset (by decide)
      exact ⟨⟨nofun, fun _ => hlevels⟩, fun _ => rfl, iff_of_false nofun nofun⟩

/-- **What `set_q3u4_backend_power` does**: it leaves a lost bridge alone, and otherwise ends as a
power sequence does. -/
theorem setQ3u4BackendPower_spec (on : Bool) (hs : c.Sound)
    (h : c.setQ3u4BackendPower on = (c', r)) :
    Sequenced (if on then .on else .off) c' r ∧ (c.backendPowerState = .disconnected → c' = c) := by
  unfold setQ3u4BackendPower at h
  split at h
  · rename_i hgone
    cases h
    exact ⟨⟨hs, nofun, iff_of_true rfl hgone⟩, fun _ => rfl⟩
  rename_i hne
  by_cases hthere : c.backendPowerState = (if on then .on else .off)
  · rw [if_pos hthere] at h
    cases h
    exact ⟨⟨hs, fun _ => hthere, iff_of_false nofun hne⟩, fun _ => rfl⟩
  rw [if_neg hthere] at h
  refine ⟨?_, fun hgone => absurd hgone hne⟩
  cases on with
  | true =>
    obtain ⟨hc, hr⟩ : c.powerOn.1 = c' ∧ c.powerOn.2 = r := Prod.mk.inj h
    rw [← hc, ← hr]
    exact powerOn_sequenced c
  | false =>
    obtain ⟨hc, hr⟩ : c.powerOff.1 = c' ∧ c.powerOff.2 = r := Prod.mk.inj h
    rw [← hc, ← hr]
    exact powerOff_sequenced c

end Controller

end Px4.It930x

namespace Px4.Power

open It930x (PowerState Controller)

/-- What the coordinator and the controller of a bridge believe, and the levels. -/
structure Coherent (state : PowerState) (c : Controller) : Prop where
  sound : c.Sound
  on : state = .on → c.backendPowerState = .on
  off : state = .off → c.backendPowerState = .off
  lost : c.backendPowerState = .disconnected → state = .disconnected

/-- What every move keeps: the beliefs agree, and lost bridges are left alone. -/
structure Kept (s s' : Sys Controllers) : Prop where
  coherent : ∀ b, Coherent (s'.state.backendState b) (s'.hw b)
  absorbs : ∀ b, s.state.backendState b = .disconnected →
    s'.state.backendState b = .disconnected ∧ s'.hw b = s.hw b

theorem Kept.trans {s s' s'' : Sys Controllers} (h : Kept s s') (h' : Kept s' s'') :
    Kept s s'' := by
  refine ⟨h'.coherent, fun b hb => ?_⟩
  obtain ⟨h1, h2⟩ := h.absorbs b hb
  obtain ⟨h3, h4⟩ := h'.absorbs b h1
  exact ⟨h3, h4.trans h2⟩

/-- The belief of the coordinator after a call of the controller. -/
theorem Coherent.sequenced {c c' : Controller} {r : Result Unit} {on : Bool} {state : PowerState}
    (hs : c.Sound) (h : c.setQ3u4BackendPower on = (c', r))
    (hstate : r = .ok () ∧ state = (if on then .on else .off) ∨
      ∃ e, r = .error e ∧ state = if e = .disconnected then .disconnected else .unknown) :
    Coherent state c' := by
  obtain ⟨hseq, -⟩ := Controller.setQ3u4BackendPower_spec on hs h
  rcases hstate with ⟨rfl, rfl⟩ | ⟨e, rfl, rfl⟩
  · have hc := hseq.ok rfl
    refine ⟨hseq.sound, hc.trans, hc.trans, fun hlost => ?_⟩
    cases hseq.lost.2 hlost
  · refine ⟨hseq.sound, fun h => ?_, fun h => ?_, fun hlost => ?_⟩
    · split at h <;> cases h
    · split at h <;> cases h
    · cases hseq.lost.2 hlost
      rfl

theorem setBridge_kept (b : Bridge) (on : Bool) {s : Sys Controllers}
    (hs : ∀ b, Coherent (s.state.backendState b) (s.hw b)) :
    Kept s (setBridge controllerBackend b on s).1 := by
  rcases setBridge_cases controllerBackend b on s with
    ⟨-, h⟩ | ⟨-, h⟩ | ⟨hne, hw, r, state, hbe, h, hr⟩
  · rw [h]
    exact ⟨hs, fun _ hb => ⟨hb, rfl⟩⟩
  · rw [h]
    exact ⟨hs, fun _ hb => ⟨hb, rfl⟩⟩
  · rw [h]
    obtain ⟨rfl, rfl⟩ := Prod.mk.inj hbe
    refine ⟨fun j => ?_, fun j hj => ?_⟩ <;> dsimp only
    · by_cases hjb : j = b
      · subst hjb
        rw [setBackend_self, Function.update_self]
        exact .sequenced (hs j).sound rfl hr
      · rw [setBackend_of_ne _ hjb, Function.update_of_ne hjb]
        exact hs j
    · have hjb : j ≠ b := by
        rintro rfl
        exact hne hj
      rw [setBackend_of_ne _ hjb, Function.update_of_ne hjb]
      exact ⟨hj, rfl⟩

theorem kept_rule (s₀ : Sys Controllers) : Rule controllerBackend (Kept s₀) where
  bridge b on _ h := h.trans (setBridge_kept b on h.coherent)
  references _ _ _ h := ⟨h.coherent, h.absorbs⟩

theorem disconnect_kept (b : Bridge) {s : Sys Controllers}
    (hs : ∀ b, Coherent (s.state.backendState b) (s.hw b)) : Kept s (disconnect b s).1 := by
  refine ⟨fun j => ?_, fun j hj => ⟨?_, rfl⟩⟩
  · show Coherent ((s.state.disconnect b).backendState j) (s.hw j)
    rw [disconnect_state]
    split
    · exact ⟨(hs j).sound, nofun, nofun, fun _ => rfl⟩
    split
    · rename_i hon
      refine ⟨(hs j).sound, nofun, nofun, fun hlost => ?_⟩
      rw [(hs j).on hon] at hlost
      cases hlost
    · exact hs j
  · show (s.state.disconnect b).backendState j = .disconnected
    rw [disconnect_state, hj]
    split <;> simp

theorem call_kept {s : Sys Controllers} (hs : ∀ b, Coherent (s.state.backendState b) (s.hw b))
    (op : Call) : Kept s (call controllerBackend s op).1 :=
  (kept_rule s).call (fun b _ h => h.trans (disconnect_kept b h.coherent)) op
    ⟨hs, fun _ hb => ⟨hb, rfl⟩⟩

theorem calls_kept {s : Sys Controllers} (hs : ∀ b, Coherent (s.state.backendState b) (s.hw b))
    (ops : List Call) : Kept s (calls controllerBackend s ops) :=
  Lib.foldl_inv (P := Kept s) (fun _ op h => h.trans (call_kept h.coherent op)) ops
    ⟨hs, fun _ hb => ⟨hb, rfl⟩⟩

theorem start_coherent (outcomes : Bridge → Nat → Lib.Outcome Error) (b : Bridge) :
    Coherent ((start outcomes).state.backendState b) ((start outcomes).hw b) :=
  ⟨⟨nofun, fun _ => ⟨rfl, rfl⟩⟩, nofun, fun _ => rfl, nofun⟩

/-- The operations that take a reference. -/
def Call.acquires : Call → Bool
  | .acquireReceiver _ | .acquireCard => true
  | _ => false

/-- The operations that bring the bridges to the desired state. -/
def Call.settles : Call → Bool
  | .disconnect _ => false
  | _ => true

variable {σ : Type} {be : Backend σ} {s s' : Sys σ}

theorem acquires_error {op : Call} {e : Error} (hop : op.acquires = true)
    (h : call be s op = (s', .error e)) : SameReferences s s' := by
  cases op with
  | acquireReceiver receiver =>
    rcases acquireReceiver_spec h with ⟨hr, -⟩ | ⟨-, hsame⟩
    · cases hr
    · exact hsame
  | acquireCard =>
    rcases acquireCard_spec h with ⟨hr, -⟩ | ⟨-, hsame⟩
    · cases hr
    · exact hsame
  | _ => cases hop

theorem settles_ok {op : Call} (hop : op.settles = true) (h : call be s op = (s', .ok ())) :
    s'.state.AllSettled := by
  cases op with
  | acquireReceiver receiver =>
    rcases acquireReceiver_spec h with ⟨-, -, -, -, hsettled⟩ | ⟨⟨e, he⟩, -⟩
    · exact hsettled
    · cases he
  | releaseReceiver receiver =>
    rcases releaseReceiver_spec h with ⟨hr, -⟩ | ⟨-, -, hsettled⟩
    · cases hr
    · exact hsettled rfl
  | acquireCard =>
    rcases acquireCard_spec h with ⟨-, -, -, -, hsettled⟩ | ⟨⟨e, he⟩, -⟩
    · exact hsettled
    · cases he
  | releaseCard =>
    rcases releaseCard_spec h with ⟨hr, -⟩ | ⟨-, -, hsettled⟩
    · cases hr
    · exact hsettled rfl
  | reconcile => exact (reconcile_spec h).2 rfl
  | disconnect b => cases hop

/-- **Backend power at two levels.** In every state of every run, whatever the register writes come
to: a bridge that the coordinator or its controller believes on or off has the GPIO levels of the
`on` or `off` sequence; once either believes it disconnected it stays so and no power register of
the bridge is written again; an acquire that fails changes no reference; and after an acquire,
release or reconcile that succeeds every bridge still connected is on if a receiver is in use, or
for the first bridge the card, and off otherwise. -/
theorem backend_power_levels (outcomes : Bridge → Nat → Lib.Outcome Error) (ops : List Call) :
    let s := calls controllerBackend (start outcomes) ops
    (∀ b, (s.state.backendState b = .on ∨ (s.hw b).backendPowerState = .on →
        (s.hw b).bus.OnLevels) ∧
      (s.state.backendState b = .off ∨ (s.hw b).backendPowerState = .off →
        (s.hw b).bus.OffLevels)) ∧
    (∀ b more, (s.state.backendState b = .disconnected →
        (calls controllerBackend s more).state.backendState b = .disconnected ∧
        (calls controllerBackend s more).hw b = s.hw b) ∧
      ((s.hw b).backendPowerState = .disconnected →
        (calls controllerBackend s more).hw b = s.hw b)) ∧
    (∀ op e, op.acquires = true → (call controllerBackend s op).2 = .error e →
      (call controllerBackend s op).1.state.receiverMask = s.state.receiverMask ∧
      (call controllerBackend s op).1.state.cardAcquired = s.state.cardAcquired) ∧
    (∀ op b, op.settles = true → (call controllerBackend s op).2 = .ok () →
      let state := (call controllerBackend s op).1.state
      state.backendState b ≠ .disconnected →
      state.backendState b =
        if state.receiverMask ≠ 0 ∨ (b = .dev1 ∧ state.cardAcquired) then .on else .off) := by
  intro s
  have hs : ∀ b, Coherent (s.state.backendState b) (s.hw b) :=
    (calls_kept (start_coherent outcomes) ops).coherent
  refine ⟨fun b => ⟨?_, ?_⟩, fun b more => ?_, fun op e hop he => ?_, fun op b hop hok => ?_⟩
  · rintro (hon | hon)
    · exact (hs b).sound.on ((hs b).on hon)
    · exact (hs b).sound.on hon
  · rintro (hoff | hoff)
    · exact (hs b).sound.off ((hs b).off hoff)
    · exact (hs b).sound.off hoff
  · have hkept := calls_kept hs more
    exact ⟨hkept.absorbs b, fun hlost => (hkept.absorbs b ((hs b).lost hlost)).2⟩
  · exact acquires_error hop (Prod.ext rfl he)
  · have hsettled := settles_ok hop (Prod.ext rfl hok) b
    intro state hne
    rw [hsettled hne]
    exact if_congr (desiredPower_iff state b) rfl rfl

end Px4.Power
