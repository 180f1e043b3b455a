import Px4.Frontend.Proof.Effect

/-!
# Capture on the current tuning

`Tracked` is the invariant of the runs whose steps are all `Renewed`: a tuned receiver has had a
good tune since it was opened, and a selected TSID was read back after it. `current_iff_renewed`
says that these are the only runs in which the records of the banks are right in every state.
-/

namespace Px4.Frontend

open Px4.Power (Bridge bridgeOf)

variable {s : Observed} {op : Call} {g : Nat}

/-- The state a bank has recorded for a receiver. -/
def Observed.state (s : Observed) (g : Nat) : ReceiverState := (s.bank g).receiverState (g % 4)

/-- The records of a receiver are right: a tuned receiver had a good tune last, and a selection was
made after it. -/
structure Current (s : Observed) (g : Nat) : Prop where
  tuned : (s.state g).tunedIn = true → ∃ ev, latestTune g s.events = some ev ∧ ev.result = .ok ()
  selected : systemOf (g % 4) = .isdbS → (s.bank g).satelliteSelected (g % 4) = true →
    ∃ ev, latestTune g s.events = some ev ∧ ReadBack s.wire (bridgeOf g) (g % 4) ev.after ∧
      lastTsid (bridgeOf g) (g % 4) s.wire.log = some ((s.bank g).selectedTsid (g % 4))

/-- The invariant: the records are right, of a tune that is over, and only a tuned receiver has a
selection. -/
structure Tracked (s : Observed) (g : Nat) : Prop extends Current s g where
  past : (s.state g).tunedIn = true → ∀ ev, latestTune g s.events = some ev →
    ev.after ≤ s.wire.log.length
  only : systemOf (g % 4) = .isdbS → (s.bank g).satelliteSelected (g % 4) = true →
    (s.state g).tunedIn = true

/-- The latest tune after an operation that is no open and no tune of the receiver. -/
theorem latestTune_same (hopens : (eventOf s.enclosure op).opens g = false)
    (htunes : (eventOf s.enclosure op).tunes g = false) :
    latestTune g (observe s op).events = latestTune g s.events := by
  show latestTune g (eventOf s.enclosure op :: s.events) = _
  simp [latestTune, hopens, htunes]

theorem latestTune_tune (hopens : (eventOf s.enclosure op).opens g = false)
    (htunes : (eventOf s.enclosure op).tunes g = true) :
    latestTune g (observe s op).events = some (eventOf s.enclosure op) := by
  show latestTune g (eventOf s.enclosure op :: s.events) = _
  simp [latestTune, hopens, htunes]

/-! ## Steps -/

theorem Tracked.aside (h : Tracked s g)
    (haside : Aside (bridgeOf g) (g % 4) s.enclosure (call s.enclosure op).1)
    (hopens : (eventOf s.enclosure op).opens g = false)
    (htunes : (eventOf s.enclosure op).tunes g = false) : Tracked (observe s op) g := by
  have hlatest := latestTune_same hopens htunes
  have htuned : ((observe s op).state g).tunedIn = (s.state g).tunedIn := haside.tunedIn
  have hselected : ((observe s op).bank g).satelliteSelected (g % 4) =
      (s.bank g).satelliteSelected (g % 4) := haside.selected
  have htsid : ((observe s op).bank g).selectedTsid (g % 4) = (s.bank g).selectedTsid (g % 4) :=
    haside.tsid
  have hquiet : Quiet (bridgeOf g) (g % 4) s.wire (observe s op).wire := haside.wire
  refine ⟨⟨fun hin => ?_, fun hsystem hsel => ?_⟩, fun hin ev hev => ?_, fun hsystem hsel => ?_⟩
  · rw [hlatest]
    exact h.tuned (htuned ▸ hin)
  · obtain ⟨ev, hev, hread, hlast⟩ := h.selected hsystem (hselected ▸ hsel)
    refine ⟨ev, hlatest.trans hev, hread.grown hquiet.grown, ?_⟩
    rw [hquiet.lastTsid, htsid]
    exact hlast
  · rw [hlatest] at hev
    exact Nat.le_trans (h.past (htuned ▸ hin) ev hev) hquiet.le
  · rw [htuned]
    exact h.only hsystem (hselected ▸ hsel)

theorem Tracked.of_ended (h : Ended (bridgeOf g) (g % 4) s.enclosure) : Tracked s g := by
  have htuned : (s.state g).tunedIn ≠ true := by
    rw [show (s.state g).tunedIn = false from h.1]
    exact Bool.false_ne_true
  have hselected : (s.bank g).satelliteSelected (g % 4) ≠ true := by
    rw [show (s.bank g).satelliteSelected (g % 4) = false from h.2]
    exact Bool.false_ne_true
  exact ⟨⟨fun hin => absurd hin htuned, fun _ hsel => absurd hsel hselected⟩,
    fun hin => absurd hin htuned, fun _ hsel => absurd hsel hselected⟩

/-- **A step that is `Renewed` keeps the records right.** -/
theorem Tracked.observe (hg : g < 8) (h : Tracked s g) (hrenewed : Renewed s.enclosure op) :
    Tracked (observe s op) g := by
  cases call_effect hg s.enclosure op with
  | aside haside hopens htunes _ => exact h.aside haside hopens htunes
  | ended hended _ => exact .of_ended hended
  | tune hquiet hopens htunes htuned hselected hcond =>
    -- a receiver that was tuned is tuned again, and there is no selection to outlive the tune
    obtain ⟨hok, hnone⟩ := hcond.1 hrenewed
    have hlatest := latestTune_tune hopens htunes
    have hunselected (hsystem : systemOf (g % 4) = .isdbS) :
        ((Frontend.observe s op).bank g).satelliteSelected (g % 4) ≠ true := by
      rw [show ((Frontend.observe s op).bank g).satelliteSelected (g % 4) = _ from hselected,
        hnone hsystem]
      exact Bool.false_ne_true
    refine ⟨⟨fun hin => ⟨_, hlatest, ?_⟩, fun hsystem hsel => absurd hsel (hunselected hsystem)⟩,
      fun _ ev hev => ?_, fun hsystem hsel => absurd hsel (hunselected hsystem)⟩
    · rw [show ((Frontend.observe s op).state g).tunedIn = _ from htuned, Bool.or_eq_true] at hin
      rcases hin with hin | hin
      · exact hok hin
      · show (call s.enclosure op).2 = .ok ()
        cases hresult : (call s.enclosure op).2 with
        | ok value => rfl
        | error error =>
          rw [hresult] at hin
          cases hin
    · obtain rfl := Option.some.inj (hlatest.symm.trans hev)
      exact Nat.le_refl _
  | select tsid hselects hopens htunes hsystem htuned hcond =>
    have hlatest := latestTune_same hopens htunes
    have hstate : (Frontend.observe s op).state g = s.state g := hselects.state
    have hin : (s.state g).tunedIn = true := htuned
    obtain ⟨ev, hev, hgood⟩ := h.tuned hin
    have hafter := h.past hin ev hev
    have hgrown : Grown s.wire (Frontend.observe s op).wire := hselects.wrote.grown
    have hlast : lastTsid (bridgeOf g) (g % 4) (Frontend.observe s op).wire.log = some tsid :=
      hselects.wrote.lastTsid
    refine ⟨⟨fun _ => ⟨ev, hlatest.trans hev, hgood⟩, fun _ hsel => ⟨ev, hlatest.trans hev, ?_⟩⟩,
      fun _ ev' hev' => ?_, fun _ _ => by rw [hstate]; exact hin⟩
    · rw [hlast]
      by_cases hok : (call s.enclosure op).2 = .ok ()
      · obtain ⟨hread, -, htsid⟩ := hselects.ok hok
        exact ⟨hread.mono hafter, congrArg some htsid.symm⟩
      · -- the write failed: the selection is the old one, and the TSID written is the same
        obtain ⟨hold, htsid⟩ := hselects.error hok
        have hsel' : (s.bank g).satelliteSelected (g % 4) = true := hold.symm.trans hsel
        obtain ⟨ev₁, hev₁, hread, -⟩ := h.selected hsystem hsel'
        obtain rfl := Option.some.inj (hev.symm.trans hev₁)
        have hsame : tsid = (s.bank g).selectedTsid (g % 4) := by
          by_contra hne
          exact hok (hcond.1 hrenewed hsel' hne)
        refine ⟨hread.grown hgrown, ?_⟩
        rw [hsame]
        exact congrArg some htsid.symm
    · rw [hlatest] at hev'
      obtain rfl := Option.some.inj (hev.symm.trans hev')
      exact Nat.le_trans hafter hgrown.2.length_le

/-- **A step that is not `Renewed` leaves a record that is wrong.** -/
theorem not_current_of_not_renewed (hrenewed : ¬Renewed s.enclosure op) :
    ¬∀ g, g < 8 → Current (observe s op) g := by
  intro hcurrent
  obtain ⟨g, hop⟩ : ∃ g, op.receiver? = some g := by
    cases op with
    | setCardPower on => exact absurd trivial hrenewed
    | markBridgeDisconnected bridge => exact absurd trivial hrenewed
    | _ => exact ⟨_, rfl⟩
  by_cases hg : g < 8
  case neg =>
    refine hrenewed ?_
    cases op with
    | tune r khz system timeout =>
      obtain rfl := Option.some.inj hop
      exact fun hr => absurd hr hg
    | selectSlot r slot timeout =>
      obtain rfl := Option.some.inj hop
      exact fun hr => absurd hr hg
    | selectTsid r tsid timeout =>
      obtain rfl := Option.some.inj hop
      exact fun hr => absurd hr hg
    | _ => trivial
  obtain ⟨htuned', hselected'⟩ := hcurrent g hg
  cases call_effect hg s.enclosure op with
  | aside _ _ _ hcond => exact hrenewed (hcond hop)
  | ended _ hcond => exact hrenewed hcond
  | tune hquiet hopens htunes htuned hselected hcond =>
    have hlatest := latestTune_tune hopens htunes
    refine hrenewed (hcond.2 ⟨fun hin => ?_, fun hsystem => ?_⟩)
    · have hin' : ((observe s op).state g).tunedIn = true := by
        rw [show ((observe s op).state g).tunedIn = _ from htuned, hin]
        rfl
      obtain ⟨ev, hev, hok⟩ := htuned' hin'
      obtain rfl := Option.some.inj (hlatest.symm.trans hev)
      exact hok
    · rw [← Bool.not_eq_true]
      intro hsel
      obtain ⟨ev, hev, hread, -⟩ := hselected' hsystem (hselected.trans hsel)
      obtain rfl := Option.some.inj (hlatest.symm.trans hev)
      exact not_readBack_length _ hread
  | select tsid hselects hopens htunes hsystem htuned hcond =>
    refine hrenewed (hcond.2 fun hsel hne => ?_)
    by_contra hfailed
    obtain ⟨hold, htsid⟩ := hselects.error hfailed
    obtain ⟨ev, hev, -, hlast⟩ := hselected' hsystem (hold.trans hsel)
    have hwrote : lastTsid (bridgeOf g) (g % 4) (observe s op).wire.log = some tsid :=
      hselects.wrote.lastTsid
    exact hne ((Option.some.inj (hwrote.symm.trans hlast)).trans htsid)

/-! ## Runs -/

theorem unobserved_tracked (purgers : Bridge → Bool) (replies : Nat → Result Nat) (g : Nat) :
    Tracked (unobserved purgers replies) g := .of_ended ⟨rfl, rfl⟩

/-- **Exactly the runs whose steps are all `Renewed`** have the records of all receivers right after
every step. -/
theorem current_iff_renewed (purgers : Bridge → Bool) (replies : Nat → Result Nat)
    (ops : List Call) :
    Lib.AllSteps observe (fun s op => ∀ g, g < 8 → Current (observe s op) g)
        (unobserved purgers replies) ops ↔
      Lib.AllSteps observe (fun s op => Renewed s.enclosure op)
        (unobserved purgers replies) ops := by
  have hgood (s : Observed) (op : Call) (hs : ∀ g, g < 8 → Tracked s g)
      (hrenewed : Renewed s.enclosure op) :
      (∀ g, g < 8 → Tracked (observe s op) g) ∧ ∀ g, g < 8 → Current (observe s op) g :=
    ⟨fun g hg => (hs g hg).observe hg hrenewed,
      fun g hg => ((hs g hg).observe hg hrenewed).toCurrent⟩
  exact Lib.allSteps_iff hgood (fun _ _ _ hrenewed => not_current_of_not_renewed hrenewed) ops
    fun g _ => unobserved_tracked purgers replies g

/-- What a successful `start_capture` has checked. -/
theorem startCapture_ok {e : Enclosure} {system : System}
    (h : (call e (.startCapture g system)).2 = .ok ()) :
    g < 8 ∧ (e.bank (bridgeOf g)).receiverState (g % 4) = .tuned ∧
      (systemOf (g % 4) = .isdbS → (e.bank (bridgeOf g)).satelliteSelected (g % 4) = true) := by
  by_cases hg : g < 8
  case neg =>
    rw [call_of_le rfl (by omega)] at h
    cases h
  simp only [call, route_of_lt hg] at h
  unfold startCapture at h
  dsimp only at h
  iterate 2
    split at h
    · cases h
  split at h
  · cases h
  rename_i hsystem
  split at h
  · cases h
  rename_i hstate
  split at h
  · cases h
  rename_i hselected
  refine ⟨hg, not_not.1 hstate, fun hs => ?_⟩
  rw [not_not.1 hsystem, hs] at hselected
  simpa using hselected

/-- **Capture on the current tuning.** In every run whose steps are all `Renewed`, whatever the
accesses to the bridges come to: whenever `start_capture` succeeds for a receiver, the latest tune
on it that reached the hardware since it was opened succeeded, and for ISDB-S a TSID was written and
read back after that tune and `selected_tsid` is the last TSID written to its demodulator. -/
theorem capture_on_current_tuning (purgers : Bridge → Bool) (replies : Nat → Result Nat)
    (ops : List Call)
    (hrenewed : Lib.AllSteps observe (fun s op => Renewed s.enclosure op)
      (unobserved purgers replies) ops) (n g : Nat) (system : System) :
    let s := (ops.take n).foldl observe (unobserved purgers replies)
    (call s.enclosure (.startCapture g system)).2 = .ok () →
      OnCurrentTuning (observe s (.startCapture g system)) g := by
  intro s hok
  obtain ⟨hg, hstate, hselected⟩ := startCapture_ok hok
  have hinv : ∀ g, g < 8 → Tracked s g :=
    Lib.AllSteps.inv (I := fun s => ∀ g, g < 8 → Tracked s g)
      (fun _ _ hs hcond g hg => Tracked.observe hg (hs g hg) hcond) hrenewed
      (fun g _ => unobserved_tracked purgers replies g) n
  have hs := hinv g hg
  have hin : (s.state g).tunedIn = true := congrArg ReceiverState.tunedIn hstate
  have haside : Aside (bridgeOf g) (g % 4) s.enclosure
      (call s.enclosure (.startCapture g system)).1 := by
    simp only [call, route_of_lt hg]
    exact .startCapture _ _ _
  obtain ⟨⟨htuned, hsel⟩, -, -⟩ := hs.aside haside rfl rfl
  obtain ⟨ev, hev, hgood⟩ := htuned (haside.tunedIn.trans hin)
  refine ⟨ev, hev, hgood, fun hsystem => ?_⟩
  obtain ⟨ev₁, hev₁, hread, hlast⟩ := hsel hsystem (haside.selected.trans (hselected hsystem))
  obtain rfl := Option.some.inj (hev.symm.trans hev₁)
  exact ⟨hread, hlast⟩

/-- A satellite receiver is opened, tuned and given a TSID, and its capture starts. -/
theorem capture_on_current_tuning_satellite :
    let s := [Call.open 0 .isdbS, .tune 0 1049480 .isdbS 500, .selectTsid 0 0x4010 1000].foldl
      observe (unobserved (fun _ => true) fun _ => .ok 0x4010)
    (call s.enclosure (.startCapture 0 .isdbS)).2 = .ok () ∧
      OnCurrentTuning (observe s (.startCapture 0 .isdbS)) 0 := by
  have hrenewed : Lib.AllSteps observe (fun s op => Renewed s.enclosure op)
      (unobserved (fun _ => true) fun _ => .ok 0x4010)
      [Call.open 0 .isdbS, .tune 0 1049480 .isdbS 500, .selectTsid 0 0x4010 1000] :=
    ⟨trivial, fun _ _ => ⟨fun h => absurd h (by decide +kernel), fun _ => by decide +kernel⟩,
      fun _ _ h => absurd h (by decide +kernel), trivial⟩
  have hok : (call ([Call.open 0 .isdbS, .tune 0 1049480 .isdbS 500,
      .selectTsid 0 0x4010 1000].foldl observe
      (unobserved (fun _ => true) fun _ => .ok 0x4010)).enclosure (.startCapture 0 .isdbS)).2 =
      .ok () := by decide +kernel
  exact ⟨hok, capture_on_current_tuning _ _ _ hrenewed 3 0 .isdbS hok⟩

/-- A terrestrial receiver is tuned, the frequency of a second tune is not accepted by the tuner,
and the capture starts. -/
theorem capture_after_failed_tune :
    let s := [Call.open 2 .isdbT, .tune 2 527143 .isdbT 500, .tune 2 533143 .isdbT 500].foldl
      observe (unobserved (fun _ => true) fun n => if n = 31 then .error .usbIo else .ok 1)
    (call s.enclosure (.startCapture 2 .isdbT)).2 = .ok () ∧
      ¬OnCurrentTuning (observe s (.startCapture 2 .isdbT)) 2 := by
  refine ⟨by decide +kernel, ?_⟩
  rintro ⟨ev, hev, hok, -⟩
  have hresult := congrArg (Option.map Event.result) hev
  rw [show Option.map Event.result (latestTune 2 _) = some (.error .usbIo) by decide +kernel,
    Option.map_some, hok] at hresult
  cases hresult

end Px4.Frontend
