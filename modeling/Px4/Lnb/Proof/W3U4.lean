import Px4.Lnb.Coordinator

/-!
# The shared LNB line of the PX-W3U4

Two logical bridge states drive one GPIO line. `Held s v0 v1 g` gives what the coordinator believes
of the two bridges (`v0`, `v1`) beside the level `g` of the line; `Held.applyBridge_zero` and
`Held.applyBridge_one` say how one `apply_bridge_locked` moves them. While the device is connected
the states are `Live`: bridge 0 believes what the line is, bridge 1 follows independent power alone.
A call that turns bridge 1 off writes the line off as well, whatever bridge 0 holds it on for.

* `step_live`, `step_dead` — a call that meets `LineCond` keeps the invariant, with `LineOk`.
* `step_not_lineOk` — any other call breaks `LineOk`.
* `w3u4_line_iff` — the runs in which the line is right after every call are those in which every
  call meets `LineCond`.
-/

namespace Px4.Lnb

/-! ## Beliefs -/

/-- A bridge state that is known. -/
def level (v : Bool) : PhysicalState := if v then .on else .off

@[simp] theorem level_ne_disconnected (v : Bool) : level v ≠ .disconnected := by
  cases v <;> simp [level]

/-- What every reachable state has: no cleanup debt, and requests of the receivers 0 and 1 only. -/
structure Sound (s : Sys Device) : Prop where
  allow : s.coord.allow15v = true
  flag : s.hw.lnbDisconnected = false
  debt : ∀ b, s.coord.cleanupDebt b = false
  other : ∀ r, 2 ≤ r → s.coord.receivers r = {}

/-- The coordinator believes the levels `v0` and `v1` of its bridges; the line is at `g`. -/
structure Held (s : Sys Device) (v0 v1 g : Bool) : Prop extends Sound s where
  bridge0 : s.coord.physicalState 0 = level v0
  bridge1 : s.coord.physicalState 1 = level v1
  line : s.hw.gpio11 = g

/-- The states before the disconnect. -/
def Live (s : Sys Device) : Prop :=
  Held s (requested s.coord || s.coord.independent15v) s.coord.independent15v
    (requested s.coord || s.coord.independent15v)

/-- The states after the disconnect: nothing is requested and bridge 1 keeps its belief. -/
structure Dead (s : Sys Device) : Prop extends Sound s where
  bridge0 : marked s.coord
  bridge1 : ∃ v, s.coord.physicalState 1 = level v
  independent : s.coord.independent15v = false
  none : ∀ r, s.coord.receivers r = {}

/-- The invariant of the runs. -/
def LineInv (s : Sys Device) : Prop := Live s ∨ Dead s

theorem Held.not_marked {s : Sys Device} {v0 v1 g : Bool} (h : Held s v0 v1 g) :
    ¬marked s.coord := by
  rw [marked, h.bridge0]
  exact level_ne_disconnected v0

theorem Held.line_eq {s : Sys Device} {v0 v1 g g' : Bool} (h : Held s v0 v1 g) (hg : g = g') :
    Held s v0 v1 g' := hg ▸ h

theorem enabled_default : ReceiverRequest.enabled {} = false := rfl

theorem Sound.requested_eq {s : Sys Device} (h : Sound s) :
    requested s.coord = ((s.coord.receivers 0).enabled || (s.coord.receivers 1).enabled) := by
  simp [requested, h.other 2, h.other 3, enabled_default]

/-- Bridge 0 counts the requests of the device and independent power. -/
theorem Sound.refCount_zero {s : Sys Device} (h : Sound s) :
    (s.coord.refCount 0 != 0) = (requested s.coord || s.coord.independent15v) := by
  rw [h.requested_eq]
  simp only [Coordinator.refCount, if_true, Nat.zero_add]
  generalize (s.coord.receivers 0).enabled = a, (s.coord.receivers 1).enabled = b,
    s.coord.independent15v = i
  revert a b i
  decide

/-- Bridge 1 has no receivers: it counts independent power alone. -/
theorem Sound.refCount_one {s : Sys Device} (h : Sound s) :
    (s.coord.refCount 1 != 0) = s.coord.independent15v := by
  have h4 : s.coord.receivers 4 = {} := h.other 4 (by omega)
  have h5 : s.coord.receivers 5 = {} := h.other 5 (by omega)
  cases hi : s.coord.independent15v <;> simp [Coordinator.refCount, h4, h5, hi, enabled_default]

/-! ## `apply_bridge_locked` -/

/-- What a bridge believed at `v` and wanted at `on` does to the line: a write if they differ. -/
def drive (v on : Bool) (d : Device) : Device :=
  if v = on then d else { d with gpio11 := on, writes := d.writes + 1 }

theorem applyBridge_disconnected {σ : Type} {be : Backend σ} {b : Nat} {s : Sys σ}
    (h : s.coord.physicalState b = .disconnected) :
    applyBridge be b s = (s, .error .disconnected) := by
  simp [applyBridge, h]

/-- `apply_bridge_locked` on a bridge of known level. -/
theorem applyBridge_level {s : Sys Device} {b : Nat} {v : Bool} (h : Sound s)
    (hb : s.coord.physicalState b = level v) :
    applyBridge w3u4Backend b s =
      (⟨s.coord.setPhysical b (level (s.coord.refCount b != 0)) false,
        drive v (s.coord.refCount b != 0) s.hw⟩, .ok ()) := by
  have hkeep : s.coord.setPhysical b (level v) false = s.coord := by
    simp only [Coordinator.setPhysical, ← hb, ← h.debt b, Function.update_eq_self]
  generalize hon : (s.coord.refCount b != 0) = on
  have hdebt := h.debt b
  by_cases heq : v = on
  · subst heq
    rw [hkeep]
    cases v <;> simp_all [applyBridge, drive, level]
  · cases v <;> cases on <;>
      simp_all [applyBridge, drive, level, w3u4Backend, setQ3u4LnbPower, h.flag]

section

variable {s : Sys Device} {v0 v1 g : Bool}

theorem Held.applyBridge_zero (h : Held s v0 v1 v0) :
    ∃ s', applyBridge w3u4Backend 0 s = (s', .ok ()) ∧
      s'.coord.receivers = s.coord.receivers ∧
      s'.coord.independent15v = s.coord.independent15v ∧
      Held s' (requested s.coord || s.coord.independent15v) v1
        (requested s.coord || s.coord.independent15v) := by
  rw [applyBridge_level h.toSound h.bridge0, h.toSound.refCount_zero]
  refine ⟨_, rfl, rfl, rfl, ⟨h.allow, ?_, fun b => ?_, h.other⟩, ?_, ?_, ?_⟩
  · simp only [drive]; split <;> exact h.flag
  · by_cases hb : b = 0 <;> simp [hb, h.debt]
  · simp
  · simpa using h.bridge1
  · unfold drive
    split
    · rename_i heq
      rw [← heq, h.line]
    · rfl

theorem Held.applyBridge_one (h : Held s v0 v1 g) :
    ∃ s', applyBridge w3u4Backend 1 s = (s', .ok ()) ∧
      s'.coord.receivers = s.coord.receivers ∧
      s'.coord.independent15v = s.coord.independent15v ∧
      Held s' v0 s.coord.independent15v
        (if v1 = s.coord.independent15v then g else s.coord.independent15v) := by
  rw [applyBridge_level h.toSound h.bridge1, h.toSound.refCount_one]
  refine ⟨_, rfl, rfl, rfl, ⟨h.allow, ?_, fun b => ?_, h.other⟩, ?_, ?_, ?_⟩
  · simp only [drive]; split <;> exact h.flag
  · by_cases hb : b = 1 <;> simp [hb, h.debt]
  · simpa using h.bridge0
  · simp
  · simp only [drive]; split <;> simp [h.line]

/-- `apply_both_locked` while connected: bridge 1 writes last. -/
theorem Held.applyBoth (h : Held s v0 v1 v0) :
    ∃ s', Lnb.applyBoth w3u4Backend s = (s', .ok ()) ∧
      s'.coord.receivers = s.coord.receivers ∧
      s'.coord.independent15v = s.coord.independent15v ∧
      Held s' (requested s.coord || s.coord.independent15v) s.coord.independent15v
        (if v1 = s.coord.independent15v then requested s.coord || s.coord.independent15v
          else s.coord.independent15v) := by
  obtain ⟨s₁, he₁, hr₁, hi₁, h₁⟩ := h.applyBridge_zero
  obtain ⟨s₂, he₂, hr₂, hi₂, h₂⟩ := h₁.applyBridge_one
  refine ⟨s₂, by simp [Lnb.applyBoth, he₁, he₂], hr₂.trans hr₁, hi₂.trans hi₁, ?_⟩
  rwa [hi₁] at h₂

end

/-! ## The connected device -/

section

variable {s : Sys Device}

theorem Live.line_ok (h : Live s) :
    s.hw.gpio11 = (requested s.coord || s.coord.independent15v) := h.line

/-- A new request of a receiver, applied to bridge 0, leaves the device live. -/
theorem Live.request (h : Live s) {r : Nat} (hr : r < 2) (request : ReceiverRequest) :
    ∃ s', applyBridge w3u4Backend 0 { s with coord := s.coord.setRequest r request } =
      (s', .ok ()) ∧ Live s' := by
  have hheld : Held { s with coord := s.coord.setRequest r request }
      (requested s.coord || s.coord.independent15v) s.coord.independent15v
      (requested s.coord || s.coord.independent15v) :=
    { h with
      other := by
        intro r' hr'
        have : r' ≠ r := by omega
        simpa [this] using h.other r' hr' }
  obtain ⟨s', he, hrecv, hind, hs'⟩ := hheld.applyBridge_zero
  refine ⟨s', he, ?_⟩
  have hreq : requested s'.coord = requested (s.coord.setRequest r request) := by
    simp only [requested, hrecv]
  rw [Live, hreq, hind]
  exact hs'

theorem valid_iff {receiver : Fin 4} :
    validSatelliteReceiver receiver = true ↔ (receiver : Nat) < 2 := by
  revert receiver
  decide

theorem bridgeIndex_zero {receiver : Fin 4} : bridgeIndexForReceiver receiver = 0 := by
  simp [bridgeIndexForReceiver, receiver.isLt]

theorem Live.beginTune (h : Live s) (receiver : Fin 4) (voltage : Nat) :
    Live (Lnb.beginTune w3u4Backend receiver voltage s).1 := by
  simp only [Lnb.beginTune]
  split
  · exact h
  rename_i hargs
  split
  · exact h
  split
  · exact h
  split
  · exact h
  have hr : (receiver : Nat) < 2 := valid_iff.mp (by simp at hargs; exact hargs.1)
  rw [bridgeIndex_zero]
  obtain ⟨s', he, hs'⟩ := h.request hr
    { s.coord.receivers receiver with pending := true, pending15v := voltage == 15 }
  simp only [he]
  exact hs'

theorem Live.commitTune (h : Live s) (receiver : Fin 4) : Live (Lnb.commitTune receiver s).1 := by
  simp only [Lnb.commitTune]
  split
  · exact h
  rename_i hargs
  simp only [Bool.or_eq_true, Bool.not_eq_true', not_or, Bool.not_eq_false] at hargs
  obtain ⟨hvalid, hpending⟩ := hargs
  have hr := valid_iff.mp hvalid
  -- the committed request is the pending one, so what is requested does not change
  have henabled : ∀ r, ((s.coord.setRequest receiver
      { s.coord.receivers receiver with
        committed := true, committed15v := (s.coord.receivers receiver).pending15v,
        pending := false }).receivers r).enabled = (s.coord.receivers r).enabled := by
    intro r
    by_cases hrr : r = receiver
    · subst hrr; simp [ReceiverRequest.enabled, hpending]
    · simp [hrr]
  have hreq : requested (s.coord.setRequest receiver
      { s.coord.receivers receiver with
        committed := true, committed15v := (s.coord.receivers receiver).pending15v,
        pending := false }) = requested s.coord := by
    simp only [requested, henabled]
  rw [Live, hreq]
  exact { h with
    other := by
      intro r' hr'
      have : r' ≠ receiver := by omega
      simpa [this] using h.other r' hr' }

theorem Live.rollbackTune (h : Live s) (receiver : Fin 4) :
    Live (Lnb.rollbackTune w3u4Backend receiver s).1 := by
  simp only [Lnb.rollbackTune]
  split
  · exact h
  rename_i hargs
  have hr : (receiver : Nat) < 2 := valid_iff.mp (by simp at hargs; exact hargs.1)
  obtain ⟨s', he, hs'⟩ := h.request hr { s.coord.receivers receiver with pending := false }
  simp only [bridgeIndex_zero, he]
  exact hs'

theorem Live.releaseReceiver (h : Live s) (receiver : Fin 4) :
    Live (Lnb.releaseReceiver w3u4Backend receiver s).1 := by
  unfold Lnb.releaseReceiver
  split
  · exact h
  rename_i hargs
  obtain ⟨s', he, hs'⟩ := h.request (valid_iff.mp (by simpa using hargs)) {}
  simp only [bridgeIndex_zero, he]
  exact hs'

/-- What `set_independent_power` leaves: the line goes with bridge 1 if that had to be written. -/
theorem Live.setIndependentPower (h : Live s) (enabled : Bool) :
    ∃ s', Lnb.setIndependentPower w3u4Backend enabled s = (s', .ok ()) ∧
      requested s'.coord = requested s.coord ∧ s'.coord.independent15v = enabled ∧
      Held s' (requested s.coord || enabled) enabled
        (if s.coord.independent15v = enabled then requested s.coord || enabled else enabled) := by
  have hheld : Held { s with coord := s.coord.setIndependent enabled }
      (requested s.coord || s.coord.independent15v) s.coord.independent15v
      (requested s.coord || s.coord.independent15v) := { h with }
  obtain ⟨s', he, hrecv, hind, hs'⟩ := hheld.applyBoth
  refine ⟨s', ?_, by simp [requested, hrecv], hind, hs'⟩
  have h0 : s.coord.physicalState 0 ≠ .disconnected := h.not_marked
  have h1 : s.coord.physicalState 1 ≠ .disconnected := by rw [h.bridge1]; simp
  simp [Lnb.setIndependentPower, h.allow, h0, h1, he]

theorem Live.shutdown (h : Live s) : Live (Lnb.shutdown w3u4Backend s).1 := by
  have hheld : Held { s with coord := (s.coord.setIndependent false).clearRequests }
      (requested s.coord || s.coord.independent15v) s.coord.independent15v
      (requested s.coord || s.coord.independent15v) := { h with other := fun _ _ => rfl }
  obtain ⟨s', he, hrecv, hind, hs'⟩ := hheld.applyBoth
  simp only [Lnb.shutdown, he]
  have hreq : requested s'.coord = false := by simp [requested, hrecv, enabled_default]
  rw [Live, hreq, hind]
  simpa [requested, enabled_default] using hs'

theorem Live.disconnect (h : Live s) : Dead (Lnb.disconnect 0 s).1 := by
  refine ⟨⟨h.allow, h.flag, fun b => ?_, fun r hr => ?_⟩, ?_, ⟨s.coord.independent15v, ?_⟩, rfl,
    fun r => ?_⟩
  · by_cases hb : b = 0 <;>
      simp [Lnb.disconnect, hb, h.debt]
  · have h0 : r ≠ 0 := by omega
    have h1 : r ≠ 1 := by omega
    simp [Lnb.disconnect, h0, h1, h.other r hr]
  · simp [marked, Lnb.disconnect]
  · simpa [Lnb.disconnect] using h.bridge1
  · by_cases h0 : r = 0
    · simp [Lnb.disconnect, h0]
    by_cases h1 : r = 1
    · simp [Lnb.disconnect, h1]
    simp [Lnb.disconnect, h0, h1,
      h.other r (by omega)]

/-- **A call before the disconnect** that meets `LineCond` leaves the line right. -/
theorem step_live (h : Live s) (op : Op) (hc : LineCond s op) :
    LineInv (step s op) ∧ LineOk s op := by
  have hlive : Live (step s op) → LineInv (step s op) ∧ LineOk s op :=
    fun hs => ⟨.inl hs, fun _ => hs.line_ok, fun hm => absurd hm h.not_marked⟩
  cases op with
  | beginTune receiver voltage => exact hlive (h.beginTune receiver voltage)
  | commitTune receiver => exact hlive (h.commitTune receiver)
  | rollbackTune receiver => exact hlive (h.rollbackTune receiver)
  | release receiver => exact hlive (h.releaseReceiver receiver)
  | shutdown => exact hlive h.shutdown
  | disconnect =>
    have hdead : Dead (step s .disconnect) := h.disconnect
    exact ⟨.inr hdead, fun hm => absurd hdead.bridge0 hm, fun _ => rfl⟩
  | setIndependentPower enabled =>
    apply hlive
    obtain ⟨s', he, hreq, hind, hs'⟩ := h.setIndependentPower enabled
    simp only [step, he]
    rw [Live, hreq, hind]
    refine hs'.line_eq ?_
    cases enabled with
    | true => simp
    | false =>
      simp only [LineCond, if_neg h.not_marked] at hc
      cases hi : s.coord.independent15v <;> simp_all

/-! ## The disconnected device -/

theorem Dead.refCount (h : Dead s) (b : Nat) : s.coord.refCount b = 0 := by
  simp [Coordinator.refCount, h.none, h.independent, enabled_default]

/-- `apply_both_locked` after the disconnect still writes bridge 1 off if it is believed on. -/
theorem Dead.applyBoth (h : Dead s) {v : Bool} (hv : s.coord.physicalState 1 = level v) :
    (Lnb.applyBoth w3u4Backend s).1 =
      ⟨s.coord.setPhysical 1 .off false, drive v false s.hw⟩ := by
  have h0 : applyBridge w3u4Backend 0 s = (s, .error .disconnected) :=
    applyBridge_disconnected h.bridge0
  have h1 := applyBridge_level h.toSound hv
  rw [h.refCount 1] at h1
  simp only [Lnb.applyBoth, h0, h1]
  rfl

theorem Dead.setPhysical_one (h : Dead s) (d : Device) (hd : d.lnbDisconnected = false) :
    Dead ⟨s.coord.setPhysical 1 .off false, d⟩ where
  allow := h.allow
  flag := hd
  debt b := by by_cases hb : b = 1 <;> simp [hb, h.debt]
  other := h.other
  bridge0 := by simpa [marked] using h.bridge0
  bridge1 := ⟨false, by simp [level]⟩
  independent := h.independent
  none := h.none

theorem Dead.applyBoth_dead (h : Dead s) : Dead (Lnb.applyBoth w3u4Backend s).1 := by
  obtain ⟨v, hv⟩ := h.bridge1
  rw [h.applyBoth hv]
  refine h.setPhysical_one _ ?_
  unfold drive
  split <;> exact h.flag

/-- Bridge 1 issues no write exactly when it is not believed on. -/
theorem Dead.applyBoth_writes (h : Dead s) :
    (Lnb.applyBoth w3u4Backend s).1.hw.writes = s.hw.writes ↔ s.coord.physicalState 1 ≠ .on := by
  obtain ⟨v, hv⟩ := h.bridge1
  rw [h.applyBoth hv, hv]
  cases v <;> simp [drive, level]

theorem Dead.setIndependent_eq (h : Dead s) : s.coord.setIndependent false = s.coord := by
  rw [Coordinator.setIndependent, ← h.independent]

theorem Dead.clear_eq (h : Dead s) : s.coord.clearRequests = s.coord := by
  have hr : s.coord.receivers = fun _ => {} := funext h.none
  rw [Coordinator.clearRequests, ← hr]

theorem Dead.setRequest_eq (h : Dead s) (r : Nat) : s.coord.setRequest r {} = s.coord := by
  simp only [Coordinator.setRequest, ← h.none r, Function.update_eq_self]

theorem Dead.setIndependentPower_true (h : Dead s) :
    (Lnb.setIndependentPower w3u4Backend true s).1 = s := by
  have h0 : s.coord.physicalState 0 = .disconnected := h.bridge0
  simp [Lnb.setIndependentPower, h.allow, h0]

theorem Dead.setIndependentPower_false (h : Dead s) :
    (Lnb.setIndependentPower w3u4Backend false s).1 = (Lnb.applyBoth w3u4Backend s).1 := by
  have hs : { s with coord := s.coord.setIndependent false } = s := by
    rw [h.setIndependent_eq]
  simp only [Lnb.setIndependentPower, hs]
  split
  · simp_all
  split
  · simp_all
  rcases Lnb.applyBoth w3u4Backend s with ⟨s', _ | _⟩ <;> rfl

theorem Dead.shutdown_eq (h : Dead s) :
    (Lnb.shutdown w3u4Backend s).1 = (Lnb.applyBoth w3u4Backend s).1 := by
  rw [Lnb.shutdown, h.setIndependent_eq, h.clear_eq]

/-- The calls that change nothing on a disconnected device. -/
theorem Dead.step_eq (h : Dead s) {op : Op} (hf : op ≠ .setIndependentPower false)
    (hs : op ≠ .shutdown) (hd : op ≠ .disconnect) : step s op = s := by
  have h0 : s.coord.physicalState 0 = .disconnected := h.bridge0
  cases op with
  | beginTune receiver voltage =>
    simp only [step, Lnb.beginTune, h0, true_or, if_true]
    split
    · rfl
    split <;> rfl
  | commitTune receiver => simp [step, Lnb.commitTune, h.none]
  | rollbackTune receiver => simp [step, Lnb.rollbackTune, h.none]
  | release receiver =>
    simp only [step, Lnb.releaseReceiver, bridgeIndex_zero, h.setRequest_eq,
      applyBridge_disconnected h0]
    split <;> rfl
  | setIndependentPower enabled =>
    cases enabled with
    | true => exact h.setIndependentPower_true
    | false => exact absurd rfl hf
  | disconnect => exact absurd rfl hd
  | shutdown => exact absurd rfl hs

theorem Dead.disconnect (h : Dead s) : Dead (Lnb.disconnect 0 s).1 := by
  have hc : (s.coord.setPhysical 0 .disconnected false) = s.coord := by
    have h0 : s.coord.physicalState 0 = .disconnected := h.bridge0
    simp only [Coordinator.setPhysical, ← h0, ← h.debt 0, Function.update_eq_self]
  have heq : (Lnb.disconnect 0 s).1 = s := by
    simp [Lnb.disconnect, hc, h.setIndependent_eq, h.setRequest_eq]
  rw [heq]
  exact h

/-- **A call after the disconnect** leaves the device disconnected, and issues no write exactly when
it meets `LineCond`. -/
theorem step_dead (h : Dead s) (op : Op) :
    Dead (step s op) ∧ (LineOk s op ↔ LineCond s op) := by
  have hok : Dead (step s op) → (LineOk s op ↔ (step s op).hw.writes = s.hw.writes) :=
    fun hs => ⟨fun hl => hl.2 h.bridge0, fun hw => ⟨fun hm => absurd hs.bridge0 hm, fun _ => hw⟩⟩
  by_cases hf : op = .setIndependentPower false
  · subst hf
    have hs : Dead (step s (.setIndependentPower false)) := by
      simp only [step, h.setIndependentPower_false]
      exact h.applyBoth_dead
    refine ⟨hs, ?_⟩
    rw [hok hs, LineCond, if_pos h.bridge0, ← h.applyBoth_writes, step,
      h.setIndependentPower_false]
  by_cases hsd : op = .shutdown
  · subst hsd
    have hs : Dead (step s .shutdown) := by
      simp only [step, h.shutdown_eq]
      exact h.applyBoth_dead
    refine ⟨hs, ?_⟩
    rw [hok hs, LineCond, ← h.applyBoth_writes, step, h.shutdown_eq]
    exact ⟨fun hw _ => hw, fun hw => hw h.bridge0⟩
  have hcond : LineCond s op := by
    cases op with
    | setIndependentPower enabled =>
      cases enabled with
      | true => trivial
      | false => exact absurd rfl hf
    | shutdown => exact absurd rfl hsd
    | _ => trivial
  by_cases hd : op = .disconnect
  · subst hd
    have hs : Dead (step s .disconnect) := h.disconnect
    exact ⟨hs, (hok hs).trans (iff_of_true rfl hcond)⟩
  · have heq := h.step_eq hf hsd hd
    have hs : Dead (step s op) := by rw [heq]; exact h
    exact ⟨hs, (hok hs).trans (iff_of_true (by rw [heq]) hcond)⟩

/-! ## Runs -/

theorem live_w3u4 : Live w3u4 :=
  ⟨⟨rfl, rfl, fun _ => rfl, fun _ _ => rfl⟩, rfl, rfl, rfl⟩

/-- **A call that does not meet `LineCond`** turns a wanted line off or writes to a disconnected
device. -/
theorem step_not_lineOk (h : LineInv s) (op : Op) (hc : ¬LineCond s op) : ¬LineOk s op := by
  rcases h with h | h
  · cases op with
    | setIndependentPower enabled =>
      cases enabled with
      | true => exact absurd trivial hc
      | false =>
        simp only [LineCond, if_neg h.not_marked, not_not] at hc
        obtain ⟨hi, hr⟩ := hc
        obtain ⟨s', he, hreq, hind, hs'⟩ := h.setIndependentPower false
        intro hok
        have hline := hok.1 (by simpa only [step, he] using hs'.not_marked)
        simp [step, he, hs'.line, hreq, hr, hi] at hline
    | shutdown => exact absurd (fun hm => absurd hm h.not_marked) hc
    | _ => exact absurd trivial hc
  · exact fun hok => hc ((step_dead h op).2.mp hok)

/-- **The shared line over runs.** After every call the line is on iff it is wanted, and no write
reaches the device once it is marked disconnected, exactly in the runs of calls that all meet
`LineCond`. -/
theorem w3u4_line_iff (ops : List Op) :
    Lib.AllSteps step LineOk w3u4 ops ↔ Lib.AllSteps step LineCond w3u4 ops := by
  have hinit : LineInv w3u4 := .inl live_w3u4
  refine Lib.allSteps_iff (fun s op h hc => ?_) (fun s op h => step_not_lineOk h op) ops hinit
  rcases h with h | h
  · exact step_live h op hc
  · obtain ⟨hd, hiff⟩ := step_dead h op
    exact ⟨.inr hd, hiff.mpr hc⟩

/-- Switching independent power off cuts the supply of a receiver tuned with 15 V, and a shutdown
after the disconnect writes to the device. -/
theorem w3u4_line_broken :
    ¬Lib.AllSteps step LineOk w3u4
      [.setIndependentPower true, .beginTune 0 15, .setIndependentPower false] ∧
    ¬Lib.AllSteps step LineOk w3u4 [.setIndependentPower true, .disconnect, .shutdown] := by
  decide

end

end Px4.Lnb
