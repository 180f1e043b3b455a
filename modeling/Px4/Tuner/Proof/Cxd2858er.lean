import Px4.Tuner.Cxd2858er
import Px4.Tuner.Proof.Bus

/-!
# The tuner CXD2858ER: what is programmed

* `setParamsT_sound`, `setParamsS_sound`: a frequency that fits its field is programmed, up to
  errors of the bridge.
-/

namespace Px4.Tuner.Cxd2858er

variable {s : Fields × Bus}

theorem readReg_sound {reg : UInt8} : Sound s (readReg reg) fun _ fields => fields = s.1 := by
  unfold readReg
  refine .bind (Q := fun _ fields => fields = s.1)
    (.onBus (request_fair nofun (by simp [Accepted, kAddress])) fun _ => rfl)
    fun _ _ _ hfields => ?_
  exact .pure hfields

theorem writeRegs_sound {reg : UInt8} {values : List UInt8} (hne : values.length ≠ 0)
    (hfew : values.length ≤ 18) : Sound s (writeRegs reg values) fun _ fields => fields = s.1 := by
  unfold writeRegs
  rw [if_neg (by simp only [kMaxWriteLength]; omega)]
  refine .bind (Q := fun _ fields => fields = s.1)
    (.onBus (request_fair nofun (by simp [Accepted, kAddress]; omega)) fun _ => rfl)
    fun _ _ _ hfields => ?_
  exact .pure hfields

theorem writeRegMask_sound {step : Step} (hmask : step.mask ≠ 0) :
    Sound s (writeRegMask step) fun _ fields => fields = s.1 := by
  unfold writeRegMask
  rw [if_neg hmask]
  split
  · refine .bind readReg_sound fun _ b fields hfields => ?_
    subst hfields
    exact writeRegs_sound (Nat.succ_ne_zero 0) (by decide : 1 ≤ 18)
  · exact writeRegs_sound (Nat.succ_ne_zero 0) (by decide : 1 ≤ 18)

theorem apply_sound {steps : List Step} (hmask : ∀ step ∈ steps, step.mask ≠ 0) :
    Sound s (apply steps) fun _ fields => fields = s.1 := by
  induction steps generalizing s with
  | nil => exact .pure rfl
  | cons step steps ih =>
    unfold apply
    refine .bind (writeRegMask_sound (hmask _ (.head _))) fun _ b fields hfields => ?_
    subst hfields
    exact ih fun step hstep => hmask _ (.tail _ hstep)

theorem setTunerGate_sound {opened : Bool} :
    Sound s (setTunerGate opened) fun _ fields => fields = s.1 := by
  unfold setTunerGate
  refine .bind (Q := fun fields fields' => fields = s.1 ∧ fields' = s.1) (.fields ⟨rfl, rfl⟩)
    fun fields b fields' ⟨hfields, hfields'⟩ => ?_
  subst hfields hfields'
  refine .bind (Q := fun _ fields => fields = s.1) (.onBus (request_fair nofun ?_) fun _ => rfl)
    fun _ _ _ hfields => ?_
  · simp only [List.mem_singleton, forall_eq, Accepted, List.length_cons, List.length_nil]
    omega
  · exact .pure hfields

theorem gated_sound {operation : Drive Fields Unit} {Q : Unit → Fields → Prop}
    (h : ∀ b, Sound (s.1, b) operation Q) : Sound s (gated operation) fun _ _ => True := by
  unfold gated
  refine .bind setTunerGate_sound fun _ b fields hfields => ?_
  subst hfields
  exact .closing (h b) fun fields b => .mono setTunerGate_sound fun _ _ _ => trivial

/-! ## Stopping -/

theorem stopT_sound (h : s.1.system = .isdbT) : Sound s stopT fun _ _ => True := by
  unfold stopT
  refine .bind (Q := fun fields _ => fields = s.1) (.fields rfl) fun fields b _ hfields => ?_
  subst hfields
  rw [if_neg (by simp [h])]
  refine .bind (apply_sound (by simp)) fun _ b _ _ => ?_
  refine .bind (writeRegs_sound (by simp) (by simp)) fun _ b _ _ => ?_
  refine .bind (apply_sound (by simp)) fun _ b _ _ => ?_
  exact .assign trivial

theorem stopS_sound (h : s.1.system = .isdbS) : Sound s stopS fun _ _ => True := by
  unfold stopS
  refine .bind (Q := fun fields _ => fields = s.1) (.fields rfl) fun fields b _ hfields => ?_
  subst hfields
  rw [if_neg (by simp [h])]
  refine .bind (apply_sound (by simp)) fun _ b _ _ => ?_
  refine .bind (writeRegs_sound (by simp) (by simp)) fun _ b _ _ => ?_
  refine .bind (apply_sound (by simp)) fun _ b _ _ => ?_
  exact .assign trivial

theorem stopOther_sound {other : TunerSystem} {stop : Drive Fields Unit}
    (h : ∀ b, s.1.system = other → Sound (s.1, b) stop fun _ _ => True) :
    Sound s (stopOther other stop) fun _ _ => True := by
  unfold stopOther
  refine .bind (Q := fun fields fields' => fields = s.1 ∧ fields' = s.1) (.fields ⟨rfl, rfl⟩)
    fun fields b fields' ⟨hfields, hfields'⟩ => ?_
  subst hfields hfields'
  split
  · exact h b ‹_›
  · exact .pure trivial

/-! ## Tuning -/

theorem setParamsTGated_sound (frequency : Nat) :
    Sound s (setParamsTGated frequency) fun _ _ => True := by
  unfold setParamsTGated
  refine .bind (stopOther_sound fun b h => stopS_sound h) fun _ b _ _ => ?_
  refine .bind (apply_sound (by simp)) fun _ b _ _ => ?_
  refine .bind (writeRegs_sound (by simp) (by simp)) fun _ b _ _ => ?_
  refine .bind (writeRegs_sound (by simp) (by simp)) fun _ b _ _ => ?_
  refine .bind (writeRegs_sound (by simp) (by simp)) fun _ b _ _ => ?_
  refine .bind (writeRegs_sound (by simp) (by simp)) fun _ b _ _ => ?_
  refine .bind (writeRegMask_sound (by simp)) fun _ b _ _ => ?_
  refine .bind (writeRegs_sound (by simp [tuneT]) (by simp [tuneT])) fun _ b _ _ => ?_
  refine .bind (apply_sound (by simp)) fun _ b _ _ => ?_
  exact .assign trivial

/-- **A terrestrial frequency that fits its field** is programmed, up to errors of the bridge. -/
theorem setParamsT_sound {frequency : Nat} (hpos : frequency ≠ 0)
    (hfits : frequency ≤ kMaxFrequencyField) :
    Sound s (setParamsT frequency) fun _ _ => True := by
  unfold setParamsT
  rw [if_neg (by omega)]
  exact gated_sound fun b => setParamsTGated_sound frequency

theorem setParamsSGated_sound (frequency : Nat) :
    Sound s (setParamsSGated frequency) fun _ _ => True := by
  unfold setParamsSGated
  refine .bind (stopOther_sound fun b h => stopT_sound h) fun _ b _ _ => ?_
  refine .bind (apply_sound (by simp)) fun _ b _ _ => ?_
  refine .bind (writeRegs_sound (by simp) (by simp)) fun _ b _ _ => ?_
  refine .bind (apply_sound (by simp)) fun _ b _ _ => ?_
  refine .bind (writeRegs_sound (by simp [tuneS]) (by simp [tuneS])) fun _ b _ _ => ?_
  refine .bind (apply_sound (by simp)) fun _ b _ _ => ?_
  exact .assign trivial

/-- **A satellite frequency that fits its field** is programmed, up to errors of the bridge. -/
theorem setParamsS_sound {frequency : Nat} (hpos : frequency ≠ 0)
    (hfits : quarter frequency ≤ kMaxFrequencyField) :
    Sound s (setParamsS frequency) fun _ _ => True := by
  unfold setParamsS
  rw [if_neg (by omega)]
  exact gated_sound fun b => setParamsSGated_sound frequency

end Px4.Tuner.Cxd2858er
