import Px4.Tuner.Rt710
import Px4.Tuner.Pll
import Px4.Tuner.Proof.Bus
import Mathlib.Tactic.IntervalCases

/-!
# The satellite tuners: what is validated and what is programmed

* `mixer_ok`, `wholePart_ok`, `synthesis_ok`, `sdm_ok`: the PLL of a frequency in range.
* `setPll_sound`: it is programmed, up to errors of the bridge.
* `filter_ok`: accepted parameters give the filter that has been validated, without truncation.
* `setParams_sound`: accepted parameters are programmed, up to errors of the bridge.
-/

namespace Px4.Tuner.Rt710

open Lib (Loop.run Loop.run_total SigmaDelta.start)

/-! ## The PLL -/

/-- The search keeps to dividers that the chip has and does not leave the band behind. -/
structure Divider.Candidate (d : Divider) (frequency : Nat) : Prop where
  code : d.mixDiv ∈ [2, 4, 8, 16]
  vco : d.vco = frequency * d.mixDiv
  high : d.vco ≤ 4700000

/-- A divider that the chip has, with the VCO in its band. -/
structure Divider.Serves (d : Divider) (frequency : Nat) : Prop extends d.Candidate frequency where
  low : 2350000 ≤ d.vco

theorem Divider.Serves.inBand {d : Divider} {frequency : Nat} (h : d.Serves frequency) :
    d.inBand = true := by
  simp [Divider.inBand, h.low, h.high]

/-- What a round makes of a candidate. -/
theorem Divider.Candidate.round {d : Divider} {frequency : Nat} (h : d.Candidate frequency)
    (hlow : 146875 ≤ frequency) :
    (d.Serves frequency ∧ dividerRound frequency d = .done d) ∨
      ∃ d', d'.Candidate frequency ∧ d'.mixDiv = d.mixDiv * 2 ∧
        dividerRound frequency d = .again d' := by
  obtain ⟨mixDiv, vco⟩ := d
  obtain ⟨hcode, hvco, hhigh⟩ := h
  dsimp only at hcode hvco hhigh
  by_cases hband : 2350000 ≤ vco
  · refine .inl ⟨⟨⟨hcode, hvco, hhigh⟩, hband⟩, ?_⟩
    simp [dividerRound, Divider.inBand, hband, hhigh]
  · -- At the last divider the VCO is in its band.
    have hcode' : mixDiv ∈ [2, 4, 8] := by
      simp only [List.mem_cons, List.not_mem_nil, or_false] at hcode ⊢
      rcases hcode with h | h | h | h
      · exact .inl h
      · exact .inr (.inl h)
      · exact .inr (.inr h)
      · subst h
        omega
    have hnext : mixDiv ≤ 16 ∧ mixDiv * 2 % 256 = mixDiv * 2 ∧ mixDiv * 2 ≤ 16 ∧
        mixDiv * 2 ∈ [2, 4, 8, 16] := by
      simp only [List.mem_cons, List.not_mem_nil, or_false] at hcode'
      rcases hcode' with rfl | rfl | rfl <;> decide
    obtain ⟨hle, hmod, hle', hmem⟩ := hnext
    have hdouble : frequency * (mixDiv * 2) = vco * 2 := by rw [hvco, Nat.mul_assoc]
    refine .inr ⟨⟨mixDiv * 2, frequency * (mixDiv * 2)⟩, ⟨hmem, rfl, ?_⟩, rfl, ?_⟩
    · dsimp only
      omega
    · have hword : word (frequency * (mixDiv * 2)) = frequency * (mixDiv * 2) :=
        word_eq (by omega)
      unfold dividerRound
      rw [if_pos ⟨hle, by simp [Divider.inBand]; omega⟩]
      simp only [hmod, hword, if_pos hle']

/-- **A divider is found** for each frequency in range. -/
theorem mixer_ok {frequency : Nat} (hlow : 146875 ≤ frequency) (hhigh : frequency ≤ 2350000) :
    ∃ d, mixer frequency = .ok d ∧ d.Serves frequency := by
  have hstart : (⟨2, word (frequency * 2)⟩ : Divider).Candidate frequency := by
    have hword : word (frequency * 2) = frequency * 2 := word_eq (by omega)
    exact ⟨.head _, hword, by simp only [hword]; omega⟩
  have hsearch : ∃ d, Loop.run (dividerRound frequency) 5 ⟨2, word (frequency * 2)⟩ = some d ∧
      d.Serves frequency := by
    refine Loop.run_total (I := (·.Candidate frequency)) (fun d => 4 - Nat.log 2 d.mixDiv)
      ?_ ?_ ?_ hstart (Nat.lt_succ_of_le (Nat.sub_le _ _))
    · intro d hd hfault
      obtain ⟨-, h⟩ | ⟨d', -, -, h⟩ := hd.round hlow
      · simp [hfault] at h
      · simp [hfault] at h
    · intro d d' hd hround
      obtain ⟨-, h⟩ | ⟨d'', hd'', hmix, h⟩ := hd.round hlow
      · simp [hround] at h
      rw [hround, Lib.Round.again.injEq] at h
      subst h
      refine ⟨hd'', ?_⟩
      have hcode := hd''.code
      have hlog : Nat.log 2 (d.mixDiv * 2) = Nat.log 2 d.mixDiv + 1 := by
        refine Nat.log_mul_base (by decide) ?_
        intro hzero
        simp [hmix, hzero] at hcode
      have hbound : Nat.log 2 d'.mixDiv ≤ 4 := by
        rw [← show Nat.log 2 16 = 4 by decide]
        refine Nat.log_mono_right ?_
        simp only [List.mem_cons, List.not_mem_nil, or_false] at hcode
        omega
      rw [hmix, hlog] at hbound ⊢
      omega
    · intro d d' hd hround
      obtain ⟨hs, h⟩ | ⟨d'', -, -, h⟩ := hd.round hlow
      · rw [hround, Lib.Round.done.injEq] at h
        exact h ▸ hs
      · simp [hround] at h
  obtain ⟨d, hrun, hd⟩ := hsearch
  refine ⟨d, ?_, hd⟩
  have hcode : d.mixDiv ≤ 16 := by
    have := hd.code
    simp only [List.mem_cons, List.not_mem_nil, or_false] at this
    omega
  unfold mixer
  rw [hrun]
  simp only [defined, ok_bind, hd.inBand]
  rw [refuse_of_not (by simpa using hcode)]
  rfl

/-- The integer part is in its range. -/
theorem wholePart_ok {vco : Nat} (hlow : 2350000 ≤ vco) (hhigh : vco ≤ 4700000) :
    wholePart vco = .ok (vco / 48000) := by
  have hdiv : vco / 2 / kXtalKHz = vco / 48000 := Nat.div_div_eq_div_mul vco 2 24000
  unfold wholePart
  rw [hdiv]
  dsimp only
  rw [refuse_of_not (by omega)]
  rfl

/-- **What is programmed** is close to the VCO frequency and fits the registers. -/
theorem synthesis_ok {vco : Nat} (hlow : 2350000 ≤ vco) (hhigh : vco ≤ 4700000) :
    ∃ pll, synthesis vco = .ok pll ∧ Rounded kXtalKHz vco pll.nint pll.fraction ∧
      13 ≤ pll.nint ∧ pll.nint < 13 + 4 * 64 := by
  have hrest : sub32 vco (word (kXtalKHz * 2 * (vco / 48000))) = vco - 48000 * (vco / 48000) := by
    unfold sub32 word kXtalKHz
    omega
  unfold synthesis
  rw [wholePart_ok hlow hhigh, ok_bind]
  dsimp only
  rw [hrest, refuse_of_not (by omega), ok_bind]
  have hlt : vco - 48000 * (vco / 48000) < 48000 := by omega
  have hvco : vco = 48000 * (vco / 48000) + (vco - 48000 * (vco / 48000)) := by omega
  have hnint : 48 ≤ vco / 48000 ∧ vco / 48000 ≤ 97 := by omega
  generalize vco - 48000 * (vco / 48000) = rest at *
  generalize vco / 48000 = nint at *
  subst hvco
  simp only [kXtalKHz, Nat.reduceMul, Nat.reduceDiv]
  by_cases hsmall : rest < 375
  · have hover : ¬47625 < rest := by omega
    refine ⟨⟨nint, 0⟩, by simp [hsmall, hover, pure, Except.pure], .down hsmall, ?_, ?_⟩
    all_goals dsimp only; omega
  by_cases hover : 47625 < rest
  · refine ⟨⟨nint + 1, 0⟩, by simp [hover, pure, Except.pure], .up hover hlt, ?_, ?_⟩
    all_goals dsimp only; omega
  by_cases hbelow : 23812 < rest ∧ rest < 24000
  · refine ⟨⟨nint, 23812⟩, by simp [hsmall, hover, hbelow, pure, Except.pure],
      .below_odd hbelow.1 hbelow.2,
      ?_, ?_⟩
    all_goals dsimp only; omega
  by_cases habove : 24000 < rest ∧ rest < 24187
  · have hbelow : ¬rest < 24000 := by omega
    refine ⟨⟨nint, 24187⟩, by simp [hsmall, hover, hbelow, habove, pure, Except.pure],
      .above_odd habove.1 habove.2, ?_, ?_⟩
    all_goals dsimp only; omega
  · refine ⟨⟨nint, rest⟩, by simp [hsmall, hover, hbelow, habove, pure, Except.pure], .same hlt.le,
      ?_, ?_⟩
    all_goals dsimp only; omega

/-- The integer part, as the fields `ni` and `si` of register 0x05 hold it. -/
def fieldsNint (value : UInt8) : Nat := 13 + 4 * (value &&& 0x3f).toNat + (value >>> 6).toNat

/-- The integer part fits its fields. -/
theorem fieldsNint_register {pll : Synthesis} (hlow : 13 ≤ pll.nint)
    (hhigh : pll.nint < 13 + 4 * 64) :
    fieldsNint (register pll) = pll.nint := by
  have hall : ∀ m : Fin 256, fieldsNint (register ⟨13 + m, 0⟩) = 13 + m := by decide +kernel
  have h := hall ⟨pll.nint - 13, by omega⟩
  rw [show 13 + (pll.nint - 13) = pll.nint by omega] at h
  exact h

theorem last_bit {k : Nat} (hk : k < 16) : decide (0x8000 ≤ 2 ^ k) = decide (k = 16 - 1) := by
  interval_cases k <;> rfl

/-- A round on unbounded integers. -/
def sdmRoundExact : Lib.SigmaDelta.State → Lib.Round Lib.SigmaDelta.State :=
  Lib.SigmaDelta.round 16 (kXtalKHz * 2) id fun nsdm => 0x8000 ≤ nsdm

/-- The loop of a fraction in range gives its word. -/
theorem sdm_ok {vco : Nat} {pll : Synthesis} (h : Rounded kXtalKHz vco pll.nint pll.fraction) :
    ∃ sdm, Rt710.sdm pll.fraction = .ok sdm ∧ Converts sdmRound sdmRoundExact pll.fraction sdm ∧
      Accurate kXtalKHz vco pll.nint sdm := by
  obtain ⟨sdm, hconverts, haccurate⟩ : ∃ sdm, Converts sdmRound sdmRoundExact pll.fraction sdm ∧
      Accurate kXtalKHz vco pll.nint sdm :=
    h.converts (by decide) (by decide) (fun _ => wrap_word) (fun _ => last_bit)
  obtain ⟨s, hrun, hs⟩ := hconverts.ends
  refine ⟨sdm, ?_, hconverts, haccurate⟩
  unfold Rt710.sdm
  rw [hrun]
  exact congrArg Except.ok hs

/-- The PLL of a frequency. -/
structure Tunes (frequency : Nat) (d : Divider) (pll : Synthesis) (sdm : Nat) : Prop where
  found : mixer frequency = .ok d
  vco : d.vco = frequency * d.mixDiv
  band : d.inBand = true
  synthesized : synthesis d.vco = .ok pll
  fits : fieldsNint (register pll) = pll.nint
  word : Rt710.sdm pll.fraction = .ok sdm
  converts : Converts sdmRound sdmRoundExact pll.fraction sdm
  accurate : Accurate kXtalKHz (frequency * d.mixDiv) pll.nint sdm

/-- **Each frequency in range is tuned to.** -/
theorem tunes {frequency : Nat} (hlow : 146875 ≤ frequency) (hhigh : frequency ≤ 2350000) :
    ∃ d pll sdm, Tunes frequency d pll sdm := by
  obtain ⟨d, hd, hserves⟩ := mixer_ok hlow hhigh
  obtain ⟨pll, hpll, hrounded, hfirst, hlast⟩ := synthesis_ok hserves.low hserves.high
  obtain ⟨sdm, hsdm, hconverts, haccurate⟩ := sdm_ok hrounded
  exact ⟨d, pll, sdm, hd, hserves.vco, hserves.inBand, hpll, fieldsNint_register hfirst hlast, hsdm,
    hconverts, hserves.vco ▸ haccurate⟩

/-- The registers of the PLL hold what it has been tuned to. -/
structure Holds (pll : Synthesis) (sdm : Nat) (regs : Regs) : Prop where
  nint : fieldsNint (regs 0x05) = pll.nint
  sdm : fieldsSdm (regs 0x06) (regs 0x07) = sdm

/-! ## Writing -/

theorem writeRegs_sound {regs : Regs} {reg count : Nat} {s : Fields × Bus} (hreg : reg < 16)
    (hcount : count ≠ 0) (hfit : count ≤ 16 - reg) :
    Sound s (writeRegs regs reg count) fun _ fields => fields = s.1 :=
  writeSpan_sound (by decide) (by decide) hreg hcount hfit

theorem setDivider_sound {mixDiv : Nat} {regs : Regs} {s : Fields × Bus} :
    Sound s (setDivider regs mixDiv) fun _ fields => fields = s.1 := by
  unfold setDivider
  dsimp only
  refine .bind (writeRegs_sound (by decide) (by decide) (by decide)) fun _ b fields hfields => ?_
  subst hfields
  refine .bind (Q := fun _ fields => fields = s.1) (.fields rfl) fun chip b fields hfields => ?_
  subst hfields
  split
  · refine .bind (writeRegs_sound (by decide) (by decide) (by decide)) fun _ b fields hfields => ?_
    subst hfields
    refine .bind (writeRegs_sound (by decide) (by decide) (by decide)) fun _ b fields hfields => ?_
    subst hfields
    refine .bind (writeRegs_sound (by decide) (by decide) (by decide)) fun _ b fields hfields => ?_
    exact .pure hfields
  · exact .pure rfl

theorem setSynthesis_sound {frequency sdm : Nat} {d : Divider} {pll : Synthesis} {regs : Regs}
    {s : Fields × Bus} (h : Tunes frequency d pll sdm) :
    Sound s (setSynthesis regs d.vco) fun regs fields => fields = s.1 ∧ Holds pll sdm regs := by
  unfold setSynthesis
  refine .bind (Q := fun pll' fields => pll' = pll ∧ fields = s.1) (.lift h.synthesized ⟨rfl, rfl⟩)
    fun _ b fields ⟨hpll, hfields⟩ => ?_
  subst hpll hfields
  dsimp only
  refine .bind (writeRegs_sound (by decide) (by decide) (by decide)) fun _ b fields hfields => ?_
  subst hfields
  refine .bind (writeRegs_sound (by decide) (by decide) (by decide)) fun _ b fields hfields => ?_
  subst hfields
  refine .bind (Q := fun sdm' fields => sdm' = sdm ∧ fields = s.1) (.lift h.word ⟨rfl, rfl⟩)
    fun _ b fields ⟨hsdm, hfields⟩ => ?_
  subst hsdm hfields
  refine .bind (writeRegs_sound (by decide) (by decide) (by decide)) fun _ b fields hfields => ?_
  subst hfields
  refine .bind (writeRegs_sound (by decide) (by decide) (by decide)) fun _ b fields hfields => ?_
  refine .pure ⟨hfields, ?_, ?_⟩
  · rw [Regs.put_of_ne _ _ (by decide), Regs.put_of_ne _ _ (by decide)]
    split
    · rw [Regs.set, Regs.put_of_ne _ _ (by decide), Regs.put_self]
      exact h.fits
    · rw [Regs.put_self]
      exact h.fits
  · rw [Regs.put_self, Regs.put_of_ne _ _ (by decide), Regs.put_self]
    exact fieldsSdm_bytes h.converts.word

/-- **The PLL of a frequency in range is programmed**, up to errors of the bridge. -/
theorem setPll_sound {frequency sdm : Nat} {d : Divider} {pll : Synthesis} (hpos : frequency ≠ 0)
    (h : Tunes frequency d pll sdm) (regs : Regs) (s : Fields × Bus) :
    Sound s (setPll regs frequency) fun regs fields =>
      fields = { s.1 with frequencyKhz := frequency } ∧ Holds pll sdm regs := by
  let invalid : Fields := { s.1 with frequencyKhz := 0 }
  unfold setPll
  refine .bind (Q := fun _ fields => fields = invalid) (.assign rfl) fun _ b fields hfields => ?_
  subst hfields
  refine .bind (Q := fun _ fields => fields = invalid) (.lift (refuse_of_not hpos) rfl)
    fun _ b fields hfields => ?_
  subst hfields
  refine .bind (Q := fun d' fields => d' = d ∧ fields = invalid) (.lift h.found ⟨rfl, rfl⟩)
    fun _ b fields ⟨hd', hfields⟩ => ?_
  subst hd' hfields
  refine .bind setDivider_sound fun _ b fields hfields => ?_
  subst hfields
  refine .bind (setSynthesis_sound h) fun regs b fields ⟨hfields, hholds⟩ => ?_
  subst hfields
  refine .bind (Q := fun _ fields => fields = { s.1 with frequencyKhz := frequency }) (.assign rfl)
    fun _ b fields hfields => ?_
  exact .pure ⟨hfields, hholds⟩

/-! ## Validation -/

theorem scanCoarse_refuses (narrow : Nat → Nat) (s range sum : Nat) :
    Refuses (scanCoarse narrow s range sum) := by
  unfold scanCoarse
  split
  · exact .ok _
  split
  · exact .ok _
  split
  · exact (Refuses.refuse _).bind fun _ _ => .ok _
  · exact .ok _

theorem bandwidthCoarse_refuses (bandwidth : Nat) : Refuses (bandwidthCoarse bandwidth) := by
  unfold bandwidthCoarse
  split
  · exact .ok _
  split
  · exact .ok _
  · exact .inr rfl

theorem validateCoarse_refuses (chip : Chip) (symbolRate rolloff : Nat) :
    Refuses (validateCoarse chip symbolRate rolloff) := by
  unfold validateCoarse
  refine (Refuses.refuse _).bind fun _ _ => (Refuses.refuse _).bind fun _ _ =>
    (Refuses.refuse _).bind fun _ _ => (Refuses.refuse _).bind fun _ _ => ?_
  dsimp only
  by_cases hchip : chip = .rt710
  · rw [if_pos hchip]
    exact bandwidthCoarse_refuses _
  · rw [if_neg hchip]
    exact scanCoarse_refuses _ _ _ _

/-- Validation ends with a refusal or without. -/
theorem validateParams_refuses (chip : Chip) (frequency symbolRate rolloff : Nat) :
    Refuses (validateParams chip frequency symbolRate rolloff) := by
  unfold validateParams
  refine (Refuses.refuse _).bind fun _ h => ?_
  have hrange := refuse_ok h
  obtain ⟨d, hd, hserves⟩ := @mixer_ok frequency (by omega) (by omega)
  rw [hd, ok_bind, wholePart_ok hserves.low hserves.high, ok_bind]
  exact (validateCoarse_refuses _ _ _).bind fun _ _ => .refuse _

/-- What has been validated. -/
structure Valid (chip : Chip) (frequency symbolRate rolloff coarse : Nat) : Prop where
  low : 146875 ≤ frequency
  high : frequency ≤ 2350000
  known : rolloff ≤ 5
  computed : validateCoarse chip symbolRate rolloff = .ok coarse
  fits : coarse ≤ 63

theorem validateParams_ok {chip : Chip} {frequency symbolRate rolloff : Nat} {u : Unit}
    (h : validateParams chip frequency symbolRate rolloff = .ok u) :
    ∃ coarse, Valid chip frequency symbolRate rolloff coarse := by
  unfold validateParams at h
  obtain ⟨_, hrange, h⟩ := bind_ok h
  obtain ⟨d, -, h⟩ := bind_ok h
  obtain ⟨nint, -, h⟩ := bind_ok h
  obtain ⟨coarse, hcoarse, h⟩ := bind_ok h
  have hrange := refuse_ok hrange
  have hfits := refuse_ok h
  exact ⟨coarse, by omega, by omega, by omega, hcoarse, by omega⟩

/-! ## The filter -/

theorem firstScan_narrow {delta : Nat} (h : delta ≤ 280000) :
    firstScan (· % 256) delta = firstScan word delta ∧ firstScan word delta ≤ 63 := by
  unfold firstScan
  have hbound : delta / 20000 + (if delta % 20000 ≠ 0 then 1 else 0) ≤ 15 := by
    split_ifs <;> omega
  generalize delta / 20000 + (if delta % 20000 ≠ 0 then 1 else 0) = coarse at hbound
  interval_cases coarse <;> decide +kernel

theorem secondScan_narrow {delta : Nat} (h : delta ≤ 396000) (rest : Nat) :
    secondScan (· % 256) delta rest = secondScan word delta rest ∧
    secondScan word delta rest ≤ 63 := by
  unfold secondScan
  have hbound : delta / 20000 ≤ 19 := by omega
  generalize delta / 20000 = coarse at hbound
  by_cases hrest : rest = 0
  · simp only [hrest, ne_eq, not_true_eq_false, if_false]
    interval_cases coarse <;> decide +kernel
  · simp only [hrest, ne_eq, not_false_eq_true, if_true]
    interval_cases coarse <;> decide +kernel

/-- **A variable of 8 bits** holds the scan's value as well, and so does the register. -/
theorem scanCoarse_narrow {s range sum : Nat} (hs : s < 2 ^ 32) :
    scanCoarse (· % 256) s range sum = scanCoarse word s range sum ∧
      ∀ coarse, scanCoarse word s range sum = .ok coarse → coarse ≤ 63 := by
  unfold scanCoarse
  split
  · exact ⟨rfl, by simp⟩
  split
  · have hdelta : sub32 (sub32 s 88000) range ≤ 280000 := by
      unfold sub32
      omega
    obtain ⟨heq, hle⟩ := firstScan_narrow hdelta
    rw [heq]
    refine ⟨rfl, ?_⟩
    rintro _ ⟨⟩
    exact hle
  split
  · have hdelta : sub32 (sub32 s 368000) range ≤ 396000 := by
      unfold sub32
      omega
    obtain ⟨heq, hle⟩ := secondScan_narrow hdelta (sub32 sum range % 20000)
    rw [heq]
    refine ⟨rfl, fun coarse h => ?_⟩
    obtain ⟨-, -, h⟩ := bind_ok h
    cases h
    exact hle
  · exact ⟨rfl, by simp⟩

/-- The scan reads the sum in its second range only. -/
theorem scanCoarse_sum {narrow : Nat → Nat} {s range sum sum' : Nat}
    (h : 368000 + range < s → s ≤ 764000 + range → sum = sum') :
    scanCoarse narrow s range sum = scanCoarse narrow s range sum' := by
  unfold scanCoarse
  split
  · rfl
  split
  · rfl
  split
  · rw [h (by omega) (by omega)]
  · rfl

theorem multiplier_eq {rolloff : Nat} (h : rolloff ≤ 5) :
    word (115 + word (rolloff * 5)) = 115 + rolloff * 5 := by
  have hword : word (rolloff * 5) = rolloff * 5 := word_eq (by omega)
  rw [hword, word_eq (by omega)]

/-- A product that the check by division lets through. -/
theorem product_lt {a b : Nat} (hb : 0 < b) (h : ¬max32 / b < a) : a * b < 2 ^ 32 := by
  have hle : a * b ≤ max32 := (Nat.le_div_iff_mul_le hb).1 (Nat.le_of_not_lt h)
  unfold max32 at hle
  omega

theorem fine_le {entry : Bandwidth} (h : entry ∈ kBandwidth) : entry.fine ≤ 1 := by
  revert entry
  unfold kBandwidth
  simp

/-- The two computations for the RT710 agree on what is accepted. -/
theorem bandwidthFilter_ok {bandwidth coarse : Nat} (h : bandwidthCoarse bandwidth = .ok coarse)
    (hfits : coarse ≤ 63) :
    (bandwidthFilter bandwidth).1 = coarse ∧ (bandwidthFilter bandwidth).2 ≤ 1 := by
  unfold bandwidthCoarse at h
  unfold bandwidthFilter
  split at h
  · rename_i hwide
    rw [if_pos hwide]
    dsimp only at h ⊢
    rw [Except.ok.injEq] at h
    generalize (if (bandwidth - 380000) % 17400 ≠ 0 then 1 else 0) = up at *
    omega
  · rename_i hwide
    rw [if_neg hwide]
    split at h
    · rename_i entry hentry
      cases h
      exact ⟨rfl, fine_le (List.mem_of_find?_eq_some hentry)⟩
    · cases h

/-- The filter, with nothing truncated in its computation. -/
structure Computes (chip : Chip) (symbolRate rolloff coarse : Nat) (f : Filter) : Prop where
  words : filter word chip symbolRate rolloff = .ok f
  unbounded : filter id chip symbolRate rolloff = .ok f
  same : f.coarse = coarse
  fine : f.fine ≤ 1

theorem filter_rt710 {symbolRate rolloff coarse : Nat}
    (hrolloff : rolloff ≤ 5) (h : validateCoarse .rt710 symbolRate rolloff = .ok coarse)
    (hfits : coarse ≤ 63) : ∃ f, Computes .rt710 symbolRate rolloff coarse f := by
  unfold validateCoarse at h
  obtain ⟨_, -, h⟩ := bind_ok h
  obtain ⟨_, hproduct, h⟩ := bind_ok h
  obtain ⟨_, -, h⟩ := bind_ok h
  obtain ⟨_, -, h⟩ := bind_ok h
  have hmul := multiplier_eq hrolloff
  simp only [reduceCtorEq, false_and, if_false, hmul] at hproduct h
  have hlt := product_lt (by omega) (refuse_ok hproduct)
  rw [if_pos trivial, word_eq hlt] at h
  obtain ⟨hcoarse, hfine⟩ := bandwidthFilter_ok h hfits
  generalize hfilter : bandwidthFilter (symbolRate * (115 + rolloff * 5) / 10) = f at hcoarse hfine
  refine ⟨⟨symbolRate, 0, 115 + rolloff * 5, symbolRate * (115 + rolloff * 5),
    symbolRate, 0, f.1, f.2⟩,
    ?_, ?_, hcoarse, hfine⟩
  · unfold filter
    simp [hmul, word_eq hlt, hfilter, pure, Except.pure]
  · unfold filter
    simp [hfilter, pure, Except.pure]

/-- The symbol rate with the manual-scan adjustment. -/
theorem manual_eq {symbolRate : Nat} (h : ¬(15000 ≤ symbolRate ∧ max32 - 6000 < symbolRate))
    (hrate : symbolRate < 2 ^ 32) :
    (if 15000 ≤ symbolRate then word (symbolRate + 6000) else symbolRate) =
        (if 15000 ≤ symbolRate then symbolRate + 6000 else symbolRate) ∧
      (if 15000 ≤ symbolRate then symbolRate + 6000 else symbolRate) < 2 ^ 32 := by
  unfold max32 at h
  split
  · rw [word_eq (by omega)]
    exact ⟨rfl, by omega⟩
  · exact ⟨rfl, hrate⟩

theorem filter_rt720 {symbolRate rolloff coarse : Nat} (hrate : symbolRate < 2 ^ 32)
    (hrolloff : rolloff ≤ 5) (h : validateCoarse .rt720 symbolRate rolloff = .ok coarse) :
    ∃ f, Computes .rt720 symbolRate rolloff coarse f := by
  unfold validateCoarse at h
  obtain ⟨_, hmanual, h⟩ := bind_ok h
  obtain ⟨_, hproduct, h⟩ := bind_ok h
  obtain ⟨_, -, h⟩ := bind_ok h
  obtain ⟨_, hscan, h⟩ := bind_ok h
  have hmul := multiplier_eq hrolloff
  simp only [true_and, hmul] at hmanual hproduct hscan h
  obtain ⟨heq, hlt⟩ := manual_eq (refuse_ok hmanual) hrate
  rw [heq] at hproduct hscan h
  have hproduct := product_lt (by omega) (refuse_ok hproduct)
  have hscan := refuse_ok hscan
  generalize hmanual' : (if 15000 ≤ symbolRate then symbolRate + 6000 else symbolRate) = manual at *
  have hs : manual * 12 < 2 ^ 32 := product_lt (by decide) fun hlt => hscan (.inl hlt)
  rw [if_pos trivial, if_neg (by decide), word_eq hs] at h
  have hrange : (if 1 < rolloff then 1 else 0) * 20000 = if 1 < rolloff then 20000 else 0 := by
    split <;> rfl
  have hfine : (if 1 < rolloff then 1 else 0) ≤ 1 := by split <;> decide
  have hwide : (if 1 < rolloff then 20000 else 0) ≤ 20000 := by split <;> decide
  generalize (if 1 < rolloff then 20000 else 0) = range at *
  generalize hfine' : (if 1 < rolloff then 1 else 0) = fine at *
  -- The scan reads `s + 25216` only where it is small.
  let sum := if 368000 + range < manual * 12 ∧ manual * 12 ≤ 764000 + range then manual *
    12 + 25216 else 0
  have hsum : scanCoarse word (manual * 12) range (word (manual * 12 + 25216)) =
      scanCoarse (· % 256) (manual * 12) range sum := by
    rw [(scanCoarse_narrow hs).1]
    refine scanCoarse_sum fun hlow hhigh => ?_
    rw [word_eq (by omega), show sum = manual * 12 + 25216 from if_pos ⟨hlow, hhigh⟩]
  rw [hsum] at h
  let compensated := if manual ≤ 15000 then manual + 3000 else if manual ≤ 20000 then manual + 2000
    else if manual ≤ 30000 then manual + 1000 else manual
  refine ⟨⟨manual, manual * 12, 115 + rolloff * 5, manual * (115 + rolloff * 5), compensated, sum,
    coarse, fine⟩, ?_, ?_, rfl, hfine⟩
  · have hcompensated : (if manual ≤ 15000 then word (manual + 3000)
        else if manual ≤ 20000 then word (manual + 2000)
        else if manual ≤ 30000 then word (manual + 1000) else manual) = compensated := by
      unfold compensated word
      split_ifs <;> omega
    have hword : (if 368000 + range < manual * 12 ∧ manual * 12 ≤ 764000 + range then
        word (manual * 12 + 25216) else 0) = sum := by
      unfold sum word
      split_ifs <;> omega
    unfold filter
    simp only [ne_eq, reduceCtorEq, not_false_eq_true, true_and, if_true,
      if_false, heq, hmul, hfine',
      hrange, word_eq hs, word_eq hproduct, hcompensated, hword, h]
    rfl
  · unfold filter
    simp only [ne_eq, reduceCtorEq, not_false_eq_true, true_and, if_true, if_false,
      id_eq, hfine', hrange,
      hmanual']
    rw [show (if 368000 + range < manual * 12 ∧ manual * 12 ≤ 764000 + range then
      manual * 12 + 25216
      else 0) = sum from rfl, h]
    rfl

/-- Accepted parameters give the filter that has been validated. -/
theorem filter_ok {chip : Chip} {frequency symbolRate rolloff coarse : Nat}
    (hchip : chip ≠ .unknown) (hrate : symbolRate < 2 ^ 32)
    (h : Valid chip frequency symbolRate rolloff coarse) :
    ∃ f, Computes chip symbolRate rolloff coarse f := by
  cases chip with
  | unknown => exact absurd rfl hchip
  | rt710 => exact filter_rt710 h.known h.computed h.fits
  | rt720 => exact filter_rt720 hrate h.known h.computed

/-- `coarse`, as register 0x0f holds it. -/
def fieldsCoarse (value : UInt8) : Nat := (value >>> 2).toNat

/-- `fine`, as register 0x0f holds it. -/
def fieldsFine (value : UInt8) : Nat := (value &&& 3).toNat

/-- The register holds the filter without truncation. -/
theorem fields_filterRegister {coarse fine : Nat} (hcoarse : coarse ≤ 63) (hfine : fine ≤ 1) :
    fieldsCoarse (filterRegister coarse fine) = coarse ∧
      fieldsFine (filterRegister coarse fine) = fine := by
  have hall : ∀ c : Fin 64, ∀ f : Fin 2, fieldsCoarse (filterRegister c f) = c ∧
      fieldsFine (filterRegister c f) = f := by decide +kernel
  exact hall ⟨coarse, by omega⟩ ⟨fine, by omega⟩

/-! ## Programming -/

theorem setGain_sound {chip : Chip} {regs : Regs} {frequency : Nat} {s : Fields × Bus} :
    Sound s (setGain chip regs frequency) fun _ fields => fields = s.1 := by
  unfold setGain
  split
  · refine .bind (writeRegs_sound (by decide) (by decide) (by decide)) fun _ b fields hfields => ?_
    subst hfields
    refine .bind (writeRegs_sound (by decide) (by decide) (by decide)) fun _ b fields hfields => ?_
    subst hfields
    refine .bind (writeRegs_sound (by decide) (by decide) (by decide)) fun _ b fields hfields => ?_
    subst hfields
    refine .bind (writeRegs_sound (by decide) (by decide) (by decide)) fun _ b fields hfields => ?_
    exact .pure hfields
  · refine .bind (writeRegs_sound (by decide) (by decide) (by decide)) fun _ b fields hfields => ?_
    exact .pure hfields

/-- **Accepted parameters are programmed**, up to errors of the bridge. -/
theorem setParams_sound {frequency symbolRate rolloff : Nat} {s : Fields × Bus}
    (hinit : s.1.initialized = true) (hrate : symbolRate < 2 ^ 32)
    (h : validateParams s.1.chip frequency symbolRate rolloff = .ok ()) :
    Sound s (setParams frequency symbolRate rolloff) fun _ fields =>
      fields = { s.1 with frequencyKhz := frequency } := by
  obtain ⟨coarse, hvalid⟩ := validateParams_ok h
  obtain ⟨f, hf⟩ := filter_ok (s.1.known hinit) hrate hvalid
  obtain ⟨d, pll, sdm, htunes⟩ := tunes hvalid.low hvalid.high
  have hpos : frequency ≠ 0 := by have := hvalid.low; omega
  unfold setParams
  refine .bind (Q := fun chip fields => chip = s.1 ∧ fields = s.1) (.fields ⟨rfl, rfl⟩)
    fun _ b fields ⟨hchip, hfields⟩ => ?_
  subst hchip hfields
  rw [if_neg (by simp [hinit])]
  refine .bind (Q := fun _ fields => fields = s.1) (.lift h rfl) fun _ b fields hfields => ?_
  subst hfields
  refine .bind (writeRegs_sound (by decide) (by decide) (by decide)) fun _ b fields hfields => ?_
  subst hfields
  refine .bind (setPll_sound hpos htunes _ _) fun _ b fields ⟨hfields, _⟩ => ?_
  dsimp only at hfields
  subst hfields
  refine .bind setGain_sound fun _ b fields hfields => ?_
  subst hfields
  refine .bind (Q := fun _ fields => fields = { s.1 with frequencyKhz := frequency })
    (.lift hf.words rfl)
    fun _ b fields hfields => ?_
  subst hfields
  exact .mono (writeRegs_sound (by decide) (by decide) (by decide)) fun _ _ hfields => hfields

/-- **Rejected parameters** leave the driver and the bus alone. -/
theorem setParams_rejected {frequency symbolRate rolloff : Nat} {s : Fields × Bus}
    (hinit : s.1.initialized = true)
    (h : validateParams s.1.chip frequency symbolRate rolloff ≠ .ok ()) :
    (setParams frequency symbolRate rolloff).exec s = (.error (.failure .invalidArgument), s) := by
  obtain ⟨u, hok⟩ | hrefused := validateParams_refuses s.1.chip frequency symbolRate rolloff
  · exact absurd hok h
  unfold setParams
  rw [Lib.Program.exec_bind, Drive.exec_fields]
  simp only [hinit, Bool.not_true, Bool.false_eq_true, if_false]
  rw [hrefused, Lib.Program.exec_bind]
  rfl

/-- A driver that has not been initialized does nothing. -/
theorem setParams_not_ready {frequency symbolRate rolloff : Nat} {s : Fields × Bus}
    (hinit : s.1.initialized = false) :
    (setParams frequency symbolRate rolloff).exec s = (.error (.failure .notReady), s) := by
  unfold setParams
  rw [Lib.Program.exec_bind, Drive.exec_fields]
  simp only [hinit, Bool.not_false, if_true]
  rfl

/-- **Validation agrees with programming.** -/
theorem validation_agrees {chip : Chip} (hchip : chip ≠ .unknown)
    (frequency symbolRate rolloff : UInt32) :
    (validateParams chip frequency.toNat symbolRate.toNat rolloff.toNat = .ok () →
      (∃ coarse f, validateCoarse chip symbolRate.toNat rolloff.toNat = .ok coarse ∧
        filter word chip symbolRate.toNat rolloff.toNat = .ok f ∧
        filter id chip symbolRate.toNat rolloff.toNat = .ok f ∧
        f.coarse = coarse ∧ coarse ≤ 63 ∧ fieldsCoarse (filterRegister f.coarse f.fine) = coarse) ∧
      ∀ fields b, fields.chip = chip →
        (∀ regs, OnlyReported (setPll regs frequency.toNat) (fields, b)) ∧
        OnlyReported (setParams frequency.toNat symbolRate.toNat rolloff.toNat) (fields, b)) ∧
    (validateParams chip frequency.toNat symbolRate.toNat rolloff.toNat ≠ .ok () →
      ∀ fields b, fields.chip = chip →
        (setParams frequency.toNat symbolRate.toNat rolloff.toNat).exec (fields, b) =
          (.error (.failure (if fields.initialized then .invalidArgument else .notReady)),
            fields, b)) := by
  constructor
  · intro h
    obtain ⟨coarse, hvalid⟩ := validateParams_ok h
    obtain ⟨f, hf⟩ := filter_ok hchip symbolRate.toNat_lt hvalid
    refine ⟨⟨coarse, f, hvalid.computed, hf.words, hf.unbounded, hf.same, hvalid.fits, ?_⟩, ?_⟩
    · rw [hf.same]
      exact (fields_filterRegister hvalid.fits hf.fine).1
    · rintro fields b rfl
      obtain ⟨d, pll, sdm, htunes⟩ := tunes hvalid.low hvalid.high
      have hpos : frequency.toNat ≠ 0 := by have := hvalid.low; omega
      refine ⟨fun regs => (setPll_sound hpos htunes regs _).fair, ?_⟩
      cases hinit : fields.initialized with
      | true => exact (setParams_sound hinit symbolRate.toNat_lt h).fair
      | false =>
        intro hexec
        rw [setParams_not_ready hinit] at hexec
        cases hexec
  · rintro h fields b rfl
    cases hinit : fields.initialized with
    | true =>
      rw [if_pos rfl]
      exact setParams_rejected (s := (fields, b)) hinit h
    | false =>
      rw [if_neg (by decide)]
      exact setParams_not_ready (s := (fields, b)) hinit

/-- Parameters of a satellite channel on the RT720. -/
theorem validation_agrees_satellite :
    ∃ f, filter word .rt720 28860 4 = .ok f ∧ f.coarse ≤ 63 := by
  have hok : validateParams .rt720 (1049480 : UInt32).toNat (28860 : UInt32).toNat
      (4 : UInt32).toNat =
      .ok () := by
    rw [UInt32.toNat_ofNat_of_lt (by decide), UInt32.toNat_ofNat_of_lt (by decide),
      UInt32.toNat_ofNat_of_lt (by decide)]
    decide +kernel
  obtain ⟨⟨coarse, f, -, hf, -, hsame, hfits, -⟩, -⟩ :=
    (@validation_agrees .rt720 (by decide) 1049480 28860 4).1 hok
  rw [UInt32.toNat_ofNat_of_lt (by decide), UInt32.toNat_ofNat_of_lt (by decide)] at hf
  exact ⟨f, hf, hsame ▸ hfits⟩

end Px4.Tuner.Rt710
