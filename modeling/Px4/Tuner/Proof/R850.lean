import Px4.Tuner.R850
import Px4.Tuner.Proof.Bus
import Mathlib.Tactic.IntervalCases

/-!
# The terrestrial tuner: the PLL and the frequencies that are programmed

* `mixer_ok`, `synthesis_ok`, `sdm_ok`: the PLL of a frequency that `set_frequency` admits.
* `pllImage_ok`: the image that is written holds its integer part and the word of its fraction.
* `setFrequency_sound`: an admitted frequency is programmed, up to errors of the bridge.
-/

namespace Px4.Tuner.R850

open Lib (Loop.run Loop.run_total SigmaDelta.start)

/-- The frequencies of the oscillator for those that `set_frequency` admits. -/
structure Admitted (lo : Nat) : Prop where
  low : 40000 - 4063 ≤ lo
  high : lo ≤ 1002000 - 4063

/-! ## The mixer divider -/

/-- The search keeps to the powers of two and does not leave the band behind. -/
structure Divider.Candidate (d : Divider) (chipVariant : Bool) (lo : Nat) : Prop where
  few : d.divider ≤ 5
  code : d.mixDiv = 2 ^ (d.divider + 1)
  vco : d.vco = lo * d.mixDiv
  high : d.vco < vcoMin chipVariant * 2

/-- A divider that puts the VCO in its band. -/
structure Divider.Serves (d : Divider) (chipVariant : Bool) (lo : Nat) : Prop
    extends d.Candidate chipVariant lo where
  low : vcoMin chipVariant ≤ d.vco

theorem Divider.Serves.inBand {d : Divider} {chipVariant : Bool} {lo : Nat}
    (h : d.Serves chipVariant lo) : d.inBand chipVariant = true := by
  simp [Divider.inBand, h.low, h.high]

theorem vcoMin_bounds (chipVariant : Bool) :
    2200000 ≤ vcoMin chipVariant ∧ vcoMin chipVariant ≤ 2270000 := by
  cases chipVariant <;> decide

/-- What a round makes of a candidate. -/
theorem Divider.Candidate.round {d : Divider} {chipVariant : Bool} {lo : Nat}
    (h : d.Candidate chipVariant lo) (hlo : Admitted lo) :
    (d.Serves chipVariant lo ∧ dividerRound chipVariant lo d = .done d) ∨
      ∃ d', d'.Candidate chipVariant lo ∧ d'.divider = d.divider + 1 ∧
        dividerRound chipVariant lo d = .again d' := by
  obtain ⟨mixDiv, vco, divider⟩ := d
  obtain ⟨hfew, hcode, hvco, hhigh⟩ := h
  dsimp only at hfew hcode hvco hhigh
  obtain ⟨-, hmin⟩ := vcoMin_bounds chipVariant
  have hlow := hlo.low
  by_cases hband : vcoMin chipVariant ≤ vco
  · refine .inl ⟨⟨⟨hfew, hcode, hvco, hhigh⟩, hband⟩, ?_⟩
    simp [dividerRound, Divider.inBand, hband, hhigh]
  · -- At the last divider the VCO is in its band.
    have hfew' : divider ≤ 4 := by
      by_contra hlast
      obtain rfl : divider = 5 := by omega
      rw [hcode] at hvco
      omega
    have hmod : mixDiv * 2 % 256 = mixDiv * 2 := by
      subst hcode
      interval_cases divider <;> rfl
    have hdouble : lo * (mixDiv * 2) = vco * 2 := by rw [hvco, Nat.mul_assoc]
    refine .inr ⟨⟨mixDiv * 2, lo * (mixDiv * 2), divider + 1⟩, ⟨?_, ?_, rfl, ?_⟩, rfl, ?_⟩
    · dsimp only
      omega
    · dsimp only
      rw [hcode, Nat.pow_succ _ (divider + 1)]
    · dsimp only
      omega
    · have hword : word (lo * (mixDiv * 2)) = lo * (mixDiv * 2) := word_eq (by omega)
      unfold dividerRound
      dsimp only
      rw [if_pos ⟨by omega, by simp [Divider.inBand, hband]⟩, hmod, hword]

/-- **A divider is found** for each frequency that is admitted. -/
theorem mixer_ok (chipVariant : Bool) {lo : Nat} (hlo : Admitted lo) :
    ∃ d, mixer chipVariant lo = .ok d ∧ d.Serves chipVariant lo := by
  have hstart : (⟨2, word (lo * 2), 0⟩ : Divider).Candidate chipVariant lo := by
    have hhigh := hlo.high
    have hword : word (lo * 2) = lo * 2 := word_eq (by omega)
    obtain ⟨hmin, -⟩ := vcoMin_bounds chipVariant
    exact ⟨Nat.zero_le _, rfl, hword, by simp only [hword]; omega⟩
  have hsearch : ∃ d, Loop.run (dividerRound chipVariant lo) 7 ⟨2, word (lo * 2), 0⟩ = some d ∧
      d.Serves chipVariant lo := by
    refine Loop.run_total (I := (·.Candidate chipVariant lo))
      (fun d => 6 - d.divider) ?_ ?_ ?_ hstart
      (Nat.lt_succ_of_le (Nat.sub_le _ _))
    · intro d hd hfault
      obtain ⟨-, h⟩ | ⟨d', -, -, h⟩ := hd.round hlo
      · simp [hfault] at h
      · simp [hfault] at h
    · intro d d' hd hround
      obtain ⟨-, h⟩ | ⟨d'', hd'', hnext, h⟩ := hd.round hlo
      · simp [hround] at h
      rw [hround, Lib.Round.again.injEq] at h
      subst h
      have hfew := hd''.few
      exact ⟨hd'', by omega⟩
    · intro d d' hd hround
      obtain ⟨hs, h⟩ | ⟨d'', -, -, h⟩ := hd.round hlo
      · rw [hround, Lib.Round.done.injEq] at h
        exact h ▸ hs
      · simp [hround] at h
  obtain ⟨d, hrun, hd⟩ := hsearch
  refine ⟨d, ?_, hd⟩
  unfold mixer
  rw [hrun]
  rfl

/-! ## The synthesizer -/

/-- The crystal's frequency is divided by one, two or four. -/
theorem crystal_xtal (lo ifFrequencyKhz : Nat) : (crystal lo ifFrequencyKhz).xtal ∈
    [24000, 12000, 6000] := by
  unfold crystal
  split
  · decide
  split
  · decide
  · decide

theorem crystal_bounds (lo ifFrequencyKhz : Nat) :
    6000 ≤ (crystal lo ifFrequencyKhz).xtal ∧ (crystal lo ifFrequencyKhz).xtal ≤ 24000 := by
  have h := crystal_xtal lo ifFrequencyKhz
  simp only [List.mem_cons, List.not_mem_nil, or_false] at h
  omega

/-- The integer part is the quotient and the fraction is the rest, before it is moved. -/
theorem synthesis_eq {xtal nint rest : Nat} (hx : 6000 ≤ xtal) (hx' : xtal ≤ 24000)
    (hrest : rest < xtal * 2) (hhigh : xtal * 2 * nint + rest < 4540000) :
    (xtal * 2 * nint + rest) / 2 / xtal % 2 ^ 16 = nint ∧
      sub32 (xtal * 2 * nint + rest) (word (xtal * 2 * nint)) % 2 ^ 16 = rest := by
  have hquot : (xtal * 2 * nint + rest) / 2 / xtal = nint := by
    rw [Nat.div_div_eq_div_mul, Nat.mul_comm 2 xtal, Nat.mul_add_div (by omega),
      Nat.div_eq_of_lt hrest, Nat.add_zero]
  have hnint : nint < 2 ^ 16 := by nlinarith
  rw [hquot, Nat.mod_eq_of_lt hnint]
  refine ⟨rfl, ?_⟩
  generalize xtal * 2 * nint = whole at *
  rw [word_eq (by omega), sub32_eq (by omega) (by omega)]
  omega

/-- **What is programmed** is close to the VCO frequency and fits the registers. -/
theorem synthesis_ok {xtal vco : Nat} (hx : 6000 ≤ xtal) (hx' : xtal ≤ 24000)
    (hlow : 2200000 ≤ vco) (hhigh : vco < 4540000) :
    Rounded xtal vco (synthesis xtal vco).nint (synthesis xtal vco).fraction ∧
      13 ≤ (synthesis xtal vco).nint ∧ (synthesis xtal vco).nint < 13 + 4 * 128 := by
  obtain ⟨nint, rest, hrest, rfl⟩ : ∃ nint rest, rest < xtal * 2 ∧ vco = xtal * 2 * nint + rest :=
    ⟨vco / (xtal * 2), vco % (xtal * 2), Nat.mod_lt _ (by omega), (Nat.div_add_mod _ _).symm⟩
  obtain ⟨hnint, hfraction⟩ := synthesis_eq hx hx' hrest hhigh
  have hmin : 44 ≤ nint := by nlinarith
  have hmax : nint ≤ 378 := by nlinarith
  unfold synthesis
  simp only [hnint, hfraction]
  split
  · exact ⟨.down ‹_›, by dsimp only; omega, by dsimp only; omega⟩
  split
  · rw [Nat.mod_eq_of_lt (by omega : nint + 1 < 2 ^ 16)]
    exact ⟨.up ‹_› hrest, by dsimp only; omega, by dsimp only; omega⟩
  split
  · rename_i hbelow
    rw [Nat.mod_eq_of_lt (by omega : xtal * 127 / 128 < 2 ^ 16)]
    exact ⟨.below_odd hbelow.1 hbelow.2, by dsimp only; omega, by dsimp only; omega⟩
  split
  · rename_i habove
    rw [Nat.mod_eq_of_lt (by omega : xtal * 129 / 128 < 2 ^ 16)]
    exact ⟨.above_odd habove.1 habove.2, by dsimp only; omega, by dsimp only; omega⟩
  · exact ⟨.same hrest.le, by dsimp only; omega, by dsimp only; omega⟩

/-- The integer part, as the fields `ni` and `si` of the registers 0x1b and 0x1e hold it. -/
def fieldsNint (low high : UInt8) : Nat := 13 + 4 * (low &&& 0x7f).toNat + (high &&& 0x03).toNat

/-- A field of a register that has been set under a mask. -/
theorem field_mask (old value keep bits : UInt8) (h : keep &&& bits = 0) :
    (old &&& keep ||| value &&& bits) &&& bits = value &&& bits := by
  have hbits : keep.toBitVec &&& bits.toBitVec = 0#8 := congrArg UInt8.toBitVec h
  refine UInt8.toBitVec_inj.1 ?_
  simp only [UInt8.toBitVec_and, UInt8.toBitVec_or]
  rw [BitVec.and_or_distrib_right, BitVec.and_assoc, hbits, BitVec.and_zero, BitVec.zero_or,
    BitVec.and_assoc, BitVec.and_self]

/-- The integer part fits its fields. -/
theorem fieldsNint_eq {nint : Nat} (hlow : 13 ≤ nint) (hhigh : nint < 13 + 4 * 128) :
    fieldsNint (ni nint) (si nint) = nint := by
  have hall : ∀ m : Fin 512, fieldsNint (ni (13 + m)) (si (13 + m)) = 13 + m := by decide +kernel
  have h := hall ⟨nint - 13, by omega⟩
  rwa [show 13 + (nint - 13) = nint by omega] at h

theorem fieldsNint_image {nint : Nat} (h : fieldsNint (ni nint) (si nint) = nint) (regs : Regs) :
    fieldsNint (nintImage nint regs 0x1b) (nintImage nint regs 0x1e) = nint := by
  unfold nintImage Regs.mask Regs.keep
  rw [Regs.put_of_ne _ _ (by decide), Regs.put_of_ne _ _ (by decide), Regs.put_self,
    Regs.put_of_ne _ _ (by decide), Regs.put_self]
  unfold fieldsNint at h ⊢
  rw [field_mask _ _ _ _ (by decide), field_mask _ _ _ _ (by decide)]
  exact h

theorem last_bit {k : Nat} (hk : k < 16) : (2 ^ k &&& 0x8000 != 0) = decide (k = 16 - 1) := by
  interval_cases k <;> rfl

/-- A round on unbounded integers. -/
def sdmRoundExact (xtal : Nat) : Lib.SigmaDelta.State → Lib.Round Lib.SigmaDelta.State :=
  Lib.SigmaDelta.round 16 (xtal * 2) id fun nsdm => nsdm &&& 0x8000 != 0

/-- The loop of a fraction in range gives its word. -/
theorem sdm_ok {xtal vco nint fraction : Nat} (hx : 6000 ≤ xtal) (hx' : xtal ≤ 24000)
    (h : Rounded xtal vco nint fraction) :
    ∃ sdm, R850.sdm xtal fraction = .ok sdm ∧
    Converts (sdmRound xtal) (sdmRoundExact xtal) fraction sdm ∧
      Accurate xtal vco nint sdm := by
  obtain ⟨sdm, hconverts, haccurate⟩ : ∃ sdm,
      Converts (sdmRound xtal) (sdmRoundExact xtal) fraction sdm ∧ Accurate xtal vco nint sdm :=
    h.converts (by omega) (by omega) (fun _ => wrap_word) (fun _ => last_bit)
  obtain ⟨s, hrun, hs⟩ := hconverts.ends
  refine ⟨sdm, ?_, hconverts, haccurate⟩
  unfold R850.sdm
  rw [hrun]
  exact congrArg Except.ok hs

/-! ## The image -/

/-- The PLL of an oscillator frequency, for an intermediate frequency of 4063 kHz. -/
structure Tunes (chipVariant : Bool) (lo : Nat) (d : Divider) (pll : Synthesis)
    (sdm : Nat) : Prop where
  found : mixer chipVariant lo = .ok d
  vco : d.vco = lo * d.mixDiv
  band : d.inBand chipVariant = true
  synthesized : synthesis (crystal lo 4063).xtal d.vco = pll
  fits : fieldsNint (ni pll.nint) (si pll.nint) = pll.nint
  word : R850.sdm (crystal lo 4063).xtal pll.fraction = .ok sdm
  converts : Converts (sdmRound (crystal lo 4063).xtal) (sdmRoundExact (crystal lo 4063).xtal)
    pll.fraction sdm
  accurate : Accurate (crystal lo 4063).xtal (lo * d.mixDiv) pll.nint sdm

/-- The registers of the PLL hold what it has been tuned to. -/
structure Holds (pll : Synthesis) (sdm : Nat) (regs : Regs) : Prop where
  nint : fieldsNint (regs 0x1b) (regs 0x1e) = pll.nint
  sdm : fieldsSdm (regs 0x1c) (regs 0x1d) = sdm

/-- **Each admitted frequency is tuned to.** -/
theorem tunes (chipVariant : Bool) {lo : Nat} (hlo : Admitted lo) :
    ∃ d pll sdm, Tunes chipVariant lo d pll sdm := by
  obtain ⟨d, hd, hserves⟩ := mixer_ok chipVariant hlo
  obtain ⟨hx, hx'⟩ := crystal_bounds lo 4063
  obtain ⟨hmin, hmax⟩ := vcoMin_bounds chipVariant
  have hlow := hserves.low
  have hhigh := hserves.high
  obtain ⟨hrounded, hfirst, hlast⟩ := @synthesis_ok _ d.vco hx hx' (by omega) (by omega)
  obtain ⟨sdm, hsdm, hconverts, haccurate⟩ := sdm_ok hx hx' hrounded
  exact ⟨d, _, sdm, hd, hserves.vco, hserves.inBand, rfl,
    fieldsNint_eq hfirst hlast, hsdm, hconverts,
    hserves.vco ▸ haccurate⟩

theorem Tunes.pllImage_ok {chip : Fields} {lo sdm : Nat} {d : Divider} {pll : Synthesis}
    (h : Tunes chip.chipVariant lo d pll sdm) :
    ∃ regs, pllImage chip lo 4063 = .ok regs ∧ Holds pll sdm regs := by
  refine ⟨sdmImage sdm (nintImage pll.nint (dividerImage d (crystal lo 4063)
    (pllStart chip.chipVariant chip.xtalPower lo 4063 chip.registers))), ?_, ?_, ?_⟩
  · unfold pllImage
    rw [h.found, ok_bind]
    dsimp only
    rw [h.synthesized, h.word, ok_bind]
    rfl
  · unfold sdmImage
    rw [Regs.put_of_ne _ _ (by decide), Regs.put_of_ne _ _ (by decide),
      Regs.put_of_ne _ _ (by decide),
      Regs.put_of_ne _ _ (by decide)]
    exact fieldsNint_image h.fits _
  · unfold sdmImage
    rw [Regs.put_of_ne _ _ (by decide), Regs.put_self, Regs.put_self,
      Nat.and_two_pow_sub_one_eq_mod _ 8]
    have hbyte : UInt8.ofNat (sdm % 2 ^ 8) = UInt8.ofNat sdm := by
      refine UInt8.toNat_inj.1 ?_
      simp only [UInt8.toNat_ofNat']
      omega
    rw [hbyte]
    exact fieldsSdm_bytes h.converts.word

/-! ## Programming -/

theorem writeRegs_sound {regs : Regs} {reg count : Nat} {s : Fields × Bus} (hreg : reg < 48)
    (hcount : count ≠ 0) (hfit : count ≤ 48 - reg) :
    Sound s (writeRegs regs reg count) fun _ fields => fields = s.1 :=
  writeSpan_sound (by decide) (by decide) hreg hcount hfit

/-- The last register is none of the PLL's. -/
theorem Holds.last {pll : Synthesis} {sdm : Nat} {regs : Regs} (h : Holds pll sdm regs)
    (chipVariant : Bool) :
    Holds pll sdm ((if chipVariant then regs else regs.keep 0x2f 0xfc).set 0x2f 0x02) := by
  have hsame : ∀ reg, reg ≠ 0x2f →
      ((if chipVariant then regs else regs.keep 0x2f 0xfc).set 0x2f 0x02) reg = regs reg := by
    intro reg hreg
    rw [Regs.set, Regs.put_of_ne _ _ hreg]
    split
    · rfl
    · rw [Regs.keep, Regs.put_of_ne _ _ hreg]
  constructor
  · rw [hsame _ (by decide), hsame _ (by decide)]
    exact h.nint
  · rw [hsame _ (by decide), hsame _ (by decide)]
    exact h.sdm

theorem setPll_sound {lo sdm : Nat} {d : Divider} {pll : Synthesis} {s : Fields × Bus}
    (h : Tunes s.1.chipVariant lo d pll sdm) :
    Sound s (setPll lo 4063) fun _ fields => Holds pll sdm fields.registers := by
  obtain ⟨regs, hregs, hholds⟩ := h.pllImage_ok
  unfold setPll
  refine .bind (Q := fun chip fields => chip = s.1 ∧ fields = s.1) (.fields ⟨rfl, rfl⟩)
    fun _ b fields ⟨hchip, hfields⟩ => ?_
  subst hchip hfields
  refine .bind (Q := fun regs' fields => regs' = regs ∧ fields = s.1) (.lift hregs ⟨rfl, rfl⟩)
    fun _ b fields ⟨hregs', hfields⟩ => ?_
  subst hregs' hfields
  refine .bind (Q := fun _ _ => True) (.assign trivial) fun _ b fields _ => ?_
  refine .bind (writeRegs_sound (by decide) (by decide) (by decide)) fun _ b fields _ => ?_
  refine .bind (Q := fun _ _ => True) (.fields trivial) fun chip b fields _ => ?_
  refine .bind (Q := fun _ fields => Holds pll sdm fields.registers) (.assign (hholds.last _))
    fun _ b fields hlast => ?_
  exact .mono (writeRegs_sound (by decide) (by decide) (by decide)) fun _ _ hsame => hsame ▸ hlast

/-- The last row for 4063 kHz fits every frequency. -/
theorem findFrequencyParameters_ok (rf : Nat) : ∃ p, findFrequencyParameters 4063 rf = some p := by
  refine Option.isSome_iff_exists.1 (List.find?_isSome.2 ?_)
  exact ⟨kIsdbTFrequencyParameters[4], List.getElem_mem _, by rfl⟩

theorem setSystemParams_sound {s : Fields × Bus} (hsystem : s.1.system.isSome) :
    Sound s setSystemParams fun _ fields =>
      fields.current.isSome ∧ fields.chipVariant = s.1.chipVariant := by
  obtain ⟨system, hsystem⟩ := Option.isSome_iff_exists.1 hsystem
  unfold setSystemParams
  refine .bind (Q := fun chip fields => chip = s.1 ∧ fields = s.1) (.fields ⟨rfl, rfl⟩)
    fun _ b fields ⟨hchip, hfields⟩ => ?_
  subst hchip hfields
  simp only [hsystem]
  split
  · rename_i hcurrent
    exact .pure ⟨by simp [hcurrent], rfl⟩
  · have hfound : ((kIsdbTSystemParameters s.1.chipVariant).find? fun p =>
        p.ifFrequency = system.ifFrequencyKhz).isSome := by
      rw [system.accepted]
      cases s.1.chipVariant <;> rfl
    obtain ⟨p, hp⟩ := Option.isSome_iff_exists.1 hfound
    rw [hp]
    exact .assign ⟨rfl, rfl⟩

theorem setSystemFrequency_sound {rf sdm : Nat} {d : Divider} {pll : Synthesis} {s : Fields × Bus}
    (hcurrent : s.1.current.isSome) (hlow : 4063 ≤ rf) (hhigh : rf < 2 ^ 32)
    (h : Tunes s.1.chipVariant (rf - 4063) d pll sdm) :
    Sound s (setSystemFrequency rf) fun _ fields => Holds pll sdm fields.registers := by
  obtain ⟨current, hcurrent⟩ := Option.isSome_iff_exists.1 hcurrent
  obtain ⟨p, hp⟩ := findFrequencyParameters_ok rf
  unfold setSystemFrequency
  refine .bind (Q := fun chip fields => chip = s.1 ∧ fields = s.1) (.fields ⟨rfl, rfl⟩)
    fun _ b fields ⟨hchip, hfields⟩ => ?_
  subst hchip hfields
  simp only [hcurrent, Option.elim_some, current.accepted, hp, sub32_eq hlow hhigh]
  refine .bind (Q := fun _ fields => fields.chipVariant = s.1.chipVariant) (.assign rfl)
    fun _ b fields hvariant => ?_
  rw [← hvariant] at h
  exact setPll_sound h

/-- **An admitted frequency is programmed**, up to errors of the bridge. -/
theorem setFrequency_sound {frequency sdm : Nat} {d : Divider} {pll : Synthesis} {s : Fields × Bus}
    (hinit : s.1.initialized = true) (hsystem : s.1.system.isSome) (hlow : 40000 ≤ frequency)
    (hhigh : frequency ≤ 1002000) (h : Tunes s.1.chipVariant (frequency - 4063) d pll sdm) :
    Sound s (setFrequency frequency) fun _ fields => Holds pll sdm fields.registers := by
  unfold setFrequency
  refine .bind (Q := fun chip fields => chip = s.1 ∧ fields = s.1) (.fields ⟨rfl, rfl⟩)
    fun _ b fields ⟨hchip, hfields⟩ => ?_
  subst hchip hfields
  rw [if_neg (by simp only [hinit]; simp; omega)]
  refine .bind (setSystemParams_sound hsystem) fun _ b fields ⟨hcurrent, hvariant⟩ => ?_
  rw [← hvariant] at h
  exact setSystemFrequency_sound hcurrent (by omega) (by omega) h

/-- Only a driver that has been set up programs a frequency, and only an admitted one. -/
theorem setFrequency_ready {frequency : Nat} {s : Fields × Bus}
    (h : ((setFrequency frequency).exec s).1 = .ok ()) :
    s.1.initialized = true ∧ s.1.system.isSome ∧ 40000 ≤ frequency ∧ frequency ≤ 1002000 := by
  unfold setFrequency at h
  rw [Lib.Program.exec_bind, Drive.exec_fields] at h
  dsimp only at h
  split at h
  · cases h
  · rename_i hadmitted
    cases hsystem : s.1.system with
    | none =>
      have hnone : setSystemParams.exec s = (.error (.failure .invalidArgument), s) := by
        unfold setSystemParams
        rw [Lib.Program.exec_bind, Drive.exec_fields]
        simp only [hsystem]
        rfl
      rw [Lib.Program.exec_bind, hnone] at h
      cases h
    | some system =>
      simp only [Bool.not_eq_true', not_or, Bool.not_eq_false] at hadmitted
      exact ⟨hadmitted.1, rfl, by omega, by omega⟩

/-- What is refused, up to errors of the bridge, is not the frequency. -/
theorem setFrequency_refused {frequency : Nat} {s : Fields × Bus} (hlow : 40000 ≤ frequency)
    (hhigh : frequency ≤ 1002000)
    (h : ((setFrequency frequency).exec s).1 = .error (.failure .invalidArgument)) :
    s.1.initialized = false ∨ s.1.system = none ∨
      Reports s.2 ((setFrequency frequency).exec s).2.2 .invalidArgument := by
  cases hinit : s.1.initialized with
  | false => exact .inl rfl
  | true =>
    cases hsystem : s.1.system with
    | none => exact .inr (.inl rfl)
    | some system =>
      obtain ⟨d, pll, sdm, htunes⟩ := @tunes s.1.chipVariant (frequency - 4063)
        ⟨by omega, by omega⟩
      exact .inr (.inr ((setFrequency_sound hinit (by simp [hsystem]) hlow hhigh htunes).fair h))

end Px4.Tuner.R850
