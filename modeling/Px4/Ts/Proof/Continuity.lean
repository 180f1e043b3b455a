import Px4.Lib.Run
import Px4.Ts.History

/-!
# The continuity checker against its history

`Agrees c history`: the checker's state is what the history says, PID by PID. Its one subtle part is
the duplicate window: `hasPayload` and `trustedEpoch` together tell whether the last trusted packet
of the PID carried payload and nothing untrusted came since, also across the wrap of the 64-bit
epoch, where `hasPayload` is cleared for every PID at once (`PidAgrees.window`).

* `equivalent_eq`: the byte comparison is equality up to the PCR bits.
* `agrees_step`: every call keeps the agreement.
* `observe_eq_history`: the verdict on every packet of every run is that of its history.
-/

namespace Px4.Ts.Continuity

/-! ## The masked comparison -/

theorem byte_take {p : List UInt8} {n i : Nat} (h : i < n) : byte (p.take n) i = byte p i := by
  simp [byte, List.getD_eq_getElem?_getD, List.getElem?_take_of_lt h]

/-- Whether there is a PCR is read off bytes 3, 4 and 5. -/
theorem hasPcr_congr {p q : List UInt8} (h3 : byte p 3 = byte q 3) (h4 : byte p 4 = byte q 4)
    (h5 : byte p 5 = byte q 5) : hasPcr p = hasPcr q := by
  unfold hasPcr adaptationField adaptationOf
  rw [h3, h4, h5]
  dsimp only
  split
  · split
    · rfl
    · split
      · split
        · split <;> split <;> rfl
        · rfl
      · rfl
  · rfl

theorem hasPcr_congr_take {p q : List UInt8} (h : p.take 6 = q.take 6) : hasPcr p = hasPcr q := by
  have hb : ∀ i < 6, byte p i = byte q i := by
    intro i hi
    rw [← byte_take hi, h, byte_take hi]
  exact hasPcr_congr (hb 3 (by decide)) (hb 4 (by decide)) (hb 5 (by decide))

theorem take_maskPcr {p : List UInt8} (h : p.length = kPacketSize) :
    (maskPcr p).take 6 = p.take 6 := by
  have hk : kPacketSize = 188 := rfl
  unfold maskPcr
  split
  · rw [List.append_assoc, List.take_append_of_le_length (by simp; omega), List.take_take]
    rfl
  · rfl

/-- **`equivalent` is equality up to the PCR bits.** -/
theorem equivalent_eq {p q : List UInt8} (hp : p.length = kPacketSize)
    (hq : q.length = kPacketSize) :
    equivalent p q (hasPcr q) = decide (maskPcr p = maskPcr q) := by
  have hk : kPacketSize = 188 := rfl
  have hiff : maskPcr p = maskPcr q → hasPcr p = hasPcr q := fun h =>
    hasPcr_congr_take (by rw [← take_maskPcr hp, h, take_maskPcr hq])
  rw [Bool.eq_iff_iff, decide_eq_true_iff]
  unfold equivalent
  cases hpcr : hasPcr q with
  | false =>
    simp only [Bool.false_eq_true, if_false, beq_iff_eq]
    constructor
    · rintro rfl
      rfl
    · intro h
      have := hiff h
      simpa [maskPcr, hpcr, this] using h
  | true =>
    simp only [if_true, Bool.and_eq_true, beq_iff_eq]
    constructor
    · rintro ⟨⟨h6, h10⟩, h12⟩
      have hpp : hasPcr p = true := by rw [hasPcr_congr_take h6, hpcr]
      simp [maskPcr, hpcr, hpp, h6, h10, h12]
    · intro h
      have hpp : hasPcr p = true := by rw [hiff h, hpcr]
      have h6 : p.take 6 = q.take 6 := by rw [← take_maskPcr hp, h, take_maskPcr hq]
      simp only [maskPcr, hpcr, hpp, if_true, List.append_assoc, h6, List.append_cancel_left_eq,
        List.cons_append, List.nil_append, List.cons.injEq, true_and] at h
      exact ⟨⟨h6, h.1⟩, h.2⟩

/-! ## What a call does -/

/-- The checker after a call. -/
def apply (c : ContinuityChecker) : Op → ContinuityChecker
  | .observe packet => (c.observe packet).2
  | .observeUntrustedPacket => c.observeUntrustedPacket
  | .reset => c.reset

/-- `observe` by the class of the packet. -/
def ObserveSpec (c : ContinuityChecker) (packet : Option (List UInt8)) : PacketClass → Prop
  | .malformed => (c.observe packet).1.kind = .invalidPacket ∧
      (c.observe packet).2 = c.invalidateDuplicateAdjacency
  | .transportError => (c.observe packet).1.kind = .transportError ∧
      (c.observe packet).2 = c.invalidateDuplicateAdjacency
  | .null => (c.observe packet).1.kind = .nullPacket ∧ (c.observe packet).2 = c
  | .trusted => ∃ p, packet = some p ∧ p.length = kPacketSize ∧
      c.observe packet = c.observeValid p (signalsDiscontinuity p) (hasPcr p)

theorem observe_spec (c : ContinuityChecker) (packet : Option (List UInt8)) :
    ObserveSpec c packet (classify packet) := by
  unfold classify
  split
  · exact ⟨rfl, rfl⟩
  · rename_i p
    by_cases h1 : p.length ≠ kPacketSize ∨ byte p 0 ≠ 0x47
    · rw [if_pos h1]
      refine ⟨?_, ?_⟩ <;> simp only [ContinuityChecker.observe, if_pos h1]
    · rw [if_neg h1]
      by_cases h2 : byte p 1 &&& 0x80 ≠ 0
      · rw [if_pos h2]
        refine ⟨?_, ?_⟩ <;> simp only [ContinuityChecker.observe, if_neg h1, if_pos h2]
      · rw [if_neg h2]
        by_cases h3 : pidOf p = 0x1fff
        · rw [if_pos h3]
          refine ⟨?_, ?_⟩ <;> simp only [ContinuityChecker.observe, if_neg h1, if_neg h2, if_pos h3]
        · rw [if_neg h3]
          by_cases h4 : adaptationOf p = 0
          · rw [if_pos (.inl h4)]
            refine ⟨?_, ?_⟩ <;>
              simp only [ContinuityChecker.observe, if_neg h1, if_neg h2, if_neg h3, if_pos h4]
          · cases h5 : (adaptationField p).valid with
            | false =>
              rw [if_pos (.inr rfl)]
              refine ⟨?_, ?_⟩ <;>
                simp [ContinuityChecker.observe, if_neg h1, if_neg h2, if_neg h3, if_neg h4, h5]
            | true =>
              rw [if_neg (by simp [h4])]
              refine ⟨p, rfl, by_contra fun h => h1 (.inl h), ?_⟩
              simp only [ContinuityChecker.observe, if_neg h1, if_neg h2, if_neg h3, if_neg h4, h5,
                if_true]
              rfl

/-! ## Agreement -/

/-- The state of a PID whose last trusted packets are `prev` and, before it, `rest`. -/
structure Follows (s : PidState) (epoch : Nat) (untrusted : Bool) (prev : List UInt8)
    (rest : List (List UInt8)) : Prop where
  seen : s.seen = true
  packet : s.packet = prev
  size : prev.length = kPacketSize
  counter : s.counter = counterOf prev
  repeated : s.repeated = isRepeat prev rest
  epoch_le : s.hasPayload = true → s.trustedEpoch ≤ epoch
  window : (s.hasPayload = true ∧ s.trustedEpoch = epoch) ↔
    (hasPayload prev = true ∧ untrusted = false)

/-- The state of a PID is what its history says. -/
def PidAgrees (s : PidState) (epoch : Nat) (untrusted : Bool) : List (List UInt8) → Prop
  | [] => s.seen = false
  | prev :: rest => Follows s epoch untrusted prev rest

/-- The checker is what the history says. -/
structure Agrees (c : ContinuityChecker) (history : List Op) : Prop where
  epoch_le : c.untrustedEpoch ≤ kMaxEpoch
  pid : ∀ pid, PidAgrees (c.states pid) c.untrustedEpoch (untrustedSince pid history)
    (trustedOf pid history)

theorem agrees_init : Agrees {} [] := ⟨Nat.zero_le _, fun _ => rfl⟩

/-- An untrusted observation closes every duplicate window and keeps the rest. -/
theorem pidAgrees_invalidate {c : ContinuityChecker} {pid : Nat} {untrusted : Bool}
    {earlier : List (List UInt8)}
    (h : PidAgrees (c.states pid) c.untrustedEpoch untrusted earlier) :
    PidAgrees (c.invalidateDuplicateAdjacency.states pid)
      c.invalidateDuplicateAdjacency.untrustedEpoch true earlier := by
  unfold ContinuityChecker.invalidateDuplicateAdjacency
  cases earlier with
  | nil => split <;> exact h
  | cons prev rest =>
    split
    · exact ⟨h.seen, h.packet, h.size, h.counter, h.repeated, nofun, by simp⟩
    · refine ⟨h.seen, h.packet, h.size, h.counter, h.repeated,
        fun hp => Nat.le_succ_of_le (h.epoch_le hp), ?_⟩
      simp only [Bool.true_eq_false, and_false, iff_false, not_and]
      intro hp he
      have := h.epoch_le hp
      omega

theorem invalidate_epoch_le {c : ContinuityChecker} (h : c.untrustedEpoch ≤ kMaxEpoch) :
    c.invalidateDuplicateAdjacency.untrustedEpoch ≤ kMaxEpoch := by
  unfold ContinuityChecker.invalidateDuplicateAdjacency
  split
  · exact Nat.zero_le _
  · simp only; omega

/-- `judge` repeats the counter as the history says. -/
theorem judge_repeated {c : ContinuityChecker} {s : PidState} {untrusted : Bool}
    {earlier : List (List UInt8)} (h : PidAgrees s c.untrustedEpoch untrusted earlier)
    (packet : List UInt8) :
    (c.judge s packet (counterOf packet) (hasPayload packet) (signalsDiscontinuity packet)
      (hasPcr packet)).2 = isRepeat packet earlier := by
  unfold ContinuityChecker.judge
  cases hd : signalsDiscontinuity packet with
  | true => cases earlier <;> simp [isRepeat, hd]
  | false =>
    cases earlier with
    | nil =>
      have : s.seen = false := h
      simp [this, isRepeat]
    | cons prev rest =>
      simp only [Bool.false_eq_true, if_false, h.seen, Bool.not_true, h.counter]
      split <;> simp [isRepeat, hd]

/-- **The verdict of `judge`** is that of the history. -/
theorem judge_kind {c : ContinuityChecker} {s : PidState} {untrusted : Bool}
    {earlier : List (List UInt8)} (h : PidAgrees s c.untrustedEpoch untrusted earlier)
    {packet : List UInt8} (hsize : packet.length = kPacketSize) :
    (c.judge s packet (counterOf packet) (hasPayload packet) (signalsDiscontinuity packet)
      (hasPcr packet)).1 = verdict packet untrusted earlier := by
  unfold ContinuityChecker.judge verdict
  cases hd : signalsDiscontinuity packet with
  | true => rfl
  | false =>
    cases earlier with
    | nil =>
      have : s.seen = false := h
      simp [this]
    | cons prev rest =>
      have hcount : counterOf prev < 16 := by
        have : (byte prev 3 &&& 0x0f).toNat ≤ 15 := by
          rw [UInt8.toNat_and]
          exact Nat.and_le_right
        exact Nat.lt_succ_of_le this
      have hdup : ((hasPayload packet && counterOf packet == s.counter) && s.hasPayload &&
            !s.repeated && s.trustedEpoch == c.untrustedEpoch &&
            equivalent s.packet packet (hasPcr packet)) = true ↔
          (hasPayload packet = true ∧ hasPayload prev = true ∧ counterOf packet = counterOf prev ∧
            isRepeat prev rest = false ∧ untrusted = false ∧ maskPcr prev = maskPcr packet) := by
        have hw := h.window
        rw [h.packet, equivalent_eq h.size hsize, h.counter, h.repeated]
        simp only [Bool.and_eq_true, beq_iff_eq, Bool.not_eq_true', decide_eq_true_eq]
        tauto
      have hexp : (s.counter + if hasPayload packet = true then 1 else 0) % 16 =
          if hasPayload packet = true then (counterOf prev + 1) % 16 else counterOf prev := by
        rw [h.counter]
        split
        · rfl
        · exact Nat.mod_eq_of_lt hcount
      simp only [Bool.false_eq_true, if_false, h.seen, Bool.not_true, hexp]
      by_cases hc : hasPayload packet = true ∧ hasPayload prev = true ∧
          counterOf packet = counterOf prev ∧ isRepeat prev rest = false ∧ untrusted = false ∧
          maskPcr prev = maskPcr packet
      · rw [if_pos hc, if_pos (hdup.2 hc)]
      · rw [if_neg hc, if_neg (fun hb => hc (hdup.1 hb))]

/-! ## Calls and histories -/

theorem trustedOn_of_class {packet : Option (List UInt8)} (h : classify packet ≠ .trusted)
    (pid : Nat) : (Op.observe packet).trustedOn pid = false := by
  cases packet with
  | none => rfl
  | some p => simp [Op.trustedOn, h]

theorem trustedOf_cons_of_not {op : Op} {pid : Nat} {history : List Op}
    (ht : op.trustedOn pid = false) (hr : op ≠ .reset) :
    trustedOf pid (op :: history) = trustedOf pid history := by
  match op, ht, hr with
  | .observe none, _, _ => rfl
  | .observe (some packet), ht, _ => simp [trustedOf, ht]
  | .observeUntrustedPacket, _, _ => rfl
  | .reset, _, hr => exact absurd rfl hr

theorem untrustedSince_cons_of_not {op : Op} {pid : Nat} {history : List Op}
    (ht : op.trustedOn pid = false) (hr : op ≠ .reset) :
    untrustedSince pid (op :: history) = (op.untrusted || untrustedSince pid history) := by
  simp [untrustedSince, ht, hr]

/-- A call that is untrusted. -/
theorem agrees_untrusted {c : ContinuityChecker} {history : List Op} {op : Op}
    (h : Agrees c history) (ht : ∀ pid, op.trustedOn pid = false) (hr : op ≠ .reset)
    (hu : op.untrusted = true) : Agrees c.invalidateDuplicateAdjacency (op :: history) := by
  refine ⟨invalidate_epoch_le h.epoch_le, fun pid => ?_⟩
  rw [trustedOf_cons_of_not (ht pid) hr, untrustedSince_cons_of_not (ht pid) hr, hu, Bool.true_or]
  exact pidAgrees_invalidate (h.pid pid)

/-- A trusted packet. -/
theorem agrees_trusted {c : ContinuityChecker} {history : List Op} {p : List UInt8}
    (h : Agrees c history) (hc : classify (some p) = .trusted) (hsize : p.length = kPacketSize) :
    Agrees (c.observeValid p (signalsDiscontinuity p) (hasPcr p)).2
      (.observe (some p) :: history) := by
  refine ⟨h.epoch_le, fun pid => ?_⟩
  by_cases hpid : pidOf p = pid
  · subst hpid
    have ht : (Op.observe (some p)).trustedOn (pidOf p) = true := by simp [Op.trustedOn, hc]
    have h1 : trustedOf (pidOf p) (.observe (some p) :: history) =
        p :: trustedOf (pidOf p) history := by
      simp [trustedOf, ht]
    have h2 : untrustedSince (pidOf p) (.observe (some p) :: history) = false := by
      simp [untrustedSince, ht]
    rw [h1, h2]
    show PidAgrees (Function.update c.states (pidOf p) _ (pidOf p)) _ _ _
    rw [Function.update_self]
    exact ⟨rfl, rfl, hsize, rfl, judge_repeated (h.pid _) p, fun _ => Nat.le_refl _,
      ⟨fun hw => ⟨hw.1, rfl⟩, fun hw => ⟨hw.1, rfl⟩⟩⟩
  · have ht : (Op.observe (some p)).trustedOn pid = false := by simp [Op.trustedOn, hpid]
    rw [trustedOf_cons_of_not ht nofun, untrustedSince_cons_of_not ht nofun]
    have hu : (Op.observe (some p)).untrusted = false := by simp [Op.untrusted, hc]
    rw [hu, Bool.false_or]
    show PidAgrees (Function.update c.states (pidOf p) _ pid) _ _ _
    rw [Function.update_of_ne (Ne.symm hpid)]
    exact h.pid pid

/-- **Every call keeps the agreement.** -/
theorem agrees_step (c : ContinuityChecker) (history : List Op) (op : Op) (h : Agrees c history) :
    Agrees (apply c op) (op :: history) := by
  cases op with
  | observeUntrustedPacket => exact agrees_untrusted h (fun _ => rfl) nofun rfl
  | reset => exact ⟨Nat.zero_le _, fun pid => rfl⟩
  | observe packet =>
    have hspec := observe_spec c packet
    show Agrees (c.observe packet).2 _
    cases hc : classify packet with
    | malformed =>
      rw [hc] at hspec
      rw [hspec.2]
      exact agrees_untrusted h (trustedOn_of_class (by simp [hc])) nofun
        (by simp [Op.untrusted, hc])
    | transportError =>
      rw [hc] at hspec
      rw [hspec.2]
      exact agrees_untrusted h (trustedOn_of_class (by simp [hc])) nofun
        (by simp [Op.untrusted, hc])
    | null =>
      rw [hc] at hspec
      rw [hspec.2]
      refine ⟨h.epoch_le, fun pid => ?_⟩
      have ht : (Op.observe packet).trustedOn pid = false :=
        trustedOn_of_class (by simp [hc]) pid
      have hu : (Op.observe packet).untrusted = false := by simp [Op.untrusted, hc]
      rw [trustedOf_cons_of_not ht nofun, untrustedSince_cons_of_not ht nofun, hu, Bool.false_or]
      exact h.pid pid
    | trusted =>
      rw [hc] at hspec
      obtain ⟨p, rfl, hsize, hobs⟩ := hspec
      rw [hobs]
      exact agrees_trusted h hc hsize

/-- The verdict in an agreeing state. -/
theorem observe_kind {c : ContinuityChecker} {history : List Op} (h : Agrees c history)
    (packet : Option (List UInt8)) : (c.observe packet).1.kind = kindAfter history packet := by
  have hspec := observe_spec c packet
  unfold kindAfter
  cases hc : classify packet with
  | malformed => rw [hc] at hspec; simpa using hspec.1
  | transportError => rw [hc] at hspec; simpa using hspec.1
  | null => rw [hc] at hspec; simpa using hspec.1
  | trusted =>
    rw [hc] at hspec
    obtain ⟨p, rfl, hsize, hobs⟩ := hspec
    rw [hobs]
    exact judge_kind (h.pid (pidOf p)) hsize

/-- The baseline of a PID: the last trusted packet and its counter, if there is one. -/
def baseline (s : PidState) : Option (Nat × List UInt8) :=
  if s.seen then some (s.counter, s.packet) else none

theorem baseline_invalidate (c : ContinuityChecker) (pid : Nat) :
    baseline (c.invalidateDuplicateAdjacency.states pid) = baseline (c.states pid) := by
  unfold ContinuityChecker.invalidateDuplicateAdjacency
  split <;> rfl

/-- Only a trusted packet changes a baseline, and only that of its own PID. -/
theorem baseline_observe (c : ContinuityChecker) (packet : Option (List UInt8)) (pid : Nat) :
    baseline ((c.observe packet).2.states pid) =
      if (Op.observe packet).trustedOn pid then packet.map fun p => (counterOf p, p)
      else baseline (c.states pid) := by
  have hspec := observe_spec c packet
  cases hc : classify packet with
  | malformed =>
    rw [hc] at hspec
    rw [hspec.2, baseline_invalidate, trustedOn_of_class (by simp [hc])]
    rfl
  | transportError =>
    rw [hc] at hspec
    rw [hspec.2, baseline_invalidate, trustedOn_of_class (by simp [hc])]
    rfl
  | null =>
    rw [hc] at hspec
    rw [hspec.2, trustedOn_of_class (by simp [hc])]
    rfl
  | trusted =>
    rw [hc] at hspec
    obtain ⟨p, rfl, -, hobs⟩ := hspec
    rw [hobs]
    show baseline (Function.update c.states (pidOf p) _ pid) = _
    by_cases hpid : pidOf p = pid
    · subst hpid
      simp [Op.trustedOn, hc, baseline]
    · rw [Function.update_of_ne (Ne.symm hpid)]
      simp [Op.trustedOn, hpid]

/-- **The checker is its history**: after any calls, the verdict on any packet is that of the
trusted packets of its PID since the last reset and of whether something untrusted came after them
(`kindAfter`, `verdict`), and no packet but a trusted one changes a baseline, that of its PID. -/
theorem observe_eq_history (ops : List Op) (packet : Option (List UInt8)) :
    ((ops.foldl apply {}).observe packet).1.kind = kindAfter ops.reverse packet ∧
      ∀ pid, baseline (((ops.foldl apply {}).observe packet).2.states pid) =
        if (Op.observe packet).trustedOn pid then packet.map fun p => (counterOf p, p)
        else baseline ((ops.foldl apply {}).states pid) := by
  have h : Agrees (ops.foldl apply {}) (ops.reverse ++ []) :=
    Lib.foldl_history agrees_step ops agrees_init
  rw [List.append_nil] at h
  exact ⟨observe_kind h packet, baseline_observe _ packet⟩

end Px4.Ts.Continuity
